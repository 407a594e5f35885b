/-
# Work that asks others

An operation that asks collaborators ends with a value, with a failure, or waits for
an answer that never comes; on the way it leaves a record of whom it has asked. A
time limit turns waiting into a failure. Of several limits around one wait the least
one ends it, and of equal ones the outermost, which started first.
-/

import ScriptDocs.Failure
import ScriptDocs.Number
import ScriptDocs.Passage

namespace ScriptDocs

/-- How work ends. Waiting may have a limit, and the failure that ends it then. -/
inductive Outcome (α : Type)
  | done (value : α)
  | failed (failure : Failure)
  | waiting (limit : Option (Binary64 × Failure))
  deriving Repr

/-- A request to the generation provider. -/
structure ChatRequest where
  system : Text
  user : Text
  mostTokens : Int
  deriving DecidableEq, Repr

/-- A request to whoever corrects snippets. -/
structure CorrectionRequest where
  code : Text
  intent : Text
  findings : List Text
  documented : List Text
  deriving DecidableEq, Repr

/-- What a collaborator has been asked. -/
inductive Event
  | lookedUp (name : Text)
  | embedded (text : Text)
  | generated (request : ChatRequest)
  | corrected (request : CorrectionRequest)
  deriving DecidableEq, Repr

/-- The texts that the embedding provider has been asked for. -/
def Event.embeddedTexts (events : List Event) : List Text :=
  events.filterMap fun event =>
    match event with
    | .embedded text => some text
    | _ => none

/-- The end of some work and the events on the way, first one first. -/
structure Work (α : Type) where
  outcome : Outcome α
  events : List Event := []

namespace Work

/-- Work that asks nobody. -/
def done {α : Type} (value : α) : Work α :=
  ⟨.done value, []⟩

/-- Work that fails at once. -/
def fail {α : Type} (failure : Failure) : Work α :=
  ⟨.failed failure, []⟩

/-- Work with the given result. -/
def ofExcept {α : Type} : Except Failure α → Work α
  | .ok value => done value
  | .error failure => fail failure

/-- Work that goes on with the value of other work. -/
def andThen {α β : Type} (work : Work α) (next : α → Work β) : Work β :=
  match work.outcome with
  | .done value => ⟨(next value).outcome, work.events ++ (next value).events⟩
  | .failed failure => ⟨.failed failure, work.events⟩
  | .waiting limit => ⟨.waiting limit, work.events⟩

instance : Monad Work where
  pure := done
  bind := andThen

/-- Work under a time limit that is a double. -/
def bounded {α : Type} (time : Binary64) (failure : Failure) (work : Work α) : Work α :=
  match work.outcome with
  | .waiting none => ⟨.waiting (some (time, failure)), work.events⟩
  | .waiting (some (inner, innerFailure)) =>
    if time.atMost inner then ⟨.waiting (some (time, failure)), work.events⟩
    else ⟨.waiting (some (inner, innerFailure)), work.events⟩
  | _ => work

/-- Work under a time limit. A limit that is not positive ends it before it starts, and so
does one beyond all doubles, which no clock can wait for. -/
def within {α : Type} (limit : Option Number) (failure : Failure) (work : Work α) : Work α :=
  match limit with
  | none => work
  | some limit =>
    if limit.atMost (.integer 0) then fail failure
    else
      match limit.double? with
      | some time => bounded time failure work
      | none => fail .beyondDoubles

/-- The result of work once all limits have passed; nothing for a wait without a limit. -/
def result? {α : Type} (work : Work α) : Option (Except Failure α) :=
  match work.outcome with
  | .done value => some (.ok value)
  | .failed failure => some (.error failure)
  | .waiting (some (_, failure)) => some (.error failure)
  | .waiting none => none

end Work

end ScriptDocs
