/-
# Coverage of a validation

A validation looks up every name of the stripped snippet that is no word of control flow, in the
order of their first places, and divides them by whether their scores reach the threshold. What it
finds wrong is what the static checks find, and then each name that does not reach it.
-/

import ScriptDocs.Proofs.Snippet.Names
import ScriptDocs.Proofs.Snippet.Validation

namespace ScriptDocs

namespace Number

/-- All but what is no number is compared. -/
def IsNumber (number : Number) : Prop :=
  number ≠ .double .notANumber

theorem isNumber_double {x : Binary64} (hx : x ≠ .notANumber) : IsNumber (.double x) :=
  fun h => hx (Number.double.inj h)

/-- Of two integers one is at most the other, or the other is below it. -/
theorem decide_le_eq_not_lt (m n : Int) : decide (m ≤ n) = !decide (n < m) := by
  rw [← decide_not, decide_eq_decide, Int.not_lt]

/-- Where one comparison of integers is the negation of another, it is so on doubles. -/
theorem compareWith_eq_not {compare converse : Int → Int → Bool}
    (hconverse : ∀ m n, compare m n = !converse m n) (n : Int) {x : Binary64}
    (hx : IsNumber (.double x)) : compareWith compare n x = !compareWith converse n x := by
  cases x with
  | notANumber => exact absurd rfl hx
  | infinite negative => exact hconverse _ _
  | finite negative units => exact hconverse _ _

theorem exists_place {x : Binary64} (hx : IsNumber (.double x)) :
    ∃ place, x.place = some place := by
  cases x with
  | notANumber => exact absurd rfl hx
  | infinite negative | finite negative units => exact ⟨_, rfl⟩

/-- Of two numbers one is at most the other, or the other is below it. -/
theorem atMost_eq_not_below {first second : Number} (hfirst : first.IsNumber)
    (hsecond : second.IsNumber) : first.atMost second = !second.below first := by
  rcases first with m | x <;> rcases second with n | y
  · exact decide_le_eq_not_lt m n
  · exact compareWith_eq_not decide_le_eq_not_lt m hsecond
  · exact compareWith_eq_not (fun a b => decide_le_eq_not_lt b a) n hfirst
  · obtain ⟨m, hm⟩ := exists_place hfirst
    obtain ⟨n, hn⟩ := exists_place hsecond
    rw [atMost, below, Binary64.atMost, Binary64.below, hm, hn]
    exact decide_le_eq_not_lt m n

end Number

namespace Snippet

/-- A documentation that tells the score of every name. -/
def scoring (score : Text → Number) (name : Text) : Work Number :=
  ⟨.done (score name), [.lookedUp name]⟩

/-- Every name is looked up once, in order, and joins the one list or the other. -/
theorem classify_scoring (score : Text → Number) (threshold : Number) (names : List Text) :
    classify (scoring score) threshold names =
      ⟨.done ⟨names.filter fun name => threshold.atMost (score name),
        names.filter fun name => !threshold.atMost (score name)⟩, names.map .lookedUp⟩ := by
  induction names with
  | nil => rfl
  | cons name names ih =>
      have hstep : classify (scoring score) threshold (name :: names) =
          (scoring score name).andThen fun found =>
            (classify (scoring score) threshold names).andThen fun rest =>
              .done (if threshold.atMost found then
                  { rest with documented := name :: rest.documented }
                else { rest with undocumented := name :: rest.undocumented }) :=
        rfl
      rw [hstep, ih]
      cases hreaches : threshold.atMost (score name) <;>
        simp [scoring, Work.andThen, Work.done, hreaches]

/-- The words in front of the name of an undocumented function. -/
def undocumentedWords : Text := "Undocumented function: "

/-- Only what is found about an undocumented function begins with these words. -/
theorem undocumentedWords_prefix_message_iff (finding : Finding) :
    undocumentedWords <+: finding.message ↔ ∃ name, finding = .undocumented name := by
  constructor
  · intro hwords
    have hfirst : finding.message.head? = some 'U' := by
      obtain ⟨rest, hrest⟩ := hwords
      rw [← hrest]
      rfl
    cases finding with
    | undocumented name => exact ⟨name, rfl⟩
    | missingBrackets name | unclosedBracket name => cases hfirst
    | elseifOutsideIf | elseOutsideIf | repeatedElse | endifOutsideIf | unbalancedIf
    | guardWithoutMessage | arithmeticInCondition | bulkMutation | loop =>
        exact absurd hfirst (by decide)
  · rintro ⟨name, rfl⟩
    exact List.prefix_append _ _

/-- The static checks need no documentation. -/
theorem undocumented_not_mem_staticFindings (code name : Text) :
    .undocumented name ∉ staticFindings code := by
  have hword : ∀ state token, FlowState.finding? state token ≠ some (.undocumented name) := by
    intro state token
    fun_cases FlowState.finding? state token <;> simp
  have hflow : ∀ state tokens, .undocumented name ∉ flowFindingsFrom state tokens := by
    intro state tokens
    fun_induction flowFindingsFrom state tokens <;> simp_all
  have hcall : ∀ call : Call, call.finding? ≠ some (.undocumented name) := by
    intro call
    rw [Call.finding?]
    cases call.form <;> exact nofun
  simp only [staticFindings, List.mem_append, not_or]
  refine ⟨⟨⟨⟨hflow .start _, ?_⟩, ?_⟩, ?_⟩, ?_⟩
  · intro hguard
    obtain ⟨arguments, -, hfound⟩ := List.mem_filterMap.mp hguard
    split at hfound <;> cases hfound
  · intro hlogic
    obtain ⟨condition, -, hfound⟩ := List.mem_map.mp hlogic
    cases hfound
  · intro hcalls
    obtain ⟨group, -, hgroup⟩ := List.mem_flatMap.mp hcalls
    obtain ⟨call, -, hfound⟩ := List.mem_filterMap.mp hgroup
    exact hcall call hfound
  · intro hstructure
    rcases List.mem_append.mp hstructure with hbulk | hloop
    · split at hbulk
      · cases List.mem_singleton.mp hbulk
      · cases hbulk
    · split at hloop
      · cases List.mem_singleton.mp hloop
      · cases hloop

theorem events_diagnose_of_done {score : Text → Work Number} {threshold : Number}
    {limit : Option Number} {request code : Text} {diagnosis : Diagnosis}
    (hdone : (diagnose score threshold limit request code).outcome = .done diagnosis) :
    (diagnose score threshold limit request code).events =
      (classify score threshold (referencedFunctions code)).events := by
  obtain ⟨coverage, hlookup, -⟩ := diagnose_outcome_eq_done_iff.mp hdone
  rw [diagnose, Work.events_bind_of_done hlookup, Work.within_eq_of_done hlookup]
  exact List.append_nil _

/-- A correction asks the assistant, if anyone. -/
theorem events_correct (assistant : Option (CorrectionRequest → Work (Option Text))) (given : Text)
    (diagnosis : Diagnosis) :
    (correct assistant given diagnosis).events = [] ∨ ∃ ask request, assistant = some ask ∧
      (correct assistant given diagnosis).events = (ask request).events := by
  unfold correct
  dsimp only
  split
  · exact Or.inl rfl
  · rename_i ask _
    split
    · exact Or.inl rfl
    · exact Or.inr ⟨ask, _, rfl, rfl⟩
  · exact Or.inl rfl

/-- A validation asks for the scores, and then the assistant, if anyone. -/
theorem exists_events_validate {advisers : Advisers} {threshold : Number} {limit : Option Number}
    {given : Text} {intent : Option Text} {mode : Json} {diagnosis : Diagnosis}
    (hdone : (validate advisers threshold limit ⟨some given, intent, mode⟩).outcome =
      .done diagnosis) :
    ∃ asked, (validate advisers threshold limit ⟨some given, intent, mode⟩).events =
        (classify advisers.score threshold (referencedFunctions (stripFences given))).events ++
          asked ∧
      (asked = [] ∨ ∃ ask request, advisers.assistant = some ask ∧
        asked = (ask request).events) := by
  obtain ⟨⟨hgiven, hsome⟩, plain, hplain, corrective, hasks, corrected, hcorrected, -⟩ :=
    validate_outcome_eq_done_iff.mp hdone
  obtain ⟨c, given, rfl⟩ := List.exists_cons_of_ne_nil hgiven
  have hconclude : (conclude plain corrected).events = [] := by
    rw [conclude]
    split <;> rfl
  rw [validate_cons, if_neg (by simpa using hsome), Work.events_bind_of_done hplain,
    events_diagnose_of_done hplain,
    Work.events_bind_of_done (Work.outcome_ofExcept_eq_done_iff.mpr hasks), hasks]
  refine ⟨_, rfl, ?_⟩
  cases corrective with
  | false =>
      left
      rw [if_neg Bool.false_ne_true] at hcorrected ⊢
      rw [Work.events_bind_of_done hcorrected, hconclude]
      rfl
  | true =>
      rw [if_pos rfl] at hcorrected ⊢
      rw [Work.events_bind_of_done hcorrected, hconclude, List.append_nil]
      exact events_correct advisers.assistant (c :: given) plain

/-- No static finding is worded like that of an undocumented function. -/
theorem not_undocumentedWords_prefix {code error : Text}
    (herror : error ∈ (staticFindings code).map Finding.message) :
    ¬ undocumentedWords <+: error := by
  obtain ⟨finding, hfinding, rfl⟩ := List.mem_map.mp herror
  rw [undocumentedWords_prefix_message_iff]
  rintro ⟨name, rfl⟩
  exact undocumented_not_mem_staticFindings code name hfinding

/-- A validation that gets done has looked up every name once, in the order of their first places,
and nothing else; it divides the names by whether their scores reach the threshold, and of numbers
those that do not are below it; its errors are the static ones, those about control flow, guards,
conditions, calls and the functions that are combined in this order, and then one for each name
that is not documented; and the snippet is valid where there is neither. -/
theorem validate_covers_names {score : Text → Number}
    {assistant : Option (CorrectionRequest → Work (Option Text))} {threshold : Number}
    {limit : Option Number} {given : Text} {intent : Option Text} {mode : Json}
    {diagnosis : Diagnosis}
    (hdone : (validate ⟨scoring score, assistant⟩ threshold limit
      ⟨some given, intent, mode⟩).outcome = .done diagnosis) :
    let code := stripFences given
    let reaches := fun name => threshold.atMost (score name)
    let errors := diagnosis.findings.map Finding.message
    let static := (flowFindings code ++ guardFindings (calls code) ++ logicFindings (calls code) ++
      callFindings (calls code) ++ structureFindings code).map Finding.message
    diagnosis.code = code ∧
    ∃ names, ListsNames code names ∧
      (∃ asked, (validate ⟨scoring score, assistant⟩ threshold limit
            ⟨some given, intent, mode⟩).events = names.map .lookedUp ++ asked ∧
          (asked = [] ∨ ∃ ask request, assistant = some ask ∧ asked = (ask request).events)) ∧
      diagnosis.coverage = ⟨names.filter reaches, names.filter fun name => !reaches name⟩ ∧
      (threshold.IsNumber → (∀ name ∈ names, (score name).IsNumber) →
        diagnosis.coverage.undocumented =
          names.filter fun name => (score name).below threshold) ∧
      errors = static ++ diagnosis.coverage.undocumented.map (undocumentedWords ++ ·) ∧
      (∀ error ∈ static, ¬ undocumentedWords <+: error) ∧
      (diagnosis.valid = true ↔ static = [] ∧ diagnosis.coverage.undocumented = []) := by
  intro code reaches errors static
  have hstatic : static = (staticFindings code).map Finding.message := rfl
  clear_value static
  subst hstatic
  obtain ⟨-, plain, hplain, corrective, -, corrected, -, -, rfl⟩ :=
    validate_outcome_eq_done_iff.mp hdone
  obtain ⟨coverage, hlookup, rfl⟩ := diagnose_outcome_eq_done_iff.mp hplain
  obtain ⟨asked, hevents, hassistant⟩ := exists_events_validate hdone
  rw [Work.within_eq_of_done hlookup, classify_scoring] at hlookup
  rw [classify_scoring] at hevents
  obtain rfl := Outcome.done.inj hlookup
  refine ⟨rfl, referencedFunctions code, listsNames_referencedFunctions code,
    ⟨asked, hevents, hassistant⟩, rfl, ?_, ?_, fun _ => not_undocumentedWords_prefix, ?_⟩
  · intro hthreshold hscores
    apply List.filter_congr
    intro name hname
    rw [Number.atMost_eq_not_below hthreshold (hscores name hname), Bool.not_not]
  · dsimp only [errors, diagnosisOf]
    rw [List.map_append, List.map_map]
    rfl
  · rw [Diagnosis.valid, List.isEmpty_iff, List.map_eq_nil_iff]
    dsimp only [diagnosisOf]
    rw [List.append_eq_nil_iff, List.map_eq_nil_iff]

/-- A snippet that is not empty without its fences is validated where no correction is asked for. -/
theorem exists_validate_scoring {score : Text → Number}
    {assistant : Option (CorrectionRequest → Work (Option Text))} {threshold : Number}
    {given : Text} {intent : Option Text} {mode : Json} (hgiven : given ≠ [])
    (hsome : stripFences given ≠ [])
    (hasks : asksRepair (some (requestOf intent)) mode = .ok false) :
    ∃ diagnosis, (validate ⟨scoring score, assistant⟩ threshold none
      ⟨some given, intent, mode⟩).outcome = .done diagnosis := by
  have hlookup : ∃ coverage, (classify (scoring score) threshold
      (referencedFunctions (stripFences given))).outcome = .done coverage := by
    rw [classify_scoring]
    exact ⟨_, rfl⟩
  obtain ⟨coverage, hlookup⟩ := hlookup
  exact ⟨_, validate_outcome_eq_done_iff.mpr ⟨⟨hgiven, hsome⟩, _,
    diagnose_outcome_eq_done_iff.mpr ⟨coverage, hlookup, rfl⟩, false, hasks, none, rfl, rfl, rfl⟩⟩

/-- Two of these names differ in case only, one comes twice, and one begins with a word of control
flow; two other names are such words. Every static check finds something in it. -/
def mixedSnippet : Text :=
  "```js\n$IF[$ping] $Ping[$ifAny[$ping]] $elseif[x] $onlyIf[1+2] $for\n```"

/-- Two of the names are documented; the lookups are told in the order of first places, and the
errors about the other names behind the static ones. -/
theorem validate_covers_names_of_mixedSnippet :
    let score : Text → Number := fun name =>
      .integer (if name = "$ping".toList ∨ name = "$onlyIf".toList then 1 else 0)
    let asked : ValidationRequest := ⟨some mixedSnippet, none, .null⟩
    let work := validate ⟨scoring score, none⟩ (.integer 1) none asked
    work.events = [.lookedUp "$ping", .lookedUp "$Ping", .lookedUp "$ifAny", .lookedUp "$onlyIf",
        .lookedUp "$for"] ∧
      ∃ diagnosis, work.outcome = .done diagnosis ∧
        diagnosis.coverage = ⟨["$ping", "$onlyIf"], ["$Ping", "$ifAny", "$for"]⟩ ∧
        diagnosis.findings.map Finding.message = (["Mismatched $if / $endif",
          "$onlyIf requires a non-empty error message",
          "Arithmetic operators are not allowed in logical conditions; ".toList ++
            "use aoi.js comparison macros or documented patterns".toList,
          "Invalid function syntax: $for must use brackets [..]",
          "Loops are not supported in aoi.js: $for is invalid", "Undocumented function: $Ping",
          "Undocumented function: $ifAny", "Undocumented function: $for"] : List Text) ∧
        diagnosis.valid = false := by
  intro score asked work
  obtain ⟨diagnosis, hdone⟩ : ∃ diagnosis, work.outcome = .done diagnosis :=
    exists_validate_scoring (by decide) (by decide +kernel) rfl
  obtain ⟨-, names, hnames, ⟨others, hevents, hothers⟩, hcoverage, -, herrors, -, hvalid⟩ :=
    validate_covers_names hdone
  have hlist : names = ["$ping".toList, "$Ping".toList, "$ifAny".toList, "$onlyIf".toList,
      "$for".toList] := by
    rw [hnames.unique (listsNames_referencedFunctions _)]
    decide +kernel
  obtain rfl : others = [] := by
    rcases hothers with hnone | ⟨ask, request, hask, -⟩
    · exact hnone
    · cases hask
  have hdivided : diagnosis.coverage = ⟨["$ping", "$onlyIf"], ["$Ping", "$ifAny", "$for"]⟩ := by
    rw [hcoverage, hlist]
    decide
  refine ⟨?_, diagnosis, hdone, hdivided, ?_, ?_⟩
  · rw [hevents, hlist]
    rfl
  · rw [herrors, hdivided]
    decide +kernel
  · rw [Bool.eq_false_iff]
    intro hall
    have hfull := (hvalid.mp hall).2
    rw [hdivided] at hfull
    cases hfull

end Snippet

end ScriptDocs
