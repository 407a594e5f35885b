/-
# What an assistant changes

A validation is put together without its assistant: what is found in the snippet, which functions
are documented, and whether a correction is asked for. Only then an assistant may be asked, once,
and all that its answer decides is the correction. So two validations that differ in nothing but
the assistant tell the same of a snippet, up to the correction.
-/

import ScriptDocs.Proofs.Snippet.Coverage

namespace ScriptDocs.Snippet

variable {score : Text → Work Number} {threshold : Number} {limit : Option Number}

/-- Whoever may be asked for corrections. -/
abbrev Assistant := Option (CorrectionRequest → Work (Option Text))

/-- An assistant that answers every request, if there is one at all. -/
def Answers (assistant : Assistant) : Prop :=
  ∀ ask, assistant = some ask → ∀ request, ∃ answer, (ask request).outcome = .done answer

/-- The snippet with closing words behind it, where nothing else is wrong with it. -/
def mechanicalRepair? (diagnosis : Diagnosis) : Option Text :=
  if diagnosis.findings = [.unbalancedIf] then appendEndifs? diagnosis.code else none

/-- A diagnosis calls for an assistant: a correction is asked for, by an intent that says
something, and something is found that closing words do not put right. -/
structure NeedsAssistant (mode : Json) (diagnosis : Diagnosis) : Prop where
  asks : asksRepair (some diagnosis.request) mode = .ok true
  request_ne_nil : diagnosis.request ≠ []
  findings_ne_nil : diagnosis.findings ≠ []
  unrepaired : mechanicalRepair? diagnosis = none

/-- What an assistant is asked about a snippet. -/
def requestAbout (given : Text) (diagnosis : Diagnosis) : CorrectionRequest where
  code := given
  intent := diagnosis.request
  findings := diagnosis.findings.map Finding.message
  documented := diagnosis.coverage.documented

/-- The failure of a validation whose correction cannot be written. -/
def correctionUnwritable : Failure :=
  .fieldsInvalid [⟨[.name "fixed_code"], .textUnwritable⟩]

/-- All of a validation that no assistant has a part in: the snippet, its diagnosis, and whether
a correction is asked for. -/
def prepared (score : Text → Work Number) (threshold : Number) (limit : Option Number)
    (asked : ValidationRequest) : Work (Text × Diagnosis × Bool) :=
  match asked.code with
  | none | some [] => .fail .codeMissing
  | some given =>
    if (stripFences given).isEmpty then .fail .codeEmpty
    else
      diagnose score threshold limit (requestOf asked.intent) (stripFences given) >>= fun plain =>
        Work.ofExcept (asksRepair (some (requestOf asked.intent)) asked.mode) >>=
          fun corrective => .done (given, plain, corrective)

/-- The correction of a prepared validation. -/
def correctionOf (assistant : Assistant) (given : Text) (plain : Diagnosis) (corrective : Bool) :
    Work (Option Text) :=
  if corrective then correct assistant given plain else .done none

theorem validate_eq_prepared (assistant : Assistant) (asked : ValidationRequest) :
    validate ⟨score, assistant⟩ threshold limit asked =
      prepared score threshold limit asked >>= fun (given, plain, corrective) =>
        correctionOf assistant given plain corrective >>= conclude plain := by
  obtain ⟨code, intent, mode⟩ := asked
  rcases code with - | - | ⟨c, given⟩
  · rfl
  · rfl
  rw [validate_cons]
  dsimp only [prepared]
  by_cases hempty : (stripFences (c :: given)).isEmpty = true
  · rw [if_pos hempty, if_pos hempty]
    rfl
  rw [if_neg hempty, if_neg hempty, Work.bind_assoc]
  congr 1
  funext plain
  rw [Work.bind_assoc]
  congr 1
  funext corrective
  cases corrective <;> rfl

/-- A prepared validation is about the snippet that was given, and its request and mode tell
whether a correction is asked for. -/
theorem prepared_outcome_eq_done {asked : ValidationRequest} {given : Text} {plain : Diagnosis}
    {corrective : Bool}
    (hdone : (prepared score threshold limit asked).outcome = .done (given, plain, corrective)) :
    asked.code = some given ∧ asksRepair (some plain.request) asked.mode = .ok corrective := by
  obtain ⟨code, intent, mode⟩ := asked
  rcases code with - | - | ⟨c, snippet⟩
  · cases hdone
  · cases hdone
  dsimp only [prepared] at hdone
  split at hdone
  · cases hdone
  obtain ⟨found, hfound, hrest⟩ := Work.outcome_bind_eq_done_iff.mp hdone
  obtain ⟨asks, hasks, hend⟩ := Work.outcome_bind_eq_done_iff.mp hrest
  rw [Work.outcome_ofExcept_eq_done_iff] at hasks
  cases hend
  obtain ⟨coverage, -, rfl⟩ := diagnose_outcome_eq_done_iff.mp hfound
  exact ⟨rfl, hasks⟩

/-- Where the diagnosis calls for an assistant, only its answer can be the correction. -/
theorem correctionOf_of_needs {mode : Json} (given : Text) {plain : Diagnosis} {corrective : Bool}
    (hasks : asksRepair (some plain.request) mode = .ok corrective)
    (hneeds : NeedsAssistant mode plain) :
    correctionOf none given plain corrective = .done none ∧
      ∀ ask, correctionOf (some ask) given plain corrective = ask (requestAbout given plain) := by
  obtain rfl : true = corrective := Except.ok.inj (hneeds.asks.symm.trans hasks)
  have hunrepaired := hneeds.unrepaired
  unfold mechanicalRepair? at hunrepaired
  have hasked : ¬ (plain.request.isEmpty = true ∨ plain.valid = true) := by
    rw [Diagnosis.valid, List.isEmpty_iff, List.isEmpty_iff, not_or]
    exact ⟨hneeds.request_ne_nil, hneeds.findings_ne_nil⟩
  unfold correctionOf correct
  dsimp only
  rw [hunrepaired]
  refine ⟨rfl, fun ask => ?_⟩
  dsimp only
  rw [if_pos rfl, if_neg hasked]
  rfl

/-- Elsewhere no assistant has a part in the correction, which is the mechanical one. -/
theorem correctionOf_of_not_needs {mode : Json} {plain : Diagnosis} {corrective : Bool}
    (hasks : asksRepair (some plain.request) mode = .ok corrective)
    (hneeds : ¬ NeedsAssistant mode plain) (assistant : Assistant) (given : Text) :
    correctionOf assistant given plain corrective =
      .done (if corrective then mechanicalRepair? plain else none) := by
  cases corrective with
  | false => rfl
  | true =>
      unfold correctionOf correct
      dsimp only
      rw [if_pos rfl, if_pos rfl, ← mechanicalRepair?]
      cases hrepair : mechanicalRepair? plain with
      | some repaired => rfl
      | none =>
          cases assistant with
          | none => rfl
          | some ask =>
              dsimp only
              rw [if_pos]
              by_contra hasked
              rw [Diagnosis.valid, List.isEmpty_iff, List.isEmpty_iff, not_or] at hasked
              exact hneeds ⟨hasks, hasked.1, hasked.2, hrepair⟩

/-- Whether a diagnosis calls for an assistant does not depend on its correction. -/
theorem needsAssistant_corrected_iff {mode : Json} {plain : Diagnosis} {corrected : Option Text} :
    NeedsAssistant mode { plain with corrected } ↔ NeedsAssistant mode plain := by
  constructor
  · exact fun hneeds => ⟨hneeds.asks, hneeds.request_ne_nil, hneeds.findings_ne_nil,
      hneeds.unrepaired⟩
  · exact fun hneeds => ⟨hneeds.asks, hneeds.request_ne_nil, hneeds.findings_ne_nil,
      hneeds.unrepaired⟩

/-- A validation that gets done tells what was prepared, and the correction. -/
theorem exists_prepared_of_done {assistant : Assistant} {asked : ValidationRequest}
    {told : Diagnosis}
    (hdone : (validate ⟨score, assistant⟩ threshold limit asked).outcome = .done told) :
    ∃ given plain corrective,
      (prepared score threshold limit asked).outcome = .done (given, plain, corrective) ∧
      (correctionOf assistant given plain corrective).outcome = .done told.corrected ∧
      told = { plain with corrected := told.corrected } := by
  rw [validate_eq_prepared] at hdone
  obtain ⟨⟨given, plain, corrective⟩, hprepared, hrest⟩ := Work.outcome_bind_eq_done_iff.mp hdone
  obtain ⟨corrected, hcorrected, hend⟩ := Work.outcome_bind_eq_done_iff.mp hrest
  obtain ⟨-, rfl⟩ := conclude_outcome_eq_done_iff.mp hend
  exact ⟨given, plain, corrective, hprepared, hcorrected, rfl⟩

/-- A validation whose diagnosis does not call for an assistant is the same with any. -/
theorem validate_eq_of_not_needs {asked : ValidationRequest}
    (hneeds : ∀ given plain corrective,
      (prepared score threshold limit asked).outcome = .done (given, plain, corrective) →
        ¬ NeedsAssistant asked.mode plain) (first second : Assistant) :
    validate ⟨score, first⟩ threshold limit asked =
      validate ⟨score, second⟩ threshold limit asked := by
  rw [validate_eq_prepared, validate_eq_prepared]
  by_cases hdone : ∃ result, (prepared score threshold limit asked).outcome = .done result
  · obtain ⟨⟨given, plain, corrective⟩, hprepared⟩ := hdone
    have hasks := (prepared_outcome_eq_done hprepared).2
    have hother := hneeds given plain corrective hprepared
    rw [Work.bind_of_done hprepared, Work.bind_of_done hprepared]
    dsimp only
    rw [correctionOf_of_not_needs hasks hother first, correctionOf_of_not_needs hasks hother second]
  · exact Work.bind_eq_of_not_done (fun result h => hdone ⟨result, h⟩) _ _

theorem events_conclude (plain : Diagnosis) (corrected : Option Text) :
    (conclude plain corrected).events = [] := by
  unfold conclude
  split <;> rfl

/-- A validation whose diagnosis calls for an assistant is done without one, and with one goes on
from there by asking it once. -/
theorem validate_of_needs {asked : ValidationRequest} {given : Text} {plain : Diagnosis}
    {corrective : Bool}
    (hprepared : (prepared score threshold limit asked).outcome = .done (given, plain, corrective))
    (hneeds : NeedsAssistant asked.mode plain) :
    (validate ⟨score, none⟩ threshold limit asked).outcome =
        .done { plain with corrected := none } ∧
      ∀ ask, validate ⟨score, some ask⟩ threshold limit asked =
        ⟨(ask (requestAbout given plain) >>= conclude plain).outcome,
          (validate ⟨score, none⟩ threshold limit asked).events ++
            (ask (requestAbout given plain)).events⟩ := by
  have hasks := (prepared_outcome_eq_done hprepared).2
  obtain ⟨hnone, hsome⟩ := correctionOf_of_needs given hasks hneeds
  have halone : validate ⟨score, none⟩ threshold limit asked =
      ⟨.done { plain with corrected := none }, (prepared score threshold limit asked).events⟩ := by
    rw [validate_eq_prepared, Work.bind_of_done hprepared]
    dsimp only
    rw [hnone]
    exact congrArg _ (List.append_nil _)
  refine ⟨by rw [halone], fun ask => ?_⟩
  rw [halone, validate_eq_prepared, Work.bind_of_done hprepared]
  dsimp only
  rw [hsome ask]
  congr 2
  cases hanswer : (ask (requestAbout given plain)).outcome with
  | done answer => rw [Work.events_bind_of_done hanswer, events_conclude, List.append_nil]
  | failed failure | waiting limit =>
      show (Work.andThen _ _).events = _
      rw [Work.andThen, hanswer]

/-- Unless a diagnosis calls for an assistant, it is the one of every assistant. -/
theorem validate_eq_of_done {assistant : Assistant} {asked : ValidationRequest} {told : Diagnosis}
    (hdone : (validate ⟨score, assistant⟩ threshold limit asked).outcome = .done told)
    (hneeds : ¬ NeedsAssistant asked.mode told) (other : Assistant) :
    validate ⟨score, other⟩ threshold limit asked =
      validate ⟨score, assistant⟩ threshold limit asked := by
  obtain ⟨given, plain, corrective, hprepared, -, htold⟩ := exists_prepared_of_done hdone
  rw [htold, needsAssistant_corrected_iff] at hneeds
  apply validate_eq_of_not_needs
  intro given' plain' corrective' hprepared'
  rw [hprepared] at hprepared'
  cases hprepared'
  exact hneeds

/-- Validations that get done with two assistants tell of the same diagnosis. -/
theorem eq_corrected_of_done {first second : Assistant} {asked : ValidationRequest}
    {told other : Diagnosis}
    (hfirst : (validate ⟨score, first⟩ threshold limit asked).outcome = .done told)
    (hsecond : (validate ⟨score, second⟩ threshold limit asked).outcome = .done other) :
    other = { told with corrected := other.corrected } := by
  obtain ⟨given, plain, corrective, hprepared, -, htold⟩ := exists_prepared_of_done hfirst
  obtain ⟨given', plain', corrective', hprepared', -, hother⟩ := exists_prepared_of_done hsecond
  rw [hprepared] at hprepared'
  cases hprepared'
  rw [htold]
  exact hother

/-- An answer ends a validation, unless it cannot be written. -/
theorem done_or_unwritable_of_answers {first second : Assistant} {asked : ValidationRequest}
    {told : Diagnosis}
    (hdone : (validate ⟨score, first⟩ threshold limit asked).outcome = .done told)
    (hneeds : NeedsAssistant asked.mode told) (hanswers : Answers second) :
    (∃ other, (validate ⟨score, second⟩ threshold limit asked).outcome = .done other) ∨
      (validate ⟨score, second⟩ threshold limit asked).outcome = .failed correctionUnwritable := by
  obtain ⟨given, plain, corrective, hprepared, -, htold⟩ := exists_prepared_of_done hdone
  rw [htold, needsAssistant_corrected_iff] at hneeds
  obtain ⟨halone, hasked⟩ := validate_of_needs hprepared hneeds
  cases second with
  | none => exact Or.inl ⟨_, halone⟩
  | some ask =>
      obtain ⟨answer, hanswer⟩ := hanswers ask rfl (requestAbout given plain)
      rw [hasked ask, Work.bind_of_done hanswer]
      unfold conclude
      dsimp only
      split
      · exact Or.inr rfl
      · exact Or.inl ⟨_, rfl⟩

/-- A valid snippet is never corrected. -/
theorem corrected_eq_none_of_valid {assistant : Assistant} {asked : ValidationRequest}
    {told : Diagnosis}
    (hdone : (validate ⟨score, assistant⟩ threshold limit asked).outcome = .done told)
    (hvalid : told.valid = true) : told.corrected = none := by
  have hfindings : told.findings = [] := List.isEmpty_iff.mp hvalid
  obtain ⟨given, plain, corrective, hprepared, hcorrection, htold⟩ := exists_prepared_of_done hdone
  have hplain : plain.findings = [] := by
    rw [htold] at hfindings
    exact hfindings
  have hnothing : mechanicalRepair? plain = none := by
    rw [mechanicalRepair?, hplain, if_neg nofun]
  rw [correctionOf_of_not_needs (prepared_outcome_eq_done hprepared).2
    (fun hneeds => hneeds.findings_ne_nil hplain), hnothing, ite_self] at hcorrection
  exact (Outcome.done.inj hcorrection).symm

/-- Who assists has a say in the correction alone. Two validations that differ only in their
assistants tell the same up to the correction, and their corrections differ only where one is asked
for, with an intent, of a snippet with findings that no mechanical repair removes. An assistant that
answers does not keep a validation from its end, unless the answer cannot be written. Where the
diagnosis does not call for an assistant, none is asked; where it does, one request joins the record
of the validation, and its answer is the correction. A valid snippet is never corrected. -/
theorem validate_differs_only_in_correction (score : Text → Work Number) (threshold : Number)
    (limit : Option Number) (asked : ValidationRequest) :
    let run := fun assistant => validate ⟨score, assistant⟩ threshold limit asked
    (∀ first second told other, (run first).outcome = .done told →
      (run second).outcome = .done other →
        other = { told with corrected := other.corrected } ∧
          (told.corrected ≠ other.corrected → NeedsAssistant asked.mode told)) ∧
    (∀ first second told, Answers second → (run first).outcome = .done told →
      (∃ other, (run second).outcome = .done other) ∨
        NeedsAssistant asked.mode told ∧ (run second).outcome = .failed correctionUnwritable) ∧
    ((∀ told, (run none).outcome = .done told → ¬ NeedsAssistant asked.mode told) →
      ∀ ask, run (some ask) = run none) ∧
    (∀ told, (run none).outcome = .done told → NeedsAssistant asked.mode told →
      told.corrected = none ∧ ∃ given, asked.code = some given ∧
        ∀ ask, run (some ask) =
          ⟨(ask (requestAbout given told) >>= conclude told).outcome,
            (run none).events ++ (ask (requestAbout given told)).events⟩) ∧
    ∀ assistant told, (run assistant).outcome = .done told → told.valid = true →
      told.corrected = none := by
  intro run
  refine ⟨fun first second told other hfirst hsecond => ?_,
    fun first second told hanswers hfirst => ?_, fun hnever ask => ?_, fun told hdone hneeds => ?_,
    fun assistant told hdone hvalid => corrected_eq_none_of_valid hdone hvalid⟩
  · refine ⟨eq_corrected_of_done hfirst hsecond, fun hdiffer => ?_⟩
    by_contra hneeds
    have hsame : run second = run first := validate_eq_of_done hfirst hneeds second
    rw [hsame, hfirst] at hsecond
    obtain rfl := Outcome.done.inj hsecond
    exact hdiffer rfl
  · by_cases hneeds : NeedsAssistant asked.mode told
    · exact (done_or_unwritable_of_answers hfirst hneeds hanswers).imp_right (⟨hneeds, ·⟩)
    · have hsame : run second = run first := validate_eq_of_done hfirst hneeds second
      exact Or.inl ⟨told, by rw [hsame, hfirst]⟩
  · apply validate_eq_of_not_needs
    intro given plain corrective hprepared hneeds
    exact hnever _ (validate_of_needs hprepared hneeds).1 (needsAssistant_corrected_iff.mpr hneeds)
  · obtain ⟨given, plain, corrective, hprepared, -, htold⟩ := exists_prepared_of_done hdone
    rw [htold, needsAssistant_corrected_iff] at hneeds
    obtain ⟨halone, hasked⟩ := validate_of_needs hprepared hneeds
    obtain rfl := Outcome.done.inj (hdone.symm.trans halone)
    exact ⟨rfl, given, (prepared_outcome_eq_done hprepared).1, hasked⟩

/-- A snippet that calls one function. -/
def lonelySnippet : Text := "$ping[]"

/-- What is told of the snippet where nothing is documented. -/
def lonelyDiagnosis : Diagnosis :=
  diagnosisOf "fix it" lonelySnippet ⟨[], ["$ping"]⟩

theorem diagnosisOf_uncorrected (request code : Text) (coverage : Coverage) :
    diagnosisOf request code coverage =
      { diagnosisOf request code coverage with corrected := none } :=
  rfl

theorem findings_lonelyDiagnosis : lonelyDiagnosis.findings = [.undocumented "$ping"] := by
  decide +kernel

theorem needsAssistant_lonelyDiagnosis : NeedsAssistant .null lonelyDiagnosis where
  asks := by
    have hwants : wantsRepair (some "fix it".toList) none = true := by decide +kernel
    exact if_pos hwants
  request_ne_nil := by decide
  findings_ne_nil := by
    rw [findings_lonelyDiagnosis]
    exact List.cons_ne_nil _ _
  unrepaired := by
    rw [mechanicalRepair?, findings_lonelyDiagnosis]
    decide

theorem validate_lonelySnippet :
    (validate ⟨scoring fun _ => .integer 0, none⟩ (.integer 1) none
      ⟨some lonelySnippet, some "fix it", .null⟩).outcome = .done lonelyDiagnosis := by
  have hrequest : requestOf (some "fix it".toList) = "fix it".toList := by decide +kernel
  have hstripped : stripFences lonelySnippet = lonelySnippet := by decide +kernel
  have hnames : referencedFunctions lonelySnippet = ["$ping".toList] := by decide +kernel
  have hcorrection :
      (correctionOf none lonelySnippet lonelyDiagnosis true).outcome = .done none := by
    have hneeds := needsAssistant_lonelyDiagnosis
    rw [(correctionOf_of_needs lonelySnippet hneeds.asks hneeds).1]
    rfl
  rw [validate_outcome_eq_done_iff, hrequest, hstripped]
  have hcoverage : (Work.within none .validationTimedOut (classify (scoring fun _ => .integer 0)
      (.integer 1) (referencedFunctions lonelySnippet))).outcome = .done ⟨[], ["$ping"]⟩ := by
    rw [hnames]
    rfl
  exact ⟨⟨by decide, by decide⟩, lonelyDiagnosis,
    diagnose_outcome_eq_done_iff.mpr ⟨⟨[], ["$ping"]⟩, hcoverage, rfl⟩, true,
    needsAssistant_lonelyDiagnosis.asks, none, hcorrection, rfl, diagnosisOf_uncorrected _ _ _⟩

/-- An assistant with one answer, which leaves a record of what it is asked. -/
def answering (answer : Text) (request : CorrectionRequest) : Work (Option Text) :=
  ⟨.done (some answer), [.corrected request]⟩

/-- The answer becomes the correction, and the request is the last thing that is asked. -/
theorem validate_differs_only_in_correction_of_lonelySnippet :
    let asked : ValidationRequest := ⟨some lonelySnippet, some "fix it", .null⟩
    let run := fun assistant =>
      validate ⟨scoring fun _ => .integer 0, assistant⟩ (.integer 1) none asked
    ∃ told, ((run none).outcome = .done told ∧ NeedsAssistant asked.mode told ∧
        Answers (some (answering "$pong[]"))) ∧
      run (some (answering "$pong[]")) = ⟨.done { told with corrected := some "$pong[]" },
        (run none).events ++ [.corrected ⟨lonelySnippet, "fix it",
          ["Undocumented function: $ping"], []⟩]⟩ := by
  intro asked run
  obtain ⟨-, -, -, hneeded, -⟩ := validate_differs_only_in_correction (scoring fun _ => .integer 0)
    (.integer 1) none asked
  obtain ⟨-, given, hgiven, hasked⟩ :=
    hneeded lonelyDiagnosis validate_lonelySnippet needsAssistant_lonelyDiagnosis
  obtain rfl := Option.some.inj hgiven
  refine ⟨lonelyDiagnosis, ⟨validate_lonelySnippet, needsAssistant_lonelyDiagnosis, ?_⟩, ?_⟩
  · rintro ask ⟨⟩ request
    exact ⟨_, rfl⟩
  · have hrequest : requestAbout lonelySnippet lonelyDiagnosis =
        ⟨lonelySnippet, "fix it", ["Undocumented function: $ping"], []⟩ := by
      rw [requestAbout, findings_lonelyDiagnosis]
      rfl
    rw [hrequest] at hasked
    exact hasked (answering "$pong[]")

end ScriptDocs.Snippet
