/-
# What a validation tells

A validation without an assistant, opened up: it gets done where the snippet is not empty without
its fences, all functions have been looked up and the mode can be read, and then tells what is
found in the snippet, which functions are documented, and the repair where one is asked for.
-/

import ScriptDocs.Proofs.Text.Blank
import ScriptDocs.Proofs.Work
import ScriptDocs.Snippet.Validation

namespace ScriptDocs.Snippet

variable {score : Text → Work Number} {threshold : Number} {limit : Option Number}

/-- What is told of a snippet whose functions have been looked up, before any correction. -/
def diagnosisOf (request code : Text) (coverage : Coverage) : Diagnosis where
  request
  findings := staticFindings code ++ coverage.undocumented.map Finding.undocumented
  warnings := warnings code
  coverage
  confidence := confidenceOf coverage.documented.length (referencedFunctions code).length
  code
  corrected := none

theorem diagnose_outcome_eq_done_iff {request code : Text} {diagnosis : Diagnosis} :
    (diagnose score threshold limit request code).outcome = .done diagnosis ↔
      ∃ coverage, (Work.within limit .validationTimedOut
          (classify score threshold (referencedFunctions code))).outcome = .done coverage ∧
        diagnosis = diagnosisOf request code coverage := by
  rw [diagnose, Work.outcome_bind_eq_done_iff]
  apply exists_congr
  intro coverage
  apply and_congr_right
  intro _
  constructor
  · intro hdone
    cases hdone
    rfl
  · rintro rfl
    rfl

/-- The request of a validation, as it is looked at and reported. -/
def requestOf (intent : Option Text) : Text :=
  (intent.map Question.clean).getD []

/-- The end of a validation: a correction that can be written joins the diagnosis. -/
def conclude (plain : Diagnosis) (corrected : Option Text) : Work Diagnosis :=
  if corrected.any Text.holdsSurrogate then
    .fail (.fieldsInvalid [⟨[.name "fixed_code"], .textUnwritable⟩])
  else .done { plain with corrected }

theorem conclude_outcome_eq_done_iff {plain diagnosis : Diagnosis} {corrected : Option Text} :
    (conclude plain corrected).outcome = .done diagnosis ↔
      corrected.any Text.holdsSurrogate = false ∧ diagnosis = { plain with corrected } := by
  unfold conclude
  cases corrected.any Text.holdsSurrogate with
  | true =>
      constructor
      · intro hdone
        cases hdone
      · rintro ⟨hwritable, -⟩
        cases hwritable
  | false =>
      constructor
      · intro hdone
        cases hdone
        exact ⟨rfl, rfl⟩
      · rintro ⟨-, rfl⟩
        rfl

theorem validate_cons (advisers : Advisers) (c : Char) (given : Text) (intent : Option Text)
    (mode : Json) :
    validate advisers threshold limit ⟨some (c :: given), intent, mode⟩ =
      if (stripFences (c :: given)).isEmpty then .fail .codeEmpty
      else
        diagnose advisers.score threshold limit (requestOf intent) (stripFences (c :: given)) >>=
          fun plain => Work.ofExcept (asksRepair (some (requestOf intent)) mode) >>=
            fun corrective =>
              if corrective then correct advisers.assistant (c :: given) plain >>= conclude plain
              else .done none >>= conclude plain :=
  rfl

/-- A validation that gets done is the diagnosis of the stripped snippet with a correction, if one
is asked for. -/
theorem validate_outcome_eq_done_iff {advisers : Advisers} {given : Text} {intent : Option Text}
    {mode : Json} {diagnosis : Diagnosis} :
    (validate advisers threshold limit ⟨some given, intent, mode⟩).outcome = .done diagnosis ↔
      (given ≠ [] ∧ stripFences given ≠ []) ∧
        ∃ plain, (diagnose advisers.score threshold limit (requestOf intent)
            (stripFences given)).outcome = .done plain ∧
          ∃ corrective, asksRepair (some (requestOf intent)) mode = .ok corrective ∧
            ∃ corrected, (if corrective then correct advisers.assistant given plain
                else .done none).outcome = .done corrected ∧
              corrected.any Text.holdsSurrogate = false ∧
                diagnosis = { plain with corrected } := by
  cases given with
  | nil =>
      constructor
      · intro hdone
        cases hdone
      · rintro ⟨⟨hsome, -⟩, -⟩
        exact absurd rfl hsome
  | cons c given =>
      rw [validate_cons]
      by_cases hempty : stripFences (c :: given) = []
      · rw [hempty]
        constructor
        · intro hdone
          cases hdone
        · rintro ⟨⟨-, hsome⟩, -⟩
          exact absurd rfl hsome
      rw [if_neg (by simpa using hempty), Work.outcome_bind_eq_done_iff,
        and_iff_right ⟨List.cons_ne_nil c given, hempty⟩]
      apply exists_congr
      intro plain
      apply and_congr_right
      intro _
      rw [Work.outcome_bind_eq_done_iff]
      apply exists_congr
      intro corrective
      rw [Work.outcome_ofExcept_eq_done_iff]
      apply and_congr_right
      intro _
      simp only [← conclude_outcome_eq_done_iff, ← Work.outcome_bind_eq_done_iff]
      split <;> rfl

/-- Without an assistant, only missing closing words are put right. -/
theorem correct_none (given : Text) (diagnosis : Diagnosis) :
    correct none given diagnosis = .done
      (if diagnosis.findings = [.unbalancedIf] then appendEndifs? diagnosis.code else none) := by
  unfold correct
  cases if diagnosis.findings = [.unbalancedIf] then appendEndifs? diagnosis.code else none <;> rfl

/-- What a validation without an assistant tells of a snippet. -/
structure Tells (score : Text → Work Number) (threshold : Number) (limit : Option Number)
    (corrective : Bool) (diagnosis : Diagnosis) : Prop where
  code_ne_nil : diagnosis.code ≠ []
  trimmed : Text.IsTrimmed diagnosis.code
  lookup : (Work.within limit .validationTimedOut
    (classify score threshold (referencedFunctions diagnosis.code))).outcome =
      .done diagnosis.coverage
  findings_eq : diagnosis.findings = staticFindings diagnosis.code ++
    diagnosis.coverage.undocumented.map Finding.undocumented
  /-- A correction is offered where one is asked for and only closing words are missing. -/
  corrected_eq : diagnosis.corrected =
    if corrective ∧ diagnosis.findings = [.unbalancedIf] then appendEndifs? diagnosis.code else none

/-- Where only blocks are left open, nothing else is found and every function is documented. -/
theorem Tells.of_findings_eq {corrective : Bool} {diagnosis : Diagnosis}
    (htells : Tells score threshold limit corrective diagnosis)
    (honly : diagnosis.findings = [.unbalancedIf]) :
    staticFindings diagnosis.code = [.unbalancedIf] ∧ diagnosis.coverage.undocumented = [] := by
  have hall := htells.findings_eq
  rw [honly] at hall
  rcases List.append_eq_singleton_iff.mp hall.symm with ⟨-, hothers⟩ | ⟨hstatic, hothers⟩
  · obtain ⟨name, -, hname⟩ := List.map_eq_singleton_iff.mp hothers
    cases hname
  · exact ⟨hstatic, List.map_eq_nil_iff.mp hothers⟩

/-- The code of a diagnosis is the stripped snippet, and the diagnosis tells of it. -/
theorem tells_of_validate_done {given : Text} {intent : Option Text} {mode : Json}
    {diagnosis : Diagnosis}
    (hdone : (validate ⟨score, none⟩ threshold limit ⟨some given, intent, mode⟩).outcome =
      .done diagnosis) :
    diagnosis.code = stripFences given ∧ ∃ corrective,
      asksRepair (some diagnosis.request) mode = .ok corrective ∧
        Tells score threshold limit corrective diagnosis := by
  obtain ⟨⟨-, hsome⟩, plain, hplain, corrective, hasks, corrected, hcorrected, -, rfl⟩ :=
    validate_outcome_eq_done_iff.mp hdone
  obtain ⟨coverage, hlookup, rfl⟩ := diagnose_outcome_eq_done_iff.mp hplain
  refine ⟨rfl, corrective, hasks, hsome, Text.isTrimmed_trim _, hlookup, rfl, ?_⟩
  rw [correct_none] at hcorrected
  cases corrective with
  | true =>
      rw [if_pos rfl] at hcorrected
      rw [← Outcome.done.inj hcorrected]
      simp only [true_and]
  | false =>
      obtain rfl := Outcome.done.inj hcorrected
      simp

/-- A snippet with nothing wrong in it, whose functions are looked up and all documented, is
validated without a finding. -/
theorem exists_validate_done {given code : Text} {coverage : Coverage} {intent : Option Text}
    {mode : Json} {named : Option Text} (hgiven : given ≠ []) (hstripped : stripFences given = code)
    (hsome : code ≠ []) (hnothing : staticFindings code = [])
    (hlookup : (Work.within limit .validationTimedOut
      (classify score threshold (referencedFunctions code))).outcome = .done coverage)
    (hdocumented : coverage.undocumented = []) (hmode : modeOf mode = .ok named) :
    ∃ diagnosis, (validate ⟨score, none⟩ threshold limit ⟨some given, intent, mode⟩).outcome =
      .done diagnosis ∧ diagnosis.findings = [] ∧ diagnosis.coverage = coverage := by
  subst hstripped
  obtain ⟨corrective, hasks⟩ : ∃ corrective,
      asksRepair (some (requestOf intent)) mode = .ok corrective := by
    unfold asksRepair
    split
    · exact ⟨true, rfl⟩
    · rw [hmode]
      exact ⟨_, rfl⟩
  let plain := diagnosisOf (requestOf intent) (stripFences given) coverage
  have hplain : (diagnose score threshold limit (requestOf intent) (stripFences given)).outcome =
      .done plain :=
    diagnose_outcome_eq_done_iff.mpr ⟨coverage, hlookup, rfl⟩
  have hfindings : plain.findings = [] := by
    show staticFindings (stripFences given) ++ coverage.undocumented.map Finding.undocumented = []
    rw [hnothing, hdocumented]
    rfl
  have huncorrected : (if corrective then correct none given plain else .done none).outcome =
      .done none := by
    rw [correct_none, hfindings]
    split <;> rfl
  exact ⟨{ plain with corrected := none }, validate_outcome_eq_done_iff.mpr ⟨⟨hgiven, hsome⟩, plain,
    hplain, corrective, hasks, none, huncorrected, rfl, rfl⟩, hfindings, rfl⟩

/-- A snippet without fences, in which nothing is found but open blocks, is told of with its repair
where one is asked for. -/
theorem validate_of_stripped {code : Text} {coverage : Coverage} {mode : Json}
    (hsome : code ≠ []) (hstripped : stripFences code = code)
    (hlookup : (Work.within limit .validationTimedOut
      (classify score threshold (referencedFunctions code))).outcome = .done coverage)
    (hasks : asksRepair (some []) mode = .ok true)
    (honly : (diagnosisOf [] code coverage).findings = [.unbalancedIf])
    (hwritable : (appendEndifs? code).any Text.holdsSurrogate = false) :
    (validate ⟨score, none⟩ threshold limit ⟨some code, none, mode⟩).outcome =
      .done { diagnosisOf [] code coverage with corrected := appendEndifs? code } := by
  have hplain : (diagnose score threshold limit (requestOf none) (stripFences code)).outcome =
      .done (diagnosisOf [] code coverage) := by
    rw [hstripped]
    exact diagnose_outcome_eq_done_iff.mpr ⟨coverage, hlookup, rfl⟩
  have hcorrected : (if true then correct none code (diagnosisOf [] code coverage)
      else .done none).outcome = .done (appendEndifs? code) := by
    rw [if_pos rfl, correct_none, if_pos honly]
    rfl
  have hstrippedSome : stripFences code ≠ [] := by rwa [hstripped]
  exact validate_outcome_eq_done_iff.mpr ⟨⟨hsome, hstrippedSome⟩, diagnosisOf [] code coverage,
    hplain, true, hasks, appendEndifs? code, hcorrected, hwritable, rfl⟩

end ScriptDocs.Snippet
