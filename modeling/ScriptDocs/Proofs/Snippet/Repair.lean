/-
# What a mechanical repair achieves

A validation that finds blocks left open, and nothing else, offers the snippet with closing words
behind it. Validating what it offers finds nothing wrong, and the same functions documented,
just where as many `$if` as `$endif` are written in other than small letters: the check of
control flow ignores case, and the repair counts the words in small letters.
-/

import ScriptDocs.Proofs.Snippet.Closing
import ScriptDocs.Proofs.Snippet.Fencing
import ScriptDocs.Proofs.Snippet.Nesting
import ScriptDocs.Proofs.Snippet.Validation
import ScriptDocs.Proofs.Text.Pieces

namespace ScriptDocs.Snippet

variable {score : Text → Work Number} {threshold : Number} {limit : Option Number}

/-- How many closing words the repair takes to be missing. -/
def countedMissing (code : Text) : Nat :=
  countWord "$if" code - countWord "$endif" code

/-- A snippet whose last line is ended. -/
def ended (code : Text) : Text :=
  if Text.endsWith "\n" code then code else code ++ "\n".toList

/-- A snippet with closing words behind it, each on a line of its own that is ended. -/
def closedBy (code : Text) (n : Nat) : Text :=
  ended code ++ (List.replicate n "$endif\n".toList).flatten

/-- Line ends may stand before the closing words as well as behind them. -/
theorem closedBy_eq {code front : Text} (hended : ended code = front ++ "\n".toList) (n : Nat) :
    closedBy code n = front ++ closingLines n ++ "\n".toList := by
  have hmoved := Text.flatMap_cons_concat '\n' (List.replicate n "$endif".toList)
  have hflat : (List.replicate n "$endif".toList).flatMap (· ++ ['\n']) =
      (List.replicate n "$endif\n".toList).flatten := by
    rw [List.flatMap_replicate]
    rfl
  rw [hflat] at hmoved
  rw [closedBy, hended, List.append_assoc, List.append_assoc]
  exact congrArg (front ++ ·) hmoved.symm

/-- What the repair offers is the snippet with the closing words that it counts as missing. -/
theorem appendEndifs?_eq_closedBy (code : Text) :
    appendEndifs? code =
      if countedMissing code = 0 then none
      else some ("```js\n".toList ++ closedBy code (countedMissing code) ++ "```".toList) := by
  have hrepair : appendEndifs? code = if countedMissing code = 0 then none
      else some ("```js\n".toList ++ code ++
        (if Text.endsWith "\n".toList code then [] else "\n".toList) ++
          Text.join "\n".toList (List.replicate (countedMissing code) "$endif".toList) ++
            "\n```".toList) := rfl
  rw [hrepair]
  by_cases hnone : countedMissing code = 0
  · rw [if_pos hnone, if_pos hnone]
  have hended : code ++ (if Text.endsWith "\n".toList code then [] else "\n".toList) =
      ended code := by
    unfold ended
    split
    · exact List.append_nil code
    · rfl
  have hlines : Text.join "\n".toList (List.replicate (countedMissing code) "$endif".toList) ++
      "\n".toList = (List.replicate (countedMissing code) "$endif\n".toList).flatten := by
    have hflat := List.flatMap_replicate (f := (· ++ ['\n'])) (n := countedMissing code)
      (a := "$endif".toList)
    exact (Text.join_append_separator '\n' (by simpa using hnone)).trans hflat
  rw [if_neg hnone, if_neg hnone, closedBy, ← hended, ← hlines]
  simp only [List.append_assoc]
  rfl

/-- The repair puts the closing words that it counts as missing on lines of their own. -/
theorem appendEndifs?_eq {code : Text} (hend : Text.endsWith "\n".toList code = false) :
    appendEndifs? code =
      if countedMissing code = 0 then none
      else some (fencedSnippet (code ++ closingLines (countedMissing code))) := by
  have hended : ended code = code ++ "\n".toList := if_neg (by rw [hend]; exact Bool.false_ne_true)
  have hfenced : ∀ body, fencedSnippet body =
      "```js\n".toList ++ (body ++ "\n".toList) ++ "```".toList := fun body => by
    rw [List.append_assoc, List.append_assoc]
    rfl
  rw [appendEndifs?_eq_closedBy, closedBy_eq hended, hfenced]

/-- A repaired snippet is read back as the snippet with the closing words behind it. -/
theorem stripFences_repaired {code : Text} (hsome : code ≠ []) (htrimmed : Text.IsTrimmed code)
    (hmark : Text.contains fenceMark code = false) {n : Nat} (hn : n ≠ 0) :
    stripFences (fencedSnippet (code ++ closingLines n)) = code ++ closingLines n := by
  have hlast : (code ++ closingLines n).getLast? = some 'f' := by
    obtain ⟨k, rfl⟩ := Nat.exists_eq_succ_of_ne_zero hn
    have hline : closingLines (k + 1) = closingLines k ++ "\n$endi".toList ++ ['f'] := by
      rw [closingLines, List.replicate_succ', List.flatMap_append, List.append_assoc]
      rfl
    rw [hline, ← List.append_assoc, List.getLast?_concat]
  have hlines : '`' ∉ closingLines n := by
    intro hmem
    obtain ⟨line, hline, hc⟩ := List.mem_flatMap.mp hmem
    rw [List.eq_of_mem_replicate hline] at hc
    exact absurd hc (by decide)
  have hrepairedTrimmed : Text.IsTrimmed (code ++ closingLines n) := by
    refine ⟨fun c hc => ?_, fun c hc => ?_⟩
    · rw [List.head?_append_of_ne_nil _ hsome] at hc
      exact htrimmed.1 c hc
    · rw [hlast] at hc
      obtain rfl := Option.some.inj hc
      rfl
  have hunmarked : ¬ fenceMark <:+: code ++ closingLines n := fun hinfix =>
    Text.contains_eq_false_iff.mp hmark (Text.infix_of_infix_append rfl hlines hinfix)
  exact stripFences_fencedSnippet hrepairedTrimmed hunmarked

/-- Closing words put a snippet right that is wrong in nothing but open blocks just where they are
as many as the `$if` outnumber the `$endif`. -/
theorem staticFindings_append_closingLines_eq_nil_iff {code : Text}
    (honly : staticFindings code = [.unbalancedIf]) (n : Nat) :
    (flowTokens code).count .closing < (flowTokens code).count .opening ∧
      (staticFindings (code ++ closingLines n) = [] ↔
        (flowTokens code).count .closing + n = (flowTokens code).count .opening) := by
  rw [staticFindings_eq] at honly
  obtain ⟨hflow, hothers⟩ : flowFindings code = [.unbalancedIf] ∧
      callAndStructureFindings code = [] := by
    rcases List.append_eq_singleton_iff.mp honly with ⟨-, hothers⟩ | hboth
    · have hnotMem := unbalancedIf_notMem_callAndStructureFindings code
      simp [hothers] at hnotMem
    · exact hboth
  have hcalls : callFindings (calls code) = [] := by
    simp only [callAndStructureFindings, List.append_eq_nil_iff] at hothers
    exact hothers.1.2
  rw [staticFindings_eq, callAndStructureFindings_append_closingLines hcalls, hothers,
    List.append_nil, flowFindings, flowTokens_append_closingLines]
  exact flowFindingsFrom_append_closing_eq_nil_iff hflow n

/-- A repaired snippet is validated with the functions of the snippet, and without a finding just
where none is made without documentation. -/
theorem validate_fencedSnippet_iff {code : Text} {coverage : Coverage} {n : Nat}
    (hsome : code ≠ []) (htrimmed : Text.IsTrimmed code)
    (hmark : Text.contains fenceMark code = false) (hn : n ≠ 0)
    (hlookup : (Work.within limit .validationTimedOut
      (classify score threshold (referencedFunctions code))).outcome = .done coverage)
    (hdocumented : coverage.undocumented = []) :
    (∀ intent mode named, modeOf mode = .ok named → ∃ again,
      (validate ⟨score, none⟩ threshold limit
          ⟨some (fencedSnippet (code ++ closingLines n)), intent, mode⟩).outcome = .done again ∧
        again.findings = [] ∧ again.coverage = coverage) ↔
      staticFindings (code ++ closingLines n) = [] := by
  have hstripped := stripFences_repaired hsome htrimmed hmark hn
  constructor
  · intro hagain
    obtain ⟨again, hdone, hnothing, -⟩ := hagain none .null none rfl
    obtain ⟨hcode, corrective, -, htells⟩ := tells_of_validate_done hdone
    have hfindings := htells.findings_eq
    rw [hnothing, hcode, hstripped] at hfindings
    exact (List.append_eq_nil_iff.mp hfindings.symm).1
  · intro hnothing intent mode named hmode
    refine exists_validate_done (List.cons_ne_nil _ _) hstripped (by simp [hsome]) hnothing ?_
      hdocumented hmode
    rwa [referencedFunctions_append_closingLines]

/-- A snippet in which nothing is found but open blocks, and which holds no fence mark: the repair
that is offered is validated without a finding, and with the same functions documented, just where
as many `$if` as `$endif` are written in other than small letters. -/
theorem validate_repaired_iff {asked : ValidationRequest} {diagnosis : Diagnosis}
    (hdone : (validate ⟨score, none⟩ threshold limit asked).outcome = .done diagnosis)
    (hasks : asksRepair (some diagnosis.request) asked.mode = .ok true)
    (honly : diagnosis.findings = [.unbalancedIf])
    (hmark : Text.contains fenceMark diagnosis.code = false) :
    (∃ fixed, diagnosis.corrected = some fixed ∧
      ∀ intent mode named, modeOf mode = .ok named →
        ∃ again, (validate ⟨score, none⟩ threshold limit ⟨some fixed, intent, mode⟩).outcome =
          .done again ∧ again.findings = [] ∧ again.coverage = diagnosis.coverage) ↔
      miscased .opening diagnosis.code = miscased .closing diagnosis.code := by
  obtain ⟨- | given, intent, mode⟩ := asked
  · cases hdone
  obtain ⟨-, corrective, hcorrective, htells⟩ := tells_of_validate_done hdone
  obtain rfl : true = corrective := Except.ok.inj (hasks.symm.trans hcorrective)
  obtain ⟨hstatic, hdocumented⟩ := htells.of_findings_eq honly
  have hend : Text.endsWith "\n".toList diagnosis.code = false :=
    htells.trimmed.endsWith_eq_false rfl
  have hcorrected := htells.corrected_eq
  rw [if_pos ⟨rfl, honly⟩, appendEndifs?_eq hend] at hcorrected
  obtain ⟨hopen, hclosed⟩ :=
    staticFindings_append_closingLines_eq_nil_iff hstatic (countedMissing diagnosis.code)
  have hopenings := count_flowTokens .opening diagnosis.code
  have hclosings := count_flowTokens .closing diagnosis.code
  have hmissing : countedMissing diagnosis.code =
    countWord ('$' :: FlowToken.opening.word) diagnosis.code -
      countWord ('$' :: FlowToken.closing.word) diagnosis.code := rfl
  rw [hcorrected]
  by_cases hnone : countedMissing diagnosis.code = 0
  · rw [if_pos hnone]
    constructor
    · rintro ⟨fixed, hfixed, -⟩
      cases hfixed
    · omega
  · rw [if_neg hnone]
    simp only [Option.some.injEq, exists_eq_left']
    rw [validate_fencedSnippet_iff htells.code_ne_nil htells.trimmed hmark hnone htells.lookup
      hdocumented, hclosed]
    omega

/-- A documentation that knows one function. -/
def scoreOfMessage (name : Text) : Work Number :=
  .done (.integer (if name = "$message".toList then 1 else 0))

/-- Three blocks in mixed case, one of them closed. -/
def openSnippet : Text :=
  "$IF[$message[1]==x]$if[y]a$EndIf b$if[z]"

/-- The diagnosis of these blocks, with the closings of the repair put behind them. -/
def openDiagnosis : Diagnosis :=
  { diagnosisOf [] openSnippet ⟨["$message"], []⟩ with corrected := appendEndifs? openSnippet }

theorem findings_openDiagnosis : openDiagnosis.findings = [.unbalancedIf] := by
  have hstatic : staticFindings openSnippet = [.unbalancedIf] := by decide +kernel
  exact (List.append_nil _).trans hstatic

theorem validate_openSnippet :
    (validate ⟨scoreOfMessage, none⟩ (.integer 1) none
      ⟨some openSnippet, none, .text "fix"⟩).outcome = .done openDiagnosis := by
  have hnames : referencedFunctions openSnippet = ["$message".toList] := by decide +kernel
  refine validate_of_stripped (List.cons_ne_nil _ _) (by decide +kernel) ?_ rfl
    findings_openDiagnosis (by decide +kernel)
  rw [hnames]
  rfl

theorem validate_repaired_iff_openSnippet :
    ((validate ⟨scoreOfMessage, none⟩ (.integer 1) none
        ⟨some openSnippet, none, .text "fix"⟩).outcome = .done openDiagnosis ∧
      asksRepair (some openDiagnosis.request) (.text "fix") = .ok true ∧
      openDiagnosis.findings = [.unbalancedIf] ∧
      Text.contains fenceMark openDiagnosis.code = false) ∧
    ∃ fixed, openDiagnosis.corrected = some fixed ∧
      ∀ intent mode named, modeOf mode = .ok named →
        ∃ again, (validate ⟨scoreOfMessage, none⟩ (.integer 1) none
            ⟨some fixed, intent, mode⟩).outcome = .done again ∧
          again.findings = [] ∧ again.coverage = openDiagnosis.coverage := by
  have hmark : Text.contains fenceMark openDiagnosis.code = false := by decide +kernel
  refine ⟨⟨validate_openSnippet, rfl, findings_openDiagnosis, hmark⟩, ?_⟩
  exact (validate_repaired_iff validate_openSnippet rfl findings_openDiagnosis hmark).mpr
    (by decide +kernel)

/-- A block that is opened in capitals. -/
def capitalSnippet : Text := "$IF[a]"

/-- The block is found open, and no repair is offered. -/
theorem validate_capitalSnippet : ∃ diagnosis,
    (validate ⟨scoreOfMessage, none⟩ (.integer 1) none
        ⟨some capitalSnippet, none, .text "fix"⟩).outcome = .done diagnosis ∧
      asksRepair (some diagnosis.request) (.text "fix") = .ok true ∧
      diagnosis.findings = [.unbalancedIf] ∧ diagnosis.corrected = none := by
  have hfindings : staticFindings capitalSnippet = [.unbalancedIf] := by decide +kernel
  have hnames : referencedFunctions capitalSnippet = [] := by decide +kernel
  have hrepair : appendEndifs? capitalSnippet = none := by decide +kernel
  have hdone : (validate ⟨scoreOfMessage, none⟩ (.integer 1) none
      ⟨some capitalSnippet, none, .text "fix"⟩).outcome =
        .done { diagnosisOf [] capitalSnippet ⟨[], []⟩ with
          corrected := appendEndifs? capitalSnippet } := by
    refine validate_of_stripped (List.cons_ne_nil _ _) (by decide +kernel) ?_ rfl hfindings
      (by rw [hrepair]; rfl)
    rw [hnames]
    rfl
  exact ⟨_, hdone, rfl, hfindings, hrepair⟩

end ScriptDocs.Snippet
