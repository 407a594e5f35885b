/-
# Stripping fences twice

A block is found just where a fence mark begins and another one follows behind it. What the
stripping of a text keeps of the text before the last block holds no mark and does not end in a
backtick, so nothing that stood apart joins to a mark, and no block is left: stripping again changes
nothing. Without an assistant a validation therefore tells the same of a snippet and of the code
that it has made of it.
-/

import ScriptDocs.Proofs.Snippet.Coverage
import ScriptDocs.Proofs.Snippet.Fencing

namespace ScriptDocs.Snippet

/-- A mark stands in front, and another one somewhere behind it. -/
def OpensBlock (s : Text) : Prop :=
  ∃ opened, s = fenceMark ++ opened ∧ fenceMark <:+: opened

theorem OpensBlock.append {s : Text} (hopens : OpensBlock s) (rest : Text) :
    OpensBlock (s ++ rest) := by
  obtain ⟨opened, rfl, hclosed⟩ := hopens
  exact ⟨opened ++ rest, List.append_assoc _ _ _, hclosed.trans (List.prefix_append _ _).isInfix⟩

/-- What is no letter of a word in any case is not spelled with it. -/
theorem not_mem_of_spells {word spelling : Text} {c : Char} (hspells : Text.Spells word spelling)
    (hletters : (word.any fun f => Text.sameLetter f c) = false) : c ∉ spelling := by
  induction hspells with
  | nil => exact List.not_mem_nil
  | @cons f d word spelling hsame _ ih =>
      rw [List.any_cons, Bool.or_eq_false_iff] at hletters
      rw [List.mem_cons, not_or]
      refine ⟨?_, ih hletters.2⟩
      rintro rfl
      rw [hletters.1] at hsame
      cases hsame

/-- Nothing but letters is taken for a tag. -/
theorem exists_tag_append (opened : Text) :
    ∃ tag, '`' ∉ tag ∧ opened = tag ++ withoutTag opened := by
  have hletters : ∀ word ∈ fenceTags, (word.any fun f => Text.sameLetter f '`') = false := by
    decide
  rw [withoutTag]
  cases hfound : fenceTags.findSome? fun word => Text.afterFrontAnyCase? word opened with
  | none => exact ⟨[], List.not_mem_nil, rfl⟩
  | some rest =>
      obtain ⟨word, hword, hfront⟩ := List.exists_of_findSome?_eq_some hfound
      obtain ⟨tag, hspells, rfl⟩ := Text.afterFrontAnyCase?_eq_some_iff.mp hfront
      exact ⟨tag, not_mem_of_spells hspells (hletters word hword), rfl⟩

/-- The tag and the white space behind it are read off the front of what has been opened, and hold
no mark. -/
theorem exists_skipped_append (opened : Text) :
    ∃ skipped, '`' ∉ skipped ∧ opened = skipped ++ Text.trimLeft (withoutTag opened) := by
  obtain ⟨tag, htag, hopened⟩ := exists_tag_append opened
  refine ⟨tag ++ (withoutTag opened).takeWhile Text.isBlank, ?_, ?_⟩
  · rw [List.mem_append, not_or]
    refine ⟨htag, fun hmem => ?_⟩
    exact absurd (List.mem_takeWhile_imp hmem) (by decide)
  · rw [List.append_assoc, Text.trimLeft, List.takeWhile_append_dropWhile]
    exact hopened

theorem infix_body_iff {opened : Text} :
    fenceMark <:+: Text.trimLeft (withoutTag opened) ↔ fenceMark <:+: opened := by
  obtain ⟨skipped, hskipped, hopened⟩ := exists_skipped_append opened
  constructor
  · intro hmark
    rw [hopened]
    exact hmark.trans (List.suffix_append _ _).isInfix
  · intro hmark
    rw [hopened] at hmark
    exact Text.infix_of_append_infix rfl hskipped hmark

/-- A block is found just where one opens. -/
theorem fencedBody_eq_none_iff {s : Text} : fencedBody s = none ↔ ¬ OpensBlock s := by
  rw [iff_not_comm, ← ne_eq, Option.ne_none_iff_exists']
  constructor
  · rintro ⟨opened, rfl, hclosed⟩
    cases hcut : Text.cut? fenceMark (Text.trimLeft (withoutTag opened)) with
    | none => exact absurd (infix_body_iff.mpr hclosed) (Text.cut?_eq_none_iff.mp hcut)
    | some parts =>
        exact ⟨(parts.1, _), fencedBody_eq_some_iff.mpr ⟨opened, parts.2, rfl, hcut, rfl⟩⟩
  · rintro ⟨⟨body, read⟩, hfound⟩
    obtain ⟨opened, rest, rfl, hcut, -⟩ := fencedBody_eq_some_iff.mp hfound
    refine ⟨opened, rfl, infix_body_iff.mp ?_⟩
    rw [(Text.cut?_eq_some_iff.mp hcut).1]
    exact ⟨body, rest, List.append_assoc _ _ _⟩

/-- The body of a block holds no mark and begins none. -/
theorem bare_of_fencedBody {s body : Text} {read : Nat}
    (hfound : fencedBody s = some (body, read)) : Bare body := by
  obtain ⟨opened, rest, -, hcut, -⟩ := fencedBody_eq_some_iff.mp hfound
  obtain ⟨-, hfirst⟩ := Text.cut?_eq_some_iff.mp hcut
  constructor
  · intro hmark
    obtain ⟨part, hfront, hpart⟩ := List.infix_iff_prefix_suffix.mp hmark
    have hsome : part ≠ [] := by
      rintro rfl
      exact absurd hfront (by decide)
    exact hfirst part hpart hsome (hfront.trans (List.prefix_append _ _))
  · intro hlast
    obtain ⟨front, rfl⟩ := List.getLast?_eq_some_iff.mp hlast
    exact hfirst ['`'] (List.suffix_append _ _) (List.cons_ne_nil _ _) ⟨'`' :: rest, rfl⟩

theorem readsPart_fencedBody : Text.ReadsPart fencedBody := by
  intro s body read hfound
  obtain ⟨opened, rest, rfl, hcut, rfl⟩ := fencedBody_eq_some_iff.mp hfound
  obtain ⟨skipped, -, hopened⟩ := exists_skipped_append opened
  have hlength := congrArg List.length hopened
  rw [(Text.cut?_eq_some_iff.mp hcut).1] at hlength
  simp only [List.length_append] at hlength ⊢
  have hmark : fenceMark.length = 3 := rfl
  omega

/-- What stands before the first block holds no mark and begins none. -/
theorem bare_of_before {gap s : Text} (hopens : OpensBlock s)
    (hnone : ∀ t, t <:+ gap → t ≠ [] → fencedBody (t ++ s) = none) : Bare gap := by
  have hnot : ∀ t, t <:+ gap → t ≠ [] → ¬ OpensBlock (t ++ s) := fun t ht hne =>
    fencedBody_eq_none_iff.mp (hnone t ht hne)
  obtain ⟨opened, rfl, hclosed⟩ := hopens
  constructor
  · intro hmark
    obtain ⟨part, hfront, hpart⟩ := List.infix_iff_prefix_suffix.mp hmark
    obtain ⟨behind, rfl⟩ := hfront
    refine hnot _ hpart (by simp [fenceMark]) ⟨behind ++ (fenceMark ++ opened), ?_, ?_⟩
    · exact List.append_assoc _ _ _
    · exact ⟨behind, opened, List.append_assoc _ _ _⟩
  · intro hlast
    obtain ⟨front, rfl⟩ := List.getLast?_eq_some_iff.mp hlast
    refine hnot ['`'] (List.suffix_append _ _) (List.cons_ne_nil _ _) ⟨'`' :: opened, rfl, ?_⟩
    exact hclosed.trans (List.suffix_cons _ _).isInfix

/-- No block opens anywhere in a text. -/
def Unfenced (s : Text) : Prop :=
  ∀ t, t <:+ s → ¬ OpensBlock t

namespace Unfenced

variable {s t : Text}

theorem of_isInfix (hunfenced : Unfenced s) (ht : t <:+: s) : Unfenced t := by
  obtain ⟨before, behind, rfl⟩ := ht
  intro part hpart hopens
  obtain ⟨front, rfl⟩ := hpart
  refine hunfenced (part ++ behind) ⟨before ++ front, ?_⟩ (hopens.append behind)
  simp only [List.append_assoc]

/-- No block arises behind a bare text. -/
theorem bare_append (hbare : Bare s) (hunfenced : Unfenced t) : Unfenced (s ++ t) := by
  intro part hpart hopens
  rcases Text.suffix_append_cases hpart with hlater | ⟨front, hfront, hsome, rfl⟩
  · exact hunfenced part hlater hopens
  · obtain ⟨opened, hopened, -⟩ := hopens
    exact (hbare.of_suffix hfront).not_prefix_append hsome t ⟨opened, hopened.symm⟩

/-- Where no block opens, nothing is replaced. -/
theorem replaceMatches_eq (hunfenced : Unfenced s) :
    Text.replaceMatches fencedBody s = s := by
  rcases Text.replaceMatches_cases readsPart_fencedBody s with
    ⟨hsame, -⟩ | ⟨gap, front, rest, body, rfl, -, hfound, -⟩
  · exact hsame
  · have hnone := fencedBody_eq_none_iff.mpr (hunfenced (front ++ rest) (List.suffix_append _ _))
    rw [hnone] at hfound
    cases hfound

end Unfenced

/-- No block is left: what stood before a block and in it is bare, so nothing that is kept joins to
a mark with what follows. -/
theorem unfenced_replaceMatches (s : Text) : Unfenced (Text.replaceMatches fencedBody s) := by
  generalize hlength : s.length = n
  induction n using Nat.strong_induction_on generalizing s with
  | _ n ih =>
      rcases Text.replaceMatches_cases readsPart_fencedBody s with
        ⟨hsame, hnone⟩ | ⟨gap, front, rest, body, rfl, hfront, hfound, hnone, hover⟩
      · rw [hsame]
        intro t ht hopens
        have hsome : t ≠ [] := by
          rintro rfl
          obtain ⟨opened, hopened, -⟩ := hopens
          cases hopened
        exact fencedBody_eq_none_iff.mp (hnone t ht hsome) hopens
      · have hopens : OpensBlock (front ++ rest) := by
          by_contra hnot
          rw [fencedBody_eq_none_iff.mpr hnot] at hfound
          cases hfound
        have hshorter : rest.length < n := by
          have hpos := List.length_pos_iff.mpr hfront
          simp only [List.length_append] at hlength
          omega
        rw [hover]
        apply Unfenced.bare_append (bare_of_before hopens hnone)
        apply Unfenced.bare_append (bare_of_fencedBody hfound)
        exact ih rest.length hshorter rest rfl

/-- Stripping again changes nothing. -/
theorem stripFences_stripFences (code : Text) :
    stripFences (stripFences code) = stripFences code := by
  have hunfenced : Unfenced (stripFences code) :=
    (unfenced_replaceMatches (Text.trim code)).of_isInfix (Text.trim_isInfix _)
  have htrimmed : Text.trim (stripFences code) = stripFences code :=
    Text.trim_eq_self_iff.mpr (Text.isTrimmed_trim _)
  rw [stripFences.eq_1 (stripFences code), htrimmed, hunfenced.replaceMatches_eq, htrimmed]

/-- Without an assistant, the code that a validation has made of a snippet is validated like the
snippet. -/
theorem validate_code_of_done {score : Text → Work Number} {threshold : Number}
    {limit : Option Number} {given : Text} {intent : Option Text} {mode : Json}
    {diagnosis : Diagnosis}
    (hdone : (validate ⟨score, none⟩ threshold limit ⟨some given, intent, mode⟩).outcome =
      .done diagnosis) :
    validate ⟨score, none⟩ threshold limit ⟨some diagnosis.code, intent, mode⟩ =
      validate ⟨score, none⟩ threshold limit ⟨some given, intent, mode⟩ := by
  obtain ⟨⟨hgiven, hsome⟩, -⟩ := validate_outcome_eq_done_iff.mp hdone
  obtain ⟨hcode, -⟩ := tells_of_validate_done hdone
  have hagain := stripFences_stripFences given
  obtain ⟨c, given, rfl⟩ := List.exists_cons_of_ne_nil hgiven
  rw [hcode]
  obtain ⟨d, code, hstripped⟩ := List.exists_cons_of_ne_nil hsome
  rw [hstripped] at hagain ⊢
  simp only [validate_cons, correct_none, hagain, hstripped]

/-- Stripping is stable: doing it again changes nothing, so that without an assistant a validation
tells the same of a snippet and of the code that it has made of it; and a snippet without a mark
that is put between fences, with or without a tag, comes back trimmed. -/
theorem stripFences_stable :
    (∀ code, stripFences (stripFences code) = stripFences code) ∧
    (∀ (score : Text → Work Number) (threshold : Number) (limit : Option Number) (given : Text)
        (intent : Option Text) (mode : Json) (diagnosis : Diagnosis),
      (validate ⟨score, none⟩ threshold limit ⟨some given, intent, mode⟩).outcome =
          .done diagnosis →
        validate ⟨score, none⟩ threshold limit ⟨some diagnosis.code, intent, mode⟩ =
          validate ⟨score, none⟩ threshold limit ⟨some given, intent, mode⟩) ∧
    ∀ tag ∈ (["", "js", "javascript", "aoi"] : List Text), ∀ code, ¬ fenceMark <:+: code →
      stripFences (fenceMark ++ tag ++ ['\n'] ++ code ++ ['\n'] ++ fenceMark) =
        Text.trim code := by
  refine ⟨stripFences_stripFences, fun _ _ _ _ _ _ _ => validate_code_of_done, ?_⟩
  intro tag htag code hmark
  have hwhole : fenceMark ++ tag ++ ['\n'] ++ code ++ ['\n'] ++ fenceMark =
      fenceMark ++ (tag ++ '\n' :: (code ++ ['\n']) ++ fenceMark) := by
    simp only [List.append_assoc, List.cons_append, List.nil_append]
  have hknown : ∀ tag ∈ (["", "js", "javascript", "aoi"] : List Text), tag ∈ [] :: fenceTags := by
    decide
  rw [hwhole]
  exact stripFences_fenced (hknown tag htag) hmark

/-- An empty block, a block with a tag, and a mark that is never closed. -/
def raggedSnippet : Text :=
  "`````````js\n$ping[]``` ````"

/-- The mark that is never closed stays, and stays when the snippet is stripped again. -/
theorem stripFences_stable_of_raggedSnippet :
    let score := scoring fun _ => .integer 1
    let work := fun code => validate ⟨score, none⟩ (.integer 1) none ⟨some code, none, .null⟩
    stripFences raggedSnippet = "$ping[] ````" ∧
    stripFences (stripFences raggedSnippet) = "$ping[] ````" ∧
    (∃ diagnosis, (work raggedSnippet).outcome = .done diagnosis ∧
      work diagnosis.code = work raggedSnippet) ∧
    stripFences (fenceMark ++ "aoi" ++ ['\n'] ++ " $ping[] " ++ ['\n'] ++ fenceMark) =
      Text.trim " $ping[] " := by
  intro score work
  have hstripped : stripFences raggedSnippet = "$ping[] ````" := by decide +kernel
  obtain ⟨diagnosis, hdone⟩ : ∃ diagnosis, (work raggedSnippet).outcome = .done diagnosis :=
    exists_validate_scoring (by decide) (by rw [hstripped]; decide) rfl
  refine ⟨hstripped, ?_, ⟨diagnosis, hdone, ?_⟩, ?_⟩
  · rw [stripFences_stable.1]
    exact hstripped
  · exact stripFences_stable.2.1 score (.integer 1) none raggedSnippet none .null diagnosis hdone
  · exact stripFences_stable.2.2 "aoi" (by decide) " $ping[] " (by decide)

end ScriptDocs.Snippet
