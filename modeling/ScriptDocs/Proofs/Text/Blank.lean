/-
# Trimmed texts

A text is its own trimmed form just where it neither begins nor ends with white space, and
trimming gives such a text. White space on either side makes no difference to it, and it holds
all characters that are no white space.
-/

import ScriptDocs.Proofs.Text.Front
import ScriptDocs.Text.Blank
import Mathlib.Data.List.DropRight

namespace ScriptDocs.Text

/-- No white space stands in front of a text or at its end. -/
def IsTrimmed (s : Text) : Prop :=
  (∀ c, s.head? = some c → isBlank c = false) ∧ ∀ c, s.getLast? = some c → isBlank c = false

theorem trimLeft_eq_self_iff {s : Text} :
    trimLeft s = s ↔ ∀ c, s.head? = some c → isBlank c = false := by
  cases s with
  | nil => simp [trimLeft]
  | cons c s =>
      rw [trimLeft, List.dropWhile_eq_self_iff]
      simp

theorem trimRight_eq_self_iff {s : Text} :
    trimRight s = s ↔ ∀ c, s.getLast? = some c → isBlank c = false := by
  have hself : trimRight s = s ↔ _ := List.rdropWhile_eq_self_iff
  rw [hself]
  constructor
  · intro hlast c hc
    obtain ⟨front, rfl⟩ := List.getLast?_eq_some_iff.mp hc
    simpa using hlast (by simp)
  · intro hlast hsome
    simpa using hlast _ (List.getLast?_eq_some_getLast hsome)

/-- Trimming leaves just the trimmed texts as they are. -/
theorem trim_eq_self_iff {s : Text} : trim s = s ↔ IsTrimmed s := by
  rw [IsTrimmed, ← trimLeft_eq_self_iff, ← trimRight_eq_self_iff]
  constructor
  · intro htrim
    have hright : trim s <+: trimLeft s := List.rdropWhile_prefix isBlank (trimLeft s)
    have hleft : trimLeft s <:+ s := List.dropWhile_suffix isBlank
    have hlength : s.length ≤ (trimLeft s).length := by
      have hshorter := hright.length_le
      rwa [htrim] at hshorter
    have hsame : trimLeft s = s := hleft.eq_of_length_le hlength
    refine ⟨hsame, ?_⟩
    rwa [trim, hsame] at htrim
  · rintro ⟨hleft, hright⟩
    rw [trim, hleft, hright]

theorem isTrimmed_nil : IsTrimmed [] :=
  ⟨nofun, nofun⟩

/-- Trimming gives a trimmed text. -/
theorem isTrimmed_trim (s : Text) : IsTrimmed (trim s) := by
  constructor
  · intro c hc
    obtain ⟨rest, hrest⟩ := List.head?_eq_some_iff.mp hc
    obtain ⟨behind, hbehind⟩ := List.rdropWhile_prefix isBlank (trimLeft s)
    have hhead : (trimLeft s).head? = some c := by
      rw [← hbehind, show List.rdropWhile isBlank (trimLeft s) = c :: rest from hrest]
      rfl
    exact trimLeft_eq_self_iff.mp (List.dropWhile_idempotent isBlank s) c hhead
  · exact trimRight_eq_self_iff.mp (List.rdropWhile_idempotent isBlank (trimLeft s))

theorem IsTrimmed.endsWith_eq_false {s : Text} {c : Char} (htrimmed : IsTrimmed s)
    (hblank : isBlank c = true) : endsWith [c] s = false := by
  rw [Bool.eq_false_iff]
  intro hends
  obtain ⟨front, rfl⟩ := endsWith_eq_true_iff.mp hends
  rw [htrimmed.2 c List.getLast?_concat] at hblank
  cases hblank

theorem trim_isInfix (s : Text) : trim s <:+: s :=
  (List.rdropWhile_prefix isBlank _).isInfix.trans (List.dropWhile_suffix isBlank).isInfix

theorem trim_sublist (s : Text) : (trim s).Sublist s :=
  (List.rdropWhile_prefix isBlank _).sublist.trans (List.dropWhile_sublist isBlank)

/-- What stands behind a character that is no white space is trimmed by itself. -/
theorem trimRight_append_cons {c : Char} (hc : isBlank c = false) (s rest : Text) :
    trimRight (s ++ c :: rest) = s ++ c :: trimRight rest := by
  unfold trimRight dropRightWhile
  rw [List.reverse_append, List.reverse_cons, List.append_assoc, List.dropWhile_append]
  split
  · rename_i hnone
    rw [List.isEmpty_iff] at hnone
    simp [hnone, hc]
  · simp

theorem mem_trimRight_iff {c : Char} (hc : isBlank c = false) {s : Text} :
    c ∈ trimRight s ↔ c ∈ s := by
  constructor
  · exact fun hmem => (List.rdropWhile_prefix isBlank s).subset hmem
  · intro hmem
    obtain ⟨before, behind, rfl⟩ := List.append_of_mem hmem
    rw [trimRight_append_cons hc]
    exact List.mem_append_right before List.mem_cons_self

theorem trimRight_append_blanks (s : Text) {back : Text} (hback : ∀ c ∈ back, isBlank c = true) :
    trimRight (s ++ back) = trimRight s := by
  have hreversed : ∀ c ∈ back.reverse, isBlank c = true :=
    fun c hc => hback c (List.mem_reverse.mp hc)
  rw [trimRight, dropRightWhile, List.reverse_append, List.dropWhile_append_of_pos hreversed]
  rfl

theorem exists_blanks_behind_trimRight (s : Text) :
    ∃ back, s = trimRight s ++ back ∧ ∀ c ∈ back, isBlank c = true := by
  refine ⟨(s.reverse.takeWhile isBlank).reverse, ?_, fun c hc => ?_⟩
  · rw [trimRight, dropRightWhile, ← List.reverse_append, List.takeWhile_append_dropWhile,
      List.reverse_reverse]
  · exact List.mem_takeWhile_imp (List.mem_reverse.mp hc)

/-- A text is its trimmed form with white space around it. -/
theorem exists_blanks_around_trim (s : Text) :
    ∃ front back, s = front ++ trim s ++ back ∧
      (∀ c ∈ front, isBlank c = true) ∧ ∀ c ∈ back, isBlank c = true := by
  obtain ⟨back, hleft, hback⟩ := exists_blanks_behind_trimRight (trimLeft s)
  refine ⟨s.takeWhile isBlank, back, ?_, fun c => List.mem_takeWhile_imp, hback⟩
  rw [List.append_assoc, trim, ← hleft]
  exact List.takeWhile_append_dropWhile.symm

theorem trim_blanks_append {front : Text} (hfront : ∀ c ∈ front, isBlank c = true) (s : Text) :
    trim (front ++ s) = trim s := by
  rw [trim, trim, trimLeft, trimLeft, List.dropWhile_append_of_pos hfront]

theorem trim_append_blanks (s : Text) {back : Text} (hback : ∀ c ∈ back, isBlank c = true) :
    trim (s ++ back) = trim s := by
  unfold trim trimLeft
  rw [List.dropWhile_append]
  split
  · rename_i hnone
    rw [List.isEmpty_iff] at hnone
    rw [hnone, ← List.append_nil back, List.dropWhile_append_of_pos hback]
    rfl
  · exact trimRight_append_blanks _ hback

/-- Just the texts of white space are trimmed to nothing. -/
theorem trim_eq_nil_iff {s : Text} : trim s = [] ↔ ∀ c ∈ s, isBlank c = true := by
  constructor
  · intro hnone
    obtain ⟨front, back, hs, hfront, hback⟩ := exists_blanks_around_trim s
    rw [hnone, List.append_nil] at hs
    rw [hs]
    exact fun c hc => (List.mem_append.mp hc).elim (hfront c) (hback c)
  · exact fun hblank => trim_append_blanks [] hblank

theorem isBlankText_iff {s : Text} : isBlankText s = true ↔ trim s = [] := by
  rw [trim_eq_nil_iff, isBlankText, List.all_eq_true]

/-- A text that ends with a visible character is not blank. -/
theorem isBlankText_eq_false_of_getLast? {s : Text} (hsome : s ≠ [])
    (hend : ∀ c, s.getLast? = some c → isBlank c = false) : isBlankText s = false := by
  rw [Bool.eq_false_iff]
  intro hblank
  have hlast := List.getLast?_eq_some_getLast hsome
  have hink := hend _ hlast
  rw [List.all_eq_true.mp hblank _ (List.getLast_mem hsome)] at hink
  cases hink

theorem IsTrimmed.isBlankText_eq_false {s : Text} (htrimmed : IsTrimmed s) (hsome : s ≠ []) :
    isBlankText s = false :=
  isBlankText_eq_false_of_getLast? hsome htrimmed.2

theorem isBlankText_append (s t : Text) :
    isBlankText (s ++ t) = (isBlankText s && isBlankText t) :=
  List.all_append

/-- A text is not blank just where it holds a visible character. -/
theorem isBlankText_eq_false_iff {s : Text} :
    isBlankText s = false ↔ ∃ c ∈ s, isBlank c = false := by
  simp [isBlankText]

/-- A text behind another is trimmed at its end by itself, unless it is white space. -/
theorem trimRight_append (s : Text) {t : Text} (ht : isBlankText t = false) :
    trimRight (s ++ t) = s ++ trimRight t := by
  have hsome : ¬ (t.reverse.dropWhile isBlank).isEmpty = true := by
    rw [List.isEmpty_iff, List.dropWhile_eq_nil_iff]
    simpa [isBlankText] using ht
  rw [trimRight, dropRightWhile, List.reverse_append, List.dropWhile_append, if_neg hsome,
    List.reverse_append, List.reverse_reverse]
  rfl

/-- A text in front of another is trimmed at its start by itself, unless it is white space. -/
theorem trimLeft_append {s : Text} (hs : isBlankText s = false) (t : Text) :
    trimLeft (s ++ t) = trimLeft s ++ t := by
  have hsome : ¬ (s.dropWhile isBlank).isEmpty = true := by
    rw [List.isEmpty_iff, List.dropWhile_eq_nil_iff]
    simpa [isBlankText] using hs
  rw [trimLeft, List.dropWhile_append, if_neg hsome]
  rfl

theorem isBlankText_trimLeft (s : Text) : isBlankText (trimLeft s) = isBlankText s := by
  have hboth : isBlankText (trimLeft s) = true ↔ isBlankText s = true := by
    rw [isBlankText_iff, isBlankText_iff, trim, trim, trimLeft, trimLeft, List.dropWhile_idempotent]
  exact Bool.eq_iff_iff.mpr hboth

/-- The characters of a text that are no white space. -/
def inked (s : Text) : Text :=
  s.filter fun c => !isBlank c

theorem inked_append (s t : Text) : inked (s ++ t) = inked s ++ inked t :=
  List.filter_append s t

theorem inked_of_blanks {s : Text} (hblank : ∀ c ∈ s, isBlank c = true) : inked s = [] := by
  unfold inked
  rw [List.filter_eq_nil_iff]
  simpa using hblank

/-- Trimming takes no character away that is no white space. -/
theorem inked_trim (s : Text) : inked (trim s) = inked s := by
  obtain ⟨front, back, hs, hfront, hback⟩ := exists_blanks_around_trim s
  conv_rhs => rw [hs]
  rw [inked_append, inked_append, inked_of_blanks hfront, inked_of_blanks hback,
    List.nil_append, List.append_nil]

theorem mem_trim_iff {c : Char} (hc : isBlank c = false) {s : Text} : c ∈ trim s ↔ c ∈ s := by
  have hinked : c ∈ inked (trim s) ↔ c ∈ inked s := by rw [inked_trim]
  simpa [inked, hc] using hinked

/-- White space between some parts adds nothing to what they hold. -/
theorem inked_join {separator : Text} (hblank : ∀ c ∈ separator, isBlank c = true)
    (parts : List Text) : inked (join separator parts) = parts.flatMap inked := by
  have hnone := inked_of_blanks hblank
  induction parts with
  | nil => rfl
  | cons part parts ih =>
      cases parts with
      | nil => simp [join]
      | cons next parts =>
          unfold join at ih ⊢
          rw [List.intercalate_cons_cons, inked_append, inked_append, hnone, List.append_nil, ih]
          rfl

end ScriptDocs.Text
