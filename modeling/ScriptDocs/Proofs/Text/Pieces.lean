/-
# Pieces and joined parts

A text is taken apart at a separator and put together with one again. Parts that hold no
separator are the pieces of what they are joined to, and a text without one goes to the
first piece of whatever follows it.
-/

import ScriptDocs.Text.Basic
import Mathlib.Data.List.Infix

namespace ScriptDocs.Text

variable {separator : Char}

theorem pieces_of_not_mem {part : Text} (hpart : separator ∉ part) :
    pieces separator part = [part] := by
  induction part with
  | nil => rfl
  | cons c part ih =>
      rw [List.mem_cons, not_or] at hpart
      rw [pieces, if_neg (Ne.symm hpart.1), ih hpart.2]
      rfl

theorem pieces_append_cons {part : Text} (hpart : separator ∉ part) (rest : Text) :
    pieces separator (part ++ separator :: rest) = part :: pieces separator rest := by
  induction part with
  | nil => simp [pieces]
  | cons c part ih =>
      rw [List.mem_cons, not_or] at hpart
      rw [List.cons_append, pieces, if_neg (Ne.symm hpart.1), ih hpart.2]
      rfl

theorem pieces_ne_nil (separator : Char) (s : Text) : pieces separator s ≠ [] := by
  cases s with
  | nil => exact List.cons_ne_nil _ _
  | cons c s =>
      rw [pieces]
      split
      · exact List.cons_ne_nil _ _
      · cases pieces separator s <;> exact List.cons_ne_nil _ _

/-- A text without a separator goes to the first piece of what follows it. -/
theorem exists_pieces_append {front : Text} (hfront : separator ∉ front) (s : Text) :
    ∃ piece more, pieces separator s = piece :: more ∧
      pieces separator (front ++ s) = (front ++ piece) :: more := by
  induction front with
  | nil =>
      obtain ⟨piece, more, hpieces⟩ := List.exists_cons_of_ne_nil (pieces_ne_nil separator s)
      exact ⟨piece, more, hpieces, hpieces⟩
  | cons c front ih =>
      rw [List.mem_cons, not_or] at hfront
      obtain ⟨piece, more, hpieces, happended⟩ := ih hfront.2
      refine ⟨piece, more, hpieces, ?_⟩
      rw [List.cons_append, pieces, if_neg (Ne.symm hfront.1), happended]
      rfl

/-- Parts with a separator behind each of them are the first pieces. -/
theorem pieces_flatMap_append {parts : List Text} (hparts : ∀ part ∈ parts, separator ∉ part)
    (s : Text) :
    pieces separator (parts.flatMap (· ++ [separator]) ++ s) = parts ++ pieces separator s := by
  induction parts with
  | nil => rfl
  | cons part parts ih =>
      rw [List.forall_mem_cons] at hparts
      have hfirst := pieces_append_cons hparts.1 (parts.flatMap (· ++ [separator]) ++ s)
      rw [ih hparts.2] at hfirst
      simpa using hfirst

/-- Separators move from before the parts to behind them. -/
theorem flatMap_cons_concat (separator : Char) (parts : List Text) :
    parts.flatMap (separator :: ·) ++ [separator] =
      separator :: parts.flatMap (· ++ [separator]) := by
  induction parts with
  | nil => rfl
  | cons part parts ih => simp [ih]

theorem join_singleton {separator : Text} (part : Text) : join separator [part] = part :=
  List.intercalate_singleton

/-- Parts in front of others have a separator behind each of them. -/
theorem join_append (separator : Char) (parts : List Text) {others : List Text}
    (hothers : others ≠ []) :
    join [separator] (parts ++ others) =
      parts.flatMap (· ++ [separator]) ++ join [separator] others := by
  induction parts with
  | nil => rfl
  | cons part parts ih =>
      obtain ⟨next, more, hmore⟩ :=
        List.exists_cons_of_ne_nil (List.append_ne_nil_of_right_ne_nil parts hothers)
      unfold join at ih ⊢
      rw [List.cons_append, hmore, List.intercalate_cons_cons, ← hmore, ih]
      simp

/-- Joined parts have a separator behind each but the last one. -/
theorem join_concat (separator : Char) (parts : List Text) (last : Text) :
    join [separator] (parts ++ [last]) = parts.flatMap (· ++ [separator]) ++ last := by
  rw [join_append separator parts (List.cons_ne_nil last []), join_singleton]

/-- Joined parts have a separator in front of each but the first one. -/
theorem join_cons (separator : Char) (first : Text) (parts : List Text) :
    join [separator] (first :: parts) = first ++ parts.flatMap (separator :: ·) := by
  induction parts generalizing first with
  | nil => exact (join_singleton first).trans (List.append_nil first).symm
  | cons next parts ih =>
      unfold join at ih ⊢
      rw [List.intercalate_cons_cons, ih]
      simp

/-- With one more at the end there is a separator behind every part. -/
theorem join_append_separator (separator : Char) {parts : List Text} (hsome : parts ≠ []) :
    join [separator] parts ++ [separator] = parts.flatMap (· ++ [separator]) := by
  obtain ⟨front, last, rfl⟩ := (List.eq_nil_or_concat' parts).resolve_left hsome
  rw [join_concat, List.flatMap_append, List.flatMap_singleton, List.append_assoc]

/-- Every part stands in what the parts are joined to. -/
theorem infix_join_of_mem {separator part : Text} {parts : List Text} (hpart : part ∈ parts) :
    part <:+: join separator parts := by
  unfold join
  induction parts with
  | nil => cases hpart
  | cons first parts ih =>
      cases parts with
      | nil =>
          obtain rfl := List.mem_singleton.mp hpart
          rw [List.intercalate_singleton]
      | cons next parts =>
          rw [List.intercalate_cons_cons, List.append_assoc]
          rcases List.mem_cons.mp hpart with rfl | hlater
          · exact (List.prefix_append _ _).isInfix
          · exact (ih hlater).trans ⟨first ++ separator, [], by simp⟩

/-- What is joined holds the characters of the parts and of the separator. -/
theorem mem_join {separator : Text} {parts : List Text} {c : Char} (hc : c ∈ join separator parts) :
    c ∈ separator ∨ ∃ part ∈ parts, c ∈ part := by
  unfold join at hc
  induction parts with
  | nil => cases hc
  | cons first parts ih =>
      cases parts with
      | nil =>
          rw [List.intercalate_singleton] at hc
          exact Or.inr ⟨first, List.mem_cons_self, hc⟩
      | cons next parts =>
          rw [List.intercalate_cons_cons, List.append_assoc, List.mem_append, List.mem_append] at hc
          rcases hc with hc | hc | hc
          · exact Or.inr ⟨first, List.mem_cons_self, hc⟩
          · exact Or.inl hc
          · refine (ih hc).imp_right ?_
            rintro ⟨part, hpart, hc⟩
            exact ⟨part, List.mem_cons_of_mem first hpart, hc⟩

end ScriptDocs.Text
