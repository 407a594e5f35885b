/-
# Fronts and occurrences

What the operations on fronts and first occurrences say about how a text is put together.
A text goes on behind a front just where it is that front and the rest; it is cut at a mark
just where the mark begins, and begins nowhere earlier.
-/

import ScriptDocs.Text.Basic
import Mathlib.Data.List.Infix

namespace ScriptDocs.Text

theorem afterFront?_eq_some_iff {front s rest : Text} :
    afterFront? front s = some rest ↔ s = front ++ rest := by
  induction front generalizing s with
  | nil => simp [afterFront?]
  | cons f front ih =>
      cases s with
      | nil => simp [afterFront?]
      | cons c s =>
          by_cases hc : f = c
          · simp [afterFront?, hc, ih]
          · simp [afterFront?, hc, eq_comm]

theorem afterFront?_eq_none_iff {front s : Text} :
    afterFront? front s = none ↔ ¬ front <+: s := by
  rw [← not_iff_not, not_not, ← ne_eq, Option.ne_none_iff_exists']
  simp only [afterFront?_eq_some_iff]
  exact exists_congr fun rest => eq_comm

theorem endsWith_eq_true_iff {back s : Text} : endsWith back s = true ↔ back <:+ s := by
  rw [endsWith, startsWith, Option.isSome_iff_exists, ← List.reverse_prefix]
  simp only [afterFront?_eq_some_iff]
  exact exists_congr fun rest => eq_comm

theorem cut?_append (mark rest : Text) : cut? mark (mark ++ rest) = some ([], rest) := by
  have hfront : afterFront? mark (mark ++ rest) = some rest := afterFront?_eq_some_iff.mpr rfl
  cases hs : mark ++ rest with
  | nil => rw [cut?, ← hs, hfront, Option.map_some]
  | cons c s => rw [cut?, ← hs, hfront]

theorem cut?_cons_of_later {mark s : Text} {c : Char} (hmark : ¬ mark <+: c :: s) :
    cut? mark (c :: s) = (cut? mark s).map fun parts => (c :: parts.1, parts.2) := by
  rw [cut?, afterFront?_eq_none_iff.mpr hmark]

/-- A text is cut at the first place where the mark begins. -/
theorem cut?_eq_some_iff {mark s before rest : Text} :
    cut? mark s = some (before, rest) ↔
      s = before ++ (mark ++ rest) ∧
        ∀ t, t <:+ before → t ≠ [] → ¬ mark <+: t ++ (mark ++ rest) := by
  constructor
  · intro hcut
    induction s generalizing before with
    | nil =>
        cases mark with
        | nil =>
            obtain ⟨rfl, rfl⟩ := Prod.mk.inj (Option.some.inj hcut)
            exact ⟨rfl, fun t ht hne => absurd (List.suffix_nil.mp ht) hne⟩
        | cons => cases hcut
    | cons c s ih =>
        by_cases hmark : mark <+: c :: s
        · obtain ⟨behind, hs⟩ := hmark
          rw [← hs, cut?_append] at hcut
          obtain ⟨rfl, rfl⟩ := Prod.mk.inj (Option.some.inj hcut)
          exact ⟨hs.symm, fun t ht hne => absurd (List.suffix_nil.mp ht) hne⟩
        · rw [cut?_cons_of_later hmark] at hcut
          obtain ⟨⟨front, behind⟩, hrest, hparts⟩ := Option.map_eq_some_iff.mp hcut
          obtain ⟨rfl, rfl⟩ := Prod.mk.inj hparts
          obtain ⟨rfl, hfirst⟩ := ih hrest
          refine ⟨rfl, fun t ht hne => ?_⟩
          rcases List.suffix_cons_iff.mp ht with rfl | hlater
          · exact hmark
          · exact hfirst t hlater hne
  · rintro ⟨rfl, hfirst⟩
    induction before with
    | nil => exact cut?_append mark rest
    | cons c before ih =>
        have hrest := ih fun t ht hne => hfirst t (ht.trans (List.suffix_cons c before)) hne
        have hhere : ¬ mark <+: c :: (before ++ (mark ++ rest)) :=
          hfirst (c :: before) List.suffix_rfl (List.cons_ne_nil c before)
        rw [List.cons_append, cut?_cons_of_later hhere, hrest]
        rfl

/-- A text cannot be cut just where the mark does not occur in it. -/
theorem cut?_eq_none_iff {mark s : Text} : cut? mark s = none ↔ ¬ mark <:+: s := by
  induction s with
  | nil => 
      rw [cut?, Option.map_eq_none_iff, afterFront?_eq_none_iff, List.prefix_nil, List.infix_nil]
  | cons c s ih =>
      rw [List.infix_cons_iff, not_or, ← ih, ← afterFront?_eq_none_iff, cut?]
      cases afterFront? mark (c :: s) with
      | none => simp
      | some rest => simp

theorem contains_eq_false_iff {part s : Text} : contains part s = false ↔ ¬ part <:+: s := by
  rw [contains, Option.isSome_eq_false_iff, Option.isNone_iff_eq_none, cut?_eq_none_iff]

theorem contains_eq_true_iff {part s : Text} : contains part s = true ↔ part <:+: s := by
  rw [← not_iff_not, Bool.not_eq_true, contains_eq_false_iff]

/-- A mark does not reach into a text that lacks its last character. -/
theorem infix_of_infix_append {mark s more : Text} {c : Char} (hlast : mark.getLast? = some c)
    (hmore : c ∉ more) (hmark : mark <:+: s ++ more) : mark <:+: s := by
  obtain ⟨before, behind, hsplit⟩ := hmark
  obtain ⟨front, rfl⟩ := List.getLast?_eq_some_iff.mp hlast
  rcases List.append_eq_append_iff.mp hsplit with ⟨part, rfl, -⟩ | ⟨part, hwhole, rfl⟩
  · exact ⟨before, part, rfl⟩
  rcases List.eq_nil_or_concat part with rfl | ⟨part, d, rfl⟩
  · rw [List.append_nil] at hwhole
    exact ⟨before, [], by rw [← hwhole, List.append_nil]⟩
  · rw [List.concat_eq_append] at hwhole hmore
    have hends := congrArg List.getLast? hwhole
    rw [← List.append_assoc, ← List.append_assoc, List.getLast?_concat,
      List.getLast?_concat] at hends
    exact absurd (by simp [Option.some.inj hends]) hmore

/-- A mark does not begin in a text that lacks its first character. -/
theorem infix_of_append_infix {mark s more : Text} {c : Char} (hfirst : mark.head? = some c)
    (hmore : c ∉ more) (hmark : mark <:+: more ++ s) : mark <:+: s := by
  induction more with
  | nil => exact hmark
  | cons d more ih =>
      rw [List.mem_cons, not_or] at hmore
      rcases List.infix_cons_iff.mp hmark with hfront | hlater
      · obtain ⟨rest, rfl⟩ := List.head?_eq_some_iff.mp hfirst
        exact absurd (List.cons_prefix_cons.mp hfront).1 hmore.1
      · exact ih hmore.2 hlater

/-- An end of two texts put together is an end of the second, or an end of the first with all of the
second behind it. -/
theorem suffix_append_cases {t first second : Text} (ht : t <:+ first ++ second) :
    t <:+ second ∨ ∃ part, part <:+ first ∧ part ≠ [] ∧ t = part ++ second := by
  obtain ⟨before, hsplit⟩ := ht
  rcases List.append_eq_append_iff.mp hsplit with ⟨part, rfl, rfl⟩ | ⟨part, rfl, rfl⟩
  · cases part with
    | nil => exact Or.inl List.suffix_rfl
    | cons c part =>
        exact Or.inr ⟨c :: part, List.suffix_append _ _, List.cons_ne_nil c part, rfl⟩
  · exact Or.inl (List.suffix_append _ _)

/-- What stands behind the last separator. -/
theorem reverse_takeWhile_reverse {separator : Char} {above last : Text}
    (hlast : separator ∉ last) :
    ((above ++ separator :: last).reverse.takeWhile (· ≠ separator)).reverse = last := by
  have hpass : ∀ c ∈ last.reverse, decide (c ≠ separator) = true := fun c hc =>
    decide_eq_true fun h => hlast (h ▸ List.mem_reverse.mp hc)
  rw [List.reverse_append, List.reverse_cons, List.append_assoc,
    List.takeWhile_append_of_pos hpass]
  simp

/-- Behind the last one of its separators a text has none. -/
theorem exists_last_part {separator : Char} {text : Text} (hmem : separator ∈ text) :
    ∃ above last, text = above ++ separator :: last ∧ separator ∉ last := by
  obtain ⟨front, behind, hsplit, hnew⟩ := List.eq_append_cons_of_mem (List.mem_reverse.mpr hmem)
  refine ⟨behind.reverse, front.reverse, ?_, fun h => hnew (List.mem_reverse.mp h)⟩
  rw [← text.reverse_reverse, hsplit]
  simp

end ScriptDocs.Text
