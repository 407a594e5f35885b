/-
# Nested brackets

A text is balanced from a depth on where its closing brackets never outnumber the open
ones and close them all at its end. Inside a balanced text the reader of calls never
finds the closing bracket of the call, and the separator of arguments is back at depth
zero behind it.
-/

import ScriptDocs.Snippet.Call
import Mathlib.Data.List.Infix

namespace ScriptDocs.Snippet

/-- Behind `depth` open brackets, a text closes all brackets that are open and no more. -/
def BalancedFrom (depth : Nat) (s : Text) : Prop :=
  (∀ front, front <+: s → front.count ']' ≤ depth + front.count '[') ∧
    depth + s.count '[' = s.count ']'

/-- Behind `depth` open brackets, every semicolon of a text stands within some bracket. -/
def UndividedFrom (depth : Nat) (s : Text) : Prop :=
  ∀ before after, s = before ++ ';' :: after → before.count ']' < depth + before.count '['

instance (depth : Nat) (s : Text) : Decidable (BalancedFrom depth s) :=
  decidable_of_iff
    ((∀ front ∈ s.inits, front.count ']' ≤ depth + front.count '[') ∧
      depth + s.count '[' = s.count ']')
    (by simp only [List.mem_inits, BalancedFrom])

instance (depth : Nat) (s : Text) : Decidable (UndividedFrom depth s) :=
  decidable_of_iff
    (∀ before ∈ s.inits, before ++ [';'] <+: s → before.count ']' < depth + before.count '[')
    ⟨fun h before after hs => h before (by simp [hs]) ⟨after, by simp [hs]⟩,
      fun h before _ ⟨after, hs⟩ => h before after (by simp [← hs])⟩

@[simp]
theorem depthAfter_open (depth : Nat) : depthAfter depth '[' = depth + 1 := rfl

@[simp]
theorem depthAfter_close (depth : Nat) : depthAfter depth ']' = depth - 1 := rfl

theorem depthAfter_of_ne {depth : Nat} {c : Char} (hopen : c ≠ '[') (hclose : c ≠ ']') :
    depthAfter depth c = depth := by
  simp [depthAfter, hopen, hclose]

theorem balancedFrom_nil {depth : Nat} : BalancedFrom depth [] ↔ depth = 0 := by
  simp [BalancedFrom]

/-- A closing bracket in a balanced text closes an open one. -/
theorem BalancedFrom.exists_eq_succ {depth : Nat} {s : Text}
    (hbalanced : BalancedFrom depth (']' :: s)) : ∃ outer, depth = outer + 1 := by
  have hfront := hbalanced.1 [']'] (List.prefix_append [']'] s)
  simp only [List.count_singleton_self, List.count_singleton] at hfront
  exact ⟨depth - 1, by simp at hfront; omega⟩

/-- The rest of a balanced text is balanced from the depth behind its first character. -/
theorem BalancedFrom.tail {depth : Nat} {c : Char} {s : Text}
    (hbalanced : BalancedFrom depth (c :: s)) : BalancedFrom (depthAfter depth c) s := by
  obtain ⟨hfronts, hall⟩ := hbalanced
  have hstep : ∀ part : Text,
      (c :: part).count ']' ≤ depth + (c :: part).count '[' →
        part.count ']' ≤ depthAfter depth c + part.count '[' := by
    intro part
    unfold depthAfter
    by_cases hopen : c = '['
    · subst c
      simp
      omega
    · by_cases hclose : c = ']'
      · subst c
        simp
        omega
      · simp [hopen, hclose]
  constructor
  · intro front hprefix
    exact hstep front (hfronts (c :: front) ((List.prefix_cons_inj c).mpr hprefix))
  · by_cases hclose : c = ']'
    · subst c
      obtain ⟨outer, rfl⟩ := BalancedFrom.exists_eq_succ ⟨hfronts, hall⟩
      simp [depthAfter] at hall ⊢
      omega
    · by_cases hopen : c = '['
      · subst c
        simp [depthAfter] at hall ⊢
        omega
      · simpa [depthAfter, hopen, hclose] using hall

/-- The rest of an undivided text is undivided from the depth behind its first character. -/
theorem UndividedFrom.tail {depth : Nat} {c : Char} {s : Text}
    (hundivided : UndividedFrom depth (c :: s)) : UndividedFrom (depthAfter depth c) s := by
  rintro before after rfl
  have hinner := hundivided (c :: before) after rfl
  unfold depthAfter
  by_cases hopen : c = '['
  · subst c
    simp at hinner ⊢
    omega
  · by_cases hclose : c = ']'
    · subst c
      simp at hinner ⊢
      omega
    · simpa [hopen, hclose] using hinner

/-- An undivided text does not start with a semicolon outside brackets. -/
theorem UndividedFrom.not_separator {depth : Nat} {c : Char} {s : Text}
    (hundivided : UndividedFrom depth (c :: s)) : ¬ (c = ';' ∧ depthAfter depth c = 0) := by
  rintro ⟨rfl, hdepth⟩
  have hinner := hundivided [] s rfl
  simp [depthAfter] at hdepth hinner
  omega

/-- Two balanced texts in a row are balanced. -/
theorem BalancedFrom.append {depth : Nat} {s t : Text} (hs : BalancedFrom depth s)
    (ht : BalancedFrom 0 t) : BalancedFrom depth (s ++ t) := by
  constructor
  · intro front hprefix
    rcases List.prefix_or_prefix_of_prefix hprefix (List.prefix_append s t) with hfront | hfront
    · exact hs.1 front hfront
    · obtain ⟨inner, rfl⟩ := hfront
      have hclosed := ht.1 inner ((List.prefix_append_right_inj s).mp hprefix)
      have hall := hs.2
      rw [List.count_append, List.count_append]
      omega
  · rw [List.count_append, List.count_append, ← Nat.add_assoc, hs.2]
    have hclosed := ht.2
    omega

/-- The bracket that is open before a balanced text is closed right behind it. -/
theorem enclosed_append {depth : Nat} {inner : Text} (rest : Text)
    (hbalanced : BalancedFrom depth inner) :
    enclosed? depth (inner ++ ']' :: rest) = some (inner, rest) := by
  induction inner generalizing depth with
  | nil =>
      rw [balancedFrom_nil] at hbalanced
      simp [hbalanced, enclosed?]
  | cons c inner ih =>
      have hrest := ih hbalanced.tail
      by_cases hclose : c = ']'
      · subst c
        obtain ⟨outer, rfl⟩ := hbalanced.exists_eq_succ
        rw [depthAfter_close, Nat.add_sub_cancel] at hrest
        simp [enclosed?, hrest]
      · by_cases hopen : c = '['
        · subst c
          rw [depthAfter_open] at hrest
          simp [enclosed?, hrest]
        · rw [depthAfter_of_ne hopen hclose] at hrest
          simp [enclosed?, hopen, hclose, hrest]

/-- An undivided text is one argument. -/
theorem argumentsFrom_eq_singleton {depth : Nat} {argument : Text}
    (hundivided : UndividedFrom depth argument) : argumentsFrom depth argument = [argument] := by
  induction argument generalizing depth with
  | nil => rfl
  | cons c argument ih =>
      simp only [argumentsFrom]
      rw [if_neg hundivided.not_separator, ih hundivided.tail]
      rfl

/-- The semicolon behind a balanced and undivided text ends the argument. -/
theorem argumentsFrom_append {depth : Nat} {argument : Text} (rest : Text)
    (hbalanced : BalancedFrom depth argument) (hundivided : UndividedFrom depth argument) :
    argumentsFrom depth (argument ++ ';' :: rest) = argument :: argumentsFrom 0 rest := by
  induction argument generalizing depth with
  | nil =>
      obtain rfl := balancedFrom_nil.mp hbalanced
      simp [argumentsFrom, depthAfter]
  | cons c argument ih =>
      simp only [List.cons_append, argumentsFrom]
      rw [if_neg hundivided.not_separator, ih hbalanced.tail hundivided.tail]
      rfl

/-- Arguments that are joined by semicolons are told apart again. -/
theorem splitArguments_join {arguments : List Text} (hsome : arguments ≠ [])
    (hbalanced : ∀ argument ∈ arguments, BalancedFrom 0 argument)
    (hundivided : ∀ argument ∈ arguments, UndividedFrom 0 argument) :
    splitArguments (Text.join ";" arguments) = arguments := by
  unfold splitArguments Text.join
  induction arguments with
  | nil => exact absurd rfl hsome
  | cons argument arguments ih =>
      have hfirst : argument ∈ argument :: arguments := List.mem_cons_self
      cases arguments with
      | nil =>
          rw [List.intercalate_singleton]
          exact argumentsFrom_eq_singleton (hundivided argument hfirst)
      | cons next arguments =>
          rw [List.intercalate_cons_cons, List.append_assoc]
          have hseparated := argumentsFrom_append (List.intercalate ";".toList (next :: arguments))
            (hbalanced argument hfirst) (hundivided argument hfirst)
          rw [ih (List.cons_ne_nil next arguments)
            (fun other h => hbalanced other (List.mem_cons_of_mem argument h))
            fun other h => hundivided other (List.mem_cons_of_mem argument h)] at hseparated
          exact hseparated

/-- Balanced arguments that are joined by semicolons are balanced together. -/
theorem balancedFrom_join {arguments : List Text}
    (hbalanced : ∀ argument ∈ arguments, BalancedFrom 0 argument) :
    BalancedFrom 0 (Text.join ";" arguments) := by
  unfold Text.join
  induction arguments with
  | nil => exact balancedFrom_nil.mpr rfl
  | cons argument arguments ih =>
      have hfirst := hbalanced argument List.mem_cons_self
      cases arguments with
      | nil => rwa [List.intercalate_singleton]
      | cons next arguments =>
          have hseparator : BalancedFrom 0 ";".toList := by
            constructor
            · intro front hprefix
              have hnone : front.count ']' ≤ [';'].count ']' := hprefix.sublist.count_le _
              exact Nat.le_trans hnone (Nat.zero_le _)
            · rfl
          rw [List.intercalate_cons_cons, List.append_assoc]
          exact hfirst.append (hseparator.append
            (ih fun other h => hbalanced other (List.mem_cons_of_mem argument h)))

end ScriptDocs.Snippet
