/-
# Dividing the text between brackets

What the reader of calls does with any text behind an opening bracket, closed or not. The
bracket is found closed where a front of the text closes one bracket more than it
opens, and the text is divided at the semicolons outside nested brackets. Dividing
loses nothing: the parts joined by semicolons are the text again.
-/

import ScriptDocs.Proofs.Snippet.Bracket

namespace ScriptDocs.Snippet

/-- Behind `depth` open brackets, no front of a text closes a bracket too many. -/
def OpenFrom (depth : Nat) (s : Text) : Prop :=
  ∀ front, front <+: s → front.count ']' ≤ depth + front.count '['

theorem openFrom_nil (depth : Nat) : OpenFrom depth [] := by
  intro front hfront
  simp [List.prefix_nil.mp hfront]

/-- The depth behind a character accounts for the brackets of that character, unless it closes
one too many. -/
theorem count_depthAfter {depth : Nat} {c : Char} (hclose : c = ']' → 0 < depth) (s : Text) :
    depth + (c :: s).count '[' + s.count ']' =
      depthAfter depth c + s.count '[' + (c :: s).count ']' := by
  unfold depthAfter
  by_cases hopen : c = '['
  · subst c
    simp
    omega
  · by_cases hc : c = ']'
    · have hpos := hclose hc
      subst c
      simp
      omega
    · simp [hopen, hc]

theorem openFrom_cons {depth : Nat} {c : Char} {s : Text} :
    OpenFrom depth (c :: s) ↔ (c = ']' → 0 < depth) ∧ OpenFrom (depthAfter depth c) s := by
  constructor
  · intro hopen
    have hclose : c = ']' → 0 < depth := by
      rintro rfl
      simpa [Nat.succ_le_iff] using hopen [']'] (List.prefix_append [']'] s)
    refine ⟨hclose, fun front hfront => ?_⟩
    have hlonger := hopen (c :: front) ((List.prefix_cons_inj c).mpr hfront)
    have hcount := count_depthAfter hclose front
    omega
  · rintro ⟨hclose, hopen⟩ front hfront
    rcases List.prefix_cons_iff.mp hfront with rfl | ⟨part, rfl, hpart⟩
    · exact Nat.zero_le _
    · have hshorter := hopen part hpart
      have hcount := count_depthAfter hclose part
      omega

theorem BalancedFrom.openFrom {depth : Nat} {s : Text} (hbalanced : BalancedFrom depth s) :
    OpenFrom depth s :=
  hbalanced.1

theorem BalancedFrom.cons {depth : Nat} {c : Char} {s : Text} (hclose : c = ']' → 0 < depth)
    (hbalanced : BalancedFrom (depthAfter depth c) s) : BalancedFrom depth (c :: s) := by
  refine ⟨openFrom_cons.mpr ⟨hclose, hbalanced.openFrom⟩, ?_⟩
  have hall := hbalanced.2
  have hcount := count_depthAfter hclose s
  omega

/-- Behind a balanced front, no bracket is open. -/
theorem OpenFrom.of_append {depth : Nat} {s t : Text} (hall : OpenFrom depth (s ++ t))
    (hs : BalancedFrom depth s) : OpenFrom 0 t := by
  intro front hfront
  have hwhole := hall (s ++ front) ((List.prefix_append_right_inj s).mpr hfront)
  have hclosed := hs.2
  rw [List.count_append, List.count_append] at hwhole
  omega

/-- What follows a balanced front of a balanced text is balanced by itself. -/
theorem BalancedFrom.of_append {depth : Nat} {s t : Text} (hall : BalancedFrom depth (s ++ t))
    (hs : BalancedFrom depth s) : BalancedFrom 0 t := by
  refine ⟨hall.openFrom.of_append hs, ?_⟩
  have hwhole := hall.2
  have hclosed := hs.2
  rw [List.count_append, List.count_append] at hwhole
  omega

theorem UndividedFrom.cons {depth : Nat} {c : Char} {s : Text} (hclose : c = ']' → 0 < depth)
    (hseparator : ¬ (c = ';' ∧ depthAfter depth c = 0))
    (hundivided : UndividedFrom (depthAfter depth c) s) : UndividedFrom depth (c :: s) := by
  rintro before after hs
  cases before with
  | nil =>
      obtain ⟨rfl, -⟩ : c = ';' ∧ s = after := by simpa using hs
      rw [depthAfter_of_ne (by decide) (by decide)] at hseparator
      simpa [Nat.pos_iff_ne_zero] using hseparator
  | cons d before =>
      obtain ⟨rfl, hrest⟩ : c = d ∧ s = before ++ ';' :: after := by simpa using hs
      have hinner := hundivided before after hrest
      have hcount := count_depthAfter hclose before
      omega

/-- Where the bracket before a text is found closed, the text up to there is balanced. -/
theorem enclosed_eq_some {depth : Nat} {s inner rest : Text}
    (hfound : enclosed? depth s = some (inner, rest)) :
    s = inner ++ ']' :: rest ∧ BalancedFrom depth inner := by
  induction s generalizing depth inner with
  | nil => simp [enclosed?] at hfound
  | cons c s ih =>
      by_cases hc : c = ']'
      · subst c
        cases depth with
        | zero =>
            obtain ⟨rfl, rfl⟩ : [] = inner ∧ s = rest := by simpa [enclosed?] using hfound
            exact ⟨rfl, balancedFrom_nil.mpr rfl⟩
        | succ depth =>
            obtain ⟨part, hpart, rfl⟩ : ∃ part, enclosed? depth s = some (part, rest) ∧
                ']' :: part = inner := by simpa [enclosed?] using hfound
            obtain ⟨rfl, hbalanced⟩ := ih hpart
            exact ⟨rfl, hbalanced.cons fun _ => Nat.succ_pos depth⟩
      · obtain ⟨part, hpart, rfl⟩ : ∃ part, enclosed? (depthAfter depth c) s = some (part, rest) ∧
            c :: part = inner := by
          simpa [enclosed?, depthAfter, hc] using hfound
        obtain ⟨rfl, hbalanced⟩ := ih hpart
        exact ⟨rfl, hbalanced.cons fun h => absurd h hc⟩

/-- The bracket before a text is never closed just where no front closes it. -/
theorem enclosed_eq_none_iff {depth : Nat} {s : Text} :
    enclosed? depth s = none ↔ OpenFrom depth s := by
  induction s generalizing depth with
  | nil => simp [enclosed?, openFrom_nil]
  | cons c s ih =>
      rw [openFrom_cons, ← ih]
      by_cases hc : c = ']'
      · subst c
        cases depth <;> simp [enclosed?]
      · simp [enclosed?, depthAfter, hc]

/-- A text that no front closes, divided at the semicolons outside its brackets. -/
inductive Divided : Nat → Text → List Text → Prop
  /-- The last part may leave brackets open. -/
  | last {depth : Nat} {part : Text} : OpenFrom depth part → UndividedFrom depth part →
      Divided depth part [part]
  /-- Every other part closes all its brackets. -/
  | more {depth : Nat} {part s : Text} {parts : List Text} : BalancedFrom depth part →
      UndividedFrom depth part → Divided 0 s parts →
      Divided depth (part ++ ';' :: s) (part :: parts)

namespace Divided

variable {depth : Nat} {s : Text} {parts : List Text}

theorem ne_nil (hdivided : Divided depth s parts) : parts ≠ [] := by
  cases hdivided <;> exact List.cons_ne_nil _ _

/-- The parts are the text again when they are joined. -/
theorem join_eq (hdivided : Divided depth s parts) : Text.join ";" parts = s := by
  induction hdivided with
  | last => exact List.intercalate_singleton
  | @more depth part s parts _ _ hrest ih =>
      obtain ⟨next, parts, rfl⟩ := List.exists_cons_of_ne_nil hrest.ne_nil
      rw [← ih]
      simp [Text.join]

/-- There is only one way to divide a text. -/
theorem argumentsFrom_eq (hdivided : Divided depth s parts) : argumentsFrom depth s = parts := by
  induction hdivided with
  | last _ hundivided => exact argumentsFrom_eq_singleton hundivided
  | more hbalanced hundivided _ ih => rw [argumentsFrom_append _ hbalanced hundivided, ih]

/-- No part has a semicolon outside its brackets, counted from where the part starts. -/
theorem undivided (hdivided : Divided 0 s parts) : ∀ part ∈ parts, UndividedFrom 0 part := by
  generalize hdepth : 0 = depth at hdivided
  induction hdivided with
  | last _ hundivided =>
      subst hdepth
      simpa using hundivided
  | more _ hundivided _ ih =>
      subst hdepth
      simpa using ⟨hundivided, ih rfl⟩

theorem balanced_dropLast (hdivided : Divided 0 s parts) :
    ∀ part ∈ parts.dropLast, BalancedFrom 0 part := by
  generalize hdepth : 0 = depth at hdivided
  induction hdivided with
  | last => simp
  | more hbalanced _ hrest ih =>
      subst hdepth
      rw [List.dropLast_cons_of_ne_nil hrest.ne_nil]
      simpa using ⟨hbalanced, ih rfl⟩

/-- Of a text that closes all its brackets, every part does. -/
theorem balanced (hdivided : Divided 0 s parts) (hbalanced : BalancedFrom 0 s) :
    ∀ part ∈ parts, BalancedFrom 0 part := by
  generalize hdepth : 0 = depth at hdivided hbalanced
  induction hdivided with
  | last =>
      subst hdepth
      simpa using hbalanced
  | more hpart _ _ ih =>
      subst hdepth
      have hrest : BalancedFrom (depthAfter 0 ';') _ := (hbalanced.of_append hpart).tail
      simpa using ⟨hpart, ih rfl hrest⟩

/-- Parts that keep their semicolons to themselves, and of which only the last may leave brackets
open, divide the text that they make. -/
theorem of_join {parts : List Text} (hsome : parts ≠ []) (hopen : OpenFrom 0 (Text.join ";" parts))
    (hundivided : ∀ part ∈ parts, UndividedFrom 0 part)
    (hbalanced : ∀ part ∈ parts.dropLast, BalancedFrom 0 part) :
    Divided 0 (Text.join ";" parts) parts := by
  induction parts with
  | nil => exact absurd rfl hsome
  | cons part parts ih =>
      have hpart := hundivided part List.mem_cons_self
      cases parts with
      | nil =>
          rw [Text.join, List.intercalate_singleton] at hopen ⊢
          exact .last hopen hpart
      | cons next parts =>
          have hclosed : BalancedFrom 0 part := hbalanced part List.mem_cons_self
          have hjoin : Text.join ";" (part :: next :: parts) =
              part ++ ';' :: Text.join ";" (next :: parts) := by
            simp [Text.join]
          rw [hjoin] at hopen ⊢
          have hrest : OpenFrom (depthAfter 0 ';') (Text.join ";" (next :: parts)) :=
            (openFrom_cons.mp (hopen.of_append hclosed)).2
          refine .more hclosed hpart (ih (List.cons_ne_nil next parts) hrest ?_ ?_)
          · exact fun other h => hundivided other (List.mem_cons_of_mem part h)
          · exact fun other h => hbalanced other (List.mem_cons_of_mem part h)

/-- A character in front of a divided text goes to its first part. -/
theorem ontoFirst {c : Char} (hclose : c = ']' → 0 < depth)
    (hseparator : ¬ (c = ';' ∧ depthAfter depth c = 0))
    (hdivided : Divided (depthAfter depth c) s parts) :
    Divided depth (c :: s) (Text.ontoFirst c parts) := by
  cases hdivided with
  | last hopen hundivided =>
      exact .last (openFrom_cons.mpr ⟨hclose, hopen⟩) (hundivided.cons hclose hseparator)
  | more hbalanced hundivided hrest =>
      exact .more (hbalanced.cons hclose) (hundivided.cons hclose hseparator) hrest

end Divided

/-- Every text that no front closes is divided by the reader of arguments. -/
theorem divided_argumentsFrom {depth : Nat} {s : Text} (hopen : OpenFrom depth s) :
    Divided depth s (argumentsFrom depth s) := by
  induction s generalizing depth with
  | nil => exact .last (openFrom_nil depth) (by rintro before after h; simp at h)
  | cons c s ih =>
      obtain ⟨hclose, hrest⟩ := openFrom_cons.mp hopen
      by_cases hseparator : c = ';' ∧ depthAfter depth c = 0
      · obtain ⟨rfl, hdepth⟩ := hseparator
        have hdivided := ih hrest
        rw [depthAfter_of_ne (by decide) (by decide)] at hdepth
        subst hdepth
        have hempty : UndividedFrom 0 [] := by rintro before after h; simp at h
        simpa [argumentsFrom, depthAfter] using
          Divided.more (balancedFrom_nil.mpr rfl) hempty hdivided
      · rw [argumentsFrom]
        simp only [hseparator, if_false]
        exact (ih hrest).ontoFirst hclose hseparator

end ScriptDocs.Snippet
