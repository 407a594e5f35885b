/-
# Vectors that can be read

What a row's text tells about its vector. A text that spells a JSON list of numbers gives
the doubles of these numbers, any other text gives no vector. Two kinds of text do neither,
and end the reading with a failure: lists and objects that are nested too deep for the
reader of JSON, and lists of numbers with an integer that no double comes near.
-/

import ScriptDocs.Proofs.Binary64
import ScriptDocs.Proofs.Json.Nesting
import ScriptDocs.Store.Row
import Mathlib.Data.List.Forall2

namespace ScriptDocs

section Options

variable {α β : Type} {step : α → Option β}

theorem mapM_eq_some_iff {xs : List α} {ys : List β} :
    xs.mapM step = some ys ↔ List.Forall₂ (fun x y => step x = some y) xs ys := by
  induction xs generalizing ys with
  | nil => cases ys <;> simp
  | cons x xs ih =>
      rw [List.mapM_cons, List.forall₂_cons_left_iff]
      cases hx : step x with
      | none => simp
      | some y =>
          cases hxs : xs.mapM step with
          | none => simp [← ih, hxs]
          | some zs => simp [← ih, hxs, eq_comm]

theorem mapM_eq_none_iff {xs : List α} :
    xs.mapM step = none ↔ ∃ x ∈ xs, step x = none := by
  induction xs with
  | nil => simp
  | cons x xs ih =>
      rw [List.mapM_cons, List.exists_mem_cons_iff]
      cases hx : step x with
      | none => simp
      | some y => cases hxs : xs.mapM step <;> simp [← ih, hxs]

end Options

/-- Of all numbers only integers may have no double. -/
theorem Json.double?_eq_none_iff {item : Json} (hnumber : item.isNumber = true) :
    item.double? = none ↔ ∃ n, item = .integer n ∧ Binary64.integerLimit ≤ n.natAbs := by
  cases item with
  | integer n => simp [Json.double?, Binary64.ofInt?_eq_none_iff]
  | decimal x => simp [Json.double?]
  | null | boolean _ | text _ | list _ | object _ => cases hnumber

variable [Json.DepthLimit]

/-- A text that spells a list of numbers. -/
structure SpellsNumbers (text : Text) (items : List Json) : Prop where
  read : Json.read text = .ok (.list items)
  numbers : ∀ item ∈ items, item.isNumber = true

/-- A text that spells a list of numbers, one of them an integer beyond all doubles. -/
def Outgrows (text : Text) : Prop :=
  ∃ items n, SpellsNumbers text items ∧ .integer n ∈ items ∧ Binary64.integerLimit ≤ n.natAbs

theorem SpellsNumbers.unique {text : Text} {first second : List Json}
    (hfirst : SpellsNumbers text first) (hsecond : SpellsNumbers text second) :
    first = second := by
  have hread := hfirst.read.symm.trans hsecond.read
  simpa using hread

/-- The integers of a list decide whether all of it can be made doubles. -/
theorem SpellsNumbers.mapM_eq_none_iff {text : Text} {items : List Json}
    (hspells : SpellsNumbers text items) :
    items.mapM Json.double? = none ↔ Outgrows text := by
  rw [ScriptDocs.mapM_eq_none_iff]
  constructor
  · rintro ⟨item, hitem, hnone⟩
    obtain ⟨n, rfl, hlimit⟩ := (Json.double?_eq_none_iff (hspells.numbers item hitem)).mp hnone
    exact ⟨items, n, hspells, hitem, hlimit⟩
  · rintro ⟨same, n, hsame, hitem, hlimit⟩
    obtain rfl := hspells.unique hsame
    exact ⟨_, hitem, (Json.double?_eq_none_iff rfl).mpr ⟨n, rfl, hlimit⟩⟩

/-- What a list of numbers is read as. -/
theorem decodeVector_of_spells {text : Text} {items : List Json}
    (hspells : SpellsNumbers text items) :
    decodeVector text = (Json.vector items).map some := by
  have hall : items.all Json.isNumber = true := List.all_eq_true.mpr hspells.numbers
  simp only [decodeVector, hspells.read, hall, if_true]

/-- What any other text is read as. -/
theorem decodeVector_of_not_spells {text : Text} (hother : ∀ items, ¬ SpellsNumbers text items) :
    (Json.read text = .error .nestedTooDeep ∧ decodeVector text = .error .nestedTooDeep) ∨
      (Json.read text ≠ .error .nestedTooDeep ∧ decodeVector text = .ok none) := by
  unfold decodeVector
  split
  · rename_i items hread
    have hsome : items.all Json.isNumber ≠ true := fun hall =>
      hother items ⟨hread, List.all_eq_true.mp hall⟩
    exact Or.inr ⟨by simp [hread], by rw [if_neg hsome]⟩
  · rename_i value hread
    exact Or.inr ⟨by simp [hread], rfl⟩
  · exact Or.inl ⟨‹_›, rfl⟩
  · rename_i fault hdeep hread
    exact Or.inr ⟨by simpa [hread] using hdeep, rfl⟩

/-- A vector is read just from a list of numbers that have doubles, and it is these. -/
theorem decodeVector_eq_some_iff {text : Text} {vector : Vector64} :
    decodeVector text = .ok (some vector) ↔
      ∃ items, SpellsNumbers text items ∧
        List.Forall₂ (fun item x => item.double? = some x) items vector := by
  by_cases hspells : ∃ items, SpellsNumbers text items
  · obtain ⟨items, hitems⟩ := hspells
    have hunique : (∃ same, SpellsNumbers text same ∧ same.mapM Json.double? = some vector) ↔
        items.mapM Json.double? = some vector :=
      ⟨fun ⟨_, hsame, h⟩ => hitems.unique hsame ▸ h, fun h => ⟨items, hitems, h⟩⟩
    simp only [← mapM_eq_some_iff]
    rw [hunique, decodeVector_of_spells hitems, Json.vector]
    cases items.mapM Json.double? <;> simp [Except.map]
  · rw [not_exists] at hspells
    rcases decodeVector_of_not_spells hspells with ⟨-, hread⟩ | ⟨-, hread⟩ <;>
      simp [hread, hspells]

/-- No vector is read just where no list of numbers is spelled and the reader does not give up. -/
theorem decodeVector_eq_none_iff {text : Text} :
    decodeVector text = .ok none ↔
      Json.read text ≠ .error .nestedTooDeep ∧ ∀ items, ¬ SpellsNumbers text items := by
  by_cases hspells : ∃ items, SpellsNumbers text items
  · obtain ⟨items, hitems⟩ := hspells
    have hsome : ¬ ∀ items, ¬ SpellsNumbers text items := fun hnone => hnone items hitems
    rw [decodeVector_of_spells hitems, Json.vector]
    cases items.mapM Json.double? <;> simp [Except.map, hsome]
  · rw [not_exists] at hspells
    rcases decodeVector_of_not_spells hspells with ⟨hdeep, hread⟩ | ⟨hdeep, hread⟩ <;>
      simp [hread, hdeep, hspells]

/-- A text that ends its reading with a failure. -/
def EndsReading (text : Text) : Prop :=
  Json.read text = .error .nestedTooDeep ∨ Outgrows text

/-- Such a text has either very many opening brackets or a very great integer. -/
theorem EndsReading.openings_or_outgrows {text : Text} (hends : EndsReading text) :
    Json.depthLimit < Json.openings text ∨ Outgrows text :=
  hends.imp_left Json.depthLimit_lt_openings

theorem decodeVector_fails_iff {text : Text} :
    (∃ failure, decodeVector text = .error failure) ↔ EndsReading text := by
  rw [EndsReading]
  by_cases hspells : ∃ items, SpellsNumbers text items
  · obtain ⟨items, hitems⟩ := hspells
    have hread : Json.read text ≠ .error .nestedTooDeep := by simp [hitems.read]
    rw [← hitems.mapM_eq_none_iff, decodeVector_of_spells hitems, Json.vector]
    cases items.mapM Json.double? <;> simp [Except.map, hread]
  · rw [not_exists] at hspells
    have hsmall : ¬ Outgrows text := fun ⟨items, _, hitems, _⟩ => hspells items hitems
    rcases decodeVector_of_not_spells hspells with ⟨hdeep, hread⟩ | ⟨hdeep, hread⟩ <;>
      simp [hread, hdeep, hsmall]

end ScriptDocs
