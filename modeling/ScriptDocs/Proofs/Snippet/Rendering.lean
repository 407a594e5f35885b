/-
# Reading back written calls

A snippet that is written as plain text and calls in turn is read back as just these
calls. Plain text may hold anything but the sigil, also brackets that belong to
nothing; an argument may hold calls, brackets and semicolons of its own as long as its
brackets are balanced and its semicolons stand within them.
-/

import ScriptDocs.Proofs.Distinct
import ScriptDocs.Proofs.Snippet.Bracket
import ScriptDocs.Proofs.Text.Scan

namespace ScriptDocs.Snippet

/-- A part of a snippet as it is written. -/
inductive Segment
  | plain (text : Text)
  | call (name : Text) (arguments : List Text)
  deriving DecidableEq, Repr

namespace Segment

/-- The characters of a part. -/
def text : Segment → Text
  | plain text => text
  | call name arguments => '$' :: name ++ '[' :: Text.join ";" arguments ++ [']']

/-- The name of a call, with its sigil, and its arguments. -/
def call? : Segment → Option (Text × List Text)
  | plain _ => none
  | call name arguments => some ('$' :: name, arguments)

/-- What may be written: no sigil in plain text, and calls of named functions with
arguments that keep their brackets and separators to themselves. -/
def WellFormed : Segment → Prop
  | plain text => '$' ∉ text
  | call name arguments =>
    (name ≠ [] ∧ ∀ c ∈ name, c.isAlphanum ∨ c = '_') ∧
      (arguments ≠ [] ∧ ∀ argument ∈ arguments,
        BalancedFrom 0 argument ∧ UndividedFrom 0 argument)

instance (segment : Segment) : Decidable segment.WellFormed :=
  match segment with
  | plain text => inferInstanceAs (Decidable ('$' ∉ text))
  | call name arguments =>
    -- A name is decided by its own characters, not by going through all there are.
    let _ : Decidable (∀ c ∈ name, c.isAlphanum ∨ c = '_') := List.decidableBAll _ name
    inferInstanceAs (Decidable ((name ≠ [] ∧ ∀ c ∈ name, c.isAlphanum ∨ c = '_') ∧
        (arguments ≠ [] ∧ ∀ argument ∈ arguments,
          BalancedFrom 0 argument ∧ UndividedFrom 0 argument)))

end Segment

/-- The snippet that some parts make. -/
def written (segments : List Segment) : Text :=
  segments.flatMap Segment.text

/-- Names consist of the letters, digits and low lines of ASCII. -/
theorem isNameChar_iff (c : Char) : isNameChar c = true ↔ c.isAlphanum ∨ c = '_' := by
  have hlow : c = '_' ↔ c.toNat = 95 := by
    rw [← Char.toNat_inj]
    rfl
  have hupper : c.isUpper = true ↔ 65 ≤ c.toNat ∧ c.toNat ≤ 90 := by
    show decide (c.val ≥ 'A'.val ∧ c.val ≤ 'Z'.val) = true ↔ _
    rw [decide_eq_true_iff]
    exact and_congr UInt32.le_iff_toNat_le UInt32.le_iff_toNat_le
  have hlower : c.isLower = true ↔ 97 ≤ c.toNat ∧ c.toNat ≤ 122 := by
    show (decide (c.val ≥ 'a'.val) && decide (c.val ≤ 'z'.val)) = true ↔ _
    rw [Bool.and_eq_true, decide_eq_true_iff, decide_eq_true_iff]
    exact and_congr UInt32.le_iff_toNat_le UInt32.le_iff_toNat_le
  have hdigit : c.isDigit = true ↔ 48 ≤ c.toNat ∧ c.toNat ≤ 57 := by
    show (decide (c.val ≥ '0'.val) && decide (c.val ≤ '9'.val)) = true ↔ _
    rw [Bool.and_eq_true, decide_eq_true_iff, decide_eq_true_iff]
    exact and_congr UInt32.le_iff_toNat_le UInt32.le_iff_toNat_le
  have halphanum : c.isAlphanum = true ↔
      (c.isUpper = true ∨ c.isLower = true) ∨ c.isDigit = true := by
    show ((c.isUpper || c.isLower) || c.isDigit) = true ↔ _
    rw [Bool.or_eq_true, Bool.or_eq_true]
  rw [halphanum, hupper, hlower, hdigit, hlow]
  simp only [isNameChar, Text.isPlainWord, Bool.or_eq_true, Bool.and_eq_true, decide_eq_true_eq,
    beq_iff_eq]
  omega

/-- Nothing but a sigil starts a call. -/
theorem callInFront_of_ne {c : Char} (hsigil : c ≠ '$') (s : Text) :
    callInFront (c :: s) = none := by
  unfold callInFront
  split
  · rename_i heq
    cases heq
    exact absurd rfl hsigil
  · rfl

/-- A written call is read back, whatever stands behind it. -/
theorem callInFront_call {name : Text} {arguments : List Text}
    (hwritten : (Segment.call name arguments).WellFormed) (rest : Text) :
    callInFront ((Segment.call name arguments).text ++ rest) =
      some (⟨'$' :: name, .closed arguments⟩, (Segment.call name arguments).text.length) := by
  obtain ⟨⟨hname, hchars⟩, hsome, harguments⟩ := hwritten
  have hclosed :=
    enclosed_append rest (balancedFrom_join fun argument h => (harguments argument h).1)
  have hsplit := splitArguments_join hsome (fun argument h => (harguments argument h).1)
    fun argument h => (harguments argument h).2
  have hnamed : ∀ c ∈ name, isNameChar c = true := fun c h => (isNameChar_iff c).mpr (hchars c h)
  have htake : (name ++ '[' :: (Text.join ";" arguments ++ ']' :: rest)).takeWhile isNameChar =
      name := by
    rw [List.takeWhile_append_of_pos hnamed]
    simp [isNameChar, Text.isPlainWord]
  have hdrop : (name ++ '[' :: (Text.join ";" arguments ++ ']' :: rest)).dropWhile isNameChar =
      '[' :: (Text.join ";" arguments ++ ']' :: rest) := by
    rw [List.dropWhile_append_of_pos hnamed]
    simp [isNameChar, Text.isPlainWord]
  have hshape : (Segment.call name arguments).text ++ rest =
      '$' :: (name ++ '[' :: (Text.join ";" arguments ++ ']' :: rest)) := by
    simp [Segment.text]
  rw [hshape]
  simp only [callInFront, htake, hdrop, hclosed, hsplit]
  simp [hname, Segment.text]
  omega

theorem text_ne_nil (name : Text) (arguments : List Text) :
    (Segment.call name arguments).text ≠ [] :=
  List.cons_ne_nil _ _

/-- The calls of a written snippet are the written ones. -/
theorem calls_written {segments : List Segment}
    (hwell : ∀ segment ∈ segments, segment.WellFormed) :
    calls (written segments) =
      (segments.filterMap Segment.call?).map fun call => ⟨call.1, .closed call.2⟩ := by
  induction segments with
  | nil => rfl
  | cons segment segments ih =>
      have hrest := ih fun other h => hwell other (List.mem_cons_of_mem segment h)
      have hfirst := hwell segment List.mem_cons_self
      rw [written, List.flatMap_cons, ← written]
      cases segment with
      | plain text =>
          have hpassed : calls (text ++ written segments) = calls (written segments) :=
            Text.allMatches_append_of_none _ fun c hc s =>
              callInFront_of_ne (fun h => hfirst (h ▸ hc)) s
          rw [Segment.text, hpassed, hrest]
          rfl
      | call name arguments =>
          have hread := Text.allMatches_append_of_some (written segments)
            (text_ne_nil name arguments) (callInFront_call hfirst (written segments))
          rw [calls, hread, ← calls, hrest]
          rfl

/-- A written snippet is read back exactly: the names in the order of their first call, and
under each name its calls in order, each with the arguments that were written and none
of them malformed. -/
theorem groupByName_calls_written {segments : List Segment}
    (hwell : ∀ segment ∈ segments, segment.WellFormed) :
    let found := groupByName (calls (written segments))
    let expected := segments.filterMap Segment.call?
    found.map Prod.fst = distinct (expected.map Prod.fst) ∧
      ∀ entry ∈ found,
        entry.2.map (fun call => (call.name, call.arguments?, call.malformed)) =
          (expected.filter (·.1 = entry.1)).map fun call => (call.1, some call.2, false) := by
  intro found expected
  have hcalls : calls (written segments) =
      expected.map fun call => ⟨call.1, .closed call.2⟩ := calls_written hwell
  have hnames : (calls (written segments)).map Call.name = expected.map Prod.fst := by
    rw [hcalls, List.map_map]
    rfl
  constructor
  · show (groupByName (calls (written segments))).map Prod.fst = _
    rw [groupByName, List.map_map, hnames]
    exact List.map_id _
  · intro entry hentry
    obtain ⟨name, -, rfl⟩ := List.mem_map.mp hentry
    show (callsOf name (calls (written segments))).map _ = _
    rw [callsOf, hcalls, List.filter_map, List.map_map]
    rfl

/-- A nested call with separators of its own, an empty argument, two calls in a row, a
name called twice, and stray brackets between the calls. -/
def nestedSegments : List Segment :=
  [.plain "x] ".toList, .call "if".toList ["$a[1;[2]]".toList, []], .call "b_2".toList [[]],
    .plain " [;".toList, .call "if".toList ["y".toList]]

theorem wellFormed_of_mem_nestedSegments :
    ∀ segment ∈ nestedSegments, segment.WellFormed := by
  decide +kernel

theorem groupByName_calls_nestedSegments :
    (∀ segment ∈ nestedSegments, segment.WellFormed) ∧
      (groupByName (calls (written nestedSegments))).map Prod.fst =
        ["$if".toList, "$b_2".toList] ∧
      ∀ entry ∈ groupByName (calls (written nestedSegments)),
        entry.2.map (fun call => (call.name, call.arguments?, call.malformed)) =
          ((nestedSegments.filterMap Segment.call?).filter (·.1 = entry.1)).map
            fun call => (call.1, some call.2, false) := by
  refine ⟨wellFormed_of_mem_nestedSegments, ?_⟩
  have hread := groupByName_calls_written wellFormed_of_mem_nestedSegments
  exact ⟨hread.1, hread.2⟩

end ScriptDocs.Snippet
