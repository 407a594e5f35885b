/-
# How deep a text is nested

Reading JSON goes through a text from the front, so what is left of it is always one of its
ends. Each step into a list or an object has passed an opening bracket, so a text with no
more opening brackets than the reader may step into lists and objects is not nested too deep.
-/

import ScriptDocs.Json.Reader
import ScriptDocs.Proofs.Text.Front
import Mathlib.Data.List.DropRight

namespace ScriptDocs.Json

/-- How many brackets of lists and objects are opened in a text, also within quoted texts. -/
def openings (s : Text) : Nat :=
  s.countP fun c => c == '[' || c == '{'

theorem openings_le_of_suffix {rest s : Text} (hsuffix : rest <:+ s) : openings rest ≤ openings s :=
  hsuffix.sublist.countP_le

theorem skipGap_snd_suffix (position : Nat) (s : Text) : (skipGap position s).2 <:+ s :=
  List.dropWhile_suffix isGap

theorem skipGap_suffix {position next : Nat} {s rest : Text}
    (hskip : skipGap position s = (next, rest)) : rest <:+ s := by
  simpa [hskip] using skipGap_snd_suffix position s

theorem readQuoted_suffix {opening skip position next : Nat} {sofar s value rest : Text}
    (hread : readQuoted opening skip position sofar s = .ok (value, next, rest)) : rest <:+ s := by
  induction s generalizing skip position sofar with
  | nil => cases skip <;> cases hread
  | cons c s ih =>
      cases skip with
      | succ skip => exact (ih hread).trans (List.suffix_cons c s)
      | zero =>
          rw [readQuoted] at hread
          split at hread
          · obtain ⟨-, -, rfl⟩ := by simpa using hread
            exact List.suffix_cons c s
          · split at hread
            · split at hread
              · cases hread
              · exact (ih hread).trans (List.suffix_cons c s)
            · split at hread
              · cases hread
              · exact (ih hread).trans (List.suffix_cons c s)

theorem escapeAt_shallow (opening position : Nat) (s : Text) :
    escapeAt opening position s ≠ .error .nestedTooDeep := by
  unfold escapeAt
  dsimp only
  repeat' split
  all_goals simp

theorem readQuoted_shallow (opening skip position : Nat) (sofar s : Text) :
    readQuoted opening skip position sofar s ≠ .error .nestedTooDeep := by
  induction s generalizing skip position sofar with
  | nil => cases skip <;> simp [readQuoted]
  | cons c s ih =>
      cases skip with
      | succ skip => exact ih skip (position + 1) sofar
      | zero =>
          rw [readQuoted]
          split
          · simp
          · split
            · have hescape := escapeAt_shallow opening position s
              cases hplain : escapeAt opening position s with
              | error fault => simpa [hplain] using hescape
              | ok plain => exact ih plain.2 (position + 1) (plain.1 :: sofar)
            · split
              · simp
              · exact ih 0 (position + 1) (c :: sofar)

theorem digitRun_suffix (s : Text) : (digitRun s).2 <:+ s :=
  List.dropWhile_suffix Char.isDigit

theorem readPlaces_suffix (s : Text) : (readPlaces s).2 <:+ s := by
  unfold readPlaces
  split
  · rename_i s'
    have hrun := digitRun_suffix s'
    split
    · exact List.suffix_rfl
    · exact hrun.trans (List.suffix_cons _ s')
  · exact List.suffix_rfl

/-- Digits behind a mark are read, or the mark is no part of the number. -/
theorem digitRun_match_suffix {α : Type} {s whole : Text} (hbehind : s <:+ whole) (absent : α)
    (value : Text → α) :
    (match digitRun s with
      | ([], _) => (absent, whole)
      | (digits, rest) => (value digits, rest)).2 <:+ whole := by
  have hrun := digitRun_suffix s
  split
  · exact List.suffix_rfl
  · rename_i hdigits
    rw [hdigits] at hrun
    exact hrun.trans hbehind

theorem readPower_suffix (s : Text) : (readPower s).2 <:+ s := by
  cases s with
  | nil => exact List.suffix_rfl
  | cons mark s =>
      unfold readPower
      dsimp only
      split
      · split
        · exact digitRun_match_suffix ((List.suffix_cons _ _).trans (List.suffix_cons _ _)) none _
        · exact digitRun_match_suffix ((List.suffix_cons _ _).trans (List.suffix_cons _ _)) none _
        · exact digitRun_match_suffix (List.suffix_cons _ _) none _
      · exact List.suffix_rfl

theorem readMagnitude_suffix {negative : Bool} {s rest : Text} {value : Except JsonFault Json}
    (hread : readMagnitude negative s = some (value, rest)) : rest <:+ s := by
  unfold readMagnitude at hread
  obtain ⟨⟨whole, behind⟩, hwhole, hrest⟩ := Option.map_eq_some_iff.mp hread
  have hbehind : behind <:+ s := by
    split at hwhole
    · obtain ⟨-, rfl⟩ := by simpa using hwhole
      exact List.suffix_cons _ _
    · split at hwhole
      · obtain ⟨-, rfl⟩ := by simpa [digitRun] using hwhole
        exact List.dropWhile_suffix _
      · cases hwhole
    · cases hwhole
  have hend : rest = (readPower (readPlaces behind).2).2 := by
    dsimp only at hrest
    split at hrest
    · split at hrest <;> exact (congrArg Prod.snd hrest).symm
    · exact (congrArg Prod.snd hrest).symm
  exact hend ▸ (readPower_suffix _).trans ((readPlaces_suffix behind).trans hbehind)

theorem readMagnitude_shallow {negative : Bool} {s rest : Text} :
    readMagnitude negative s ≠ some (.error .nestedTooDeep, rest) := by
  intro hread
  unfold readMagnitude at hread
  obtain ⟨⟨whole, behind⟩, -, hrest⟩ := Option.map_eq_some_iff.mp hread
  dsimp only at hrest
  split at hrest
  · split at hrest <;> cases hrest
  · cases hrest

theorem afterFront?_map_suffix {word s : Text} {value : Json} {position : Nat}
    {found : Json × Nat × Text}
    (hfound : (Text.afterFront? word s).map (fun rest => (value, position, rest)) = some found) :
    found.2.2 <:+ s := by
  obtain ⟨rest, hrest, rfl⟩ := Option.map_eq_some_iff.mp hfound
  exact ⟨word, (Text.afterFront?_eq_some_iff.mp hrest).symm⟩

theorem readScalar_suffix {position next : Nat} {s rest : Text} {value : Json}
    (hread : readScalar position s = .ok (value, next, rest)) : rest <:+ s := by
  unfold readScalar at hread
  dsimp only at hread
  split at hread
  · rename_i found hfound
    cases hread
    obtain ⟨word?, hword, hsome⟩ := List.exists_of_findSome?_eq_some hfound
    simp only [List.mem_cons, List.not_mem_nil, or_false] at hword
    rcases hword with rfl | rfl | rfl | rfl | rfl | rfl <;> exact afterFront?_map_suffix hsome
  · split at hread
    · cases hread
    · cases hread
    · rename_i number behind hnumber
      cases hread
      split at hnumber
      · exact (readMagnitude_suffix hnumber).trans (List.suffix_cons _ _)
      · exact readMagnitude_suffix hnumber

theorem readScalar_shallow (position : Nat) (s : Text) :
    readScalar position s ≠ .error .nestedTooDeep := by
  intro hread
  unfold readScalar at hread
  dsimp only at hread
  split at hread
  · cases hread
  · split at hread
    · cases hread
    · rename_i hnumber
      cases hread
      split at hnumber <;> exact readMagnitude_shallow hnumber
    · cases hread

/-- How a part of a text may be read: what is left is an end of it, and where it is nested too
deep it has more opening brackets than steps are allowed. -/
def ReadsInto (depth : Nat) (s : Text) : Except JsonFault (Json × Nat × Text) → Prop
  | .ok (_, _, rest) => rest <:+ s
  | .error fault => fault = .nestedTooDeep → depth < openings s

namespace ReadsInto

variable {depth : Nat} {s rest : Text} {result : Except JsonFault (Json × Nat × Text)}

/-- A part that is read behind others is read as a part of the whole. -/
theorem of_suffix (hreads : ReadsInto depth rest result) (hsuffix : rest <:+ s) :
    ReadsInto depth s result := by
  cases result with
  | ok found => exact List.IsSuffix.trans hreads hsuffix
  | error fault => exact fun hdeep => (hreads hdeep).trans_le (openings_le_of_suffix hsuffix)

/-- A step into a list or an object passes an opening bracket. -/
theorem step {bracket : Char} (hbracket : openings [bracket] = 1)
    (hreads : ReadsInto depth rest result) (hsuffix : rest <:+ s) :
    ReadsInto (depth + 1) (bracket :: s) result := by
  cases result with
  | ok found => exact (List.IsSuffix.trans hreads hsuffix).trans (List.suffix_cons bracket s)
  | error fault =>
      intro hdeep
      have hopen : openings (bracket :: s) = 1 + openings s := by
        rw [← hbracket]
        exact @List.countP_append _ _ [bracket] s
      have hinner := (hreads hdeep).trans_le (openings_le_of_suffix hsuffix)
      omega

end ReadsInto

/-- Behind an item or a field, the text goes on behind a gap and one more character. -/
theorem suffix_behind_gap {position next : Nat} {s rest behind : Text} {mark : Char}
    (hskip : skipGap position rest = (next, mark :: behind)) (hsuffix : rest <:+ s) :
    behind <:+ s :=
  (List.suffix_cons mark behind).trans ((skipGap_suffix hskip).trans hsuffix)

/-- Every reader that has some fuel left reads so. -/
structure AllReadInto (fuel : Nat) : Prop where
  value : ∀ depth position s, ReadsInto depth s (readValue fuel depth position s)
  items : ∀ depth position s items, ReadsInto depth s (readItems fuel depth position s items)
  fields : ∀ depth position s fields, ReadsInto depth s (readFields fuel depth position s fields)

namespace AllReadInto

variable {fuel : Nat}

theorem value_succ (hall : AllReadInto fuel) (depth position : Nat) (s : Text) :
    ReadsInto depth s (readValue (fuel + 1) depth position s) := by
  unfold readValue
  split
  · rename_i s
    cases hquoted : readQuoted position 0 (position + 1) [] s with
    | error fault =>
        rintro rfl
        exact absurd hquoted (readQuoted_shallow _ _ _ _ _)
    | ok found => exact (readQuoted_suffix hquoted).trans (List.suffix_cons _ s)
  · split
    · simp [ReadsInto, openings]
    · exact (suffix_behind_gap ‹_› List.suffix_rfl).trans (List.suffix_cons _ _)
    · exact (hall.items _ _ _ _).step rfl (skipGap_suffix ‹_›)
  · split
    · simp [ReadsInto, openings]
    · exact (suffix_behind_gap ‹_› List.suffix_rfl).trans (List.suffix_cons _ _)
    · exact (hall.fields _ _ _ _).step rfl (skipGap_suffix ‹_›)
  · cases hscalar : readScalar position s with
    | error fault =>
        rintro rfl
        exact absurd hscalar (readScalar_shallow position s)
    | ok found => exact readScalar_suffix hscalar

theorem items_succ (hall : AllReadInto fuel) (depth position : Nat) (s : Text)
    (items : List Json) : ReadsInto depth s (readItems (fuel + 1) depth position s items) := by
  have hitem := hall.value depth position s
  unfold readItems
  split
  · rename_i fault hread
    rwa [hread] at hitem
  · rename_i item next rest hread
    rw [hread] at hitem
    split
    · exact suffix_behind_gap ‹_› hitem
    · split
      exact (hall.items _ _ _ _).of_suffix
        ((skipGap_suffix ‹_›).trans (suffix_behind_gap ‹_› hitem))
    · simp [ReadsInto]

theorem fields_succ (hall : AllReadInto fuel) (depth position : Nat) (s : Text)
    (fields : List (Text × Json)) :
    ReadsInto depth s (readFields (fuel + 1) depth position s fields) := by
  unfold readFields
  split
  · rename_i s
    split
    · rename_i fault hquoted
      rintro rfl
      exact absurd hquoted (readQuoted_shallow _ _ _ _ _)
    · rename_i name next rest hquoted
      have hname := (readQuoted_suffix hquoted).trans (List.suffix_cons '"' s)
      split
      · rename_i next behind hcolon
        split
        rename_i next start hgap
        have hstart := (skipGap_suffix hgap).trans (suffix_behind_gap hcolon hname)
        have hfield := (hall.value depth next start).of_suffix hstart
        split
        · rename_i fault hread
          rwa [hread] at hfield
        · rename_i value next rest hread
          rw [hread] at hfield
          dsimp only
          split
          · exact suffix_behind_gap ‹_› hfield
          · exact (hall.fields _ _ _ _).of_suffix
              ((skipGap_snd_suffix _ _).trans (suffix_behind_gap ‹_› hfield))
          · simp [ReadsInto]
      · simp [ReadsInto]
  · simp [ReadsInto]

end AllReadInto

theorem allReadInto (fuel : Nat) : AllReadInto fuel := by
  induction fuel with
  | zero =>
      refine ⟨?_, ?_, ?_⟩ <;> intros
      · simp [readValue, ReadsInto]
      · simp [readItems, ReadsInto]
      · simp [readFields, ReadsInto]
  | succ fuel ih => exact ⟨ih.value_succ, ih.items_succ, ih.fields_succ⟩

/-- Only a text with more opening brackets than the reader may step into is nested too deep. -/
theorem depthLimit_lt_openings [DepthLimit] {s : Text} (hread : read s = .error .nestedTooDeep) :
    depthLimit < openings s := by
  cases s with
  | nil => cases hread
  | cons c s =>
      unfold read at hread
      dsimp only at hread
      split at hread
      · cases hread
      have hvalue := (allReadInto (2 * (c :: s).length + 2)).value depthLimit
        (skipGap 0 (c :: s)).1 (skipGap 0 (c :: s)).2
      split at hread
      · rename_i fault hfault
        rw [hfault] at hvalue
        cases hread
        exact (hvalue rfl).trans_le (openings_le_of_suffix (skipGap_snd_suffix 0 _))
      · split at hread <;> cases hread

end ScriptDocs.Json
