/-
# Cutting a snippet into its calls

Every snippet, however malformed, falls from left to right into characters that belong to no
call, bare names, closed calls, and at most one call whose bracket stays open up to the
end. There is one way to cut it, nothing is lost, and the calls that are read
from a snippet are its pieces other than the skipped characters.
-/

import ScriptDocs.Proofs.Snippet.Division
import ScriptDocs.Proofs.Snippet.Rendering
import ScriptDocs.Proofs.Text.Letter

namespace ScriptDocs.Snippet

/-- A piece of a snippet. Names stand without their sigil. -/
inductive Piece
  | skipped (c : Char)
  | bare (name : Text)
  | closed (name : Text) (arguments : List Text)
  | unclosed (name : Text) (arguments : List Text)
  deriving DecidableEq, Repr

/-- What is recorded of a call: its name, its arguments and whether it is malformed. -/
def Call.record (call : Call) : Text × Option (List Text) × Bool :=
  (call.name, call.arguments?, call.malformed)

/-- A name is a non-empty word of ASCII letters, digits and low lines. -/
def IsName (name : Text) : Prop :=
  name ≠ [] ∧ ∀ c ∈ name, c.isAlphanum ∨ c = '_'

instance (name : Text) : Decidable (IsName name) :=
  decidable_of_iff (name ≠ [] ∧ name.all isNameChar = true) <| by
    rw [List.all_eq_true]
    exact and_congr_right fun _ => forall₂_congr fun c _ => isNameChar_iff c

/-- A name ends before a text that does not go on with one of its characters. -/
def EndsName (rest : Text) : Prop :=
  ∀ c, rest.head? = some c → ¬ (c.isAlphanum ∨ c = '_')

theorem toNat_lt_of_isNameChar {c : Char} (hc : isNameChar c = true) : c.toNat < 0x80 := by
  simp only [isNameChar, Text.isPlainWord, Bool.or_eq_true, Bool.and_eq_true, decide_eq_true_eq,
    beq_iff_eq] at hc
  omega

theorem EndsName.takeWhile_eq_nil {rest : Text} (hends : EndsName rest) :
    rest.takeWhile isNameChar = [] := by
  cases rest with
  | nil => rfl
  | cons c rest =>
      have hc : ¬ isNameChar c = true := fun h => hends c rfl ((isNameChar_iff c).mp h)
      simp [hc]

/-- A name is read as long as it goes on. -/
theorem IsName.takeWhile_append {name rest : Text} (hname : IsName name) (hends : EndsName rest) :
    (name ++ rest).takeWhile isNameChar = name ∧ (name ++ rest).dropWhile isNameChar = rest := by
  have hchars : ∀ c ∈ name, isNameChar c = true := fun c hc =>
    (isNameChar_iff c).mpr (hname.2 c hc)
  have htake : (name ++ rest).takeWhile isNameChar = name := by
    rw [List.takeWhile_append_of_pos hchars, hends.takeWhile_eq_nil, List.append_nil]
  have hwhole := List.takeWhile_append_dropWhile (p := isNameChar) (l := name ++ rest)
  rw [htake] at hwhole
  exact ⟨htake, List.append_cancel_left hwhole⟩

theorem endsName_cons {c : Char} (hc : isNameChar c = false) (rest : Text) :
    EndsName (c :: rest) := by
  rintro d hd hname
  obtain rfl : c = d := by simpa using hd
  simp [(isNameChar_iff c).mpr hname] at hc

/-- A text falls into its name characters in front and what they end before. -/
theorem exists_name (s : Text) :
    ∃ name rest, s = name ++ rest ∧ (∀ c ∈ name, c.isAlphanum ∨ c = '_') ∧ EndsName rest := by
  induction s with
  | nil => exact ⟨[], [], rfl, by simp, by simp [EndsName]⟩
  | cons c s ih =>
      by_cases hc : isNameChar c = true
      · obtain ⟨name, rest, rfl, hname, hends⟩ := ih
        refine ⟨c :: name, rest, rfl, ?_, hends⟩
        exact List.forall_mem_cons.mpr ⟨(isNameChar_iff c).mp hc, hname⟩
      · exact ⟨[], c :: s, rfl, by simp, endsName_cons (by simpa using hc) s⟩

namespace Piece

/-- The characters of a piece. -/
def text : Piece → Text
  | skipped c => [c]
  | bare name => '$' :: name
  | closed name arguments => '$' :: name ++ '[' :: Text.join ";" arguments ++ [']']
  | unclosed name arguments => '$' :: name ++ '[' :: Text.join ";" arguments

/-- What a piece is recorded as. Of the bare names only `$else` and `$endif` are complete, in any
letter case. -/
def record? : Piece → Option (Text × Option (List Text) × Bool)
  | skipped _ => none
  | bare name =>
    if name.map Char.toLower ∈ ["else".toList, "endif".toList] then
      some ('$' :: name, some [], false)
    else some ('$' :: name, none, true)
  | closed name arguments => some ('$' :: name, some arguments, false)
  | unclosed name arguments => some ('$' :: name, some arguments, true)

/-- What a piece must be in front of the rest of a snippet. -/
def Fits : Piece → Text → Prop
  | skipped c, rest => c = '$' → EndsName rest
  | bare name, rest => IsName name ∧ EndsName rest ∧ rest.head? ≠ some '['
  | closed name arguments, _ =>
    IsName name ∧ arguments ≠ [] ∧
      ∀ argument ∈ arguments, BalancedFrom 0 argument ∧ UndividedFrom 0 argument
  | unclosed name arguments, rest =>
    (IsName name ∧ rest = []) ∧ OpenFrom 0 (Text.join ";" arguments) ∧
      arguments ≠ [] ∧ (∀ argument ∈ arguments, UndividedFrom 0 argument) ∧
      ∀ argument ∈ arguments.dropLast, BalancedFrom 0 argument

/-- The call that a piece is read as. -/
def call? : Piece → Option Call
  | skipped _ => none
  | bare name =>
    some ⟨'$' :: name, if Text.lower ('$' :: name) ∈ bracketlessKeywords then .keyword else .bare⟩
  | closed name arguments => some ⟨'$' :: name, .closed arguments⟩
  | unclosed name arguments => some ⟨'$' :: name, .unclosed arguments⟩

theorem text_ne_nil (piece : Piece) : piece.text ≠ [] := by
  cases piece <;> exact List.cons_ne_nil _ _

/-- Letter case within a name is that of ASCII. -/
theorem record?_eq {piece : Piece} {rest : Text} (hfits : piece.Fits rest) :
    piece.record? = piece.call?.map Call.record := by
  cases piece with
  | skipped | closed | unclosed => rfl
  | bare name =>
      have hname : Text.lower ('$' :: name) = '$' :: name.map Char.toLower := by
        apply Text.lower_of_ascii
        intro c hc
        rcases List.mem_cons.mp hc with rfl | hc
        · decide
        · exact toNat_lt_of_isNameChar ((isNameChar_iff c).mpr (hfits.1.2 c hc))
      have hkeyword : Text.lower ('$' :: name) ∈ bracketlessKeywords ↔
          name.map Char.toLower ∈ ["else".toList, "endif".toList] := by
        simp [hname, bracketlessKeywords]
      simp only [record?, call?, hkeyword]
      split <;> rfl

/-- The piece that is read as a call. -/
def ofCall (call : Call) : Piece :=
  match call.form with
  | .bare | .keyword => bare call.name.tail
  | .closed arguments => closed call.name.tail arguments
  | .unclosed arguments => unclosed call.name.tail arguments

theorem ofCall_eq {piece : Piece} {call : Call} (hcall : piece.call? = some call) :
    ofCall call = piece := by
  cases piece with
  | skipped => cases hcall
  | bare name =>
      obtain rfl := Option.some.inj hcall
      by_cases hkeyword : Text.lower ('$' :: name) ∈ bracketlessKeywords <;> simp [ofCall, hkeyword]
  | closed | unclosed =>
      obtain rfl := Option.some.inj hcall
      rfl

theorem exists_eq_skipped {piece : Piece} (hnone : piece.call? = none) :
    ∃ c, piece = skipped c := by
  cases piece with
  | skipped c => exact ⟨c, rfl⟩
  | bare | closed | unclosed => cases hnone

/-- What is in front of a snippet is read as the piece that fits there. -/
theorem callInFront_text {piece : Piece} {rest : Text} (hfits : piece.Fits rest) :
    callInFront (piece.text ++ rest) = piece.call?.map fun call => (call, piece.text.length) := by
  cases piece with
  | skipped c =>
      by_cases hsigil : c = '$'
      · subst c
        have hnone : rest.takeWhile isNameChar = [] := (hfits rfl).takeWhile_eq_nil
        simp [callInFront, text, call?, hnone]
      · exact callInFront_of_ne hsigil rest
  | bare name =>
      obtain ⟨hname, hends, hopen⟩ := hfits
      obtain ⟨htake, hdrop⟩ := hname.takeWhile_append hends
      simp only [text, call?, List.cons_append, callInFront, htake, hdrop]
      have hsome := hname.1
      cases rest with
      | nil => simp [hsome]
      | cons c rest =>
          have hc : c ≠ '[' := by simpa using hopen
          simp [hsome, hc]
  | closed name arguments => exact callInFront_call hfits rest
  | unclosed name arguments =>
      obtain ⟨⟨hname, rfl⟩, hopen, hsome, hundivided, hbalanced⟩ := hfits
      have hdivided := Divided.of_join hsome hopen hundivided hbalanced
      have hends : EndsName ('[' :: Text.join ";" arguments) := endsName_cons rfl _
      obtain ⟨htake, hdrop⟩ := hname.takeWhile_append hends
      have hnone := enclosed_eq_none_iff.mpr hopen
      simp only [text, call?, List.cons_append, List.append_nil, callInFront, htake, hdrop, hnone,
        splitArguments, hdivided.argumentsFrom_eq]
      simp [hname.1]

/-- Only one piece fits in front of a snippet. -/
theorem eq_of_text_append_eq {piece other : Piece} {rest behind : Text}
    (hfits : piece.Fits rest) (hother : other.Fits behind)
    (hsame : piece.text ++ rest = other.text ++ behind) : piece = other ∧ rest = behind := by
  have hread := callInFront_text hfits
  rw [hsame, callInFront_text hother] at hread
  have hpiece : piece = other := by
    cases hcall : piece.call? with
    | none =>
        have hnone : other.call? = none := by simpa [hcall] using hread
        cases piece <;> cases other <;> simp_all [call?, text]
    | some call =>
        obtain ⟨hcalled, -⟩ : other.call? = some call ∧ other.text.length = piece.text.length := by
          simpa [hcall] using hread
        rw [← ofCall_eq hcall, ofCall_eq hcalled]
  subst other
  exact ⟨rfl, List.append_cancel_left hsame⟩

/-- Some piece fits in front of every snippet that is not empty. -/
theorem exists_fits {code : Text} (hsome : code ≠ []) :
    ∃ (piece : Piece) (rest : Text), code = piece.text ++ rest ∧ piece.Fits rest := by
  obtain ⟨c, s, rfl⟩ := List.exists_cons_of_ne_nil hsome
  by_cases hsigil : c = '$'
  case neg => exact ⟨skipped c, s, rfl, fun h => absurd h hsigil⟩
  subst c
  obtain ⟨name, rest, rfl, hchars, hends⟩ := exists_name s
  by_cases hempty : name = []
  · subst name
    exact ⟨skipped '$', rest, rfl, fun _ => hends⟩
  have hname : IsName name := ⟨hempty, hchars⟩
  by_cases hbare : rest.head? = some '['
  case neg => exact ⟨bare name, rest, rfl, hname, hends, hbare⟩
  obtain ⟨inner, rfl⟩ := List.head?_eq_some_iff.mp hbare
  cases hinner : enclosed? 0 inner with
  | none =>
      have hopen := enclosed_eq_none_iff.mp hinner
      have hdivided := divided_argumentsFrom hopen
      refine ⟨unclosed name (argumentsFrom 0 inner), [], ?_, ⟨hname, rfl⟩, ?_,
        hdivided.ne_nil, hdivided.undivided, hdivided.balanced_dropLast⟩
      · rw [text, hdivided.join_eq]
        simp
      · rwa [hdivided.join_eq]
  | some found =>
      obtain ⟨enclosed, behind⟩ := found
      obtain ⟨rfl, hbalanced⟩ := enclosed_eq_some hinner
      have hdivided := divided_argumentsFrom hbalanced.openFrom
      refine ⟨closed name (argumentsFrom 0 enclosed), behind, ?_, hname, hdivided.ne_nil, ?_⟩
      · rw [text, hdivided.join_eq]
        simp
      · exact fun argument h => ⟨hdivided.balanced hbalanced argument h,
          hdivided.undivided argument h⟩

end Piece

/-- A snippet is cut into pieces, each of which fits in front of what follows it. -/
inductive Cut : Text → List Piece → Prop
  | nil : Cut [] []
  | cons {piece : Piece} {rest : Text} {pieces : List Piece} : piece.Fits rest → Cut rest pieces →
      Cut (piece.text ++ rest) (piece :: pieces)

namespace Cut

variable {code : Text} {pieces : List Piece}

/-- Nothing is lost. -/
theorem text_eq (hcut : Cut code pieces) : pieces.flatMap Piece.text = code := by
  induction hcut with
  | nil => rfl
  | cons _ _ ih => rw [List.flatMap_cons, ih]

/-- Every snippet can be cut. -/
theorem exists_cut (code : Text) : ∃ pieces, Cut code pieces := by
  by_cases hempty : code = []
  · exact ⟨[], hempty ▸ .nil⟩
  · obtain ⟨piece, rest, hcode, hfits⟩ := Piece.exists_fits hempty
    have hshorter : rest.length < code.length := by
      have hpiece := List.length_pos_of_ne_nil piece.text_ne_nil
      rw [hcode, List.length_append]
      omega
    obtain ⟨pieces, hcut⟩ := exists_cut rest
    exact ⟨piece :: pieces, hcode ▸ .cons hfits hcut⟩
termination_by code.length

theorem eq_nil_or_cons (hcut : Cut code pieces) :
    (code = [] ∧ pieces = []) ∨ ∃ (piece : Piece) (rest : Text) (others : List Piece),
      pieces = piece :: others ∧ code = piece.text ++ rest ∧ piece.Fits rest ∧ Cut rest others := by
  cases hcut with
  | nil => exact Or.inl ⟨rfl, rfl⟩
  | cons hfits hrest => exact Or.inr ⟨_, _, _, rfl, rfl, hfits, hrest⟩

/-- There is only one way to cut a snippet. -/
theorem unique {other : List Piece} (hcut : Cut code pieces) (hother : Cut code other) :
    other = pieces := by
  induction hcut generalizing other with
  | nil =>
      obtain ⟨-, rfl⟩ | ⟨piece, rest, others, -, hcode, -⟩ := hother.eq_nil_or_cons
      · rfl
      · exact absurd (List.append_eq_nil_iff.mp hcode.symm).1 piece.text_ne_nil
  | @cons piece rest pieces hfits hcut ih =>
      obtain ⟨hcode, -⟩ | ⟨next, behind, others, rfl, hcode, hnext, hothers⟩ :=
        hother.eq_nil_or_cons
      · exact absurd (List.append_eq_nil_iff.mp hcode).1 piece.text_ne_nil
      · obtain ⟨rfl, rfl⟩ := Piece.eq_of_text_append_eq hfits hnext hcode
        rw [ih hothers]

/-- The pieces are the calls that are read, in order. -/
theorem calls_eq (hcut : Cut code pieces) : calls code = pieces.filterMap Piece.call? := by
  induction hcut with
  | nil => rfl
  | @cons piece rest pieces hfits _ ih =>
      have hread := Piece.callInFront_text hfits
      cases hcall : piece.call? with
      | none =>
          obtain ⟨c, rfl⟩ := Piece.exists_eq_skipped hcall
          rw [hcall, Option.map_none] at hread
          rw [List.filterMap_cons_none hcall, ← ih]
          exact Text.allMatches_cons_of_none hread
      | some call =>
          rw [hcall, Option.map_some] at hread
          rw [List.filterMap_cons_some hcall, ← ih]
          exact Text.allMatches_append_of_some rest piece.text_ne_nil hread

/-- An unclosed call takes the rest of the snippet. -/
theorem eq_nil_of_unclosed {before after : List Piece} {name : Text} {arguments : List Text}
    (hcut : Cut code (before ++ .unclosed name arguments :: after)) : after = [] := by
  induction before generalizing code with
  | nil =>
      obtain ⟨-, hnone⟩ | ⟨piece, rest, others, hpieces, -, hfits, hrest⟩ := hcut.eq_nil_or_cons
      · cases hnone
      · obtain ⟨rfl, rfl⟩ := List.cons.inj hpieces
        obtain rfl : rest = [] := hfits.1.2
        exact Cut.nil.unique hrest
  | cons piece before ih =>
      obtain ⟨-, hnone⟩ | ⟨piece, rest, others, hpieces, -, -, hrest⟩ := hcut.eq_nil_or_cons
      · cases hnone
      · rw [← (List.cons.inj hpieces).2] at hrest
        exact ih hrest

theorem records_eq (hcut : Cut code pieces) :
    (calls code).map Call.record = pieces.filterMap Piece.record? := by
  rw [hcut.calls_eq, List.map_filterMap]
  induction hcut with
  | nil => rfl
  | cons hfits _ ih => rw [List.filterMap_cons, List.filterMap_cons, ih, Piece.record?_eq hfits]

end Cut

/-- Grouping keeps what is recorded of the calls: the names in the order of their first call,
and under each name its calls in order. -/
theorem groupByName_records (found : List Call) :
    (groupByName found).map (fun entry => (entry.1, entry.2.map Call.record)) =
      (distinct ((found.map Call.record).map Prod.fst)).map fun name =>
        (name, (found.map Call.record).filter (·.1 = name)) := by
  have hnames : (found.map Call.record).map Prod.fst = found.map Call.name := by
    rw [List.map_map]
    rfl
  rw [hnames, groupByName, List.map_map]
  apply List.map_congr_left
  intro name _
  simp only [Function.comp_apply, callsOf, List.filter_map]
  rfl

/-- Reading the calls of a snippet loses nothing. There is one way to cut the snippet into
pieces; an unclosed call is the last of them; and the calls that are read, grouped by
name, are the pieces other than the skipped characters. -/
theorem exists_cut_records (code : Text) :
    ∃ pieces, (Cut code pieces ∧ ∀ other, Cut code other → other = pieces) ∧
      pieces.flatMap Piece.text = code ∧
      (∀ before name arguments after,
        pieces = before ++ .unclosed name arguments :: after → after = []) ∧
      let records := pieces.filterMap Piece.record?
      (groupByName (calls code)).map (fun entry => (entry.1, entry.2.map Call.record)) =
        (distinct (records.map Prod.fst)).map fun name =>
          (name, records.filter (·.1 = name)) := by
  obtain ⟨pieces, hcut⟩ := Cut.exists_cut code
  refine ⟨pieces, ⟨hcut, fun other hother => hcut.unique hother⟩, hcut.text_eq, ?_, ?_⟩
  · rintro before name arguments after rfl
    exact hcut.eq_nil_of_unclosed
  · rw [groupByName_records, hcut.records_eq]

end ScriptDocs.Snippet
