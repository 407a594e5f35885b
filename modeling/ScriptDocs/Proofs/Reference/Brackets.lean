/-
# Parameters from the brackets of a call

Where a page has no table and no list of parameters, they are taken from the first call that stands
in the text, with the rest of its line. The arguments are looked for up to the last closing bracket
of that line, while the reader of snippets ends a call at the bracket that closes it. The two agree
just where no closing bracket stands behind the call.
-/

import ScriptDocs.Proofs.Reference.Gathering
import ScriptDocs.Proofs.Reference.Naming
import ScriptDocs.Proofs.Snippet.Cutting
import ScriptDocs.Proofs.Text.Blank
import ScriptDocs.Proofs.Text.Pieces
import ScriptDocs.Proofs.Text.Removal
import ScriptDocs.Reference.Page

namespace ScriptDocs.Reference

/-- The characters that mean something between the brackets of a call, or end its line. -/
def argumentMarks : List Char := ['[', ']', ';', '<', '>', '{', '}', '\n', '\r']

/-- A name that can stand among the arguments of a call as it is. -/
structure IsArgumentName (name : Text) : Prop where
  ne_nil : name ≠ []
  trimmed : Text.IsTrimmed name
  unmarked : ∀ mark ∈ argumentMarks, mark ∉ name

theorem bracketed?_append {head last : Text} (hhead : '[' ∉ head) (hlast : ']' ∉ last)
    (inner : Text) :
    bracketed? (head ++ '[' :: (inner ++ ']' :: last)) = some inner := by
  have hopen : ∀ c ∈ head, decide (c ≠ '[') = true :=
    fun c hc => decide_eq_true fun h => hhead (h ▸ hc)
  have hclose : ∀ c ∈ last.reverse, decide (c ≠ ']') = true :=
    fun c hc => decide_eq_true fun h => hlast (h ▸ List.mem_reverse.mp hc)
  have hbehind : (inner ++ ']' :: last).reverse.dropWhile (· ≠ ']') = ']' :: inner.reverse := by
    rw [List.reverse_append, List.reverse_cons, List.append_assoc,
      List.dropWhile_append_of_pos hclose]
    simp
  rw [bracketed?, List.dropWhile_append_of_pos hopen, List.dropWhile_cons_of_neg (by simp)]
  dsimp only
  rw [hbehind]
  exact congrArg some inner.reverse_reverse

section Parts

variable {front others : List Text} {part : Text}

/-- Trimmed parts stay as they are next to the separators. -/
theorem trimInner_append (hfront : ∀ earlier ∈ front, Text.IsTrimmed earlier)
    (hpart : Text.trimLeft part = part) :
    trimInner (front ++ part :: others) = front ++ trimInner (part :: others) := by
  induction front with
  | nil => rfl
  | cons first front ih =>
      obtain ⟨hfirst, hrest⟩ := List.forall_mem_cons.mp hfront
      obtain ⟨next, more, hnext⟩ := List.exists_cons_of_ne_nil
        (List.append_ne_nil_of_right_ne_nil front (List.cons_ne_nil part others))
      have hleft : Text.trimLeft next = next := by
        cases front with
        | nil =>
            obtain ⟨rfl, -⟩ := List.cons.inj hnext
            exact hpart
        | cons second front =>
            obtain ⟨rfl, -⟩ := List.cons.inj hnext
            exact Text.trimLeft_eq_self_iff.mpr (hrest second List.mem_cons_self).1
      have hright : Text.trimRight first = first := Text.trimRight_eq_self_iff.mpr hfirst.2
      rw [List.cons_append, hnext, trimInner, hleft, hright, ← hnext, ih hrest]
      rfl

/-- The first part loses at most the blanks at its end. -/
theorem exists_trimInner_cons (part : Text) (others : List Text) :
    ∃ first rest, trimInner (part :: others) = first :: rest ∧
      (first = part ∨ first = Text.trimRight part) := by
  cases others with
  | nil => exact ⟨part, [], by rw [trimInner], Or.inl rfl⟩
  | cons next others => exact ⟨_, _, by rw [trimInner], Or.inr rfl⟩

end Parts

/-- The name that a part spells, or the one it is given by its number. -/
def spelledName (part : Text) (number : Nat) : Text :=
  let name := Text.trim (Text.replaceMatches nameMark part)
  if name.isEmpty then "param" ++ Text.ofNat number else name

theorem names_parametersOfSyntax {line inner : Text} (hinner : bracketed? line = some inner) :
    (parametersOfSyntax line).map Parameter.name =
      (((trimInner (Text.pieces ';' inner)).filter (!·.isEmpty)).zipIdx 1).map fun entry =>
        spelledName entry.1 entry.2 := by
  rw [parametersOfSyntax, hinner]
  dsimp only
  rw [List.map_map]
  rfl

theorem nameMark_eq_none {c : Char} (hc : c ∉ ['<', '>', '{', '[']) (s : Text) :
    nameMark (c :: s) = none := by
  rw [nameMark]
  all_goals
    intro rest hfront
    exact hc (by simp [(List.cons.inj hfront).1])

/-- No mark is taken out of a text without any. -/
theorem replaceMatches_nameMark_append {front : Text}
    (hfront : ∀ mark ∈ ['<', '>', '{', '['], mark ∉ front) (rest : Text) :
    Text.replaceMatches nameMark (front ++ rest) =
      front ++ Text.replaceMatches nameMark rest := by
  induction front with
  | nil => rfl
  | cons c front ih =>
      have hc : c ∉ ['<', '>', '{', '['] := fun hmark => hfront c hmark List.mem_cons_self
      have hlater : ∀ mark ∈ ['<', '>', '{', '['], mark ∉ front :=
        fun mark hmark hmem => hfront mark hmark (List.mem_cons_of_mem c hmem)
      rw [List.cons_append, Text.replaceMatches_cons_of_none (nameMark_eq_none hc _), ih hlater]
      rfl

namespace IsArgumentName

variable {name : Text}

theorem replaceMatches_append (hname : IsArgumentName name) (rest : Text) :
    Text.replaceMatches nameMark (name ++ rest) = name ++ Text.replaceMatches nameMark rest := by
  have hmarks : ['<', '>', '{', '['] ⊆ argumentMarks := by decide
  exact replaceMatches_nameMark_append (fun mark hmark => hname.unmarked mark (hmarks hmark)) rest

/-- A name is read as it is. -/
theorem spelledName_eq (hname : IsArgumentName name) (number : Nat) :
    spelledName name number = name := by
  have hmarks := hname.replaceMatches_append []
  rw [List.append_nil, show Text.replaceMatches nameMark [] = [] from rfl, List.append_nil]
    at hmarks
  have htrim : Text.trim name = name := Text.trim_eq_self_iff.mpr hname.trimmed
  rw [spelledName, hmarks, htrim]
  exact if_neg (by simpa using hname.ne_nil)

/-- A closing bracket behind a name becomes part of it. -/
theorem spelledName_ne (hname : IsArgumentName name) (more : Text) (number : Nat) :
    spelledName (name ++ ']' :: more) number ≠ name := by
  have hclose : Text.replaceMatches nameMark (']' :: more) =
      ']' :: Text.replaceMatches nameMark more :=
    Text.replaceMatches_cons_of_none (nameMark_eq_none (by decide) more)
  have hmem : ']' ∈ Text.trim (name ++ ']' :: Text.replaceMatches nameMark more) :=
    (Text.mem_trim_iff (by decide)).mpr (by simp)
  rw [spelledName, hname.replaceMatches_append, hclose,
    if_neg (by simpa using List.ne_nil_of_mem hmem)]
  intro hsame
  rw [hsame] at hmem
  exact hname.unmarked ']' (by decide) hmem

/-- A name opens no bracket and has no separator in it. -/
theorem balanced (hname : IsArgumentName name) :
    Snippet.BalancedFrom 0 name ∧ Snippet.UndividedFrom 0 name := by
  have hmarks : ['[', ']'] ⊆ argumentMarks := by decide
  have hcount : ∀ mark ∈ ['[', ']'], ∀ front, front <+: name → front.count mark = 0 :=
    fun mark hmark front hfront => List.count_eq_zero.mpr fun hmem =>
      hname.unmarked mark (hmarks hmark) (hfront.subset hmem)
  refine ⟨⟨fun front hfront => ?_, ?_⟩, ?_⟩
  · rw [hcount ']' (by decide) front hfront]
    exact Nat.zero_le _
  · rw [hcount ']' (by decide) name List.prefix_rfl, hcount '[' (by decide) name List.prefix_rfl]
  · rintro before after rfl
    exact absurd (by simp) (hname.unmarked ';' (by decide))

/-- A name stands on one line. -/
theorem isLineEnd_eq_false (hname : IsArgumentName name) {c : Char} (hc : c ∈ name) :
    isLineEnd c = false := by
  have hfeed : c ≠ '\n' := fun h => hname.unmarked '\n' (by decide) (h ▸ hc)
  have hreturn : c ≠ '\r' := fun h => hname.unmarked '\r' (by decide) (h ▸ hc)
  simp [isLineEnd, hfeed, hreturn]

end IsArgumentName

section Names

variable {names : List Text} {line : Text}

theorem map_spelledName_zipIdx (hnames : ∀ name ∈ names, IsArgumentName name) (number : Nat) :
    (names.zipIdx number).map (fun entry => spelledName entry.1 entry.2) = names := by
  induction names generalizing number with
  | nil => rfl
  | cons name names ih =>
      obtain ⟨hname, hrest⟩ := List.forall_mem_cons.mp hnames
      rw [List.zipIdx_cons, List.map_cons, hname.spelledName_eq, ih hrest]

theorem filter_names (hnames : ∀ name ∈ names, IsArgumentName name) :
    names.filter (!·.isEmpty) = names := by
  rw [List.filter_eq_self]
  exact fun name hname => by simpa using (hnames name hname).ne_nil

/-- What is joined falls into the names again, the last of them with what stands behind it. -/
theorem pieces_join_append {front : List Text} (hfront : ∀ name ∈ front, IsArgumentName name)
    (last tail : Text) :
    Text.pieces ';' (Text.join ";" (front ++ [last]) ++ tail) =
      front ++ Text.pieces ';' (last ++ tail) := by
  have hjoin : Text.join ";" (front ++ [last]) = front.flatMap (· ++ [';']) ++ last :=
    Text.join_concat ';' front last
  rw [hjoin, List.append_assoc]
  exact Text.pieces_flatMap_append
    (fun name hname => (hfront name hname).unmarked ';' (by decide)) _

/-- Names that fill the brackets are the names of the parameters. -/
theorem names_of_bracketed (hsome : names ≠ []) (hnames : ∀ name ∈ names, IsArgumentName name)
    (hinner : bracketed? line = some (Text.join ";" names)) :
    (parametersOfSyntax line).map Parameter.name = names := by
  obtain ⟨front, last, rfl⟩ := (List.eq_nil_or_concat' names).resolve_left hsome
  obtain ⟨hfront, hlast⟩ := List.forall_mem_append.mp hnames
  replace hlast := hlast last List.mem_cons_self
  have hpieces := pieces_join_append hfront last []
  rw [List.append_nil, List.append_nil,
    Text.pieces_of_not_mem (hlast.unmarked ';' (by decide))] at hpieces
  have htrim : trimInner (front ++ [last]) = front ++ [last] := by
    rw [trimInner_append (fun name hname => (hfront name hname).trimmed)
      (Text.trimLeft_eq_self_iff.mpr hlast.trimmed.1), trimInner]
  rw [names_parametersOfSyntax hinner, hpieces, htrim, filter_names hnames,
    map_spelledName_zipIdx hnames]

/-- With a closing bracket among them behind the names the last one is read otherwise. -/
theorem names_ne_of_bracketed {above : Text} (hsome : names ≠ [])
    (hnames : ∀ name ∈ names, IsArgumentName name)
    (hinner : bracketed? line = some (Text.join ";" names ++ ']' :: above)) :
    (parametersOfSyntax line).map Parameter.name ≠ names := by
  obtain ⟨front, last, rfl⟩ := (List.eq_nil_or_concat' names).resolve_left hsome
  obtain ⟨hfront, hlast⟩ := List.forall_mem_append.mp hnames
  replace hlast := hlast last List.mem_cons_self
  -- The bracket goes to the last name, whatever follows up to the next semicolon.
  have hpart : ';' ∉ last ++ [']'] := by
    simpa using hlast.unmarked ';' (by decide)
  obtain ⟨piece, others, -, hpieces⟩ := Text.exists_pieces_append hpart above
  have hleft : Text.trimLeft (last ++ [']'] ++ piece) = last ++ [']'] ++ piece := by
    rw [Text.trimLeft_eq_self_iff, List.append_assoc, List.head?_append_of_ne_nil _ hlast.ne_nil]
    exact hlast.trimmed.1
  obtain ⟨first, rest, htrim, hfirst⟩ := exists_trimInner_cons (last ++ [']'] ++ piece) others
  obtain ⟨more, rfl⟩ : ∃ more, first = last ++ ']' :: more := by
    rcases hfirst with rfl | rfl
    · exact ⟨piece, by simp⟩
    · refine ⟨Text.trimRight piece, ?_⟩
      rw [List.append_assoc]
      exact Text.trimRight_append_cons (by decide) last piece
  have hparts : trimInner (Text.pieces ';' (Text.join ";" (front ++ [last]) ++ ']' :: above)) =
      front ++ (last ++ ']' :: more) :: rest := by
    rw [pieces_join_append hfront, show last ++ ']' :: above = last ++ [']'] ++ above by simp,
      hpieces, trimInner_append (fun name hname => (hfront name hname).trimmed) hleft, htrim]
  rw [names_parametersOfSyntax hinner, hparts, List.filter_append, filter_names hfront,
    List.filter_cons_of_pos (by simp), List.zipIdx_append, List.map_append,
    map_spelledName_zipIdx hfront, List.zipIdx_cons, List.map_cons]
  intro hsame
  exact hlast.spelledName_ne more _ (List.cons.inj (List.append_cancel_left hsame)).1

/-- The names are those between the brackets just where no closing bracket follows. -/
theorem names_parametersOfSyntax_iff {head behind : Text} (hhead : '[' ∉ head) (hsome : names ≠ [])
    (hnames : ∀ name ∈ names, IsArgumentName name) :
    (parametersOfSyntax (head ++ '[' :: (Text.join ";" names ++ ']' :: behind))).map
      Parameter.name = names ↔ ']' ∉ behind := by
  constructor
  · intro hsame hmem
    obtain ⟨above, last, rfl, hlast⟩ := Text.exists_last_part hmem
    have hinner := bracketed?_append hhead hlast (Text.join ";" names ++ ']' :: above)
    rw [List.append_assoc, List.cons_append] at hinner
    exact names_ne_of_bracketed hsome hnames hinner hsame
  · intro hnone
    exact names_of_bracketed hsome hnames (bracketed?_append hhead hnone _)

end Names

section Page

open Snippet (IsName)

/-- The syntax of a function is the line of the call that a text begins with. -/
theorem syntaxIn?_of_call {sigiled inner : Text} (hsome : inner ≠ [])
    (hline : ∀ c ∈ inner, isLineEnd c = false) :
    syntaxIn? sigiled (sigiled ++ '[' :: inner) =
      some (Text.trim (sigiled ++ '[' :: inner)) := by
  have hrest : Text.afterFrontAnyCase? sigiled (sigiled ++ '[' :: inner) = some ('[' :: inner) :=
    Text.afterFrontAnyCase?_eq_some_iff.mpr ⟨sigiled, Text.spells_refl sigiled, rfl⟩
  have hopen : Text.trimLeft ('[' :: inner) = '[' :: inner := rfl
  have hbehind : (inner.dropWhile fun c => !isLineEnd c) = [] := by
    rw [List.dropWhile_eq_nil_iff]
    exact fun c hc => by simp [hline c hc]
  have hmatch : callLine sigiled (sigiled ++ '[' :: inner) =
      some (sigiled ++ '[' :: inner, (sigiled ++ '[' :: inner).length) := by
    have hlength : ¬ 0 = inner.length := fun h => hsome (List.eq_nil_of_length_eq_zero h.symm)
    simp [callLine, hrest, hopen, hbehind, hlength]
  obtain ⟨c, s, hcons⟩ := List.exists_cons_of_ne_nil
    (List.append_ne_nil_of_right_ne_nil sigiled (List.cons_ne_nil '[' inner))
  rw [hcons] at hmatch ⊢
  rw [syntaxIn?, Text.firstMatch?, hmatch]
  rfl

/-- One line that is no heading for parameters has none below a heading. -/
theorem headedParameters_of_line {content : Text} (hline : '\n' ∉ content)
    (hhead : Markdown.isHeadingOf "Parameters" content = false) :
    headedParameters content = [] := by
  rw [headedParameters, linesOf, Text.pieces_of_not_mem hline, lineWith?, hhead]
  rfl

/-- Without such parameters a page of one passage has those of its syntax. -/
theorem parameters_ofPassages_singleton {function : Text} {passage : Passage}
    (hheaded : headedParameters passage.content = []) :
    (Page.ofPassages function [passage]).parameters =
      ((syntaxIn? ('$' :: function) passage.content).map parametersOfSyntax).getD [] := by
  have hjoined : Text.join "\n\n" ([passage].map Passage.content) = passage.content :=
    List.intercalate_singleton
  have hcompleted : ∀ page : Page,
      ((page.withDetails passage.content).withExamples passage.content).parameters =
        page.parameters := by
    intro page
    have hdetails : page.withDetails passage.content = page := by
      simp [Page.withDetails, hheaded]
    rw [hdetails, Page.withExamples]
    split <;> rfl
  rw [Page.ofPassages_eq, hjoined, hcompleted]
  simp [Page.gathered, Page.absorb, hheaded]

section Call

variable {function behind : Text} {names : List Text}

/-- The reader of snippets finds the names as the arguments of the first call. -/
theorem head?_calls (hfunction : IsName function) (hsome : names ≠ [])
    (hnames : ∀ name ∈ names, IsArgumentName name) (behind : Text) :
    (Snippet.calls ('$' :: function ++ '[' :: (Text.join ";" names ++ ']' :: behind))).head? =
      some ⟨'$' :: function, .closed names⟩ := by
  have hfits : Snippet.Piece.Fits (.closed function names) behind :=
    ⟨hfunction, hsome, fun name hname => (hnames name hname).balanced⟩
  have hcalls := Text.allMatches_append_of_some behind (Snippet.Piece.text_ne_nil _)
    (Snippet.Piece.callInFront_text hfits)
  have htext : '$' :: function ++ '[' :: (Text.join ";" names ++ ']' :: behind) =
      (Snippet.Piece.closed function names).text ++ behind := by
    simp [Snippet.Piece.text]
  rw [htext, Snippet.calls, hcalls]
  rfl

/-- The call stands on one line with what follows it. -/
theorem isLineEnd_eq_false_of_mem_call (hfunction : IsName function)
    (hnames : ∀ name ∈ names, IsArgumentName name)
    (hbehind : ∀ c ∈ behind, isLineEnd c = false) :
    ∀ c ∈ '$' :: function ++ '[' :: (Text.join ";" names ++ ']' :: behind),
      isLineEnd c = false := by
  have hfront : ∀ c ∈ function, isLineEnd c = false := by
    intro c hc
    rw [isLineEnd, Bool.or_eq_false_iff, beq_eq_false_iff_ne, beq_eq_false_iff_ne]
    have hword := hfunction.isNameChar hc
    exact ⟨fun h => absurd (h ▸ hword) (by decide), fun h => absurd (h ▸ hword) (by decide)⟩
  have hjoin : ∀ c ∈ Text.join ";" names, isLineEnd c = false := by
    intro c hc
    rcases Text.mem_join hc with hc | ⟨name, hname, hc⟩
    · obtain rfl := List.mem_singleton.mp hc
      rfl
    · exact (hnames name hname).isLineEnd_eq_false hc
  simp only [List.forall_mem_append, List.forall_mem_cons]
  exact ⟨⟨rfl, hfront⟩, rfl, hjoin, rfl, hbehind⟩

/-- Only blanks at the end of the line are trimmed. -/
theorem trim_call (function behind : Text) (names : List Text) :
    Text.trim ('$' :: function ++ '[' :: (Text.join ";" names ++ ']' :: behind)) =
      '$' :: function ++ '[' :: (Text.join ";" names ++ ']' :: Text.trimRight behind) := by
  have hleft : ∀ s : Text, Text.trimLeft ('$' :: s) = '$' :: s := fun _ => rfl
  have hsplit : ∀ last : Text, '$' :: function ++ '[' :: (Text.join ";" names ++ ']' :: last) =
      ('$' :: function ++ '[' :: Text.join ";" names) ++ ']' :: last := fun last => by simp
  rw [Text.trim, List.cons_append, hleft, ← List.cons_append, hsplit, hsplit,
    Text.trimRight_append_cons (by decide)]

/-- A page of a single line reads the arguments of the call that the line begins with, as the reader
of snippets does, just where no closing bracket stands behind the call. -/
theorem parameters_are_arguments_iff {passage : Passage} (hfunction : IsName function)
    (hsome : names ≠ []) (hnames : ∀ name ∈ names, IsArgumentName name)
    (hbehind : ∀ c ∈ behind, isLineEnd c = false)
    (hcontent : passage.content =
      '$' :: function ++ '[' :: (Text.join ";" names ++ ']' :: behind)) :
    (Snippet.calls passage.content).head? = some ⟨'$' :: function, .closed names⟩ ∧
      ((Page.ofPassages function [passage]).parameters.map Parameter.name = names ↔
        ']' ∉ behind) := by
  have hline := isLineEnd_eq_false_of_mem_call hfunction hnames hbehind
  have hheaded : headedParameters passage.content = [] := by
    rw [hcontent]
    exact headedParameters_of_line (fun hmem => absurd (hline '\n' hmem) (by decide)) rfl
  have hsyntax : syntaxIn? ('$' :: function) passage.content =
      some (Text.trim passage.content) := by
    rw [hcontent]
    exact syntaxIn?_of_call (by simp) fun c hc =>
      hline c (List.mem_append_right _ (List.mem_cons_of_mem '[' hc))
  have hopen : '[' ∉ '$' :: function := by
    intro hmem
    have hword := hfunction.isNameChar ((List.mem_cons.mp hmem).resolve_left (by decide))
    exact absurd hword (by decide)
  refine ⟨hcontent ▸ head?_calls hfunction hsome hnames behind, ?_⟩
  rw [parameters_ofPassages_singleton hheaded, hsyntax, hcontent, trim_call]
  exact (names_parametersOfSyntax_iff hopen hsome hnames).trans
    (not_congr (Text.mem_trimRight_iff (by decide)))

end Call

/-- A call with a remark behind it. -/
def remarkedCall : Passage :=
  { sourcePath := "/functions/ban.md", content := "$ban[user id;days]  (see the guide) ",
    fingerprint := "f" }

theorem parameters_are_arguments_iff_remarkedCall :
    let names := ["user id", "days"].map String.toList
    let behind := "  (see the guide) ".toList
    (IsName "ban" ∧ names ≠ [] ∧ (∀ name ∈ names, IsArgumentName name) ∧
      (∀ c ∈ behind, isLineEnd c = false) ∧
      remarkedCall.content = "$ban".toList ++ '[' :: (Text.join ";" names ++ ']' :: behind)) ∧
    (Snippet.calls remarkedCall.content).head? = some ⟨"$ban", .closed names⟩ ∧
      (Page.ofPassages "ban" [remarkedCall]).parameters.map Parameter.name = names := by
  intro names behind
  have hfunction : IsName "ban" := by decide
  have hnames : ∀ name ∈ names, IsArgumentName name := by
    have htold : ∀ name ∈ names, name ≠ [] ∧ Text.trim name = name ∧
        argumentMarks.all (· ∉ name) = true := by
      decide +kernel
    intro name hname
    obtain ⟨hsome, htrim, hmarks⟩ := htold name hname
    refine ⟨hsome, Text.trim_eq_self_iff.mp htrim, fun mark hmark => ?_⟩
    exact of_decide_eq_true (List.all_eq_true.mp hmarks mark hmark)
  have hbehind : ∀ c ∈ behind, isLineEnd c = false := by
    have hnone : behind.any isLineEnd = false := by decide +kernel
    simpa only [List.any_eq_false, Bool.not_eq_true] using hnone
  have hsome : names ≠ [] := by decide
  have hcontent : remarkedCall.content =
      "$ban".toList ++ '[' :: (Text.join ";" names ++ ']' :: behind) := by
    decide +kernel
  obtain ⟨hread, hparameters⟩ :=
    parameters_are_arguments_iff hfunction hsome hnames hbehind hcontent
  exact ⟨⟨hfunction, hsome, hnames, hbehind, hcontent⟩, hread,
    hparameters.mpr (by decide +kernel)⟩

/-- A call with a word in brackets behind it. -/
def linkedCall : Passage :=
  { sourcePath := "/functions/ban.md", content := "$ban[user;days] (see [timeout])",
    fingerprint := "f" }

/-- What stands up to the last bracket goes to the last parameter. -/
theorem parameters_of_linkedCall :
    (Snippet.calls linkedCall.content).head? = some ⟨"$ban", .closed ["user", "days"]⟩ ∧
      (Page.ofPassages "ban" [linkedCall]).parameters.map Parameter.name =
        ["user".toList, "days] (see [timeout".toList] := by
  decide +kernel

end Page

end ScriptDocs.Reference
