/-
# The outline of a document

A document is its lines, and a cut before each heading groups them: the lines in front of the first
heading, and each heading with the lines that follow it. There is one way to read a text as
lines, one title to a heading whichever of its characters are taken for the words, and one way to
group the lines. The sections are the groups that are not blank, so that no character but white
space gets lost.
-/

import ScriptDocs.Markdown.Section
import ScriptDocs.Proofs.Text.Blank
import ScriptDocs.Proofs.Text.Pieces

namespace ScriptDocs.Markdown

/-- A text and its lines. What ends a line is a line feed, together with a carriage return right
before it; the last line has no end. -/
inductive Lined : Text → List Text → Prop
  | last {line : Text} (hline : '\n' ∉ line) : Lined line [line]
  | feed {line rest : Text} {lines : List Text} (hline : '\n' ∉ line)
      (hbefore : line.getLast? ≠ some '\r') (hrest : Lined rest lines) :
      Lined (line ++ '\n' :: rest) (line :: lines)
  | returnFeed {line rest : Text} {lines : List Text} (hline : '\n' ∉ line)
      (hrest : Lined rest lines) : Lined (line ++ '\r' :: '\n' :: rest) (line :: lines)

theorem documentLines_of_not_mem {line : Text} (hline : '\n' ∉ line) :
    documentLines line = [line] := by
  simp [documentLines, Text.pieces_of_not_mem hline]

/-- The line before a line feed is the first one, without a carriage return at its end. -/
theorem documentLines_append_cons {line : Text} (hline : '\n' ∉ line) (rest : Text) :
    documentLines (line ++ '\n' :: rest) = withoutReturn line :: documentLines rest := by
  obtain ⟨piece, pieces, hpieces⟩ := List.exists_cons_of_ne_nil (Text.pieces_ne_nil '\n' rest)
  simp [documentLines, Text.pieces_append_cons hline, hpieces]

theorem withoutReturn_of_ne {line : Text} (hend : line.getLast? ≠ some '\r') :
    withoutReturn line = line :=
  if_neg hend

theorem withoutReturn_concat (line : Text) : withoutReturn (line ++ ['\r']) = line := by
  simp [withoutReturn]

/-- A text is read as its lines, and as no others. -/
theorem lined_iff {s : Text} {lines : List Text} : Lined s lines ↔ lines = documentLines s := by
  constructor
  · intro hlined
    induction hlined with
    | last hline => exact (documentLines_of_not_mem hline).symm
    | feed hline hbefore _ ih =>
        rw [documentLines_append_cons hline, withoutReturn_of_ne hbefore, ih]
    | @returnFeed line rest lines hline _ ih =>
        have hreturn : '\n' ∉ line ++ ['\r'] := by simp [hline]
        have hwhole := documentLines_append_cons hreturn rest
        rw [withoutReturn_concat, ← ih, List.append_assoc] at hwhole
        exact hwhole.symm
  · rintro rfl
    -- Behind its first line a text is shorter by all of it.
    induction hlength : s.length using Nat.strong_induction_on generalizing s with
    | _ length ih =>
        by_cases hfeed : '\n' ∈ s
        · obtain ⟨line, rest, rfl, hline⟩ := List.eq_append_cons_of_mem hfeed
          have hrest := ih rest.length (by simp [← hlength]; omega) rfl
          rw [documentLines_append_cons hline]
          by_cases hreturn : line.getLast? = some '\r'
          · obtain ⟨line, rfl⟩ := List.getLast?_eq_some_iff.mp hreturn
            rw [withoutReturn_concat, List.append_assoc]
            exact .returnFeed (fun h => hline (List.mem_append_left _ h)) hrest
          · rw [withoutReturn_of_ne hreturn]
            exact .feed hline hreturn hrest
        · rw [documentLines_of_not_mem hfeed]
          exact .last hfeed

/-- A line is read as a heading of some words: at most three blanks, one to six number signs,
some blanks, the words, and maybe blanks behind them. -/
inductive HeadingOf : Text → Text → Prop
  | intro {indent gap words tail : Text} {marks : Nat}
      (hindent : ∀ c ∈ indent, Text.isBlank c = true) (hshort : indent.length ≤ 3)
      (hsome : 1 ≤ marks) (hmost : marks ≤ 6)
      (hgap : gap ≠ []) (hblank : ∀ c ∈ gap, Text.isBlank c = true)
      (hwords : words ≠ []) (htail : ∀ c ∈ tail, Text.isBlank c = true) :
      HeadingOf (indent ++ (List.replicate marks '#' ++ (gap ++ words ++ tail))) words

/-- The marks of a heading are found wherever they stand in front. -/
theorem afterMarks?_of_marks {indent rest : Text} {marks : Nat}
    (hindent : ∀ c ∈ indent, Text.isBlank c = true) (hshort : indent.length ≤ 3)
    (hsome : 1 ≤ marks) (hmost : marks ≤ 6) (hrest : rest.head?.any Text.isBlank = true) :
    afterMarks? (indent ++ (List.replicate marks '#' ++ rest)) = some rest := by
  obtain ⟨further, rfl⟩ := Nat.exists_eq_add_of_le' hsome
  obtain ⟨c, behind, rfl⟩ : ∃ c behind, rest = c :: behind := by
    cases rest with
    | nil => simp at hrest
    | cons c behind => exact ⟨c, behind, rfl⟩
  have hc : Text.isBlank c = true := by simpa using hrest
  have hmark : Text.isBlank '#' = false := by decide
  have hend : c ≠ '#' := by
    rintro rfl
    simp [hmark] at hc
  have hmarks : ∀ d ∈ List.replicate (further + 1) '#', decide (d = '#') = true :=
    fun d hd => decide_eq_true (List.eq_of_mem_replicate hd)
  have hindented : (indent ++ (List.replicate (further + 1) '#' ++ c :: behind)).takeWhile
        Text.isBlank = indent ∧
      (indent ++ (List.replicate (further + 1) '#' ++ c :: behind)).dropWhile Text.isBlank =
        List.replicate (further + 1) '#' ++ c :: behind := by
    rw [List.takeWhile_append_of_pos hindent, List.dropWhile_append_of_pos hindent]
    simp [List.replicate_succ, hmark]
  unfold afterMarks?
  simp only [hindented.1, hindented.2, List.takeWhile_append_of_pos hmarks,
    List.dropWhile_append_of_pos hmarks]
  simp [hend, hc]
  omega

/-- What the marks of a heading are found in front of, they stand in front of. -/
theorem exists_marks_of_afterMarks? {s rest : Text} (hfound : afterMarks? s = some rest) :
    ∃ indent marks, s = indent ++ (List.replicate marks '#' ++ rest) ∧
      (∀ c ∈ indent, Text.isBlank c = true) ∧ indent.length ≤ 3 ∧ 1 ≤ marks ∧ marks ≤ 6 ∧
      ∃ c behind, rest = c :: behind ∧ Text.isBlank c = true := by
  unfold afterMarks? at hfound
  dsimp only at hfound
  split at hfound
  · rename_i hmarks
    obtain ⟨hshort, hsome, hmost, hbehind⟩ := hmarks
    obtain rfl := Option.some.inj hfound
    refine ⟨s.takeWhile Text.isBlank, ((s.dropWhile Text.isBlank).takeWhile (· = '#')).length, ?_,
      fun c => List.mem_takeWhile_imp, hshort, hsome, hmost, ?_⟩
    · have hsigns : List.replicate ((s.dropWhile Text.isBlank).takeWhile (· = '#')).length '#' =
          (s.dropWhile Text.isBlank).takeWhile (· = '#') :=
        (List.eq_replicate_of_mem fun c hc => by simpa using List.mem_takeWhile_imp hc).symm
      rw [hsigns, List.takeWhile_append_dropWhile, List.takeWhile_append_dropWhile]
    · cases hrest : (s.dropWhile Text.isBlank).dropWhile (· = '#') with
      | nil => simp [hrest] at hbehind
      | cons c behind => exact ⟨c, behind, rfl, by simpa [hrest] using hbehind⟩
  · cases hfound

/-- A line has a title just where it is read as a heading, and the title is the trimmed words,
whichever of its characters are taken for them. -/
theorem title?_eq_some_iff {line title : Text} :
    title? line = some title ↔ ∃ words, HeadingOf line words ∧ title = Text.trim words := by
  constructor
  · intro htitle
    unfold title? at htitle
    cases hfound : afterMarks? line with
    | none => simp [hfound] at htitle
    | some rest =>
        obtain ⟨indent, marks, rfl, hindent, hshort, hsome, hmost, c, behind, rfl, hblank⟩ :=
          exists_marks_of_afterMarks? hfound
        rw [hfound] at htitle
        dsimp only at htitle
        split at htitle
        · rename_i hlength
          have hwords : behind ≠ [] := by
            rintro rfl
            simp at hlength
          have hgap : ∀ d ∈ [c], Text.isBlank d = true := by simpa using hblank
          refine ⟨behind, ?_, ?_⟩
          · have hline : HeadingOf
                (indent ++ (List.replicate marks '#' ++ ([c] ++ behind ++ []))) behind :=
              .intro hindent hshort hsome hmost (List.cons_ne_nil c []) hgap hwords (by simp)
            rwa [List.append_nil] at hline
          · rw [← Option.some.inj htitle]
            exact Text.trim_blanks_append hgap behind
        · cases htitle
  · rintro ⟨words, hheading, rfl⟩
    cases hheading with
    | @intro indent gap words tail marks hindent hshort hsome hmost hgap hblank hwords htail =>
        obtain ⟨c, gap, rfl⟩ := List.exists_cons_of_ne_nil hgap
        have hrest : (c :: gap ++ words ++ tail).head?.any Text.isBlank = true := by
          simpa using hblank c List.mem_cons_self
        have hlength : 2 ≤ (c :: gap ++ words ++ tail).length := by
          have hsome := List.length_pos_iff.mpr hwords
          simp only [List.length_append, List.length_cons]
          omega
        rw [title?, afterMarks?_of_marks hindent hshort hsome hmost hrest]
        dsimp only
        rw [if_pos hlength, Text.trim_append_blanks _ htail, Text.trim_blanks_append hblank]

/-- A line without a title is no heading. -/
theorem title?_eq_none_iff {line : Text} :
    title? line = none ↔ ∀ words, ¬ HeadingOf line words := by
  rw [← Option.not_isSome_iff_eq_none, Option.isSome_iff_exists]
  simp only [title?_eq_some_iff, not_exists]
  constructor
  · exact fun hnone words hheading => hnone _ words ⟨hheading, rfl⟩
  · exact fun hnone title words hheading => hnone words hheading.1

/-- Some lines under a title. -/
structure Group where
  title : Text
  lines : List Text

/-- The lines of a group in one text. -/
def Group.text (group : Group) : Text :=
  Text.join "\n" group.lines

/-- The lines of a document in groups: those before the first heading, and the headings, each
with the lines that belong to it. -/
structure Outline where
  front : List Text
  headed : List Group

/-- All groups of an outline; the lines before the first heading are untitled. -/
def Outline.groups (outline : Outline) : List Group :=
  ⟨untitled, outline.front⟩ :: outline.headed

/-- Some lines are cut just before each heading. -/
structure Outlines (lines : List Text) (outline : Outline) : Prop where
  whole : lines = outline.front ++ outline.headed.flatMap Group.lines
  front : ∀ line ∈ outline.front, ∀ words, ¬ HeadingOf line words
  headed : ∀ group ∈ outline.headed, ∃ line rest words,
    group.lines = line :: rest ∧ HeadingOf line words ∧ group.title = Text.trim words ∧
      ∀ other ∈ rest, ∀ words, ¬ HeadingOf other words

/-- The outline of some lines. -/
def outlineOf : List Text → Outline
  | [] => ⟨[], []⟩
  | line :: lines =>
    match title? line with
    | some title => ⟨[], ⟨title, line :: (outlineOf lines).front⟩ :: (outlineOf lines).headed⟩
    | none => ⟨line :: (outlineOf lines).front, (outlineOf lines).headed⟩

theorem outlines_outlineOf (lines : List Text) : Outlines lines (outlineOf lines) := by
  induction lines with
  | nil => exact ⟨rfl, by simp [outlineOf], by simp [outlineOf]⟩
  | cons line lines ih =>
      rw [outlineOf]
      cases htitle : title? line with
      | some title =>
          obtain ⟨words, hheading, hwords⟩ := title?_eq_some_iff.mp htitle
          refine ⟨?_, by simp, List.forall_mem_cons.mpr ⟨?_, ih.headed⟩⟩
          · rw [List.nil_append, List.flatMap_cons, List.cons_append, ← ih.whole]
          · exact ⟨line, _, words, rfl, hheading, hwords, ih.front⟩
      | none =>
          refine ⟨?_, List.forall_mem_cons.mpr ⟨title?_eq_none_iff.mp htitle, ih.front⟩, ih.headed⟩
          rw [List.cons_append, ← ih.whole]

/-- Some lines have one outline. -/
theorem Outlines.eq_outlineOf {lines : List Text} {outline : Outline}
    (houtlines : Outlines lines outline) : outline = outlineOf lines := by
  induction lines generalizing outline with
  | nil =>
      obtain ⟨front, headed⟩ := outline
      obtain ⟨rfl, hnone⟩ := List.append_eq_nil_iff.mp houtlines.whole.symm
      cases headed with
      | nil => rfl
      | cons group headed =>
          obtain ⟨line, rest, -, hlines, -⟩ := houtlines.headed group List.mem_cons_self
          simp [hlines] at hnone
  | cons line lines ih =>
      obtain ⟨front, headed⟩ := outline
      obtain ⟨hwhole, hfront, hheaded⟩ := houtlines
      dsimp only at hwhole hfront hheaded
      rw [outlineOf]
      cases front with
      | cons first front =>
          obtain ⟨rfl, hlines⟩ := List.cons.inj hwhole
          rw [List.forall_mem_cons] at hfront
          have hbehind : Outlines lines ⟨front, headed⟩ := ⟨hlines, hfront.2, hheaded⟩
          rw [title?_eq_none_iff.mpr hfront.1, ← ih hbehind]
      | nil =>
          cases headed with
          | nil => cases hwhole
          | cons group headed =>
              rw [List.forall_mem_cons] at hheaded
              obtain ⟨⟨first, rest, words, hgroup, hheading, htitle, hrest⟩, hlater⟩ := hheaded
              rw [List.nil_append, List.flatMap_cons, hgroup] at hwhole
              obtain ⟨rfl, hlines⟩ := List.cons.inj hwhole
              obtain ⟨title, lines⟩ := group
              dsimp only at hgroup htitle
              have hbehind : Outlines _ ⟨rest, headed⟩ := ⟨hlines, hrest, hlater⟩
              rw [title?_eq_some_iff.mpr ⟨words, hheading, htitle⟩, ← ih hbehind, hgroup]

/-- Some lines are cut before their headings in one way. -/
theorem outlines_iff {lines : List Text} {outline : Outline} :
    Outlines lines outline ↔ outline = outlineOf lines :=
  ⟨Outlines.eq_outlineOf, fun h => h ▸ outlines_outlineOf lines⟩

/-- The sections of some groups: those that are not blank, trimmed. -/
def sectionsOf (groups : List Group) : List Section :=
  (groups.filter fun group => !Text.isBlankText group.text).map fun group =>
    ⟨group.title, Text.trim group.text⟩

theorem sectionOf_eq (group : Group) :
    sectionOf group.title group.lines.reverse =
      if Text.isBlankText group.text then [] else [⟨group.title, Text.trim group.text⟩] := by
  unfold sectionOf
  rw [List.reverse_reverse]
  change (if (Text.trim group.text).isEmpty then []
    else [Section.mk group.title (Text.trim group.text)]) = _
  by_cases hblank : Text.trim group.text = []
  · rw [if_pos (by simpa using hblank), if_pos (Text.isBlankText_iff.mpr hblank)]
  · rw [if_neg (by simpa using hblank), if_neg (mt Text.isBlankText_iff.mp hblank)]

theorem sectionsOf_cons (group : Group) (groups : List Group) :
    sectionsOf (group :: groups) =
      sectionOf group.title group.lines.reverse ++ sectionsOf groups := by
  rw [sectionOf_eq, sectionsOf, sectionsOf, List.filter_cons]
  cases Text.isBlankText group.text <;> rfl

/-- From any line on, the sections are those of the group that is open and of the groups that
follow. -/
theorem sectionsFrom_eq (title : Text) (opened lines : List Text) :
    sectionsFrom title opened.reverse lines =
      sectionsOf (⟨title, opened ++ (outlineOf lines).front⟩ :: (outlineOf lines).headed) := by
  induction lines generalizing title opened with
  | nil =>
      rw [sectionsFrom, outlineOf, List.append_nil, sectionsOf_cons]
      exact (List.append_nil _).symm
  | cons line lines ih =>
      rw [sectionsFrom, outlineOf]
      cases title? line with
      | some next =>
          have hrest := ih next [line]
          dsimp only
          rw [List.append_nil, sectionsOf_cons]
          exact congrArg _ hrest
      | none =>
          have hrest := ih title (opened ++ [line])
          rwa [List.reverse_append, List.append_assoc] at hrest

/-- The sections of a document are those of its groups. -/
theorem sections_eq (text : Text) :
    sections text = sectionsOf (outlineOf (documentLines text)).groups :=
  sectionsFrom_eq untitled [] (documentLines text)

theorem isBlank_feed : ∀ c ∈ (['\n'] : Text), Text.isBlank c = true :=
  List.forall_mem_singleton.mpr (by decide)

theorem inked_sectionsOf (groups : List Group) :
    (sectionsOf groups).flatMap (fun part => Text.inked part.content) =
      (groups.flatMap Group.lines).flatMap Text.inked := by
  induction groups with
  | nil => rfl
  | cons group groups ih =>
      have hlines : Text.inked group.text = group.lines.flatMap Text.inked :=
        Text.inked_join isBlank_feed group.lines
      rw [sectionsOf_cons, List.flatMap_append, ih, List.flatMap_cons, List.flatMap_append,
        ← hlines, sectionOf_eq]
      refine congrArg (· ++ _) ?_
      split
      · rename_i hblank
        rw [← Text.inked_trim, Text.isBlankText_iff.mp hblank]
        rfl
      · rw [List.flatMap_singleton, Text.inked_trim]

theorem Lined.inked_eq {s : Text} {lines : List Text} (hlined : Lined s lines) :
    lines.flatMap Text.inked = Text.inked s := by
  have hfeed (rest : Text) : Text.inked ('\n' :: rest) = Text.inked rest :=
    Text.inked_append ['\n'] rest
  have hreturn (rest : Text) : Text.inked ('\r' :: rest) = Text.inked rest :=
    Text.inked_append ['\r'] rest
  induction hlined with
  | last => simp
  | feed _ _ _ ih => rw [List.flatMap_cons, ih, Text.inked_append, hfeed]
  | returnFeed _ _ ih => rw [List.flatMap_cons, ih, Text.inked_append, hreturn, hfeed]

/-- A document has one reading as lines, and these have one cut before each heading. Its sections
are the groups of the cut that are not blank, in order, each with the trimmed words of its heading
as title and its lines, trimmed as a whole, as content. Together they hold the characters of the
document that are no white space. -/
theorem sections_partition (text : Text) :
    ∃ lines outline, (∀ other, Lined text other ↔ other = lines) ∧
      (∀ other, Outlines lines other ↔ other = outline) ∧
      sections text =
        (outline.groups.filter fun group => !Text.isBlankText group.text).map
          (fun group => ⟨group.title, Text.trim group.text⟩) ∧
      (sections text).flatMap (fun part => Text.inked part.content) = Text.inked text := by
  refine ⟨documentLines text, outlineOf (documentLines text), fun _ => lined_iff,
    fun _ => outlines_iff, sections_eq text, ?_⟩
  have hwhole := (outlines_outlineOf (documentLines text)).whole
  rw [sections_eq, inked_sectionsOf, Outline.groups, List.flatMap_cons, ← hwhole]
  exact (lined_iff.mpr rfl).inked_eq

end ScriptDocs.Markdown
