/-
# A section read once more

The content of a section is its lines, trimmed as a whole. Read as a document it is one section
again: only its first line can be a heading, since trimming leaves the start of every other line
alone. The first line loses its indent, and so a heading keeps its title, while a line that was
indented too far for a heading may become one.
-/

import ScriptDocs.Proofs.Markdown.Heading

namespace ScriptDocs.Markdown

theorem exists_blanks_behind_withoutReturn (line : Text) :
    ∃ back, line = withoutReturn line ++ back ∧ ∀ c ∈ back, Text.isBlank c = true := by
  by_cases hreturn : line.getLast? = some '\r'
  · obtain ⟨front, rfl⟩ := List.getLast?_eq_some_iff.mp hreturn
    exact ⟨['\r'], by rw [withoutReturn_concat], List.forall_mem_singleton.mpr (by decide)⟩
  · exact ⟨[], by rw [withoutReturn_of_ne hreturn, List.append_nil], nofun⟩

theorem withoutReturn_eq_self_iff {line : Text} :
    withoutReturn line = line ↔ line.getLast? ≠ some '\r' := by
  refine ⟨fun hself hreturn => ?_, withoutReturn_of_ne⟩
  obtain ⟨front, rfl⟩ := List.getLast?_eq_some_iff.mp hreturn
  rw [withoutReturn_concat] at hself
  simp at hself

theorem Lined.not_mem {text : Text} {lines : List Text} (hlined : Lined text lines) :
    ∀ line ∈ lines, '\n' ∉ line := by
  induction hlined with
  | last hline => simpa using hline
  | feed hline _ _ ih | returnFeed hline _ ih => exact List.forall_mem_cons.mpr ⟨hline, ih⟩

/-- Joined lines are read as the same lines, but for a carriage return at the end of each but the
last one. -/
theorem documentLines_join {lines : List Text} {last : Text}
    (hlines : ∀ line ∈ lines, '\n' ∉ line) (hlast : '\n' ∉ last) :
    documentLines (Text.join "\n" (lines ++ [last])) = lines.map withoutReturn ++ [last] := by
  have hpieces : Text.pieces '\n' (Text.join "\n" (lines ++ [last])) = lines ++ [last] := by
    have hjoin : Text.join "\n" (lines ++ [last]) = lines.flatMap (· ++ ['\n']) ++ last :=
      Text.join_concat '\n' lines last
    rw [hjoin, Text.pieces_flatMap_append hlines, Text.pieces_of_not_mem hlast]
  rw [documentLines, hpieces]
  simp

/-- Joined lines are read as the same lines just where none but the last ends in a carriage
return. -/
theorem documentLines_join_eq_self_iff {lines : List Text} (hsome : lines ≠ [])
    (hlines : ∀ line ∈ lines, '\n' ∉ line) :
    documentLines (Text.join "\n" lines) = lines ↔
      ∀ line ∈ lines.dropLast, line.getLast? ≠ some '\r' := by
  obtain ⟨front, last, rfl⟩ := (List.eq_nil_or_concat' lines).resolve_left hsome
  have hfront : ∀ line ∈ front, '\n' ∉ line := fun line h => hlines line (by simp [h])
  have hmap : front.map withoutReturn = front.map id ↔
      ∀ line ∈ front, withoutReturn line = line := List.map_inj_left
  rw [List.map_id] at hmap
  rw [documentLines_join hfront (hlines last (by simp)), List.dropLast_concat,
    List.append_left_inj, hmap]
  exact forall₂_congr fun line _ => withoutReturn_eq_self_iff

/-- Blank lines in front of a visible one are trimmed away, and so is its indent. -/
theorem trimLeft_join {before after : List Text} {first : Text}
    (hbefore : ∀ line ∈ before, Text.isBlankText line = true)
    (hfirst : Text.isBlankText first = false) :
    Text.trimLeft (Text.join "\n" (before ++ first :: after)) =
      Text.join "\n" (Text.trimLeft first :: after) := by
  have hblank : ∀ c ∈ before.flatMap (· ++ ['\n']), Text.isBlank c = true := by
    intro c hc
    obtain ⟨line, hline, hc⟩ := List.mem_flatMap.mp hc
    exact (List.mem_append.mp hc).elim (List.all_eq_true.mp (hbefore line hline) c) (isBlank_feed c)
  have hjoin : Text.join "\n" (before ++ first :: after) =
      before.flatMap (· ++ ['\n']) ++ (first ++ after.flatMap ('\n' :: ·)) := by
    rw [← Text.join_cons]
    exact Text.join_append '\n' before (List.cons_ne_nil first after)
  have htrimmed : Text.join "\n" (Text.trimLeft first :: after) =
      Text.trimLeft first ++ after.flatMap ('\n' :: ·) := Text.join_cons '\n' _ after
  rw [hjoin, htrimmed, ← Text.trimLeft_append hfirst]
  exact List.dropWhile_append_of_pos hblank

/-- Blank lines behind a visible one are trimmed away, and so is the white space at its end. -/
theorem trimRight_join {lines behind : List Text} {last : Text}
    (hlast : Text.isBlankText last = false)
    (hbehind : ∀ line ∈ behind, Text.isBlankText line = true) :
    Text.trimRight (Text.join "\n" (lines ++ last :: behind)) =
      Text.join "\n" (lines ++ [Text.trimRight last]) := by
  have hblank : ∀ c ∈ behind.flatMap ('\n' :: ·), Text.isBlank c = true := by
    intro c hc
    obtain ⟨line, hline, hc⟩ := List.mem_flatMap.mp hc
    rcases List.mem_cons.mp hc with rfl | hc
    · decide
    · exact List.all_eq_true.mp (hbehind line hline) c hc
  have hjoin : Text.join "\n" (lines ++ last :: behind) =
      lines.flatMap (· ++ ['\n']) ++ last ++ behind.flatMap ('\n' :: ·) := by
    rw [List.append_assoc, ← Text.join_cons]
    exact Text.join_append '\n' lines (List.cons_ne_nil last behind)
  have htrimmed : Text.join "\n" (lines ++ [Text.trimRight last]) =
      lines.flatMap (· ++ ['\n']) ++ Text.trimRight last := Text.join_concat '\n' lines _
  rw [hjoin, htrimmed, Text.trimRight_append_blanks _ hblank, Text.trimRight_append _ hlast]

/-- The first visible line as it stands in what it is trimmed to with the lines behind it. -/
def openingLine (first : Text) (after : List Text) : Text :=
  if after.all Text.isBlankText then Text.trim first else withoutReturn (Text.trimLeft first)

/-- Lines that are not all blank have a last visible one. -/
theorem exists_last_visible {lines : List Text} (hvisible : lines.all Text.isBlankText = false) :
    ∃ front last behind, lines = front ++ last :: behind ∧ Text.isBlankText last = false ∧
      ∀ line ∈ behind, Text.isBlankText line = true := by
  induction lines using List.reverseRecOn with
  | nil => cases hvisible
  | append_singleton lines line ih =>
      cases hline : Text.isBlankText line with
      | false => exact ⟨lines, line, [], rfl, hline, nofun⟩
      | true =>
          obtain ⟨front, last, behind, rfl, hlast, hbehind⟩ := ih (by simpa [hline] using hvisible)
          refine ⟨front, last, behind ++ [line], by simp, hlast, ?_⟩
          simpa [or_imp, forall_and, hline] using hbehind

/-- What some lines are trimmed to has the first visible line for its first one, and every other is
one of those behind it, less white space at the end. -/
theorem exists_documentLines_trim {before after : List Text} {first : Text}
    (hlines : ∀ line ∈ before ++ first :: after, '\n' ∉ line)
    (hbefore : ∀ line ∈ before, Text.isBlankText line = true)
    (hfirst : Text.isBlankText first = false) :
    ∃ rest, documentLines (Text.trim (Text.join "\n" (before ++ first :: after))) =
        openingLine first after :: rest ∧
      ∀ other ∈ rest, ∃ line ∈ after, ∃ back, line = other ++ back ∧
        ∀ c ∈ back, Text.isBlank c = true := by
  have htrimmed : Text.isBlankText (Text.trimLeft first) = false := by
    rwa [Text.isBlankText_trimLeft]
  have hopened : '\n' ∉ Text.trimLeft first := fun h =>
    hlines first (by simp) ((List.dropWhile_sublist Text.isBlank).subset h)
  rw [Text.trim, trimLeft_join hbefore hfirst, openingLine]
  cases hvisible : after.all Text.isBlankText with
  | true =>
      -- The only visible line is trimmed at both ends.
      have hone : Text.trimRight (Text.join "\n" ([] ++ Text.trimLeft first :: after)) =
          Text.join "\n" ([] ++ [Text.trim first]) :=
        trimRight_join htrimmed (List.all_eq_true.mp hvisible)
      have hline : '\n' ∉ Text.trim first := fun h =>
        hopened ((List.rdropWhile_prefix Text.isBlank _).subset h)
      rw [List.nil_append] at hone
      rw [hone, documentLines_join (List.forall_mem_nil _) hline]
      exact ⟨[], rfl, List.forall_mem_nil _⟩
  | false =>
      -- The first visible line keeps its end, and the last one its start.
      obtain ⟨front, last, behind, rfl, hlast, hbehind⟩ := exists_last_visible hvisible
      have hmore : Text.trimRight
            (Text.join "\n" ((Text.trimLeft first :: front) ++ last :: behind)) =
          Text.join "\n" ((Text.trimLeft first :: front) ++ [Text.trimRight last]) :=
        trimRight_join hlast hbehind
      have hfront : ∀ line ∈ Text.trimLeft first :: front, '\n' ∉ line :=
        List.forall_mem_cons.mpr ⟨hopened, fun line h => hlines line (by simp [h])⟩
      have hend : '\n' ∉ Text.trimRight last := fun h =>
        hlines last (by simp) ((List.rdropWhile_prefix Text.isBlank last).subset h)
      rw [List.cons_append] at hmore
      rw [hmore, documentLines_join hfront hend, List.map_cons]
      refine ⟨front.map withoutReturn ++ [Text.trimRight last], rfl, fun other hother => ?_⟩
      rcases List.mem_append.mp hother with hother | hother
      · obtain ⟨line, hline, rfl⟩ := List.mem_map.mp hother
        exact ⟨line, by simp [hline], exists_blanks_behind_withoutReturn line⟩
      · obtain rfl := List.mem_singleton.mp hother
        exact ⟨last, by simp, Text.exists_blanks_behind_trimRight last⟩

theorem Lined.ne_nil {text : Text} {lines : List Text} (hlined : Lined text lines) :
    lines ≠ [] := by
  cases hlined <;> exact List.cons_ne_nil _ _

theorem getLast?_join_cons (first : Text) {lines : List Text} {c : Char} (hsome : lines ≠ [])
    (hlast : (Text.join "\n" lines).getLast? = some c) :
    (Text.join "\n" (first :: lines)).getLast? = some c := by
  have hjoin : Text.join "\n" (first :: lines) = first ++ ['\n'] ++ Text.join "\n" lines :=
    (Text.join_append '\n' [first] hsome).trans (by simp)
  rw [hjoin, List.getLast?_append, hlast]
  rfl

theorem getLast?_behind_feed {line rest : Text} {c : Char}
    (hlast : (line ++ '\n' :: rest).getLast? = some c) (hc : Text.isBlank c = false) :
    rest.getLast? = some c := by
  cases rest with
  | nil =>
      obtain rfl : '\n' = c := by simpa using hlast
      cases hc
  | cons d rest =>
      rwa [List.getLast?_append_of_ne_nil _ (List.cons_ne_nil _ _),
        List.getLast?_cons_cons] at hlast

/-- What ends a text ends its lines, joined, unless it is white space. -/
theorem Lined.getLast?_join {text : Text} {lines : List Text} (hlined : Lined text lines) {c : Char}
    (hlast : text.getLast? = some c) (hc : Text.isBlank c = false) :
    (Text.join "\n" lines).getLast? = some c := by
  induction hlined with
  | last => rwa [Text.join_singleton]
  | @feed line _ _ _ _ hrest ih =>
      exact getLast?_join_cons line hrest.ne_nil (ih (getLast?_behind_feed hlast hc))
  | @returnFeed line rest _ _ hrest ih =>
      have hreturn : line ++ '\r' :: '\n' :: rest = (line ++ ['\r']) ++ '\n' :: rest := by simp
      rw [hreturn] at hlast
      exact getLast?_join_cons line hrest.ne_nil (ih (getLast?_behind_feed hlast hc))

/-- A line in front of white space is not empty where the text starts with something else. -/
theorem head?_join_cons {line rest : Text} {c d : Char} (lines : List Text)
    (hd : Text.isBlank d = true) (hfirst : (line ++ d :: rest).head? = some c)
    (hc : Text.isBlank c = false) : (Text.join "\n" (line :: lines)).head? = some c := by
  have hjoin : Text.join "\n" (line :: lines) = line ++ lines.flatMap ('\n' :: ·) :=
    Text.join_cons '\n' line lines
  rw [hjoin]
  cases line with
  | nil =>
      obtain rfl : d = c := by simpa using hfirst
      rw [hd] at hc
      cases hc
  | cons e line => simpa using hfirst

/-- What starts a text starts its lines, joined, unless it is white space. -/
theorem Lined.head?_join {text : Text} {lines : List Text} (hlined : Lined text lines) {c : Char}
    (hfirst : text.head? = some c) (hc : Text.isBlank c = false) :
    (Text.join "\n" lines).head? = some c := by
  cases hlined with
  | last => rwa [Text.join_singleton]
  | feed _ _ _ | returnFeed _ _ => exact head?_join_cons _ (by decide) hfirst hc

/-- The lines of a trimmed text are trimmed, joined. -/
theorem Lined.isTrimmed_join {text : Text} {lines : List Text} (hlined : Lined text lines)
    (htrimmed : Text.IsTrimmed text) (hsome : text ≠ []) :
    Text.IsTrimmed (Text.join "\n" lines) ∧ Text.isBlankText (Text.join "\n" lines) = false := by
  obtain ⟨c, rest, hcons⟩ := List.exists_cons_of_ne_nil hsome
  have hhead : text.head? = some c := by rw [hcons, List.head?_cons]
  have hc := htrimmed.1 c hhead
  have hfirst := hlined.head?_join hhead hc
  have hlast : (Text.join "\n" lines).getLast? = some (text.getLast hsome) :=
    hlined.getLast?_join (List.getLast?_eq_some_getLast hsome)
      (htrimmed.2 _ (List.getLast?_eq_some_getLast hsome))
  refine ⟨⟨fun d hd => ?_, fun d hd => ?_⟩, ?_⟩
  · rw [hfirst] at hd
    rwa [← Option.some.inj hd]
  · rw [hlast] at hd
    rw [← Option.some.inj hd]
    exact htrimmed.2 _ (List.getLast?_eq_some_getLast hsome)
  · refine Bool.eq_false_iff.mpr fun hblank => ?_
    have hink := List.all_eq_true.mp hblank c (List.mem_of_head? hfirst)
    rw [hc] at hink
    cases hink

/-- Lines without a heading are in front of the first one. -/
theorem outlineOf_of_title?_eq_none {lines : List Text}
    (hnone : ∀ line ∈ lines, title? line = none) :
    outlineOf lines = ⟨lines, []⟩ :=
  have houtlines : Outlines lines ⟨lines, []⟩ :=
    ⟨(List.append_nil lines).symm, fun line h => title?_eq_none_iff.mp (hnone line h), nofun⟩
  houtlines.eq_outlineOf.symm

/-- A trimmed text in which no line but the first can be a heading is one section. -/
theorem sections_of_isTrimmed {content line : Text} {rest : List Text}
    (htrimmed : Text.IsTrimmed content) (hsome : content ≠ [])
    (hlines : documentLines content = line :: rest) (hrest : ∀ other ∈ rest, title? other = none) :
    sections content = [⟨(title? line).getD untitled, Text.join "\n" (line :: rest)⟩] := by
  obtain ⟨hjoined, hvisible⟩ := (lined_iff.mpr rfl : Lined content _).isTrimmed_join htrimmed hsome
  rw [hlines] at hjoined hvisible
  have htrim := Text.trim_eq_self_iff.mpr hjoined
  have hbehind := outlineOf_of_title?_eq_none hrest
  have hgroup : ∀ title, sectionsOf [⟨title, line :: rest⟩] =
      [⟨title, Text.join "\n" (line :: rest)⟩] := by
    intro title
    rw [sectionsOf_cons, sectionOf_eq]
    change (if Text.isBlankText (Text.join "\n" (line :: rest)) = true then []
      else [Section.mk title (Text.trim (Text.join "\n" (line :: rest)))]) ++ [] = _
    rw [hvisible, htrim]
    rfl
  rw [sections_eq, hlines, outlineOf, hbehind]
  cases title? line with
  | none => exact hgroup untitled
  | some title => exact (sectionsOf_cons ⟨untitled, []⟩ _).trans (hgroup title)

/-- The first visible one of some lines. -/
def firstVisible? (lines : List Text) : Option Text :=
  lines.find? fun line => !Text.isBlankText line

/-- The title of the heading that a text starts with. -/
def titleInFront? (content : Text) : Option Text :=
  (documentLines content).head?.bind title?

theorem exists_blanks_behind_openingLine (first : Text) (after : List Text) :
    ∃ back, Text.trimLeft first = openingLine first after ++ back ∧
      ∀ c ∈ back, Text.isBlank c = true := by
  unfold openingLine
  split
  · exact Text.exists_blanks_behind_trimRight (Text.trimLeft first)
  · exact exists_blanks_behind_withoutReturn (Text.trimLeft first)

theorem title?_trimLeft_of_openingLine {first title : Text} {after : List Text}
    (htitle : title? (openingLine first after) = some title) :
    title? (Text.trimLeft first) = some title := by
  obtain ⟨back, hline, hback⟩ := exists_blanks_behind_openingLine first after
  rw [hline]
  exact title?_append_blanks hback htitle

theorem title?_openingLine {first title : Text} (after : List Text) (hvisible : title ≠ [])
    (htitle : title? (Text.trimLeft first) = some title) :
    title? (openingLine first after) = some title := by
  obtain ⟨back, hline, hback⟩ := exists_blanks_behind_openingLine first after
  rw [hline] at htitle
  exact title?_of_append_blanks hback hvisible htitle

/-- A heading without a visible title stays one where something visible follows and enough white
space is left behind its marks. -/
theorem title?_openingLine_eq_nil_iff {first : Text} {after : List Text} :
    title? (openingLine first after) = some [] ↔
      (∃ line ∈ after, Text.isBlankText line = false) ∧
        title? (withoutReturn (Text.trimLeft first)) = some [] := by
  have hvisible : (∃ line ∈ after, Text.isBlankText line = false) ↔
      after.all Text.isBlankText = false := by simp
  rw [hvisible, openingLine]
  cases after.all Text.isBlankText with
  | true =>
      have hnever : title? (Text.trim first) ≠ some [] := title?_trimRight_ne_nil _
      simp [hnever]
  | false => simp

/-- A group is blank just where all its lines are. -/
theorem Group.isBlankText_text_iff {group : Group} :
    Text.isBlankText group.text = true ↔ ∀ line ∈ group.lines, Text.isBlankText line = true := by
  simp only [Text.isBlankText, List.all_eq_true]
  constructor
  · exact fun hall line hline c hc => hall c ((Text.infix_join_of_mem hline).subset hc)
  · intro hall c hc
    rcases Text.mem_join hc with hc | ⟨line, hline, hc⟩
    · exact isBlank_feed c hc
    · exact hall line hline c hc

theorem Group.isBlankText_text_eq_false_iff {group : Group} :
    Text.isBlankText group.text = false ↔ ∃ line ∈ group.lines, Text.isBlankText line = false := by
  rw [← Bool.not_eq_true, Group.isBlankText_text_iff]
  simp

theorem firstVisible?_eq_some_iff {lines : List Text} {first : Text} :
    firstVisible? lines = some first ↔ Text.isBlankText first = false ∧
      ∃ before after, lines = before ++ first :: after ∧
        ∀ line ∈ before, Text.isBlankText line = true := by
  rw [firstVisible?, List.find?_eq_some_iff_append]
  simp

theorem titleInFront?_of_documentLines {content line : Text} {rest : List Text}
    (hlines : documentLines content = line :: rest) : titleInFront? content = title? line := by
  rw [titleInFront?, hlines]
  rfl

/-- The content of a group in which no line behind the first is a heading is one section, and the
only heading in it can be the first visible line, without its indent. -/
theorem Group.exists_sections_trim {group : Group} {before after : List Text} {first : Text}
    (hgroup : group.lines = before ++ first :: after)
    (hlines : ∀ line ∈ group.lines, '\n' ∉ line)
    (hbefore : ∀ line ∈ before, Text.isBlankText line = true)
    (hfirst : Text.isBlankText first = false) (hafter : ∀ line ∈ after, title? line = none) :
    ∃ rest, documentLines (Text.trim group.text) = openingLine first after :: rest ∧
      (∀ other ∈ rest, title? other = none) ∧
      sections (Text.trim group.text) =
        [⟨(title? (openingLine first after)).getD untitled,
          Text.join "\n" (openingLine first after :: rest)⟩] := by
  have hvisible : Text.trim group.text ≠ [] := by
    rw [ne_eq, ← Text.isBlankText_iff, Bool.not_eq_true, Group.isBlankText_text_eq_false_iff]
    exact ⟨first, by simp [hgroup], hfirst⟩
  rw [hgroup] at hlines
  obtain ⟨rest, hread, hrest⟩ := exists_documentLines_trim hlines hbefore hfirst
  rw [← hgroup] at hread
  have hnone : ∀ other ∈ rest, title? other = none := by
    intro other hother
    obtain ⟨line, hline, back, rfl, hback⟩ := hrest other hother
    by_contra hheading
    obtain ⟨title, htitle⟩ := Option.ne_none_iff_exists'.mp hheading
    have hlonger := title?_append_blanks hback htitle
    rw [hafter _ hline] at hlonger
    cases hlonger
  exact ⟨rest, hread, hnone,
    sections_of_isTrimmed (Text.isTrimmed_trim group.text) hvisible hread hnone⟩

/-- The lines of a document hold no line feed, and of the lines of a group only the first can be a
heading. -/
theorem Outlines.lines_of_group {text : Text} {outline : Outline}
    (houtlines : Outlines (documentLines text) outline) {group : Group}
    (hgroup : group ∈ outline.groups) :
    (∀ line ∈ group.lines, '\n' ∉ line) ∧ ∀ line ∈ group.lines.tail, title? line = none := by
  have hmem : ∀ line ∈ group.lines, line ∈ documentLines text := by
    intro line hline
    rw [houtlines.whole]
    rcases List.mem_cons.mp hgroup with rfl | hheaded
    · exact List.mem_append_left _ hline
    · exact List.mem_append_right _ (List.mem_flatMap.mpr ⟨group, hheaded, hline⟩)
  have hlined : Lined text (documentLines text) := lined_iff.mpr rfl
  refine ⟨fun line hline => hlined.not_mem line (hmem line hline), fun line hline => ?_⟩
  rcases List.mem_cons.mp hgroup with rfl | hheaded
  · exact title?_eq_none_iff.mpr (houtlines.front line (List.mem_of_mem_tail hline))
  · obtain ⟨heading, rest, -, hlines, -, -, hrest⟩ := houtlines.headed group hheaded
    rw [hlines] at hline
    exact title?_eq_none_iff.mpr (hrest line hline)

/-- The content of a section is one section again. -/
theorem Outlines.sections_of_mem {text : Text} {outline : Outline}
    (houtlines : Outlines (documentLines text) outline) {part : Section}
    (hpart : part ∈ sectionsOf outline.groups) :
    sections part.content = [⟨(titleInFront? part.content).getD untitled,
        Text.join "\n" (documentLines part.content)⟩] ∧
      ∀ line ∈ (documentLines part.content).tail, ∀ words, ¬ HeadingOf line words := by
  obtain ⟨group, hfilter, rfl⟩ := List.mem_map.mp hpart
  obtain ⟨hgroup, hvisible⟩ := List.mem_filter.mp hfilter
  obtain ⟨hfeeds, hbehind⟩ := houtlines.lines_of_group hgroup
  obtain ⟨first, hfound⟩ : ∃ first, firstVisible? group.lines = some first := by
    rw [← Option.isSome_iff_exists, firstVisible?, List.find?_isSome]
    simpa [Group.isBlankText_text_eq_false_iff] using hvisible
  obtain ⟨hfirst, before, after, hlines, hbefore⟩ := firstVisible?_eq_some_iff.mp hfound
  have hafter : ∀ line ∈ after, title? line = none := by
    refine fun line hline => hbehind line ?_
    rw [hlines]
    cases before <;> simp [hline]
  obtain ⟨rest, hread, hrest, hsections⟩ :=
    group.exists_sections_trim hlines hfeeds hbefore hfirst hafter
  refine ⟨?_, fun line hline => title?_eq_none_iff.mp (hrest line ?_)⟩
  · rw [titleInFront?_of_documentLines hread, hread]
    exact hsections
  · rwa [hread] at hline

/-- The content of a headed group starts with a heading of its title, unless the title is empty. -/
theorem Outlines.titleInFront?_of_headed {text : Text} {outline : Outline}
    (houtlines : Outlines (documentLines text) outline) {group : Group}
    (hgroup : group ∈ outline.headed) :
    ⟨group.title, Text.trim group.text⟩ ∈ sectionsOf outline.groups ∧
      ∃ heading rest, group.lines = heading :: rest ∧
        (titleInFront? (Text.trim group.text) = some group.title ↔ group.title ≠ [] ∨
          (∃ line ∈ rest, Text.isBlankText line = false) ∧
            title? (withoutReturn (Text.trimLeft heading)) = some []) := by
  have hmem : group ∈ outline.groups := List.mem_cons_of_mem _ hgroup
  obtain ⟨hfeeds, hbehind⟩ := houtlines.lines_of_group hmem
  obtain ⟨heading, rest, words, hlines, hheading, htitle, -⟩ := houtlines.headed group hgroup
  have hvisible := hheading.isBlankText_eq_false
  have hwhole : group.lines = [] ++ heading :: rest := hlines
  rw [hlines] at hbehind
  obtain ⟨_, hread, -, -⟩ := group.exists_sections_trim hwhole hfeeds nofun hvisible hbehind
  have hindented : title? (Text.trimLeft heading) = some group.title := by
    have hline := title?_eq_some_iff.mpr ⟨words, hheading, htitle⟩
    rw [title?_eq] at hline
    split at hline
    · exact hline
    · cases hline
  refine ⟨?_, heading, rest, hlines, ?_⟩
  · have hkept : Text.isBlankText group.text = false :=
      Group.isBlankText_text_eq_false_iff.mpr ⟨heading, by simp [hlines], hvisible⟩
    exact List.mem_map.mpr ⟨group, List.mem_filter.mpr ⟨hmem, by simp [hkept]⟩, rfl⟩
  · rw [titleInFront?_of_documentLines hread]
    by_cases hsome : group.title = []
    · rw [hsome, title?_openingLine_eq_nil_iff]
      simp
    · exact iff_of_true (title?_openingLine rest hsome hindented) (Or.inl hsome)

/-- A line that would be a heading of some title, were it not for its indent. -/
def IndentedTooFar (line title : Text) : Prop :=
  3 < (line.takeWhile Text.isBlank).length ∧ title? (Text.trimLeft line) = some title

/-- What stands before the first heading starts, trimmed, with the first visible line of it. -/
theorem Outlines.titleInFront?_front {text : Text} {outline : Outline}
    (houtlines : Outlines (documentLines text) outline) {first : Text}
    (hfound : firstVisible? outline.front = some first) :
    ∃ after, titleInFront? (Text.trim (Text.join "\n" outline.front)) =
      title? (openingLine first after) := by
  have hmem : Group.mk untitled outline.front ∈ outline.groups := List.mem_cons_self
  obtain ⟨hfeeds, -⟩ := houtlines.lines_of_group hmem
  obtain ⟨hfirst, before, after, hlines, hbefore⟩ := firstVisible?_eq_some_iff.mp hfound
  have hafter : ∀ line ∈ after, title? line = none := fun line hline =>
    title?_eq_none_iff.mpr (houtlines.front line (by rw [hlines]; simp [hline]))
  obtain ⟨_, hread, -, -⟩ := Group.exists_sections_trim hlines hfeeds hbefore hfirst hafter
  exact ⟨after, titleInFront?_of_documentLines hread⟩

/-- What stands before the first heading starts with one, trimmed, where its first visible line was
indented too far for that. -/
theorem Outlines.titleInFront?_front_iff {text : Text} {outline : Outline}
    (houtlines : Outlines (documentLines text) outline) (title : Text) :
    (titleInFront? (Text.trim (Text.join "\n" outline.front)) = some title →
        ∃ line, firstVisible? outline.front = some line ∧ IndentedTooFar line title) ∧
      ∀ line, firstVisible? outline.front = some line → IndentedTooFar line title → title ≠ [] →
        titleInFront? (Text.trim (Text.join "\n" outline.front)) = some title := by
  constructor
  · intro htitle
    cases hfound : firstVisible? outline.front with
    | none =>
        have hall : ∀ line ∈ outline.front, Text.isBlankText line = true := by
          simpa [firstVisible?] using hfound
        have hblank : Text.isBlankText (Group.mk untitled outline.front).text = true :=
          Group.isBlankText_text_iff.mpr hall
        have hnone : Text.trim (Text.join "\n" outline.front) = [] := Text.isBlankText_iff.mp hblank
        rw [hnone] at htitle
        cases htitle
    | some first =>
        obtain ⟨after, hfront⟩ := houtlines.titleInFront?_front hfound
        rw [hfront] at htitle
        have hindented := title?_trimLeft_of_openingLine htitle
        obtain ⟨-, before, _, hlines, -⟩ := firstVisible?_eq_some_iff.mp hfound
        have hnone : title? first = none :=
          title?_eq_none_iff.mpr (houtlines.front first (by rw [hlines]; simp))
        refine ⟨first, rfl, ?_, hindented⟩
        rw [title?_eq, hindented] at hnone
        by_contra hshort
        rw [if_pos (Nat.le_of_not_lt hshort)] at hnone
        cases hnone
  · rintro line hfound ⟨-, hindented⟩ hvisible
    obtain ⟨after, hfront⟩ := houtlines.titleInFront?_front hfound
    rw [hfront]
    exact title?_openingLine after hvisible hindented

/-- The content of a section is one section again, with the lines of the content, and no line of it
but the first can be a heading. What is read once more has these lines too, unless one of them ends
in a carriage return. A headed section starts with a heading of its title, unless the title is
empty; then it does just where something visible follows and white space enough is left behind the
marks. What stands before the first heading of a document starts with one just where its first
visible line was indented too far for that. -/
theorem sections_self_contained (text : Text) :
    ∃ outline, Outlines (documentLines text) outline ∧ sections text = sectionsOf outline.groups ∧
      (∀ part ∈ sections text,
        sections part.content = [⟨(titleInFront? part.content).getD untitled,
          Text.join "\n" (documentLines part.content)⟩] ∧
        (∀ line ∈ (documentLines part.content).tail, ∀ words, ¬ HeadingOf line words) ∧
        (documentLines (Text.join "\n" (documentLines part.content)) = documentLines part.content ↔
          ∀ line ∈ (documentLines part.content).dropLast, line.getLast? ≠ some '\r')) ∧
      (∀ group ∈ outline.headed, ⟨group.title, Text.trim group.text⟩ ∈ sections text ∧
        ∃ heading rest, group.lines = heading :: rest ∧
          (titleInFront? (Text.trim group.text) = some group.title ↔ group.title ≠ [] ∨
            (∃ line ∈ rest, Text.isBlankText line = false) ∧
              title? (withoutReturn (Text.trimLeft heading)) = some [])) ∧
      ∀ title, (titleInFront? (Text.trim (Text.join "\n" outline.front)) = some title →
          ∃ line, firstVisible? outline.front = some line ∧ IndentedTooFar line title) ∧
        ∀ line, firstVisible? outline.front = some line → IndentedTooFar line title → title ≠ [] →
          titleInFront? (Text.trim (Text.join "\n" outline.front)) = some title := by
  have houtlines := outlines_outlineOf (documentLines text)
  rw [sections_eq]
  refine ⟨_, houtlines, rfl, fun part hpart => ?_, fun group => houtlines.titleInFront?_of_headed,
    houtlines.titleInFront?_front_iff⟩
  obtain ⟨hsections, hrest⟩ := houtlines.sections_of_mem hpart
  have hlined : Lined part.content (documentLines part.content) := lined_iff.mpr rfl
  exact ⟨hsections, hrest, documentLines_join_eq_self_iff hlined.ne_nil hlined.not_mem⟩

/-- A line that is indented too far for a heading, and a heading with a line below it. -/
def mixedDocument : Text := "    # Deep\n\n## Alpha \r\nbody"

theorem outlineOf_mixedDocument : outlineOf (documentLines mixedDocument) =
    ⟨["    # Deep", ""], [⟨"Alpha", ["## Alpha ", "body"]⟩]⟩ := by
  cbv

/-- The section of the heading is read once more as it is, and the one in front of it starts with a
heading. -/
theorem sections_self_contained_mixedDocument :
    ⟨"Alpha", "## Alpha \nbody"⟩ ∈ sections mixedDocument ∧
      sections "## Alpha \nbody" = [⟨"Alpha", "## Alpha \nbody"⟩] ∧
      titleInFront? "# Deep" = some "Deep".toList := by
  obtain ⟨outline, houtlines, -, hparts, hheaded, hfront⟩ := sections_self_contained mixedDocument
  obtain rfl := outlines_iff.mp houtlines
  rw [outlineOf_mixedDocument] at hheaded hfront
  obtain ⟨hmem, heading, rest, -, htitle⟩ := hheaded _ (List.mem_singleton_self _)
  have htitled : titleInFront? "## Alpha \nbody" = some "Alpha".toList :=
    htitle.mpr (Or.inl (List.cons_ne_nil _ _))
  have hread : sections "## Alpha \nbody" = [⟨(titleInFront? "## Alpha \nbody").getD untitled,
      Text.join "\n" (documentLines "## Alpha \nbody")⟩] := (hparts _ hmem).1
  have hdeep : IndentedTooFar "    # Deep" "Deep" := by
    unfold IndentedTooFar
    decide +kernel
  rw [htitled] at hread
  exact ⟨hmem, hread, (hfront "Deep").2 _ rfl hdeep (List.cons_ne_nil _ _)⟩

/-- A line that is indented too far for a heading. -/
def indentedHeading : Text := "    # Title"

/-- It is untitled, and without its indent it is a heading. -/
theorem sections_indentedHeading :
    sections indentedHeading = [⟨untitled, "# Title"⟩] ∧
      sections "# Title" = [⟨"Title", "# Title"⟩] := by
  decide +kernel

end ScriptDocs.Markdown
