/-
# Tables of parameters

A table names its columns in its header, in any order, and each row below the dashes tells about
one parameter, in the columns of the header. Blank lines may stand anywhere, and the next heading or
the end of the lines ends the table. Such a table is read back as the parameters it was written for,
also where a cell mentions a name or a field as a header does: rows are told apart by their
place, and only dashes in the first cell would be taken for the line below the header.
-/

import ScriptDocs.Proofs.Text.Blank
import ScriptDocs.Proofs.Text.Letter
import ScriptDocs.Proofs.Text.Pieces
import ScriptDocs.Proofs.Text.Removal
import ScriptDocs.Reference.Page
import Mathlib.Data.List.Perm.Basic

namespace ScriptDocs.Reference

/-- The columns of a table. -/
inductive Column
  | name | type | description | required
  deriving DecidableEq, Repr

/-- The words that head a column. -/
def Column.headings : Column → List Text
  | name => ["Name".toList, "Field".toList]
  | type => ["Type".toList]
  | description => ["Description".toList]
  | required => ["Required".toList]

/-- What is written about a parameter in a column; what it lacks is an empty cell. -/
def Column.cell (parameter : Parameter) : Column → Text
  | name => parameter.name
  | type => parameter.type.getD []
  | description => parameter.description.getD []
  | required => if parameter.required = some true then "true" else "false"

/-- A tag for a line break, with white space and a slash in it or without. -/
def IsBreakTag (tag : Text) : Prop :=
  ∃ opening blanks slash, Text.Spells "<br" opening ∧ (∀ c ∈ blanks, Text.isBlank c = true) ∧
    (slash = [] ∨ slash = ['/']) ∧ tag = opening ++ (blanks ++ (slash ++ ['>']))

/-- A text that can be written into a cell and needs no cleaning there. -/
structure IsPlainCell (cell : Text) : Prop where
  trimmed : Text.IsTrimmed cell
  no_bar : '|' ∉ cell
  no_backtick : '`' ∉ cell
  no_break : ∀ tag, IsBreakTag tag → ¬ tag <:+: cell

/-- A parameter that a table can tell all about. -/
structure Parameter.Tabular (parameter : Parameter) : Prop where
  cells : ∀ column, IsPlainCell (Column.cell parameter column)
  name_ne_nil : parameter.name ≠ []
  type_ne_nil : parameter.type ≠ some []
  description_ne_nil : parameter.description ≠ some []
  required_ne_none : parameter.required ≠ none

/-- A text that does not look like the dashes below a header. -/
def NoDashes (cell : Text) : Prop :=
  ¬ "---".toList <+: cell ∧ ¬ ":---".toList <+: cell

/-- A cell with white space around it. -/
def Padded (cell padded : Text) : Prop :=
  ∃ front back, (∀ c ∈ front, Text.isBlank c = true) ∧ (∀ c ∈ back, Text.isBlank c = true) ∧
    padded = front ++ cell ++ back

/-- The line with the given parts between bars. -/
def barred (parts : List Text) : Text :=
  '|' :: parts.flatMap (· ++ ['|'])

/-- A line with the given cells between bars. -/
def IsRow (cells : List Text) (line : Text) : Prop :=
  ∃ padded, List.Forall₂ Padded cells padded ∧ line = barred padded

/-- The lines of a table with the columns in the given order: apart from blank lines the header, the
dashes, and a row for each parameter. -/
def Tabulates (order : List Column) (parameters : List Parameter) (lines : List Text) : Prop :=
  ∃ title : Column → Text, (∀ column, title column ∈ column.headings) ∧
    List.Forall₂ IsRow
      (order.map title :: order.map (fun _ => "---".toList) ::
        parameters.map fun parameter => order.map (Column.cell parameter))
      (lines.filter fun line => !Text.isBlankText line)

/-- What follows a tag for a line break in front of a text. -/
def behindBreakTag? (s : Text) : Option Text := do
  let rest ← Text.afterFrontAnyCase? "<br" s
  match Text.trimLeft rest with
  | '>' :: rest => some rest
  | '/' :: '>' :: rest => some rest
  | _ => none

theorem reads_breakTag : Text.Reads IsBreakTag behindBreakTag? where
  ne_nil tag htag := by
    obtain ⟨opening, blanks, slash, -, -, -, rfl⟩ := htag
    simp
  sound s rest hrest := by
    obtain ⟨behind, hbehind, hclosed⟩ := Option.bind_eq_some_iff.mp hrest
    obtain ⟨opening, hopening, rfl⟩ := Text.afterFrontAnyCase?_eq_some_iff.mp hbehind
    obtain ⟨blanks, hblanks, hsplit⟩ : ∃ blanks, (∀ c ∈ blanks, Text.isBlank c = true) ∧
        behind = blanks ++ Text.trimLeft behind :=
      ⟨_, fun c => List.mem_takeWhile_imp, List.takeWhile_append_dropWhile.symm⟩
    split at hclosed
    · rename_i after hafter
      obtain rfl := Option.some.inj hclosed
      refine ⟨_, ⟨opening, blanks, [], hopening, hblanks, Or.inl rfl, rfl⟩, ?_⟩
      rw [hsplit, hafter]
      simp
    · rename_i after hafter
      obtain rfl := Option.some.inj hclosed
      refine ⟨_, ⟨opening, blanks, ['/'], hopening, hblanks, Or.inr rfl, rfl⟩, ?_⟩
      rw [hsplit, hafter]
      simp
    · cases hclosed
  complete tag htag rest := by
    obtain ⟨opening, blanks, slash, hopening, hblanks, hslash, rfl⟩ := htag
    have hbehind : Text.afterFrontAnyCase? "<br"
        (opening ++ (blanks ++ (slash ++ ['>'])) ++ rest) =
          some (blanks ++ (slash ++ '>' :: rest)) :=
      Text.afterFrontAnyCase?_eq_some_iff.mpr ⟨opening, hopening, by simp⟩
    have htrim : Text.trimLeft (blanks ++ (slash ++ '>' :: rest)) = slash ++ '>' :: rest := by
      rw [Text.trimLeft, List.dropWhile_append_of_pos hblanks]
      rcases hslash with rfl | rfl <;> rfl
    rw [behindBreakTag?, hbehind]
    show (match Text.trimLeft (blanks ++ (slash ++ '>' :: rest)) with
      | '>' :: rest => some rest
      | '/' :: '>' :: rest => some rest
      | _ => none).isSome = true
    rw [htrim]
    rcases hslash with rfl | rfl <;> rfl

/-- A plain cell stays as it is. -/
theorem IsPlainCell.cleanCell_eq {cell : Text} (hplain : IsPlainCell cell) :
    cleanCell cell = cell := by
  have hticks : cell.filter (· ≠ '`') = cell := by
    rw [List.filter_eq_self]
    exact fun c hc => decide_eq_true fun h => hplain.no_backtick (h ▸ hc)
  have hnone : ¬ Text.Occurs breakTag cell := by
    rw [show breakTag = Text.reading [' '] behindBreakTag? from rfl, reads_breakTag.occurs_iff]
    rintro ⟨tag, htag, hpart⟩
    exact hplain.no_break tag htag hpart
  rw [cleanCell, hticks, Text.replaceMatches_eq_self hnone]
  exact Text.trim_eq_self_iff.mpr hplain.trimmed

section Rows

variable {cells : List Text} {line : Text}

theorem Padded.trim_eq {cell padded : Text} (hpadded : Padded cell padded)
    (htrimmed : Text.IsTrimmed cell) : Text.trim padded = cell := by
  obtain ⟨front, back, hfront, hback, rfl⟩ := hpadded
  rw [Text.trim_append_blanks _ hback, Text.trim_blanks_append hfront]
  exact Text.trim_eq_self_iff.mpr htrimmed

theorem Padded.no_bar {cell padded : Text} (hpadded : Padded cell padded) (hcell : '|' ∉ cell) :
    '|' ∉ padded := by
  obtain ⟨front, back, hfront, hback, rfl⟩ := hpadded
  have hbar : ∀ part : Text, (∀ c ∈ part, Text.isBlank c = true) → '|' ∉ part :=
    fun part hblank hmem => absurd (hblank '|' hmem) (by decide)
  simp [hbar front hfront, hcell, hbar back hback]

/-- The cells of a row are read back. -/
theorem IsRow.rowCells_eq (hrow : IsRow cells line)
    (hcells : ∀ cell ∈ cells, Text.IsTrimmed cell ∧ '|' ∉ cell) : rowCells line = cells := by
  obtain ⟨padded, hpadded, rfl⟩ := hrow
  have hread : (∀ part ∈ padded, '|' ∉ part) ∧ padded.map Text.trim = cells := by
    induction hpadded with
    | nil => exact ⟨nofun, rfl⟩
    | cons hfirst _ ih =>
        obtain ⟨⟨htrimmed, hbar⟩, hrest⟩ := List.forall_mem_cons.mp hcells
        obtain ⟨hbars, htrim⟩ := ih hrest
        exact ⟨List.forall_mem_cons.mpr ⟨hfirst.no_bar hbar, hbars⟩,
          by rw [List.map_cons, hfirst.trim_eq htrimmed, htrim]⟩
  have hpieces : Text.pieces '|' (barred padded) = [] :: (padded ++ [[]]) := by
    have hbehind := Text.pieces_flatMap_append hread.1 []
    rw [List.append_nil] at hbehind
    rw [barred, Text.pieces, if_pos rfl, hbehind]
    rfl
  rw [rowCells, hpieces, List.drop_one, List.tail_cons, List.dropLast_concat, hread.2]

theorem IsRow.isTrimmed (hrow : IsRow cells line) : Text.IsTrimmed line := by
  obtain ⟨padded, -, rfl⟩ := hrow
  constructor
  · rintro c ⟨⟩
    rfl
  · intro c hc
    rw [barred, ← Text.flatMap_cons_concat, List.getLast?_concat] at hc
    obtain rfl := Option.some.inj hc
    rfl

/-- A row is no heading. -/
theorem IsRow.isHeading_eq_false (hrow : IsRow cells line) : Markdown.isHeading line = false := by
  obtain ⟨padded, -, rfl⟩ := hrow
  rfl

/-- Behind the first line nothing counts of a row but its cells. -/
theorem IsRow.parametersFrom_cons (hrow : IsRow cells line)
    (hcells : ∀ cell ∈ cells, Text.IsTrimmed cell ∧ '|' ∉ cell) (columns : Columns) (header : Bool)
    (lines : List Text) :
    parametersFrom columns header (line :: lines) =
      if cells.head?.any isRule then parametersFrom columns header lines
      else if !header && looksLikeHeader cells then
        parametersFrom (Columns.ofHeader cells) true lines
      else (Parameter.ofRow? columns cells).toList ++ parametersFrom columns header lines := by
  have htrim : Text.trim line = line := Text.trim_eq_self_iff.mpr hrow.isTrimmed
  have hread := hrow.rowCells_eq hcells
  have hhead := hrow.isHeading_eq_false
  obtain ⟨padded, -, rfl⟩ := hrow
  rw [parametersFrom, if_neg (by simp [hhead]), htrim, hread]
  rfl

end Rows

/-- Blank lines are passed over. -/
theorem parametersFrom_of_blank {line : Text} (hblank : Text.isBlankText line = true)
    (columns : Columns) (header : Bool) (lines : List Text) :
    parametersFrom columns header (line :: lines) = parametersFrom columns header lines := by
  have htrim : Text.trim line = [] := Text.isBlankText_iff.mp hblank
  have hnone : line.dropWhile Text.isBlank = [] :=
    List.dropWhile_eq_nil_iff.mpr (List.all_eq_true.mp hblank)
  have hheading : Markdown.isHeading line = false := by
    simp [Markdown.isHeading, Markdown.afterMarks?, hnone]
  rw [parametersFrom, if_neg (by simp [hheading]), htrim]
  rfl

/-- All blank lines may be left out. -/
theorem parametersFrom_filter_append (columns : Columns) (header : Bool)
    (lines behind : List Text) :
    parametersFrom columns header (lines ++ behind) =
      parametersFrom columns header
        ((lines.filter fun line => !Text.isBlankText line) ++ behind) := by
  -- Columns are read on the way, so what is said of the rest must hold for all of them.
  induction lines generalizing columns header with
  | nil => rfl
  | cons line lines ih =>
      by_cases hblank : Text.isBlankText line = true
      · rw [List.cons_append, parametersFrom_of_blank hblank,
          List.filter_cons_of_neg (by simp [hblank]), ih]
      · rw [List.filter_cons_of_pos (by simp [hblank]), List.cons_append, List.cons_append]
        simp only [parametersFrom, ih]

/-- The next heading ends what is read. -/
theorem parametersFrom_of_heading {lines : List Text}
    (hends : ∀ next ∈ lines.head?, Markdown.isHeading next = true) (columns : Columns)
    (header : Bool) : parametersFrom columns header lines = [] := by
  cases lines with
  | nil => rfl
  | cons next lines => rw [parametersFrom, if_pos (hends next rfl)]

/-- The place of a column. -/
def Columns.at (columns : Columns) : Column → Option Nat
  | .name => columns.name
  | .type => columns.type
  | .description => columns.description
  | .required => columns.required

/-- A heading tells the place of its column and of no other one. -/
theorem Columns.at_withHeader {column : Column} {head : Text} (hhead : head ∈ column.headings)
    (columns : Columns) (place : Nat) (other : Column) :
    (columns.withHeader place head).at other = if other = column then some place
      else columns.at other := by
  cases column with
  | name =>
      rcases List.mem_pair.mp hhead with rfl | rfl <;> cases other <;> rfl
  | type | description | required =>
      obtain rfl := List.mem_singleton.mp hhead
      cases other <;> rfl

section Header

variable {order : List Column} {title : Column → Text}

/-- Each column of a header has the place of its heading. -/
theorem Columns.at_readHeader (htitle : ∀ column, title column ∈ column.headings)
    (hdistinct : order.Nodup) (columns : Columns) (place : Nat) (column : Column) :
    (columns.readHeader place (order.map title)).at column =
      if column ∈ order then some (place + order.idxOf column) else columns.at column := by
  induction order generalizing columns place with
  | nil => rfl
  | cons first order ih =>
      -- A second heading of the same column would take the place of the first one.
      obtain ⟨hnew, hrest⟩ := List.nodup_cons.mp hdistinct
      rw [List.map_cons, Columns.readHeader, ih hrest, Columns.at_withHeader (htitle first)]
      by_cases hfirst : column = first
      · subst hfirst
        rw [if_neg hnew, if_pos rfl, if_pos List.mem_cons_self, List.idxOf_cons_self]
        rfl
      · rw [if_neg hfirst, List.idxOf_cons_ne _ (Ne.symm hfirst)]
        simp only [List.mem_cons, hfirst, false_or]
        split
        · rw [Nat.add_assoc, Nat.add_comm 1]
        · rfl

/-- Under a header a row has in each column what was written there. -/
theorem cellAt_ofHeader (htitle : ∀ column, title column ∈ column.headings)
    (hdistinct : order.Nodup) (cellOf : Column → Text) {column : Column} (hmem : column ∈ order) :
    cellAt (order.map cellOf) ((Columns.ofHeader (order.map title)).at column) = cellOf column := by
  rw [Columns.ofHeader, Columns.at_readHeader htitle hdistinct, if_pos hmem, Nat.zero_add, cellAt,
    Option.bind_some, List.getElem?_map, List.getElem?_idxOf hmem]
  rfl

end Header

theorem nonempty?_getD {told : Option Text} (hsome : told ≠ some []) :
    nonempty? (told.getD []) = told := by
  cases told with
  | none => rfl
  | some words =>
      have hwords : words ≠ [] := fun h => hsome (congrArg some h)
      simp [nonempty?, hwords]

/-- A parameter is read back from what was written about it. -/
theorem Parameter.Tabular.ofRow?_eq {parameter : Parameter} (htabular : parameter.Tabular)
    {columns : Columns} {cells : List Text}
    (hcells : ∀ column, cellAt cells (columns.at column) = Column.cell parameter column) :
    Parameter.ofRow? columns cells = some parameter := by
  have hclean : ∀ column, cleanCell (cellAt cells (columns.at column)) =
      Column.cell parameter column := fun column => by
    rw [hcells, (htabular.cells column).cleanCell_eq]
  have hname : cleanCell (cellAt cells columns.name) = parameter.name := hclean .name
  have htype : nonempty? (cleanCell (cellAt cells columns.type)) = parameter.type := by
    rw [show cleanCell (cellAt cells columns.type) = _ from hclean .type]
    exact nonempty?_getD htabular.type_ne_nil
  have hdescription : nonempty? (cleanCell (cellAt cells columns.description)) =
      parameter.description := by
    rw [show cleanCell (cellAt cells columns.description) = _ from hclean .description]
    exact nonempty?_getD htabular.description_ne_nil
  have hrequired : some (["true", "yes", "required"].any fun word =>
      Text.containsAnyCase word.toList (cellAt cells columns.required)) = parameter.required := by
    rw [show cellAt cells columns.required = _ from hcells .required]
    cases htold : parameter.required with
    | none => exact absurd htold htabular.required_ne_none
    | some required =>
        rw [Column.cell, htold]
        cases required <;> rfl
  rw [Parameter.ofRow?]
  simp only [hname, htype, hdescription, hrequired]
  rw [if_neg (by simpa using htabular.name_ne_nil)]

theorem NoDashes.isRule_eq_false {cell : Text} (hcell : NoDashes cell) : isRule cell = false := by
  have hnone : ∀ s : Text, ¬ "---".toList <+: s → Text.startsWith "---" s = false := by
    intro s hs
    rw [Text.startsWith, Text.afterFront?_eq_none_iff.mpr hs]
    rfl
  apply hnone
  split
  · exact fun h => hcell.2 (List.cons_prefix_cons.mpr ⟨rfl, h⟩)
  · exact hcell.1

section Tables

variable {order : List Column} {parameters : List Parameter} {columns : Columns}

theorem any_isRule_map {cellOf : Column → Text}
    (hfirst : ∀ first ∈ order.head?, isRule (cellOf first) = false) :
    (order.map cellOf).head?.any isRule = false := by
  rw [List.head?_map, Option.any_map]
  cases hhead : order.head? with
  | none => rfl
  | some first => exact hfirst first hhead

/-- Behind the header the rows give their parameters. -/
theorem parametersFrom_rows
    (hcolumns : ∀ cellOf column, cellAt (order.map cellOf) (columns.at column) = cellOf column)
    (hparameters : ∀ parameter ∈ parameters, parameter.Tabular ∧
      ∀ first ∈ order.head?, NoDashes (first.cell parameter)) {rows : List Text}
    (hrows : List.Forall₂ IsRow
      (parameters.map fun parameter => order.map (Column.cell parameter)) rows)
    (behind : List Text) :
    parametersFrom columns true (rows ++ behind) =
      parameters ++ parametersFrom columns true behind := by
  induction parameters generalizing rows with
  | nil =>
      cases hrows
      rfl
  | cons parameter parameters ih =>
      obtain ⟨⟨htabular, hdashes⟩, hothers⟩ := List.forall_mem_cons.mp hparameters
      obtain ⟨row, rows, hrow, hrest, rfl⟩ := List.forall₂_cons_left_iff.mp hrows
      have hplain : ∀ cell ∈ order.map (Column.cell parameter),
          Text.IsTrimmed cell ∧ '|' ∉ cell :=
        List.forall_mem_map.mpr fun column _ =>
          ⟨(htabular.cells column).trimmed, (htabular.cells column).no_bar⟩
      have hnorule : (order.map (Column.cell parameter)).head?.any isRule = false :=
        any_isRule_map fun first hfirst => (hdashes first hfirst).isRule_eq_false
      have hread := htabular.ofRow?_eq (hcolumns (Column.cell parameter))
      rw [List.cons_append, hrow.parametersFrom_cons hplain, hnorule, hread, ih hothers hrest]
      rfl

/-- A heading of a column can be written into a cell, and looks like no dashes. -/
theorem Column.plain_of_mem_headings {column : Column} {head : Text}
    (hhead : head ∈ column.headings) :
    (Text.IsTrimmed head ∧ '|' ∉ head) ∧ isRule head = false := by
  cases column with
  | name =>
      rcases List.mem_pair.mp hhead with rfl | rfl
      · exact ⟨⟨Text.trim_eq_self_iff.mp rfl, by decide⟩, rfl⟩
      · exact ⟨⟨Text.trim_eq_self_iff.mp rfl, by decide⟩, rfl⟩
  | type | description | required =>
      obtain rfl := List.mem_singleton.mp hhead
      exact ⟨⟨Text.trim_eq_self_iff.mp rfl, by decide⟩, rfl⟩

/-- The header and the dashes below it make way for the rows. -/
theorem parametersFrom_header {title : Column → Text}
    (htitle : ∀ column, title column ∈ column.headings) (hname : Column.name ∈ order)
    {header dashes : Text} (hheader : IsRow (order.map title) header)
    (hdashes : IsRow (order.map fun _ => "---".toList) dashes) (lines : List Text) :
    parametersFrom Columns.usual false (header :: dashes :: lines) =
      parametersFrom (Columns.ofHeader (order.map title)) true lines := by
  have hplain : ∀ cell ∈ order.map title, Text.IsTrimmed cell ∧ '|' ∉ cell :=
    List.forall_mem_map.mpr fun column _ => (Column.plain_of_mem_headings (htitle column)).1
  have hnorule : (order.map title).head?.any isRule = false :=
    any_isRule_map fun first _ => (Column.plain_of_mem_headings (htitle first)).2
  have hlooks : looksLikeHeader (order.map title) = true := by
    rw [looksLikeHeader, List.any_eq_true]
    refine ⟨title .name, List.mem_map_of_mem hname, ?_⟩
    rcases List.mem_pair.mp (htitle .name) with h | h <;> rw [h] <;> rfl
  have hrule : (order.map fun _ => "---".toList).head?.any isRule = true := by
    obtain ⟨first, others, rfl⟩ := List.exists_cons_of_ne_nil (List.ne_nil_of_mem hname)
    rfl
  have hdashed : ∀ cell ∈ order.map fun _ => "---".toList, Text.IsTrimmed cell ∧ '|' ∉ cell :=
    List.forall_mem_map.mpr fun _ _ => ⟨Text.trim_eq_self_iff.mp rfl, by decide⟩
  have hfirst : parametersFrom Columns.usual false (header :: dashes :: lines) =
      parametersFrom (Columns.ofHeader (order.map title)) true (dashes :: lines) := by
    rw [hheader.parametersFrom_cons hplain, hnorule, hlooks]
    rfl
  rw [hfirst, hdashes.parametersFrom_cons hdashed, hrule, if_pos rfl]

theorem lineWith?_append {test : Text → Bool} {above below : List Text} {line : Text}
    (habove : ∀ earlier ∈ above, test earlier = false) (hline : test line = true) :
    lineWith? test (above ++ line :: below) = some (line, below) := by
  induction above with
  | nil => rw [List.nil_append, lineWith?, if_pos hline]
  | cons earlier above ih =>
      obtain ⟨hearlier, hothers⟩ := List.forall_mem_cons.mp habove
      rw [List.cons_append, lineWith?, if_neg (by simp [hearlier]), ih hothers]

/-- A table of parameters is read back, whatever the order of its columns: below its heading, up to
the next one, and so in a document in which no heading for parameters stands above. -/
theorem parametersBelow_table {table behind : List Text}
    (horder : order.Perm [.name, .type, .description, .required])
    (hparameters : ∀ parameter ∈ parameters, parameter.Tabular ∧
      ∀ first ∈ order.head?, NoDashes (first.cell parameter))
    (htable : Tabulates order parameters table)
    (hbehind : ∀ next ∈ behind.head?, Markdown.isHeading next = true) :
    parametersBelow (table ++ behind) = parameters ∧
      ∀ content above heading, linesOf content = above ++ heading :: (table ++ behind) →
        (∀ line ∈ above, Markdown.isHeadingOf "Parameters" line = false) →
        Markdown.isHeadingOf "Parameters" heading = true →
        headedParameters content = parameters := by
  have hread : parametersBelow (table ++ behind) = parameters := by
    obtain ⟨title, htitle, hlines⟩ := htable
    have hdistinct : order.Nodup := horder.nodup_iff.mpr (by decide)
    have hall : ∀ column, column ∈ order := fun column =>
      horder.mem_iff.mpr (by cases column <;> decide)
    have hcolumns : ∀ cellOf column, cellAt (order.map cellOf)
        ((Columns.ofHeader (order.map title)).at column) = cellOf column := fun cellOf column =>
      cellAt_ofHeader htitle hdistinct cellOf (hall column)
    obtain ⟨header, lines, hheader, hlines, hsplit⟩ := List.forall₂_cons_left_iff.mp hlines
    obtain ⟨dashes, rows, hdashes, hrows, rfl⟩ := List.forall₂_cons_left_iff.mp hlines
    rw [parametersBelow, parametersFrom_filter_append, hsplit, List.cons_append, List.cons_append,
      parametersFrom_header htitle (hall .name) hheader hdashes,
      parametersFrom_rows hcolumns hparameters hrows, parametersFrom_of_heading hbehind,
      List.append_nil]
  refine ⟨hread, fun content above heading hcontent habove hheading => ?_⟩
  rw [headedParameters, hcontent, lineWith?_append habove hheading]
  exact hread

end Tables

theorem isRow_barred (parts : List Text) : IsRow (parts.map Text.trim) (barred parts) := by
  refine ⟨parts, List.forall₂_map_left_iff.mpr (List.forall₂_same.mpr fun part _ => ?_), rfl⟩
  obtain ⟨front, back, hpart, hfront, hback⟩ := Text.exists_blanks_around_trim part
  exact ⟨front, back, hfront, hback, hpart⟩

/-- No tag is in a text without closing brackets. -/
theorem isPlainCell_of_trim_eq {cell : Text} (htrim : Text.trim cell = cell)
    (hmarks : '|' ∉ cell ∧ '`' ∉ cell ∧ '>' ∉ cell) : IsPlainCell cell where
  trimmed := Text.trim_eq_self_iff.mp htrim
  no_bar := hmarks.1
  no_backtick := hmarks.2.1
  no_break tag htag hpart := by
    obtain ⟨opening, blanks, slash, -, -, -, rfl⟩ := htag
    exact hmarks.2.2 (hpart.subset (by simp))

/-- A table with an optional column in front, whose cells speak of names and fields. -/
def fieldTable : List Text :=
  ["", "|Description| Required |Field| Type |", "| --- | --- | --- | --- |", "  ",
    "|| true | target | |", "", "| The name of a field | false | label | Name |"].map String.toList

def fieldParameters : List Parameter :=
  [{ name := "target", required := some true },
    { name := "label", description := some "The name of a field", type := some "Name",
      required := some false }]

theorem parametersBelow_table_fieldTable :
    let order := [Column.description, .required, .name, .type]
    let behind := ["## Example", "| none | true | a | b |"].map String.toList
    let content := Text.join "\n" (["# Parameter", "### parameters"].map String.toList ++
      (fieldTable ++ behind))
    (order.Perm [.name, .type, .description, .required] ∧
      (∀ parameter ∈ fieldParameters, parameter.Tabular ∧
        ∀ first ∈ order.head?, NoDashes (first.cell parameter)) ∧
      Tabulates order fieldParameters fieldTable ∧
      ∀ next ∈ behind.head?, Markdown.isHeading next = true) ∧
    parametersBelow (fieldTable ++ behind) = fieldParameters ∧
      headedParameters content = fieldParameters := by
  intro order behind content
  have horder : order.Perm [.name, .type, .description, .required] := by decide
  have hparameters : ∀ parameter ∈ fieldParameters, parameter.Tabular ∧
      ∀ first ∈ order.head?, NoDashes (first.cell parameter) := by
    have hcells : ∀ parameter ∈ fieldParameters, ∀ column ∈ order,
        Text.trim (column.cell parameter) = column.cell parameter ∧
          '|' ∉ column.cell parameter ∧ '`' ∉ column.cell parameter ∧
            '>' ∉ column.cell parameter := by
      decide +kernel
    have htold : ∀ parameter ∈ fieldParameters, parameter.name ≠ [] ∧
        parameter.type ≠ some [] ∧ parameter.description ≠ some [] ∧ parameter.required ≠ none := by
      decide +kernel
    have hdashes : ∀ parameter ∈ fieldParameters, ∀ first ∈ order.head?,
        NoDashes (first.cell parameter) := by
      unfold NoDashes
      decide +kernel
    intro parameter hmem
    obtain ⟨hname, htype, hdescription, hrequired⟩ := htold parameter hmem
    refine ⟨⟨fun column => ?_, hname, htype, hdescription, hrequired⟩, hdashes parameter hmem⟩
    obtain ⟨htrim, hmarks⟩ := hcells parameter hmem column (by cases column <;> decide)
    exact isPlainCell_of_trim_eq htrim hmarks
  have htable : Tabulates order fieldParameters fieldTable := by
    let title : Column → Text
      | .name => "Field"
      | .type => "Type"
      | .description => "Description"
      | .required => "Required"
    let written : List (List Text) :=
      [["Description", " Required ", "Field", " Type "], [" --- ", " --- ", " --- ", " --- "],
        ["", " true ", " target ", " "],
        [" The name of a field ", " false ", " label ", " Name "]].map (·.map String.toList)
    have hcells : order.map title :: order.map (fun _ => "---".toList) ::
        fieldParameters.map (fun parameter => order.map (Column.cell parameter)) =
        written.map (·.map Text.trim) := by
      decide +kernel
    have hlines : fieldTable.filter (fun line => !Text.isBlankText line) = written.map barred := by
      decide +kernel
    refine ⟨title, fun column => by cases column <;> decide, ?_⟩
    rw [hcells, hlines, List.forall₂_map_left_iff, List.forall₂_map_right_iff]
    exact List.forall₂_same.mpr fun parts _ => isRow_barred parts
  have hbehind : ∀ next ∈ behind.head?, Markdown.isHeading next = true := by decide +kernel
  obtain ⟨hread, hdocument⟩ := parametersBelow_table horder hparameters htable hbehind
  refine ⟨⟨horder, hparameters, htable, hbehind⟩, hread, ?_⟩
  exact hdocument content ["# Parameter"] "### parameters" (by decide +kernel) (by decide +kernel)
    (by decide +kernel)

end ScriptDocs.Reference
