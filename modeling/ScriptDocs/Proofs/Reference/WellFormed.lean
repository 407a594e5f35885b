/-
# Well-formed pages

Each field of a page has several origins: front matter, headings, mentions and calls of the
function, tables, lists and brackets, and at last the joined text of all passages. Every origin
keeps the rule of its field, so that one more passage keeps all rules and so do all passages.
-/

import ScriptDocs.Proofs.Reference.Gathering
import ScriptDocs.Proofs.Text.Blank
import ScriptDocs.Proofs.Text.Pieces
import ScriptDocs.Server.View

namespace ScriptDocs

namespace Text

theorem exists_visible_of_trim {s : Text} (hsome : trim s ≠ []) :
    ∃ c ∈ trim s, isBlank c = false :=
  isBlankText_eq_false_iff.mp ((isTrimmed_trim s).isBlankText_eq_false hsome)

/-- The code points of white space. -/
def blankCodes : List Nat :=
  List.range' 9 5 ++ List.range' 0x1C 5 ++ [0x85, 0xA0, 0x1680] ++ List.range' 0x2000 11 ++
    [0x2028, 0x2029, 0x202F, 0x205F, 0x3000]

theorem toNat_mem_blankCodes {c : Char} (hblank : isBlank c = true) : c.toNat ∈ blankCodes := by
  simp only [isBlank, Bool.or_eq_true, Bool.and_eq_true, decide_eq_true_eq, beq_iff_eq] at hblank
  simp only [blankCodes, List.mem_append, List.mem_range'_1, List.mem_cons, List.not_mem_nil,
    or_false]
  omega

/-- A word character is no white space. -/
theorem isBlank_of_isWord {c : Char} (hword : isWord c = true) : isBlank c = false := by
  -- There are few code points of white space and many of word characters.
  have hcodes : ∀ n ∈ blankCodes, isWord (Char.ofNat n) = false := by decide +kernel
  rw [Bool.eq_false_iff]
  intro hblank
  have hother := hcodes c.toNat (toNat_mem_blankCodes hblank)
  rw [Char.ofNat_toNat, hword] at hother
  cases hother

end Text

namespace Reference

theorem nonempty?_eq_some_iff {s t : Text} : nonempty? s = some t ↔ s = t ∧ s ≠ [] := by
  cases s <;> simp [nonempty?]

/-- A text of one to 600 characters. -/
def IsDescription (words : Text) : Prop :=
  1 ≤ words.length ∧ words.length ≤ 600

theorem isDescription_take {words : Text} (hsome : words ≠ []) :
    IsDescription (words.take descriptionLimit) := by
  have hpos := List.length_pos_iff.mpr hsome
  rw [IsDescription, List.length_take, descriptionLimit]
  omega

/-- Lines that are joined to a description hold something. -/
theorem ne_nil_of_mem_proseLines {stopAtBlank : Bool} {lines : List Text} {words : Text}
    (hwords : words ∈ proseLines stopAtBlank lines) : words ≠ [] := by
  induction lines with
  | nil => cases hwords
  | cons line lines ih =>
      unfold proseLines at hwords
      dsimp only at hwords
      split_ifs at hwords with hheading hblank
      · cases hwords
      · cases hwords
      · exact ih hwords
      · rcases List.mem_cons.mp hwords with rfl | hlater
        · exact fun hnone => hblank (List.isEmpty_iff.mpr hnone)
        · exact ih hlater

theorem isDescription_describing? {stopAtBlank : Bool} {lines : List Text} {words : Text}
    (hfound : describing? (proseLines stopAtBlank lines) = some words) : IsDescription words := by
  unfold describing? at hfound
  split_ifs at hfound with hnone
  obtain rfl := Option.some.inj hfound
  rw [List.isEmpty_iff] at hnone
  obtain ⟨first, others, hlines⟩ := List.exists_cons_of_ne_nil hnone
  have hfirst : first ∈ proseLines stopAtBlank lines := hlines ▸ List.mem_cons_self
  refine isDescription_take fun hjoined => ne_nil_of_mem_proseLines hfirst ?_
  exact List.infix_nil.mp (hjoined ▸ Text.infix_join_of_mem hfirst)

theorem isDescription_frontMatterDescription? {content words : Text}
    (hfound : frontMatterDescription? content = some words) : IsDescription words := by
  simp only [frontMatterDescription?, Option.bind_eq_bind, Option.bind_eq_some_iff] at hfound
  obtain ⟨body, -, rest, -, hwords⟩ := hfound
  obtain ⟨rfl, hsome⟩ := nonempty?_eq_some_iff.mp hwords
  exact isDescription_take fun hnone => hsome (by rw [hnone, List.take_nil])

theorem isDescription_headedDescription? {content words : Text}
    (hfound : headedDescription? content = some words) : IsDescription words := by
  simp only [headedDescription?, Option.bind_eq_bind, Option.bind_eq_some_iff] at hfound
  obtain ⟨⟨line, below⟩, -, hwords⟩ := hfound
  exact isDescription_describing? hwords

theorem isDescription_mentionedDescription? {sigiled content words : Text}
    (hfound : mentionedDescription? sigiled content = some words) : IsDescription words := by
  simp only [mentionedDescription?, Option.bind_eq_bind, Option.bind_eq_some_iff] at hfound
  obtain ⟨⟨line, below⟩, -, hwords⟩ := hfound
  split_ifs at hwords with hprose
  · obtain rfl := Option.some.inj hwords
    exact isDescription_take hprose.1
  · exact isDescription_describing? hwords

/-- A parameter whose name has a visible character. -/
def Parameter.IsNamed (parameter : Parameter) : Prop :=
  ∃ c ∈ parameter.name, Text.isBlank c = false

theorem isNamed_ofRow? {columns : Columns} {cells : List Text} {parameter : Parameter}
    (hrow : Parameter.ofRow? columns cells = some parameter) : parameter.IsNamed := by
  unfold Parameter.ofRow? at hrow
  dsimp only at hrow
  split_ifs at hrow with hnone
  obtain rfl := Option.some.inj hrow
  exact Text.exists_visible_of_trim fun hempty => hnone (List.isEmpty_iff.mpr hempty)

/-- A listed name begins where its text begins. -/
theorem head?_of_listedName? {s name description : Text}
    (hfound : listedName? s = some (name, description)) :
    ∃ c rest, s = c :: rest ∧ c ∈ name := by
  cases s with
  | nil => cases hfound
  | cons c s =>
      refine ⟨c, s, rfl, ?_⟩
      unfold listedName? at hfound
      split_ifs at hfound
      split at hfound
      · obtain ⟨rfl, -⟩ := Prod.mk.inj (Option.some.inj hfound)
        exact List.mem_cons_self
      · obtain ⟨words, -, hwords⟩ := Option.map_eq_some_iff.mp hfound
        obtain ⟨rfl, -⟩ := Prod.mk.inj hwords
        exact List.mem_cons_self

theorem isNamed_ofItem? {item : Text} {parameter : Parameter}
    (hitem : Parameter.ofItem? item = some parameter) : parameter.IsNamed := by
  unfold Parameter.ofItem? at hitem
  split at hitem
  · rename_i mark s
    dsimp only at hitem
    split_ifs at hitem with hmark hword
    obtain ⟨⟨name, description⟩, hname, rfl⟩ := Option.map_eq_some_iff.mp hitem
    obtain ⟨c, rest, hs, hc⟩ := head?_of_listedName? hname
    rw [hs] at hword
    exact ⟨c, hc, Text.isBlank_of_isWord hword⟩
  · cases hitem

/-- Rows and items without a visible name are passed over. -/
theorem isNamed_of_mem_parametersFrom {columns : Columns} {header : Bool} {lines : List Text}
    {parameter : Parameter} (hmem : parameter ∈ parametersFrom columns header lines) :
    parameter.IsNamed := by
  induction lines generalizing columns header with
  | nil => cases hmem
  | cons line lines ih =>
      unfold parametersFrom at hmem
      dsimp only at hmem
      split_ifs at hmem
      · cases hmem
      · exact ih hmem
      · exact ih hmem
      · exact ih hmem
      · exact (List.mem_append.mp hmem).elim
          (fun hrow => isNamed_ofRow? (Option.mem_toList.mp hrow)) ih
      · exact (List.mem_append.mp hmem).elim
          (fun hitem => isNamed_ofItem? (Option.mem_toList.mp hitem)) ih

theorem isNamed_of_mem_headedParameters {content : Text} {parameter : Parameter}
    (hmem : parameter ∈ headedParameters content) : parameter.IsNamed := by
  unfold headedParameters at hmem
  split at hmem
  · exact isNamed_of_mem_parametersFrom hmem
  · cases hmem

/-- A part in brackets that spells no name is numbered. -/
theorem isNamed_of_mem_parametersOfSyntax {line : Text} {parameter : Parameter}
    (hmem : parameter ∈ parametersOfSyntax line) : parameter.IsNamed := by
  unfold parametersOfSyntax at hmem
  split at hmem
  · cases hmem
  · obtain ⟨⟨part, number⟩, -, rfl⟩ := List.mem_map.mp hmem
    rw [Parameter.IsNamed]
    dsimp only
    split_ifs with hnone
    · exact ⟨'p', List.mem_append_left _ (by decide), by decide⟩
    · exact Text.exists_visible_of_trim fun hempty => hnone (List.isEmpty_iff.mpr hempty)

namespace Page

/-- What holds of a page while it is gathered. -/
structure Sound (page : Page) : Prop where
  description : ∀ words, page.description = some words → IsDescription words
  named : ∀ parameter ∈ page.parameters, parameter.IsNamed
  examples : page.examples.length ≤ 3
  sources : [] ∉ page.sources

/-- What holds of a finished page. The parameters are told as null or as a list with items. -/
structure WellFormed (page : Page) : Prop extends Sound page where
  distinct : page.sources.Nodup
  parameters : Server.parametersView page.parameters = .null ∨
    ∃ first others, Server.parametersView page.parameters = .list (first :: others)

/-- Parameters that are filled in where none are given. -/
theorem named_of_filled {given others : List Parameter}
    (hgiven : ∀ parameter ∈ given, parameter.IsNamed)
    (hothers : ∀ parameter ∈ others, parameter.IsNamed) :
    ∀ parameter ∈ if given.isEmpty then others else given, parameter.IsNamed := by
  split_ifs
  · exact hothers
  · exact hgiven

/-- One more passage keeps the rules, from whichever of its parts a field is filled. -/
theorem Sound.absorb {page : Page} (hpage : page.Sound) (passage : Passage) :
    (page.absorb passage).Sound where
  description := by
    intro words hwords
    simp only [Page.absorb, Option.orElse_eq_orElse, Option.orElse_eq_or, Option.or_eq_some_iff]
      at hwords
    rcases hwords with hkept | ⟨-, hfront | ⟨-, hheaded | ⟨-, hmentioned⟩⟩⟩
    · exact hpage.description words hkept
    · exact isDescription_frontMatterDescription? hfront
    · exact isDescription_headedDescription? hheaded
    · exact isDescription_mentionedDescription? hmentioned
  named := by
    refine named_of_filled (named_of_filled hpage.named fun _ => isNamed_of_mem_headedParameters) ?_
    intro parameter hmem
    cases hline : page.syntaxLine <|> syntaxIn? page.function passage.content with
    | none => simp [hline] at hmem
    | some line =>
        rw [hline] at hmem
        exact isNamed_of_mem_parametersOfSyntax hmem
  examples := List.length_take_le _ _
  sources := by
    dsimp only [Page.absorb]
    rw [List.mem_append, not_or]
    refine ⟨hpage.sources, fun hmem => ?_⟩
    obtain ⟨hnone, hsome⟩ := nonempty?_eq_some_iff.mp (Option.mem_toList.mp hmem)
    exact hsome hnone

theorem length_firstExamples_le (text : Text) : (firstExamples text).length ≤ 3 := by
  dsimp only [firstExamples]
  rw [distinct_eq_firstOfEach]
  exact (firstOfEach_sublist id _).length_le.trans (List.length_take_le _ _)

/-- The joined text fills in parameters where none is described, and never takes any away. -/
theorem parameters_completed (page : Page) (joined : Text) :
    ((page.withDetails joined).withExamples joined).parameters =
      if page.lacksDetails ∧ headedParameters joined ≠ [] then headedParameters joined
      else page.parameters := by
  have hexamples : ((page.withDetails joined).withExamples joined).parameters =
      (page.withDetails joined).parameters := by
    dsimp only [withExamples]
    split_ifs <;> rfl
  rw [hexamples, withDetails]
  by_cases hlacks : page.lacksDetails = true
  · by_cases hnone : headedParameters joined = []
    · simp [hlacks, hnone]
    · simp [hlacks, hnone]
  · simp [hlacks]

/-- The joined text gives parameters by the same reading, and few examples. -/
theorem Sound.completed {page : Page} (hpage : page.Sound) (joined : Text) :
    ((page.withDetails joined).withExamples joined).Sound := by
  obtain ⟨-, hdescription, hsources⟩ := completed_fields page joined
  constructor
  · rw [hdescription]
    exact hpage.description
  · rw [parameters_completed]
    split_ifs
    · exact fun _ => isNamed_of_mem_headedParameters
    · exact hpage.named
  · rw [examples_completed]
    split_ifs
    · exact length_firstExamples_le joined
    · exact hpage.examples
  · rw [hsources]
    exact hpage.sources

end Page

end Reference

end ScriptDocs
