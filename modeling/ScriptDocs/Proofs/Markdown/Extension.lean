/-
# Sections that are extended

When text is put behind a section, with a break between, its solid paragraphs stay the first
ones, whatever white space stands around the break. What is closed at some moment stays so: of the
chunks that closing gives then, only the last one can still grow, for text that is collected
longer is merged no sooner. So all chunks of the section but the last one are the first chunks
of the extended one.
-/

import ScriptDocs.Proofs.Markdown.Collecting

namespace ScriptDocs.Markdown

theorem exists_paragraphs_eq (s : Text) : ∃ part parts, paragraphs s = part :: parts := by
  cases hparts : paragraphs s with
  | nil =>
      have hparted := parted_paragraphs s
      rw [hparts] at hparted
      nomatch hparted
  | cons part parts => exact ⟨part, parts, rfl⟩

/-- A line feed that another one follows ends a paragraph. -/
theorem paragraphs_cons_of_break {c : Char} {s : Text} (hfeed : c = '\n')
    (hhead : s.head? = some '\n') : paragraphs (c :: s) = [] :: paragraphsFrom true s := by
  simp [paragraphs, paragraphsFrom, hfeed, hhead]

/-- A first part with more white space around it makes no difference to the solid ones. -/
theorem solid_cons_of_trim_eq {part longer : Text} {parts later others : List Text}
    (htrim : Text.trim longer = Text.trim part) (hlater : solid later = solid parts ++ others) :
    solid (longer :: later) = solid (part :: parts) ++ others := by
  by_cases hnone : Text.trim part = []
  · rw [solid_cons_of_blank hnone, solid_cons_of_blank (htrim.trans hnone), hlater]
  · rw [solid_cons_of_solid hnone, solid_cons_of_solid (htrim ▸ hnone), htrim, hlater]
    rfl

/-- White space in front of the first part makes no difference to the solid ones. -/
theorem solid_ontoFirst {c : Char} (hblank : Text.isBlank c = true) (parts : List Text) :
    solid (Text.ontoFirst c parts) = solid parts := by
  have hfront : ∀ d ∈ [c], Text.isBlank d = true := by simpa using hblank
  have htrim (s : Text) : Text.trim (c :: s) = Text.trim s := Text.trim_blanks_append hfront s
  cases parts with
  | nil => simp [Text.ontoFirst, solid, htrim]; rfl
  | cons part parts => simp [Text.ontoFirst, solid, htrim]

/-- Line feeds in front of a text, whether they make a break or not, add no solid paragraph. -/
theorem solid_paragraphs_replicate_append (count : Nat) {rest : Text}
    (hbehind : rest.head? ≠ some '\n') :
    solid (paragraphs (List.replicate count '\n' ++ rest)) = solid (paragraphs rest) := by
  match count with
  | 0 => rfl
  | 1 =>
      rw [List.replicate_one, List.singleton_append, paragraphs_cons_of_no_break fun _ => hbehind]
      exact solid_ontoFirst (by decide) _
  | count + 2 =>
      have hwhole := paragraphs_break_append count hbehind
      rw [paragraphBreak_eq] at hwhole
      have hfront : List.replicate (count + 2) '\n' ++ rest =
          ['\n', '\n'] ++ List.replicate count '\n' ++ rest := rfl
      rw [hfront, hwhole, solid_cons_of_blank rfl]

/-- Behind a break the solid paragraphs are those that the text has alone. -/
theorem solid_paragraphsFrom_true (s : Text) :
    solid (paragraphsFrom true s) = solid (paragraphs s) := by
  obtain ⟨count, rest, rfl, hbehind⟩ := exists_replicate_append s
  rw [paragraphsFrom_replicate_append, paragraphsFrom_of_head hbehind,
    solid_paragraphs_replicate_append count hbehind]

/-- A break is white space. -/
theorem isBlank_of_mem_paragraphBreak : ∀ c ∈ paragraphBreak, Text.isBlank c = true :=
  List.all_eq_true.mp (show Text.isBlankText paragraphBreak = true by decide)

/-- White space in front of a text makes no difference to its solid paragraphs. -/
theorem solid_paragraphs_blanks_append {front : Text}
    (hblank : ∀ c ∈ front, Text.isBlank c = true) (s : Text) :
    solid (paragraphs (front ++ s)) = solid (paragraphs s) := by
  induction front with
  | nil => rfl
  | cons c front ih =>
      rw [List.forall_mem_cons] at hblank
      rw [List.cons_append, ← ih hblank.2]
      generalize front ++ s = whole
      by_cases hfront : c = '\n' → whole.head? ≠ some '\n'
      · rw [paragraphs_cons_of_no_break hfront]
        exact solid_ontoFirst hblank.1 _
      · push Not at hfront
        rw [paragraphs_cons_of_break hfront.1 hfront.2, solid_cons_of_blank rfl,
          solid_paragraphsFrom_true]

/-- White space has no solid paragraphs. -/
theorem solid_paragraphs_of_blanks {s : Text} (hblank : ∀ c ∈ s, Text.isBlank c = true) :
    solid (paragraphs s) = [] := by
  have hwhole := solid_paragraphs_blanks_append hblank []
  rwa [List.append_nil] at hwhole

/-- What follows a text, and begins with white space as far as it could belong to the text's last
part, adds its solid paragraphs behind those of the text. -/
theorem exists_paragraphs_append {tail first : Text} {others : List Text}
    (htail : paragraphs tail = first :: others) (hblank : ∀ c ∈ first, Text.isBlank c = true)
    (text : Text) :
    ∃ part parts longer later, paragraphs text = part :: parts ∧
      paragraphs (text ++ tail) = longer :: later ∧
      (∀ front, Text.trim (front ++ longer) = Text.trim (front ++ part)) ∧
      solid later = solid parts ++ solid others := by
  -- A break takes two characters off the text, so the induction is on the length.
  induction hlength : text.length using Nat.strong_induction_on generalizing text with
  | _ length ih =>
      cases text with
      | nil =>
          refine ⟨[], [], first, others, rfl, htail, fun front => ?_, rfl⟩
          rw [List.append_nil]
          exact Text.trim_append_blanks front hblank
      | cons c text =>
          by_cases hfront : c = '\n' → (text ++ tail).head? ≠ some '\n'
          · -- The character goes to the first part with and without the tail.
            obtain ⟨part, parts, longer, later, hparts, hlater, htrim, hsolid⟩ :=
              ih text.length (by simp [← hlength]) text rfl
            have halone : c = '\n' → text.head? ≠ some '\n' := by
              intro hc hhead
              apply hfront hc
              rw [List.head?_append, hhead]
              rfl
            refine ⟨c :: part, parts, c :: longer, later, ?_, ?_, fun front => ?_, hsolid⟩
            · rw [paragraphs_cons_of_no_break halone, hparts]
              rfl
            · rw [List.cons_append, paragraphs_cons_of_no_break hfront, hlater]
              rfl
            · simpa using htrim (front ++ [c])
          push Not at hfront
          obtain ⟨hc, hhead⟩ := hfront
          have hwhole := paragraphs_cons_of_break hc hhead
          cases text with
          | nil =>
              -- The break is of the last line feed and the first one of the tail.
              refine ⟨[c], [], [], paragraphsFrom true tail, ?_, hwhole, fun front => ?_, ?_⟩
              · rw [hc]
                rfl
              · rw [List.append_nil]
                exact (Text.trim_append_blanks front (by simp [hc]; decide)).symm
              · rw [solid_paragraphsFrom_true, htail,
                  solid_cons_of_blank (Text.trim_eq_nil_iff.mpr hblank)]
                rfl
          | cons d text =>
              -- The break lies within the text.
              have hd : (d :: text).head? = some '\n' := by simpa using hhead
              obtain ⟨part, parts, longer, later, hparts, hlater, htrim, hsolid⟩ :=
                ih (d :: text).length (by simp [← hlength]) (d :: text) rfl
              refine ⟨[], paragraphsFrom true (d :: text), [],
                paragraphsFrom true (d :: text ++ tail), paragraphs_cons_of_break hc hd, hwhole,
                fun _ => rfl, ?_⟩
              rw [solid_paragraphsFrom_true, solid_paragraphsFrom_true, hparts, hlater]
              exact solid_cons_of_trim_eq (htrim []) hsolid

/-- The solid paragraphs of a text and of what follows it, if that begins with a blank part. -/
theorem solid_paragraphs_append {tail first : Text} {others : List Text}
    (htail : paragraphs tail = first :: others) (hblank : ∀ c ∈ first, Text.isBlank c = true)
    (text : Text) :
    solid (paragraphs (text ++ tail)) = solid (paragraphs text) ++ solid (paragraphs tail) := by
  obtain ⟨part, parts, longer, later, hparts, hlater, htrim, hsolid⟩ :=
    exists_paragraphs_append htail hblank text
  rw [hparts, hlater, htail, solid_cons_of_blank (Text.trim_eq_nil_iff.mpr hblank)]
  exact solid_cons_of_trim_eq (htrim []) hsolid

/-- White space at the end of a text makes no difference to its solid paragraphs. -/
theorem solid_paragraphs_append_blanks (text : Text) {back : Text}
    (hblank : ∀ c ∈ back, Text.isBlank c = true) :
    solid (paragraphs (text ++ back)) = solid (paragraphs text) := by
  obtain ⟨first, others, hback⟩ := exists_paragraphs_eq back
  have hnone := solid_paragraphs_of_blanks hblank
  have hfirst : Text.trim first = [] := by
    by_contra hsome
    rw [hback, solid_cons_of_solid hsome] at hnone
    cases hnone
  rw [solid_paragraphs_append hback (Text.trim_eq_nil_iff.mp hfirst), hnone, List.append_nil]

theorem solid_paragraphs_trim (s : Text) :
    solid (paragraphs (Text.trim s)) = solid (paragraphs s) := by
  obtain ⟨front, back, hs, hfront, hback⟩ := Text.exists_blanks_around_trim s
  conv_rhs => rw [hs]
  rw [solid_paragraphs_append_blanks _ hback, solid_paragraphs_blanks_append hfront]

/-- The solid paragraphs of an extended section are those of the section, and behind them those
of the added text. -/
theorem solid_paragraphs_extended (text more : Text) :
    solid (paragraphs (Text.trim (text ++ paragraphBreak ++ more))) =
      solid (paragraphs (Text.trim text)) ++ solid (paragraphs (Text.trim more)) := by
  have hbreak : paragraphs (paragraphBreak ++ more) = [] :: paragraphsFrom true ('\n' :: more) :=
    paragraphs_cons_of_break rfl rfl
  rw [solid_paragraphs_trim, solid_paragraphs_trim, solid_paragraphs_trim, List.append_assoc,
    solid_paragraphs_append hbreak (by simp),
    solid_paragraphs_blanks_append isBlank_of_mem_paragraphBreak]

namespace Collection

variable {limits : Limits}

/-- Of the chunks that closing gives, those before the last one stay when the text is collected
longer: it is merged only where the shorter one is, too. -/
theorem closed_tail_suffix_of_longer {short long : Collection}
    (hfinished : short.finished = long.finished) (hshort : Text.IsTrimmed short.collected)
    (hlong : Text.IsTrimmed long.collected)
    (hlength : short.collected.length ≤ long.collected.length) :
    (short.closed limits).tail <:+ (long.closed limits).tail := by
  rcases closed_cases limits hlong with
    ⟨hnone, hlonger⟩ | ⟨previous, earlier, -, hlast, hsmall, hfits, hlonger⟩ | ⟨-, -, hlonger⟩
  · rw [hnone, List.length_nil, Nat.le_zero, List.length_eq_zero_iff] at hlength
    have hsame : short.closed limits = long.closed limits := by
      rw [closed, closed, hfinished, hnone, hlength]
    rw [hsame]
  · -- The longer text is merged, so the shorter one is not put behind the finished chunks.
    rw [hlonger]
    rw [← hfinished] at hlast
    rcases closed_cases limits hshort with
      ⟨-, hshorter⟩ | ⟨other, rest, -, hsame, -, -, hshorter⟩ | ⟨-, hseparate, -⟩
    · rw [hshorter, hlast]
      exact List.suffix_refl _
    · obtain ⟨-, rfl⟩ := List.cons.inj (hlast.symm.trans hsame)
      rw [hshorter]
      exact List.suffix_refl _
    · have hboth := hseparate previous (by simp [hlast])
      omega
  · rw [hlonger, ← hfinished]
    rcases closed_cases limits hshort with
      ⟨-, hshorter⟩ | ⟨previous, earlier, -, hlast, -, -, hshorter⟩ | ⟨-, -, hshorter⟩
    · rw [hshorter]
      exact List.tail_suffix _
    · rw [hshorter, hlast]
      exact List.suffix_cons previous earlier
    · rw [hshorter]
      exact List.suffix_refl _

theorem closed_of_nothing (finished : List Text) : closed limits ⟨finished, []⟩ = finished := by
  rfl

variable {state : Collection}

/-- What is closed but for the last chunk, one more paragraph leaves closed. -/
theorem closed_tail_suffix_take (limits : Limits) (hstate : Text.IsTrimmed state.collected)
    {paragraph : Text} (hsome : paragraph ≠ []) (hparagraph : Text.IsTrimmed paragraph) :
    (state.closed limits).tail <:+ ((state.take limits paragraph).closed limits).tail := by
  obtain ⟨-, hjoined, hlength, -⟩ := joinedWith_spec hstate hsome hparagraph
  unfold take
  split_ifs
  · exact closed_tail_suffix_of_longer rfl hstate hjoined hlength
  · have hbegun : (closed limits ⟨state.closed limits, []⟩).tail <:+
        (closed limits ⟨state.closed limits, paragraph⟩).tail :=
      closed_tail_suffix_of_longer rfl Text.isTrimmed_nil hparagraph (Nat.zero_le _)
    rwa [closed_of_nothing] at hbegun
  · rw [closed_of_nothing]
    cases (slices limits.most paragraph).reverse with
    | nil => exact List.suffix_refl _
    | cons last slices =>
        exact (List.tail_suffix _).trans (List.suffix_append slices (state.closed limits))

/-- What is closed but for the last chunk stays so over all further paragraphs. -/
theorem closed_tail_suffix_foldl (limits : Limits) (hstate : Text.IsTrimmed state.collected)
    {parts : List Text} (hparts : Paragraphs parts) :
    (state.closed limits).tail <:+ ((parts.foldl (take limits) state).closed limits).tail := by
  induction parts generalizing state with
  | nil => exact List.suffix_refl _
  | cons part parts ih =>
      obtain ⟨hsome, hpart⟩ := hparts part List.mem_cons_self
      have hrest := ih (trimmed_take limits hstate hsome hpart) fun other h =>
        hparts other (List.mem_cons_of_mem part h)
      exact (closed_tail_suffix_take limits hstate hsome hpart).trans hrest

theorem trimmed_foldl (limits : Limits) (hstate : Text.IsTrimmed state.collected)
    {parts : List Text} (hparts : Paragraphs parts) :
    Text.IsTrimmed (parts.foldl (take limits) state).collected := by
  induction parts generalizing state with
  | nil => exact hstate
  | cons part parts ih =>
      obtain ⟨hsome, hpart⟩ := hparts part List.mem_cons_self
      exact ih (trimmed_take limits hstate hsome hpart) fun other h =>
        hparts other (List.mem_cons_of_mem part h)

end Collection

/-- All chunks of a section but the last one are the first chunks of the extended section. -/
theorem dropLast_chunkTexts_prefix (limits : Limits) (text more : Text) :
    (chunkTexts limits text).dropLast <+: chunkTexts limits (text ++ paragraphBreak ++ more) := by
  have hstart : Text.IsTrimmed ({} : Collection).collected := Text.isTrimmed_nil
  have htrimmed := Collection.trimmed_foldl limits hstart
    (paragraphs_solid (paragraphs (Text.trim text)))
  have hclosed := Collection.closed_tail_suffix_foldl limits htrimmed
    (paragraphs_solid (paragraphs (Text.trim more)))
  rw [Collection.chunkTexts_eq, Collection.chunkTexts_eq, solid_paragraphs_extended,
    List.foldl_append, List.dropLast_reverse, List.reverse_prefix]
  exact hclosed.trans (List.tail_suffix _)

theorem inked_paragraphBreak : Text.inked paragraphBreak = [] :=
  Text.inked_of_blanks isBlank_of_mem_paragraphBreak

theorem Parted.inked_eq {s : Text} {parts : List Text} (hparted : Parted s parts) :
    parts.flatMap Text.inked = Text.inked s := by
  induction hparted with
  | last => simp
  | more further _ _ _ _ ih =>
      have hfeeds : Text.inked (List.replicate further '\n') = [] :=
        Text.inked_of_blanks fun c hc => by
          rw [List.eq_of_mem_replicate hc]
          decide
      rw [List.flatMap_cons, ih, Text.inked_append, Text.inked_append, Text.inked_append, hfeeds,
        inked_paragraphBreak, List.append_nil, List.append_nil]

theorem Sliced.inked_eq {size : Nat} {s : Text} {slices : List Text}
    (hsliced : Sliced size s slices) :
    slices.flatMap Text.inked = Text.inked s := by
  induction hsliced with
  | last => simp
  | more _ _ ih => rw [List.flatMap_cons, ih, Text.inked_append]

theorem PiecesOf.inked_eq {most : Int} {parts pieces : List Text}
    (hpieces : PiecesOf most parts pieces) :
    pieces.flatMap Text.inked = parts.flatMap Text.inked := by
  induction hpieces with
  | nil => rfl
  | blank hblank _ ih =>
      rw [ih, List.flatMap_cons, Text.inked_of_blanks (Text.trim_eq_nil_iff.mp hblank),
        List.nil_append]
  | whole _ _ _ ih => rw [List.flatMap_cons, List.flatMap_cons, ih, Text.inked_trim]
  | sliced _ hslices _ ih =>
      rw [List.flatMap_append, List.flatMap_cons, ih, hslices.inked_eq, Text.inked_trim]

/-- The chunks of a section hold all its characters that are no white space. -/
theorem inked_chunkTexts {limits : Limits} (hmost : 1 ≤ limits.most) (text : Text) :
    (chunkTexts limits text).flatMap Text.inked = Text.inked text := by
  have hnothing : Paragraphs [] := fun _ hpart => absurd hpart List.not_mem_nil
  obtain ⟨pieces, groups, hpieces, -, hcollect, hflat⟩ :=
    exists_groups_collect hmost (paragraphs (Text.trim text)) List.not_mem_nil hnothing
  have hchunks : chunkTexts limits text = joined groups := hcollect
  have hjoined : (joined groups).flatMap Text.inked = groups.flatten.flatMap Text.inked := by
    simp only [joined, List.flatMap_map, Text.inked_join isBlank_of_mem_paragraphBreak]
    rw [← List.flatMap_id, List.flatMap_assoc]
    rfl
  rw [hchunks, hjoined, hflat, List.reverse_nil, List.flatten_nil, List.nil_append,
    List.nil_append, hpieces.inked_eq, (parted_paragraphs _).inked_eq, Text.inked_trim]

/-- What stands behind the kept chunks of an extended section holds what the last chunk held, and
what was added. -/
theorem exists_chunkTexts_extended {limits : Limits} (hmost : 1 ≤ limits.most) (text more : Text) :
    ∃ rest, chunkTexts limits (text ++ paragraphBreak ++ more) =
        (chunkTexts limits text).dropLast ++ rest ∧
      rest.flatMap Text.inked =
        (chunkTexts limits text).getLast?.toList.flatMap Text.inked ++ Text.inked more := by
  obtain ⟨rest, hrest⟩ := dropLast_chunkTexts_prefix limits text more
  refine ⟨rest, hrest.symm, ?_⟩
  have hshorter := inked_chunkTexts hmost text
  have hlonger := inked_chunkTexts hmost (text ++ paragraphBreak ++ more)
  rw [← hrest, List.flatMap_append, Text.inked_append, Text.inked_append, inked_paragraphBreak,
    List.append_nil, ← hshorter] at hlonger
  have hlast : chunkTexts limits text =
      (chunkTexts limits text).dropLast ++ (chunkTexts limits text).getLast?.toList := by
    cases hnone : (chunkTexts limits text).getLast? with
    | none => simp [List.getLast?_eq_none_iff.mp hnone]
    | some last => exact (List.dropLast_append_getLast? last hnone).symm
  conv_rhs at hlonger => rw [hlast, List.flatMap_append, List.append_assoc]
  exact List.append_cancel_left hlonger

end ScriptDocs.Markdown
