/-
# What cleaning a question achieves

Cleaning takes fenced blocks, tags and phrases out of a question, each kind in one pass. Control
characters never survive it. The others may: what stands on both sides of something taken out can
make a new block, tag or phrase together. A cleaned question is free of all of them just where
taking out once more changes nothing, and enough rounds always lead there.
-/

import ScriptDocs.Proofs.Text.Blank
import ScriptDocs.Proofs.Text.Front
import ScriptDocs.Proofs.Text.Letter
import ScriptDocs.Proofs.Text.Removal
import ScriptDocs.Proofs.Text.Word
import ScriptDocs.Question
import Mathlib.Data.List.TakeWhile

namespace ScriptDocs.Question

/-- The mark around fenced code. -/
def fence : Text := "```"

/-- Fenced code, from mark to mark. -/
def IsFenced (part : Text) : Prop :=
  ∃ body, part = fence ++ (body ++ fence)

/-- An opening or closing tag that is taken out. -/
def IsTag (part : Text) : Prop :=
  ∃ slash name inner, part = '<' :: (slash ++ (name ++ (inner ++ ['>']))) ∧
    (slash = [] ∨ slash = ['/']) ∧ (∃ tag ∈ tagNames, Text.Spells tag name) ∧ '>' ∉ inner

/-- One of some phrases in any letter case. -/
def IsPhrase (spellings : List Text) (part : Text) : Prop :=
  ∃ spelling ∈ spellings, Text.Spells spelling part

/-- The phrases of which a cleaned question is meant to be free. -/
def injections : List Text :=
  ["ignore all instructions", "ignore previous instructions", "system prompt", "you are ",
    "pretend to", "act as"]

/-- A question that holds nothing of what cleaning takes out. -/
structure Harmless (s : Text) : Prop where
  noControl : ∀ c ∈ s, 0x20 ≤ c.toNat ∧ c.toNat ≠ 0x7F
  noFenced : ∀ part, IsFenced part → ¬ part <:+: s
  noTag : ∀ part, IsTag part → ¬ part <:+: s
  noPhrase : ∀ part, IsPhrase injections part → ¬ part <:+: s

/-- What is left behind a fenced block in front. -/
def fencedRest? (s : Text) : Option Text :=
  (Text.afterFront? fence s).bind fun opened =>
    (Text.cut? fence opened).bind fun parts => some parts.2

theorem fenced_eq : fenced = Text.reading [] fencedRest? := rfl

theorem reads_fenced : Text.Reads IsFenced fencedRest? where
  ne_nil := by
    rintro part ⟨body, rfl⟩
    exact List.cons_ne_nil _ _
  sound s rest hrest := by
    obtain ⟨opened, hopened, hcut⟩ := Option.bind_eq_some_iff.mp hrest
    obtain ⟨⟨body, behind⟩, hparts, hbehind⟩ := Option.bind_eq_some_iff.mp hcut
    obtain rfl := Option.some.inj hbehind
    obtain rfl := Text.afterFront?_eq_some_iff.mp hopened
    obtain ⟨rfl, -⟩ := Text.cut?_eq_some_iff.mp hparts
    exact ⟨_, ⟨body, rfl⟩, by simp⟩
  complete := by
    rintro part ⟨body, rfl⟩ rest
    have hopened : Text.afterFront? fence (fence ++ (body ++ fence) ++ rest) =
        some (body ++ fence ++ rest) :=
      Text.afterFront?_eq_some_iff.mpr (List.append_assoc _ _ _)
    have hclosed : Text.cut? fence (body ++ fence ++ rest) ≠ none := fun hnone =>
      Text.cut?_eq_none_iff.mp hnone ⟨body, rest, rfl⟩
    obtain ⟨parts, hparts⟩ := Option.ne_none_iff_exists'.mp hclosed
    rw [fencedRest?, hopened, Option.bind_some, hparts]
    rfl

theorem isLower_of_mem_tagNames :
    ∀ name ∈ tagNames, name ≠ [] ∧ name.all Char.isLower = true := by
  decide

/-- What is behind the slash of a closing tag. -/
def withoutSlash (inner : Text) : Text :=
  match inner with
  | '/' :: rest => rest
  | _ => inner

/-- What is left behind the bracket that ends a tag. -/
def behindBracket? (s : Text) : Option Text :=
  match s.dropWhile (· ≠ '>') with
  | _ :: behind => some behind
  | [] => none

/-- What is left behind a tag in front. -/
def tagRest? (s : Text) : Option Text :=
  (Text.afterFront? "<".toList s).bind fun inner =>
    (tagNames.findSome? fun name => Text.afterFrontAnyCase? name (withoutSlash inner)).bind
      behindBracket?

theorem tag_eq : tag = Text.reading [] tagRest? := rfl

theorem exists_withoutSlash (inner : Text) :
    ∃ slash, (slash = [] ∨ slash = ['/']) ∧ inner = slash ++ withoutSlash inner := by
  unfold withoutSlash
  split
  · exact ⟨['/'], Or.inr rfl, rfl⟩
  · exact ⟨[], Or.inl rfl, rfl⟩

theorem withoutSlash_append {slash s : Text} (hslash : slash = [] ∨ slash = ['/'])
    (hs : s.head? ≠ some '/') : withoutSlash (slash ++ s) = s := by
  rcases hslash with rfl | rfl
  · unfold withoutSlash
    split
    · rename_i rest heq
      rw [List.nil_append] at heq
      simp [heq] at hs
    · rfl
  · rfl

/-- A tag ends at the first bracket. -/
theorem behindBracket?_eq_some_iff {s behind : Text} :
    behindBracket? s = some behind ↔ ∃ inner, s = inner ++ '>' :: behind ∧ '>' ∉ inner := by
  constructor
  · intro hbehind
    have hwhole := List.takeWhile_append_dropWhile (p := fun c => decide (c ≠ '>')) (l := s)
    have hfirst := List.head?_dropWhile_not (fun c => decide (c ≠ '>')) s
    have hinner : '>' ∉ s.takeWhile fun c => decide (c ≠ '>') := fun hmem => by
      simpa using List.mem_takeWhile_imp hmem
    unfold behindBracket? at hbehind
    split at hbehind
    · rename_i c rest hrest
      obtain rfl := Option.some.inj hbehind
      rw [hrest] at hwhole hfirst
      obtain rfl : c = '>' := by simpa using hfirst
      exact ⟨_, hwhole.symm, hinner⟩
    · cases hbehind
  · rintro ⟨inner, rfl, hinner⟩
    have hpassed : ∀ c ∈ inner, decide (c ≠ '>') = true := fun c hc =>
      decide_eq_true fun h => hinner (h ▸ hc)
    rw [behindBracket?, List.dropWhile_append_of_pos hpassed]
    simp

theorem isSome_behindBracket? {s : Text} (hmem : '>' ∈ s) : (behindBracket? s).isSome = true := by
  cases hnone : behindBracket? s with
  | some behind => rfl
  | none =>
      obtain ⟨before, behind, hs, hbefore⟩ := List.eq_append_cons_of_mem hmem
      simp [behindBracket?_eq_some_iff.mpr ⟨before, hs, hbefore⟩] at hnone

/-- Where a name stands in front, some name is read, and no bracket is read with it. -/
theorem isSome_behindName {tag name rest : Text} (htag : tag ∈ tagNames)
    (hspells : Text.Spells tag name) (hbracket : '>' ∈ rest) :
    ((tagNames.findSome? fun tag => Text.afterFrontAnyCase? tag (name ++ rest)).bind
      behindBracket?).isSome = true := by
  have hread : Text.afterFrontAnyCase? tag (name ++ rest) = some rest :=
    Text.afterFrontAnyCase?_eq_some_iff.mpr ⟨name, hspells, rfl⟩
  cases hfound : tagNames.findSome? fun tag => Text.afterFrontAnyCase? tag (name ++ rest) with
  | none => simp [List.findSome?_eq_none_iff.mp hfound tag htag] at hread
  | some behind =>
      obtain ⟨other, hother, hbehind⟩ := List.exists_of_findSome?_eq_some hfound
      obtain ⟨spelled, hspelled, hwhole⟩ := Text.afterFrontAnyCase?_eq_some_iff.mp hbehind
      have hword := hspelled.isWord (isLower_of_mem_tagNames other hother).2
      have hmem : '>' ∈ spelled ++ behind := hwhole ▸ List.mem_append_right name hbracket
      refine isSome_behindBracket? ((List.mem_append.mp hmem).resolve_left fun h => ?_)
      exact absurd (hword '>' h) (by decide)

theorem reads_tag : Text.Reads IsTag tagRest? where
  ne_nil := by
    rintro part ⟨slash, name, inner, rfl, -⟩
    exact List.cons_ne_nil _ _
  sound s rest hrest := by
    obtain ⟨opened, hopened, hnamed⟩ := Option.bind_eq_some_iff.mp hrest
    obtain ⟨behind, hname, hclosed⟩ := Option.bind_eq_some_iff.mp hnamed
    obtain rfl := Text.afterFront?_eq_some_iff.mp hopened
    obtain ⟨tag, htag, hread⟩ := List.exists_of_findSome?_eq_some hname
    obtain ⟨name, hspells, hwhole⟩ := Text.afterFrontAnyCase?_eq_some_iff.mp hread
    obtain ⟨inner, rfl, hinner⟩ := behindBracket?_eq_some_iff.mp hclosed
    obtain ⟨slash, hslash, hopen⟩ := exists_withoutSlash opened
    refine ⟨_, ⟨slash, name, inner, rfl, hslash, ⟨tag, htag, hspells⟩, hinner⟩, ?_⟩
    rw [hopen, hwhole]
    simp
  complete := by
    rintro part ⟨slash, name, inner, rfl, hslash, ⟨tag, htag, hspells⟩, -⟩ rest
    obtain ⟨hsome, hlower⟩ := isLower_of_mem_tagNames tag htag
    have hword := hspells.isWord hlower
    have hhead : (name ++ (inner ++ '>' :: rest)).head? ≠ some '/' := by
      cases hspells with
      | nil => exact absurd rfl hsome
      | @cons f c _ letters =>
          intro hfirst
          obtain rfl : c = '/' := Option.some.inj hfirst
          exact absurd (hword '/' List.mem_cons_self) (by decide)
    have hopened : '<' :: (slash ++ (name ++ (inner ++ ['>']))) ++ rest =
        "<".toList ++ (slash ++ (name ++ (inner ++ '>' :: rest))) := by simp
    rw [tagRest?, Text.afterFront?_eq_some_iff.mpr hopened, Option.bind_some,
      withoutSlash_append hslash hhead]
    exact isSome_behindName htag hspells (by simp)

/-- What is left behind one of some phrases in front. -/
def phraseRest? (spellings : List Text) (s : Text) : Option Text :=
  spellings.findSome? fun spelling => Text.afterFrontAnyCase? spelling s

theorem phrase_eq (spellings : List Text) :
    phrase spellings = Text.reading [] (phraseRest? spellings) := rfl

theorem reads_phrase {spellings : List Text} (hsome : [] ∉ spellings) :
    Text.Reads (IsPhrase spellings) (phraseRest? spellings) where
  ne_nil := by
    rintro part ⟨spelling, hspelling, hspells⟩ rfl
    obtain rfl := List.forall₂_nil_right_iff.mp hspells
    exact hsome hspelling
  sound s rest hrest := by
    obtain ⟨spelling, hspelling, hread⟩ := List.exists_of_findSome?_eq_some hrest
    obtain ⟨part, hspells, hs⟩ := Text.afterFrontAnyCase?_eq_some_iff.mp hread
    exact ⟨part, ⟨spelling, hspelling, hspells⟩, hs⟩
  complete := by
    rintro part ⟨spelling, hspelling, hspells⟩ rest
    have hread : Text.afterFrontAnyCase? spelling (part ++ rest) = some rest :=
      Text.afterFrontAnyCase?_eq_some_iff.mpr ⟨part, hspells, rfl⟩
    rw [phraseRest?, List.findSome?_isSome_iff]
    exact ⟨spelling, hspelling, by rw [hread]; rfl⟩

/-- The passes of cleaning, in order. -/
def passes : List (Text.Pattern Text) :=
  fenced :: tag :: phrases.map phrase

/-- A question on one line, before anything is taken out. -/
def plain (s : Text) : Text :=
  collapse (withoutControls (Text.trim s))

theorem clean_eq (s : Text) : clean s = (Text.takeOut passes (plain s)).take limit := by
  rw [Text.takeOut, passes, List.foldl_cons, List.foldl_cons, List.foldl_map]
  rfl

theorem nil_notMem_of_mem_phrases : ∀ spellings ∈ phrases, [] ∉ spellings := by
  decide

theorem erases_of_mem_passes : ∀ pattern ∈ passes, Text.Erases pattern := by
  intro pattern hpattern
  simp only [passes, List.mem_cons, List.mem_map] at hpattern
  rcases hpattern with rfl | rfl | ⟨spellings, hspellings, rfl⟩
  · exact fenced_eq ▸ reads_fenced.erases
  · exact tag_eq ▸ reads_tag.erases
  · have hsome := nil_notMem_of_mem_phrases spellings hspellings
    exact phrase_eq spellings ▸ (reads_phrase hsome).erases

/-- Every phrase that a pass takes out begins with one that a question is to be free of. -/
theorem exists_injection_prefix : ∀ spellings ∈ phrases, ∀ spelling ∈ spellings,
    ∃ phrase ∈ injections, phrase <+: spelling := by
  decide

theorem exists_mem_phrases : ∀ phrase ∈ injections, ∃ spellings ∈ phrases, phrase ∈ spellings := by
  decide

/-- A text that spells a word with more behind it begins with a spelling of the word. -/
theorem exists_spells_of_prefix {word longer part : Text} (hlonger : word <+: longer)
    (hspells : Text.Spells longer part) : ∃ front, front <+: part ∧ Text.Spells word front := by
  obtain ⟨more, rfl⟩ := hlonger
  refine ⟨part.take word.length, List.take_prefix _ _, ?_⟩
  have hfront := List.forall₂_take word.length hspells
  rwa [List.take_left] at hfront

/-- The passes for phrases find nothing just where none of the phrases stands. -/
theorem forall_not_occurs_phrase_iff {s : Text} :
    (∀ spellings ∈ phrases, ¬ Text.Occurs (phrase spellings) s) ↔
      ∀ part, IsPhrase injections part → ¬ part <:+: s := by
  have hoccurs : ∀ spellings ∈ phrases, (Text.Occurs (phrase spellings) s ↔
      ∃ part, IsPhrase spellings part ∧ part <:+: s) := fun spellings hspellings =>
    (reads_phrase (nil_notMem_of_mem_phrases spellings hspellings)).occurs_iff
  constructor
  · rintro hnone part ⟨injection, hinjection, hspells⟩ hpart
    obtain ⟨spellings, hspellings, hmem⟩ := exists_mem_phrases injection hinjection
    exact hnone spellings hspellings
      ((hoccurs spellings hspellings).mpr ⟨part, ⟨injection, hmem, hspells⟩, hpart⟩)
  · intro hnone spellings hspellings hfound
    obtain ⟨part, ⟨spelling, hspelling, hspells⟩, hpart⟩ := (hoccurs spellings hspellings).mp hfound
    obtain ⟨injection, hinjection, hlonger⟩ :=
      exists_injection_prefix spellings hspellings spelling hspelling
    obtain ⟨front, hfront, hword⟩ := exists_spells_of_prefix hlonger hspells
    exact hnone front ⟨injection, hinjection, hword⟩ (hfront.isInfix.trans hpart)

/-- Nothing is taken out of a question without control characters just where it is harmless. -/
theorem takeOut_passes_eq_self_iff {s : Text}
    (hplain : ∀ c ∈ s, 0x20 ≤ c.toNat ∧ c.toNat ≠ 0x7F) :
    Text.takeOut passes s = s ↔ Harmless s := by
  have hfenced : ¬ Text.Occurs fenced s ↔ ∀ part, IsFenced part → ¬ part <:+: s := by
    rw [fenced_eq, reads_fenced.occurs_iff, not_exists]
    exact forall_congr' fun part => not_and
  have htag : ¬ Text.Occurs tag s ↔ ∀ part, IsTag part → ¬ part <:+: s := by
    rw [tag_eq, reads_tag.occurs_iff, not_exists]
    exact forall_congr' fun part => not_and
  rw [Text.takeOut_eq_self_iff erases_of_mem_passes, passes, List.forall_mem_cons,
    List.forall_mem_cons, List.forall_mem_map, hfenced, htag, forall_not_occurs_phrase_iff]
  constructor
  · rintro ⟨hnoFenced, hnoTag, hnoPhrase⟩
    exact ⟨hplain, hnoFenced, hnoTag, hnoPhrase⟩
  · rintro ⟨-, hnoFenced, hnoTag, hnoPhrase⟩
    exact ⟨hnoFenced, hnoTag, hnoPhrase⟩

/-- A text on one line: it holds no control character, and no white space but the space. -/
def IsPlain (s : Text) : Prop :=
  ∀ c ∈ s, (0x20 ≤ c.toNat ∧ c.toNat ≠ 0x7F) ∧ (Text.isBlank c = true → c = ' ')

theorem mem_collapseFrom {within : Bool} {s : Text} {c : Char} (hc : c ∈ collapseFrom within s) :
    c = ' ' ∨ (c ∈ s ∧ Text.isBlank c = false) := by
  induction s generalizing within with
  | nil => cases hc
  | cons d s ih =>
      have hlater : ∀ {within}, c ∈ collapseFrom within s →
          c = ' ' ∨ (c ∈ d :: s ∧ Text.isBlank c = false) := fun hmem =>
        (ih hmem).imp id (And.imp_left (List.mem_cons_of_mem d))
      rw [collapseFrom] at hc
      split at hc
      · split at hc
        · exact hlater hc
        · exact (List.mem_cons.mp hc).elim Or.inl hlater
      · rename_i hd
        rcases List.mem_cons.mp hc with rfl | hmem
        · exact Or.inr ⟨List.mem_cons_self, by simpa using hd⟩
        · exact hlater hmem

theorem isPlain_plain (s : Text) : IsPlain (plain s) := by
  intro c hc
  rcases mem_collapseFrom hc with rfl | ⟨hmem, hblank⟩
  · decide
  · refine ⟨?_, fun h => by rw [hblank] at h; cases h⟩
    obtain ⟨d, -, hd⟩ := List.mem_map.mp hmem
    split at hd
    · subst hd
      decide
    · rename_i hcontrol
      subst hd
      simpa [isControl] using hcontrol

theorem clean_sublist (s : Text) : (clean s).Sublist (plain s) := by
  rw [clean_eq]
  exact (List.take_sublist _ _).trans (Text.takeOut_sublist erases_of_mem_passes (plain s))

theorem isPlain_clean (s : Text) : IsPlain (clean s) :=
  fun c hc => isPlain_plain s c ((clean_sublist s).subset hc)

theorem IsPlain.collapseFrom_sublist {s : Text} (hs : IsPlain s) (within : Bool) :
    (collapseFrom within s).Sublist s := by
  induction s generalizing within with
  | nil => exact List.Sublist.refl []
  | cons c s ih =>
      have hrest : IsPlain s := fun d hd => hs d (List.mem_cons_of_mem c hd)
      rw [collapseFrom]
      split
      · rename_i hblank
        split
        · exact (ih hrest true).cons c
        · rw [(hs c List.mem_cons_self).2 hblank]
          exact (ih hrest true).cons_cons ' '
      · exact (ih hrest false).cons_cons c

/-- A text on one line only loses characters. -/
theorem IsPlain.plain_sublist {s : Text} (hs : IsPlain s) : (plain s).Sublist s := by
  have htrim := Text.trim_sublist s
  have htrimmed : IsPlain (Text.trim s) := fun c hc => hs c (htrim.subset hc)
  have hcontrols : withoutControls (Text.trim s) = Text.trim s := by
    refine (List.map_congr_left fun c hc => ?_).trans (List.map_id _)
    have hcontrol : isControl c = false := by
      have hc := (htrimmed c hc).1
      simp [isControl, hc]
    simp [hcontrol]
  rw [plain, hcontrols]
  exact (htrimmed.collapseFrom_sublist false).trans htrim

/-- What cleaning leaves alone is harmless. -/
theorem IsPlain.harmless_of_clean_eq_self {s : Text} (hs : IsPlain s) (hself : clean s = s) :
    Harmless s := by
  have hlength : s.length ≤ (plain s).length := by
    have hcleaned := (clean_sublist s).length_le
    rwa [hself] at hcleaned
  have hplain := hs.plain_sublist.eq_of_length_le hlength
  have htakenOut : (clean s).Sublist (Text.takeOut passes s) := by
    rw [clean_eq, hplain]
    exact List.take_sublist _ _
  have hsame := (Text.takeOut_sublist erases_of_mem_passes s).eq_of_length_le
    (hself ▸ htakenOut).length_le
  exact (takeOut_passes_eq_self_iff fun c hc => (hs c hc).1).mp hsame

/-- A cleaned question is short and holds no control character. It is harmless just where taking
out once more leaves it alone, and cleaning often enough makes every question harmless. -/
theorem harmless_clean_iff (s : Text) :
    (clean s).length ≤ limit ∧ (∀ c ∈ clean s, 0x20 ≤ c.toNat ∧ c.toNat ≠ 0x7F) ∧
      (Harmless (clean s) ↔ Text.takeOut passes (clean s) = clean s) ∧
      ∃ n, Harmless (clean^[n + 1] s) := by
  have hplain := isPlain_clean s
  have hcontrols : ∀ c ∈ clean s, 0x20 ≤ c.toNat ∧ c.toNat ≠ 0x7F := fun c hc => (hplain c hc).1
  refine ⟨?_, hcontrols, (takeOut_passes_eq_self_iff hcontrols).symm, ?_⟩
  · rw [clean_eq]
    exact List.length_take_le _ _
  · have hround : ∀ t, IsPlain t → (clean t).Sublist t := fun t ht =>
      (clean_sublist t).trans ht.plain_sublist
    obtain ⟨n, hn, hself⟩ := Text.exists_iterate_eq hround (fun t _ => isPlain_clean t) hplain
    exact ⟨n, hn.harmless_of_clean_eq_self hself⟩

/-- Two tags, one within the other. -/
def nestedTags : Text := "<scr<script>ipt>"

/-- What stands on both sides of the inner tag makes a tag together. -/
theorem not_harmless_clean_nestedTags : ¬ Harmless (clean nestedTags) := by
  intro hharmless
  have hclean : clean nestedTags = "<script>".toList := by decide +kernel
  have htag : IsTag "<script>".toList :=
    ⟨[], "script".toList, [], rfl, Or.inl rfl, ⟨"script".toList, by decide, Text.spells_refl _⟩,
      by decide⟩
  rw [hclean] at hharmless
  exact hharmless.noTag _ htag List.infix_rfl

end ScriptDocs.Question
