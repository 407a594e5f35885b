/-
# The files that a walk finds

A walk through a tree of documentation lists the files with the right ending that no passed over
name stands on the way to. The list of a directory is put together from those of its entries, so
which files it has is told by induction on the way to a file, and in which order by induction on the
tree: names in order put everything below them in order.
-/

import ScriptDocs.Ingest.Tree
import ScriptDocs.Proofs.Text.Front
import ScriptDocs.Proofs.Text.Lower
import ScriptDocs.Proofs.Text.Order

namespace ScriptDocs.Entry

/-- Some entries hold a file at a place below them. -/
inductive Holds : List Entry → List Text → Bytes → Prop
  | file {entries : List Entry} {name : Text} {content : Bytes}
      (hfile : .file name content ∈ entries) : Holds entries [name] content
  | folder {entries inner : List Entry} {name : Text} {place : List Text} {content : Bytes}
      (hfolder : .folder name inner ∈ entries) (hrest : Holds inner place content) :
      Holds entries (name :: place) content

/-- No two entries of one directory have the same name, and so in all directories below. -/
inductive NamedApart : List Entry → Prop
  | intro {entries : List Entry} (hnames : (entries.map name).Nodup)
      (hinner : ∀ name inner, .folder name inner ∈ entries → NamedApart inner) : NamedApart entries

/-- A name that is neither hidden nor that of installed modules. -/
def IsVisible (name : Text) : Prop :=
  name.head? ≠ some '.' ∧ name ≠ "node_modules".toList

/-- The extensions of documentation files, in small letters. -/
def extensions : List Text := ["md", "mdx"]

/-- A name with the extension of documentation, in any letter case. -/
def IsDocumentName (name : Text) : Prop :=
  ∃ stem extension, name = stem ++ '.' :: extension ∧ extension.map Char.toLower ∈ extensions

/-- The place of a documentation file: all names on the way are visible, and the last one has the
extension of documentation. -/
structure IsDocumentPlace (place : List Text) : Prop where
  visible : ∀ name ∈ place, IsVisible name
  last : ∃ name, place.getLast? = some name ∧ IsDocumentName name

theorem isSkipped_eq_false_iff {name : Text} : isSkipped name = false ↔ IsVisible name := by
  simp [isSkipped, IsVisible, skippedNames]

/-! ### Endings -/

theorem endingOf_of_not_mem {name : Text} (hname : '.' ∉ name) : endingOf name = [] := by
  have hpass : ∀ c ∈ name.reverse, decide (c ≠ '.') = true := fun c hc =>
    decide_eq_true fun h => hname (h ▸ List.mem_reverse.mp hc)
  have hwhole : (name.reverse.takeWhile (· ≠ '.')).reverse = name := by
    rw [List.takeWhile_eq_self_iff.mpr hpass, List.reverse_reverse]
  simp only [endingOf, hwhole]
  exact if_pos (Or.inr (by omega))

theorem endingOf_append_cons {stem extension : Text} (hlast : '.' ∉ extension) :
    endingOf (stem ++ '.' :: extension) =
      if extension = [] ∨ stem = [] then [] else '.' :: extension := by
  have hbehind : ((stem ++ '.' :: extension).reverse.takeWhile (· ≠ '.')).reverse = extension :=
    Text.reverse_takeWhile_reverse hlast
  have hshort : (stem ++ '.' :: extension).length < extension.length + 2 ↔ stem = [] := by
    rw [List.length_append, List.length_cons, ← List.length_eq_zero_iff]
    omega
  simp only [endingOf, hbehind, hshort, List.isEmpty_iff]

theorem lower_mem_endings_iff {extension : Text} :
    Text.lower ('.' :: extension) ∈ endings ↔ extension.map Char.toLower ∈ extensions := by
  have hshared : ∀ ending ∈ endings, ∀ d ∈ ending,
      (0 < d.toNat ∧ d.toNat < 0x80) ∧ Text.capitalsOf d.toNat = [] := by
    have hall : (endings.all fun ending => ending.all fun d =>
        decide ((0 < d.toNat ∧ d.toNat < 0x80) ∧ Text.capitalsOf d.toNat = [])) = true := by
      decide +kernel
    simpa only [List.all_eq_true, decide_eq_true_eq] using hall
  have hmarked : ∀ word : Text, ('.' :: extension).map Char.toLower = '.' :: word ↔
      extension.map Char.toLower = word := fun word => by
    simp [show Char.toLower '.' = '.' by decide]
  constructor
  · intro hmem
    have hlower := (Text.lower_eq_iff (hshared _ hmem)).mp rfl
    rw [← hlower] at hmem
    simpa [endings, extensions, show Char.toLower '.' = '.' by decide] using hmem
  · intro hmem
    have hending : '.' :: extension.map Char.toLower ∈ endings := by
      simpa [endings, extensions] using hmem
    have hlower := (Text.lower_eq_iff (s := '.' :: extension) (hshared _ hending)).mpr
      ((hmarked _).mpr rfl)
    rwa [hlower]

/-- A visible file is documentation just where its name has the extension of documentation. -/
theorem isDocument_iff {name : Text} (hvisible : IsVisible name) :
    isDocument name = true ↔ IsDocumentName name := by
  rw [isDocument, decide_eq_true_iff]
  constructor
  · intro hmem
    by_cases hpoint : '.' ∈ name
    · obtain ⟨stem, extension, rfl, hlast⟩ := Text.exists_last_part hpoint
      rw [endingOf_append_cons hlast] at hmem
      split at hmem
      · exact absurd hmem (by decide)
      · exact ⟨stem, extension, rfl, lower_mem_endings_iff.mp hmem⟩
    · rw [endingOf_of_not_mem hpoint] at hmem
      exact absurd hmem (by decide)
  · rintro ⟨stem, extension, rfl, hextension⟩
    have hlast : '.' ∉ extension := fun hmem => by
      have hsmall := List.mem_map_of_mem (f := Char.toLower) hmem
      have hnone : ∀ word ∈ extensions, Char.toLower '.' ∉ word := by decide
      exact hnone _ hextension hsmall
    have hstem : stem ≠ [] := by
      rintro rfl
      exact hvisible.1 rfl
    have hsome : extension ≠ [] := by
      rintro rfl
      exact absurd hextension (by decide)
    rw [endingOf_append_cons hlast, if_neg (not_or.mpr ⟨hsome, hstem⟩)]
    exact lower_mem_endings_iff.mpr hextension

/-! ### Which files are listed -/

theorem groups_eq (entries : List Entry) :
    groups entries = (entries.filter fun entry => !isSkipped entry.name).map
      fun entry => (entry.name, documents entry) := by
  induction entries with
  | nil => rw [groups]; rfl
  | cons entry entries ih =>
      rw [groups, List.filter_cons]
      cases hskipped : isSkipped entry.name <;> simp [ih]

theorem documents_folder (name : Text) (entries : List Entry) :
    documents (.folder name entries) = (listing entries).map (inFolder name) := by
  rw [documents, listing]

theorem mem_listing_iff {entries : List Entry} {file : SourceFile} :
    file ∈ listing entries ↔ ∃ entry ∈ entries, IsVisible entry.name ∧ file ∈ documents entry := by
  simp only [listing, List.mem_flatMap, List.mem_mergeSort, groups_eq, List.mem_map,
    List.mem_filter, Bool.not_eq_true', isSkipped_eq_false_iff]
  constructor
  · rintro ⟨_, ⟨entry, ⟨hentry, hvisible⟩, rfl⟩, hfile⟩
    exact ⟨entry, hentry, hvisible, hfile⟩
  · rintro ⟨entry, hentry, hvisible, hfile⟩
    exact ⟨_, ⟨entry, ⟨hentry, hvisible⟩, rfl⟩, hfile⟩

/-- The files below an entry have its name in front of their places. -/
theorem exists_place_of_mem_documents {entry : Entry} {file : SourceFile}
    (hfile : file ∈ documents entry) : ∃ place, file.place = entry.name :: place := by
  cases entry with
  | file name content =>
      rw [documents] at hfile
      split at hfile
      · obtain rfl := List.mem_singleton.mp hfile
        exact ⟨[], rfl⟩
      · cases hfile
  | folder name entries =>
      rw [documents_folder] at hfile
      obtain ⟨inner, -, rfl⟩ := List.mem_map.mp hfile
      exact ⟨inner.place, rfl⟩

theorem isDocumentPlace_singleton_iff {name : Text} (hvisible : IsVisible name) :
    IsDocumentPlace [name] ↔ isDocument name = true := by
  rw [isDocument_iff hvisible]
  constructor
  · rintro ⟨-, last, hlast, hdocument⟩
    obtain rfl := Option.some.inj hlast
    exact hdocument
  · exact fun hdocument => ⟨by simpa using hvisible, name, rfl, hdocument⟩

theorem isDocumentPlace_cons_iff {name : Text} {place : List Text} (hvisible : IsVisible name)
    (hsome : place ≠ []) : IsDocumentPlace (name :: place) ↔ IsDocumentPlace place := by
  constructor
  · rintro ⟨hall, last, hlast, hdocument⟩
    rw [List.getLast?_cons_of_ne_nil hsome] at hlast
    exact ⟨(List.forall_mem_cons.mp hall).2, last, hlast, hdocument⟩
  · rintro ⟨hall, last, hlast, hdocument⟩
    refine ⟨List.forall_mem_cons.mpr ⟨hvisible, hall⟩, last, ?_, hdocument⟩
    rw [List.getLast?_cons_of_ne_nil hsome, hlast]

theorem Holds.ne_nil {entries : List Entry} {place : List Text} {content : Bytes}
    (hholds : Holds entries place content) : place ≠ [] := by
  cases hholds <;> exact List.cons_ne_nil _ _

/-- A file is listed just where it is there and its place is that of a documentation file. -/
theorem mem_listing_iff_holds {entries : List Entry} {place : List Text} {content : Bytes} :
    ⟨place, content⟩ ∈ listing entries ↔
      Holds entries place content ∧ IsDocumentPlace place := by
  induction place generalizing entries with
  | nil =>
      rw [mem_listing_iff]
      constructor
      · rintro ⟨entry, -, -, hfile⟩
        obtain ⟨place, hplace⟩ := exists_place_of_mem_documents hfile
        cases hplace
      · exact fun h => absurd rfl h.1.ne_nil
  | cons first place ih =>
      rw [mem_listing_iff]
      constructor
      · rintro ⟨entry, hentry, hvisible, hfile⟩
        cases entry with
        | file name bytes =>
            rw [documents] at hfile
            split at hfile
            · rename_i hdocument
              cases List.mem_singleton.mp hfile
              exact ⟨.file hentry, (isDocumentPlace_singleton_iff hvisible).mpr hdocument⟩
            · cases hfile
        | folder name inner =>
            rw [documents_folder] at hfile
            obtain ⟨⟨rest, bytes⟩, hinner, hsame⟩ := List.mem_map.mp hfile
            cases hsame
            obtain ⟨hholds, hplace⟩ := ih.mp hinner
            exact ⟨.folder hentry hholds,
              (isDocumentPlace_cons_iff hvisible hholds.ne_nil).mpr hplace⟩
      · rintro ⟨hholds, hplace⟩
        have hvisible := hplace.visible first List.mem_cons_self
        cases hholds with
        | file hfile =>
            refine ⟨_, hfile, hvisible, ?_⟩
            rw [documents, if_pos ((isDocumentPlace_singleton_iff hvisible).mp hplace)]
            exact List.mem_singleton_self _
        | folder hfolder hrest =>
            refine ⟨_, hfolder, hvisible, ?_⟩
            rw [documents_folder]
            have hbelow := (isDocumentPlace_cons_iff hvisible hrest.ne_nil).mp hplace
            exact List.mem_map.mpr ⟨_, ih.mpr ⟨hrest, hbelow⟩, rfl⟩

/-! ### In which order -/

/-- The sorted names of a directory whose names are apart increase. -/
theorem pairwise_lt_sorted_groups {entries : List Entry} (hnames : (entries.map name).Nodup) :
    ((groups entries).mergeSort inOrder).Pairwise fun first second => first.1 < second.1 := by
  have hsorted : ((groups entries).mergeSort inOrder).Pairwise
      fun first second => inOrder first second = true :=
    List.pairwise_mergeSort (fun a b c => Text.atMost_trans a.1 b.1 c.1)
      (fun a b => Text.atMost_total a.1 b.1) _
  have hapart : ((groups entries).mergeSort inOrder).Pairwise
      fun first second => first.1 ≠ second.1 := by
    have hkept : ((groups entries).map Prod.fst).Nodup := by
      rw [groups_eq, List.map_map]
      exact hnames.sublist (List.filter_sublist.map name)
    rw [← List.pairwise_map (f := Prod.fst) (R := (· ≠ ·))]
    exact ((List.mergeSort_perm _ _).map Prod.fst).nodup_iff.mpr hkept
  exact (hsorted.and hapart).imp fun h => Text.lt_of_atMost h.1 h.2

/-- The files of a tree whose names are apart are listed in the order of their places. -/
theorem pairwise_lt_listing {entries : List Entry} (hapart : NamedApart entries) :
    (listing entries).Pairwise fun first second => first.place < second.place := by
  induction hapart with
  | @intro entries hnames hinner ih =>
      rw [listing, List.pairwise_flatMap]
      have hgroups : ∀ group ∈ (groups entries).mergeSort inOrder,
          ∃ entry ∈ entries, group = (entry.name, documents entry) := by
        intro group hgroup
        rw [List.mem_mergeSort, groups_eq] at hgroup
        obtain ⟨entry, hentry, rfl⟩ := List.mem_map.mp hgroup
        exact ⟨entry, (List.mem_filter.mp hentry).1, rfl⟩
      constructor
      · -- Within one entry.
        intro group hgroup
        obtain ⟨entry, hentry, rfl⟩ := hgroups group hgroup
        cases entry with
        | file name content =>
            rw [documents]
            split
            · exact List.pairwise_singleton _ _
            · exact List.Pairwise.nil
        | folder name inner =>
            rw [documents_folder, List.pairwise_map]
            exact (ih name inner hentry).imp fun h => List.cons_lt_cons_iff.mpr (Or.inr ⟨rfl, h⟩)
      · -- Between two entries, whose names decide.
        refine (pairwise_lt_sorted_groups hnames).imp_of_mem fun hfirst hsecond hless => ?_
        obtain ⟨first, -, rfl⟩ := hgroups _ hfirst
        obtain ⟨second, -, rfl⟩ := hgroups _ hsecond
        intro file hfile other hother
        obtain ⟨place, hplace⟩ := exists_place_of_mem_documents hfile
        obtain ⟨behind, hbehind⟩ := exists_place_of_mem_documents hother
        rw [hplace, hbehind]
        exact List.cons_lt_cons_iff.mpr (Or.inl hless)

/-- The walk through a tree whose names are apart lists just the files that are documentation by
their places, each once, and their places increase in the order of the lists of names. -/
theorem listing_exact {entries : List Entry} (hapart : NamedApart entries) :
    (∀ file : SourceFile, file ∈ listing entries ↔
        Holds entries file.place file.content ∧ IsDocumentPlace file.place) ∧
      ((listing entries).map SourceFile.place).Nodup ∧
      (listing entries).Pairwise fun first second => first.place < second.place := by
  have hordered := pairwise_lt_listing hapart
  refine ⟨fun file => mem_listing_iff_holds, ?_, hordered⟩
  rw [List.Nodup, List.pairwise_map]
  refine hordered.imp fun {first second} hless hsame => ?_
  rw [hsame] at hless
  exact List.lt_irrefl _ hless

/-- A directory with a document and a hidden directory. -/
def grove : List Entry :=
  [.file "z.md" [1], .folder ".git" [.file "x.md" []]]

/-- A tree with a directory that is named like a document, a name that goes on where another ends,
and documents that are hidden or among installed modules. -/
def thicket : List Entry :=
  [.file "b.txt" [], .folder "a.md" [.file "c.Md" [2]], .file "a.md.MDX" [3], .file "z.md" [4],
    .folder "a" grove, .folder "node_modules" [.file "README.md" []], .file ".md" [], .file "md" []]

theorem namedApart_thicket : NamedApart thicket := by
  have hleaf : ∀ name content, NamedApart [.file name content] := fun name content =>
    ⟨by simp, by simp⟩
  have hgrove : NamedApart grove := by
    refine ⟨by decide, fun name inner hinner => ?_⟩
    obtain ⟨-, rfl⟩ : name = ".git".toList ∧ inner = [.file "x.md" []] := by
      simpa [grove] using hinner
    exact hleaf _ _
  refine ⟨by decide, fun name inner hinner => ?_⟩
  simp only [thicket, List.mem_cons, folder.injEq, reduceCtorEq, false_or, or_false,
    List.not_mem_nil] at hinner
  rcases hinner with ⟨-, rfl⟩ | ⟨-, rfl⟩ | ⟨-, rfl⟩
  · exact hleaf _ _
  · exact hgrove
  · exact hleaf _ _

/-- In that tree a document is listed, the hidden one beside it is not, and no place comes twice or
before a lesser one. -/
theorem listing_exact_thicket :
    NamedApart thicket ∧ ⟨["a", "z.md"], [1]⟩ ∈ listing thicket ∧
      ⟨["a", ".git", "x.md"], []⟩ ∉ listing thicket ∧
      ((listing thicket).map SourceFile.place).Nodup ∧
      (listing thicket).Pairwise fun first second => first.place < second.place := by
  obtain ⟨hmem, hnodup, hordered⟩ := listing_exact namedApart_thicket
  refine ⟨namedApart_thicket, (hmem _).mpr ⟨?_, ?_⟩, fun hlisted => ?_, hnodup, hordered⟩
  · have hgrove : .folder "a" grove ∈ thicket := by simp [thicket]
    exact .folder hgrove (.file (by simp [grove]))
  · exact ⟨by simp [IsVisible], "z.md".toList, rfl, "z".toList, "md".toList, rfl, by decide⟩
  · exact (((hmem _).mp hlisted).2.visible ".git".toList (by simp)).1 rfl

end ScriptDocs.Entry
