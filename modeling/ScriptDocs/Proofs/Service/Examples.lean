/-
# When a description repeats an example

A description takes its examples from the passages under a title for examples: those of the hits,
and behind them those of their documents, which hold the hits once more. In a store where no
fenced block stands twice, the hits alone give no example twice, and neither do their documents; an
example is repeated just where one of the hits comes up again among the first ones of the documents.
-/

import ScriptDocs.Proofs.Lists
import ScriptDocs.Proofs.Service.Searching

namespace ScriptDocs

/-- The bodies of the fenced blocks of some texts. -/
def blocksOf (contents : List Text) : List Text :=
  contents.flatMap Markdown.blockBodies

/-- The titled examples of some passages are among the blocks of their texts. -/
theorem titled_sublist_blocksOf (passages : List Passage) :
    (Reference.Page.titled passages).Sublist (blocksOf (passages.map Passage.content)) := by
  rw [Reference.Page.titled, blocksOf, List.flatMap_map]
  refine List.Sublist.flatMap_right passages fun passage _ => ?_
  rw [Reference.titledExamples]
  split
  · exact List.Sublist.refl _
  · exact List.nil_sublist _

/-- Passages with part of the texts of a table, in which no block stands twice, give no titled
example twice. -/
theorem nodup_titled {table : Table} {passages : List Passage}
    (hblocks : (blocksOf (table.map Row.content)).Nodup)
    (hpart : (passages.map Passage.content).Subperm (table.map Row.content)) :
    (Reference.Page.titled passages).Nodup :=
  (nodup_of_subperm hblocks (flatMap_subperm hpart)).sublist (titled_sublist_blocksOf passages)

/-- A passage that is shown for a row has its text. -/
theorem Row.content_of_passage {row : Row} {embedding : Vector64} {passage : Passage}
    (hshown : row.passage embedding = .ok passage) : passage.content = row.content := by
  unfold Row.passage at hshown
  split at hshown
  · cases hshown
    rfl
  · cases hshown

namespace Table

variable {table : Table}

theorem content_of_score {query : List Number} {row : Row} {hit : Hit}
    (hscored : score query row = .ok hit) : hit.passage.content = row.content := by
  unfold score at hscored
  obtain ⟨vector?, -, hrest⟩ := exists_of_bind_eq_ok hscored
  obtain ⟨score, -, hrest⟩ := exists_of_bind_eq_ok hrest
  obtain ⟨passage, hshown, hrest⟩ := exists_of_bind_eq_ok hrest
  cases hrest
  exact Row.content_of_passage hshown

/-- The hits of a search have part of the texts of the rows. -/
theorem search_contents_subperm {query : List Number} {k : Int} {hits : List Hit}
    (hfound : table.search query k = .ok hits) :
    (hits.map fun hit => hit.passage.content).Subperm (table.map Row.content) := by
  unfold search at hfound
  split at hfound
  · cases hfound
    exact List.nil_subperm
  · cases hscores : table.mapM (score query) with
    | error failure =>
        rw [hscores] at hfound
        cases hfound
    | ok scored =>
        rw [hscores] at hfound
        cases hfound
        have hcontents : scored.map (fun hit => hit.passage.content) = table.map Row.content :=
          map_eq_of_mapM_eq_ok (fun _ _ => content_of_score) hscores
        rw [← hcontents]
        have hsorted := (List.mergeSort_perm scored ranked).map fun hit => hit.passage.content
        exact ((List.take_sublist k.toNat _).map _).subperm.trans hsorted.subperm

/-- The passages of a document have the texts of some of its rows. -/
theorem bySource_contents_sublist {source : Text} {bound : Int} {passages : List Passage}
    (hfound : table.bySource source bound = .ok passages) :
    (passages.map Passage.content).Sublist
      ((table.filter fun row => row.sourcePath = source).map Row.content) := by
  unfold bySource at hfound
  split at hfound
  · cases hfound
    exact List.nil_sublist _
  split at hfound
  · cases hfound
  dsimp only at hfound
  rw [map_eq_of_mapM_eq_ok (fun _ _ => Row.content_of_passage) hfound]
  apply List.Sublist.map
  split
  · exact List.Sublist.refl _
  · exact List.take_sublist _ _

end Table

namespace Store

variable {store : Store}

/-- Rows that can be worked on are those of the table. -/
theorem eq_table_of_rows_eq_ok {rows : Table} (hrows : store.rows = .ok rows) :
    rows = store.table := by
  unfold Store.rows at hrows
  split at hrows
  · cases hrows
  · cases hrows
    rfl

theorem search_contents_subperm {query : List Number} {k : Int} {hits : List Hit}
    (hfound : store.search query k = .ok hits) :
    (hits.map fun hit => hit.passage.content).Subperm (store.table.map Row.content) := by
  unfold search at hfound
  split at hfound
  · cases hfound
    exact List.nil_subperm
  · obtain ⟨rows, hrows, hfound⟩ := exists_of_bind_eq_ok hfound
    rw [← eq_table_of_rows_eq_ok hrows]
    exact Table.search_contents_subperm hfound

theorem bySource_contents_sublist {source : Text} {bound : Int} {passages : List Passage}
    (hfound : store.bySource source bound = .ok passages) :
    (passages.map Passage.content).Sublist
      ((store.table.filter fun row => row.sourcePath = source).map Row.content) := by
  unfold bySource at hfound
  split at hfound
  · cases hfound
    exact List.nil_sublist _
  · obtain ⟨rows, hrows, hfound⟩ := exists_of_bind_eq_ok hfound
    rw [← eq_table_of_rows_eq_ok hrows]
    exact Table.bySource_contents_sublist hfound

end Store

namespace Service

open Reference (Page)

variable {service : Service}

theorem documenting_sublist {α : Type} (passageOf : α → Passage) (name : Text) (results : List α) :
    (documenting passageOf name results).Sublist results := by
  unfold documenting
  dsimp only
  split
  · exact List.nil_sublist _
  · exact List.filter_sublist

/-- A search that gets done has ranked the store against the vector of its query. -/
theorem exists_search_of_done {query : Text} {k : Int} {limit : Option Number} {hits : List Hit}
    (hdone : (service.search query k limit).outcome = .done hits) :
    ∃ vector : Vector64, service.store.search (vector.map Number.double) k = .ok hits := by
  unfold search at hdone
  rw [Work.within_eq_of_done hdone, Work.outcome_bind_eq_done_iff] at hdone
  obtain ⟨vector, -, hfound⟩ := hdone
  exact ⟨vector, Work.outcome_ofExcept_eq_done_iff.mp hfound⟩

/-- The hits of a search for a function have part of the texts of the store. -/
theorem searchFunction_contents_subperm {name : Text} {k : Int} {hits : List Hit}
    (hdone : (service.searchFunction name k).outcome = .done hits) :
    ((hits.map Hit.passage).map Passage.content).Subperm (service.store.table.map Row.content) := by
  unfold searchFunction at hdone
  obtain ⟨found, hfound, hend⟩ := Work.outcome_bind_eq_done_iff.mp hdone
  cases hend
  obtain ⟨vector, hsearch⟩ := exists_search_of_done hfound
  have hkept := (upTo_sublist service.settings.functionResults
    (documenting Hit.passage (Reference.normalizeName name) found)).trans
      (documenting_sublist Hit.passage _ found)
  rw [List.map_map]
  exact (hkept.map _).subperm.trans (Store.search_contents_subperm hsearch)

/-- The passages of some documents have part of the texts of the store. -/
theorem passagesOf_contents_subperm {sources : List Text} {bound : Int} {extra : List Passage}
    (hfound : service.passagesOf sources bound = .ok extra) :
    (extra.map Passage.content).Subperm (service.store.table.map Row.content) := by
  unfold passagesOf at hfound
  dsimp only at hfound
  have hnodup : ((distinct sources).filter (!·.isEmpty)).Nodup := (nodup_distinct sources).filter _
  generalize (distinct sources).filter (!·.isEmpty) = named at hfound hnodup
  cases hparts : named.mapM fun source => service.store.bySource source bound with
  | error failure =>
      rw [hparts] at hfound
      cases hfound
  | ok parts =>
      rw [hparts] at hfound
      cases hfound
      have hsub := flatten_sublist_of_mapM_eq_ok
        (fun _ _ => Store.bySource_contents_sublist) hparts
      rw [← List.map_flatMap] at hsub
      exact hsub.subperm.trans (map_subperm (flatMap_filter_subperm hnodup service.store.table))

theorem enrichment_contents_subperm {name : Text} {hits : List Hit} {extra : List Passage}
    (hfound : service.enrichment name hits = .ok extra) :
    (extra.map Passage.content).Subperm (service.store.table.map Row.content) := by
  unfold enrichment at hfound
  split at hfound
  · exact passagesOf_contents_subperm hfound
  · cases hfound
    exact List.nil_subperm

/-- Where no fenced block stands twice in the store, a description that rests on no hits shows no
example, and any other repeats an example just where one of the titled examples of its hits comes up
again among those of their documents that are left to fill the page. So without the passages of the
documents no example is repeated. -/
theorem describe_examples_nodup_iff {name : Text} {page : Page}
    (hblocks : (blocksOf (service.store.table.map Row.content)).Nodup)
    (hdone : (service.describe name).outcome = .done page) :
    ∃ hits, (service.searchFunction (Reference.normalizeName name) describedHits).outcome =
        .done hits ∧
      if service.isWeak hits then page.examples = []
      else ∃ extra, service.enrichment (Reference.normalizeName name) hits = .ok extra ∧
        let ranked := Page.titled (hits.map Hit.passage)
        (page.examples.Nodup ↔
          ∀ more ∈ (Page.titled extra).take (Reference.exampleLimit - ranked.length),
            more ∉ ranked) := by
  obtain ⟨hits, hhits, hpage⟩ := describe_outcome_eq_done_iff.mp hdone
  refine ⟨hits, hhits, ?_⟩
  split at hpage
  · rename_i hweak
    rw [if_pos hweak, hpage]
  · rename_i hstrong
    rw [if_neg hstrong]
    obtain ⟨extra, hextra, rfl⟩ := hpage
    refine ⟨extra, hextra, ?_⟩
    have hranked := nodup_titled hblocks (searchFunction_contents_subperm hhits)
    have hadded := nodup_titled hblocks (enrichment_contents_subperm hextra)
    dsimp only
    rw [Page.nodup_examples_ofPassages_iff, Page.titled, List.flatMap_append]
    exact nodup_take_append_iff hranked hadded Reference.exampleLimit

/-- A text with a call and an example, which says nothing of the parameter. -/
def terseText : Text := "$ping[a]\n```\npong\n```"

/-- The passage of the document is the hit once more, and its one example is shown twice. -/
theorem describe_of_terseRow :
    let table := [pingRow (some "Example") terseText]
    ((table.map Row.fingerprint).Nodup ∧ (blocksOf (table.map Row.content)).Nodup) ∧
      ∃ page, ((ofRows table).describe "ping").outcome = .done page ∧
        page.examples = ["pong", "pong"] ∧ ¬ page.examples.Nodup := by
  intro table
  have hdone : ((ofRows table).describe "ping").outcome = .done
      { function := "$ping"
        syntaxLine := some "$ping[a]"
        description := some "``` pong ```"
        parameters := [{ name := "a" }]
        examples := ["pong", "pong"]
        sources := ["ping.md"]
        confidence := .one } := by
    decide +kernel
  exact ⟨⟨by decide, by decide +kernel⟩, _, hdone, rfl, by decide⟩

/-- A row of a document that is named after no function. -/
def netRow (sectionTitle : Option Text) (content : Text) : Row :=
  { pingRow sectionTitle content with sourcePath := "/functions/net.md" }

/-- A text with two examples and no call. -/
def exampleText : Text := "```\npang\n```\n```\npeng\n```"

/-- Two rows of one document: the first one documents no function, the other one has a call. -/
def netTable : Table :=
  [netRow (some "Examples") exampleText, netRow (some "Example") terseText]

/-- The passage of the row that has a call. -/
def netPassage : Passage :=
  { pingPassage (some "Example") terseText with sourcePath := "/functions/net.md" }

theorem searchFunction_ofRows_netTable :
    ((ofRows netTable).searchFunction "ping" describedHits).outcome =
      .done [⟨netPassage, .one⟩] := by
  have hstore : (ofRows netTable).store.Searchable :=
    searchable_ofRows (by decide +kernel) (by decide +kernel)
  have hranking : Table.ranking [.one] netTable = netTable.zipIdx :=
    Table.ranking_eq_zipIdx (show ∀ row ∈ netTable, row.similarityTo [.one] = .one by
      decide +kernel)
  refine Work.outcome_bind_eq_done_iff.mpr
    ⟨_, search_outcome_eq_done_iff.mpr ⟨[.one], rfl, fun _ => hstore, rfl⟩, ?_⟩
  show Outcome.done (upTo _ (documenting _ _ (Table.firstHits [.one] netTable describedHits))) = _
  rw [Table.firstHits, hranking]
  decide +kernel

/-- The document of the hit completes its page: the examples of the other row fill it before the
example of the hit comes up again. -/
theorem describe_examples_nodup_iff_of_netTable :
    (blocksOf (netTable.map Row.content)).Nodup ∧
      ∃ page, ((ofRows netTable).describe "ping").outcome = .done page ∧
        page.examples = ["pong", "pang", "peng"] ∧ page.examples.Nodup := by
  have hblocks : (blocksOf (netTable.map Row.content)).Nodup := by decide +kernel
  have hstrong : ¬ (ofRows netTable).isWeak [⟨netPassage, .one⟩] = true := by decide +kernel
  have hboth : (ofRows netTable).enrichment "ping" [⟨netPassage, .one⟩] =
      .ok [{ netPassage with
          sectionTitle := some "Examples"
          content := exampleText
          embedding := []
          fingerprint := exampleText },
        { netPassage with embedding := [] }] := by
    decide +kernel
  have hdone : ((ofRows netTable).describe "ping").outcome = .done
      { function := "$ping"
        syntaxLine := some "$ping[a]"
        description := some "``` pong ```"
        parameters := [{ name := "a" }]
        examples := ["pong", "pang", "peng"]
        sources := ["net.md"]
        confidence := .one } := by
    refine describe_outcome_eq_done_iff.mpr ⟨_, searchFunction_ofRows_netTable, ?_⟩
    rw [if_neg hstrong]
    exact ⟨_, hboth, by decide +kernel⟩
  obtain ⟨hits, hhits, hpage⟩ := describe_examples_nodup_iff hblocks hdone
  obtain rfl := Outcome.done.inj (searchFunction_ofRows_netTable.symm.trans hhits)
  rw [if_neg hstrong] at hpage
  obtain ⟨extra, hextra, hnodup⟩ := hpage
  obtain rfl := Except.ok.inj (hboth.symm.trans hextra)
  exact ⟨hblocks, _, hdone, rfl, hnodup.mpr (by decide +kernel)⟩

end Service

end ScriptDocs
