/-
# How a function is described

A description starts from the hits about a function. Where these leave the parameters undescribed,
the other passages of their documents are put behind them; this adds to the page, and what the
hits told of the syntax, the description and the sources stays.
-/

import ScriptDocs.Proofs.Reference.Gathering
import ScriptDocs.Proofs.Work
import ScriptDocs.Service

namespace ScriptDocs.Service

open Reference (Page)

variable {service : Service}

/-- The passages that complete the page of some hits: those of their documents, where the hits
leave the parameters undescribed. -/
def enrichment (service : Service) (name : Text) (hits : List Hit) :
    Except Failure (List Passage) :=
  if (Page.ofPassages name (hits.map Hit.passage)).lacksDetails then
    service.passagesOf ((hits.map Hit.passage).map Passage.sourcePath) sourceLimit
  else .ok []

/-- The page of some hits is that of their passages and those that complete them. -/
theorem pageOf_eq (service : Service) (name : Text) (hits : List Hit) :
    service.pageOf name hits = (service.enrichment name hits).map fun extra =>
      Page.ofPassages name (hits.map Hit.passage ++ extra) := by
  unfold pageOf enrichment
  dsimp only
  split
  · cases service.passagesOf ((hits.map Hit.passage).map Passage.sourcePath) sourceLimit with
    | error failure => rfl
    | ok extra =>
        cases extra with
        | nil => simp [Except.map, bind, Except.bind, pure, Except.pure]
        | cons passage extra => rfl
  · simp [Except.map, pure, Except.pure]

theorem describe_outcome_eq_done_iff {name : Text} {page : Page} :
    (service.describe name).outcome = .done page ↔
      ∃ hits, (service.searchFunction (Reference.normalizeName name) describedHits).outcome =
          .done hits ∧
        if service.isWeak hits then
          page = { function := '$' :: Reference.normalizeName name, confidence := confidence hits }
        else ∃ extra, service.enrichment (Reference.normalizeName name) hits = .ok extra ∧
          page = { Page.ofPassages (Reference.normalizeName name) (hits.map Hit.passage ++ extra)
            with confidence := confidence hits } := by
  rw [describe, Work.outcome_bind_eq_done_iff]
  apply exists_congr
  intro hits
  apply and_congr_right
  intro _
  split
  · constructor
    · intro hdone
      cases hdone
      rfl
    · rintro rfl
      rfl
  · rw [Work.outcome_bind_eq_done_iff, pageOf_eq]
    simp only [Work.outcome_ofExcept_eq_done_iff]
    cases service.enrichment (Reference.normalizeName name) hits with
    | error failure => simp [Except.map]
    | ok extra =>
        constructor
        · rintro ⟨found, hfound, hend⟩
          cases hfound
          cases hend
          exact ⟨extra, rfl, rfl⟩
        · rintro ⟨added, hadded, rfl⟩
          cases hadded
          exact ⟨_, rfl, rfl⟩

/-- What some passages tell of the syntax, the description and the sources stays when there are more
of them. So where the passages of their documents are put behind hits about a function, the
description of the function keeps what the hits told. -/
theorem more_passages_keep_findings :
    (∀ name first more,
      (Page.ofPassages name (first ++ more)).Extends (Page.ofPassages name first)) ∧
    ∀ (service : Service) name page, (service.describe name).outcome = .done page →
      ∃ hits, (service.searchFunction (Reference.normalizeName name) describedHits).outcome =
          .done hits ∧
        (service.isWeak hits = false →
          page.Extends
            (Page.ofPassages (Reference.normalizeName name) (hits.map Hit.passage))) := by
  refine ⟨Page.ofPassages_append_extends, fun service name page hdone => ?_⟩
  obtain ⟨hits, hhits, hpage⟩ := describe_outcome_eq_done_iff.mp hdone
  refine ⟨hits, hhits, fun hstrong => ?_⟩
  rw [hstrong, if_neg Bool.false_ne_true] at hpage
  obtain ⟨extra, -, rfl⟩ := hpage
  exact Page.Extends.withConfidence (Page.ofPassages_append_extends _ _ extra) _

/-- A row of the document about one function. -/
def pingRow (sectionTitle : Option Text) (content : Text) : Row where
  sourcePath := "/functions/ping.md"
  sectionTitle
  content
  vector := .vector [.one]
  fingerprint := content

/-- The passage that a row of the document about the function is read as. -/
def pingPassage (sectionTitle : Option Text) (content : Text) : Passage where
  sourcePath := "/functions/ping.md"
  sectionTitle
  content
  embedding := [.one]
  fingerprint := content

/-- A service over some rows that embeds all queries in the same direction. -/
def ofRows (table : Table) : Service where
  settings := {}
  store := { table }
  embed _ := .done [.one]
  generate _ := .done []

theorem searchFunction_ofRows_pingRow :
    ((ofRows [pingRow none "$ping[a]"]).searchFunction "ping" describedHits).outcome =
      .done [⟨pingPassage none "$ping[a]", .one⟩] := by
  decide +kernel

theorem describe_ofRows_pingRow :
    ((ofRows [pingRow none "$ping[a]"]).describe "ping").outcome = .done
      { function := "$ping"
        syntaxLine := some "$ping[a]"
        parameters := [{ name := "a" }]
        sources := ["ping.md"]
        confidence := .one } := by
  decide +kernel

/-- The second call does not replace the first one, and the page of a hit keeps its call where the
passages of its document are put behind it. -/
theorem more_passages_keep_findings_of_twoCalls :
    let first := [pingPassage none "$ping[a]"]
    let more := [pingPassage none "$ping[b]"]
    ((Page.ofPassages "ping" first).syntaxLine = some "$ping[a]" ∧
        (Page.ofPassages "ping" more).syntaxLine = some "$ping[b]" ∧
        (Page.ofPassages "ping" (first ++ more)).syntaxLine = some "$ping[a]") ∧
      ∃ page, ((ofRows [pingRow none "$ping[a]"]).describe "ping").outcome = .done page ∧
        page.syntaxLine = some "$ping[a]" := by
  intro first more
  obtain ⟨hmore, hdescribed⟩ := more_passages_keep_findings
  have hfirst : (Page.ofPassages "ping" first).syntaxLine = some "$ping[a]" := by decide +kernel
  refine ⟨⟨hfirst, by decide +kernel, (hmore "ping" first more).syntaxLine _ hfirst⟩, ?_⟩
  obtain ⟨hits, hhits, hkeeps⟩ := hdescribed _ _ _ describe_ofRows_pingRow
  obtain rfl := Outcome.done.inj (searchFunction_ofRows_pingRow.symm.trans hhits)
  exact ⟨_, describe_ofRows_pingRow, (hkeeps (by decide +kernel)).syntaxLine _ hfirst⟩

end ScriptDocs.Service
