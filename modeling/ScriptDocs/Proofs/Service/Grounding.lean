/-
# What answers are grounded on

The generation provider is asked in two places: for the answer to a question, with the first ones of
the hits for it, and for the correction of a snippet, with hits for the intent and for the
documented functions. Either way one request asks it at most once, and the passages that it is given
are stored ones, but for their titles, and no more than the settings admit. An answer is asked for
just where the best hit for the question is there and not below the threshold.
-/

import ScriptDocs.Proofs.Asking
import ScriptDocs.Proofs.Service.Score
import ScriptDocs.Proofs.Snippet.Assistance
import ScriptDocs.Server.Routes

namespace ScriptDocs

/-- The passage that a row is shown as, with the vector that is read from it. -/
def Row.Shows (row : Row) (passage : Passage) : Prop :=
  ∃ vector?, row.vector.decode = .ok vector? ∧ row.passage (vector?.getD []) = .ok passage

/-- A hit shows its row. -/
theorem Row.shows_hit {row : Row} (hvalid : row.Valid) (hread : row.Readable) (vector : Vector64) :
    row.Shows (row.hit vector).passage := by
  obtain ⟨vector?, hdecode⟩ := hread
  refine ⟨vector?, hdecode, ?_⟩
  rw [Row.passage, hvalid.faults, Row.hit, hdecode]
  cases vector? with
  | none => rfl
  | some other => rfl

namespace Service

variable {service : Service} {hits : List Hit}

/-- The service with another generation provider. -/
def asking (service : Service) (generate : ChatQuestion → Work Text) : Service :=
  { service with generate }

/-- A question whose passages are stored ones but for the form of their titles, no more of them than
the settings admit. -/
structure Grounded (service : Service) (question : ChatQuestion) : Prop where
  few : (question.context.length : Int) ≤ service.settings.contextPassages
  stored : ∀ passage ∈ question.context, ∃ row ∈ service.store.table, ∃ stored, row.Shows stored ∧
    passage = { stored with
      sectionTitle := (stored.sectionTitle.map flatTitle).filter fun title => !title.isEmpty }

/-- What a search finds is stored. -/
theorem shown_of_search {query : Text} {k : Int}
    (hfound : (service.search query k).outcome = .done hits) :
    ∀ hit ∈ hits, ∃ row ∈ service.store.table, row.Shows hit.passage := by
  obtain ⟨vector, -, hstore, rfl⟩ := search_outcome_eq_done_iff.mp hfound
  intro hit hhit
  obtain ⟨entry, hentry, rfl⟩ := List.mem_map.mp hhit
  have hpos : 0 < k := by
    by_contra hnothing
    rw [Int.toNat_of_nonpos (not_lt.mp hnothing)] at hentry
    cases hentry
  have hrow := Table.mem_table_of_mem_ranking (List.mem_of_mem_take hentry)
  exact ⟨entry.1, hrow, Row.shows_hit ((hstore hpos).valid _ hrow) ((hstore hpos).readable _ hrow)
    vector⟩

theorem shown_of_searchAll {names : List Text}
    (hfound : (service.searchAll names).outcome = .done hits) :
    ∀ hit ∈ hits, ∃ row ∈ service.store.table, row.Shows hit.passage := by
  induction names generalizing hits with
  | nil =>
      cases hfound
      exact nofun
  | cons name names ih =>
      obtain ⟨first, hfirst, hothers⟩ := Work.outcome_bind_eq_done_iff.mp hfound
      obtain ⟨rest, hrest, hend⟩ := Work.outcome_bind_eq_done_iff.mp hothers
      cases hend
      intro hit hhit
      rcases List.mem_append.mp hhit with hhit | hhit
      · exact shown_of_search hfirst hit hhit
      · exact ih hrest hit hhit

/-- Passages of hits that are stored may be given to the provider. -/
theorem grounded_of_shown (hcontext : 0 ≤ service.settings.contextPassages)
    {question : ChatQuestion} (hquestion : question.context = service.contextOf hits)
    (hshown : ∀ hit ∈ hits, ∃ row ∈ service.store.table, row.Shows hit.passage) :
    service.Grounded question where
  few := by
    rw [hquestion, contextOf, List.length_map, upTo, if_neg (not_lt.mpr hcontext), List.length_take]
    omega
  stored passage hpassage := by
    rw [hquestion, contextOf] at hpassage
    obtain ⟨hit, hhit, rfl⟩ := List.mem_map.mp hpassage
    obtain ⟨row, hrow, hshows⟩ := hshown hit ((upTo_sublist _ _).subset hhit)
    exact ⟨row, hrow, hit.passage, hshows, rfl⟩

/-- The best score of some first hits is the greatest one. -/
theorem atMost_bestScore_of_search {query : Text} {k : Int}
    (hfound : (service.search query k).outcome = .done hits) :
    ∀ hit ∈ hits, hit.score.atMost (bestScore hits) = true := by
  obtain ⟨vector, -, -, rfl⟩ := search_outcome_eq_done_iff.mp hfound
  have hnumbers : ∀ row ∈ service.store.table, row.similarityTo vector ≠ .notANumber :=
    fun row _ => row.similarityTo_ne_notANumber vector
  have hordered := (Table.pairwise_ahead_ranking hnumbers).sublist (List.take_sublist k.toNat _)
  have hrows : ∀ entry, entry ∈ (Table.ranking vector service.store.table).take k.toNat →
      entry ∈ service.store.table.zipIdx := fun entry hentry =>
    Table.ranking_perm.mem_iff.mp (List.mem_of_mem_take hentry)
  intro hit hhit
  obtain ⟨entry, hentry, rfl⟩ := List.mem_map.mp hhit
  rcases Table.isTopScore_of_ordered hnumbers hordered
    (fun entry => (and_iff_right_of_imp (hrows entry)).symm) with ⟨-, hgreatest⟩ | ⟨hnone, -⟩
  · exact hgreatest entry (hrows entry hentry) hentry
  · exact absurd hentry (hnone entry (hrows entry hentry))

/-- The hits that an answer to a question rests on: those that a search for it finds, where there
are some and the best of them is not below the threshold. -/
structure RestsOn (service : Service) (prompt : Text) (hits : List Hit) : Prop where
  prompt_ne_nil : prompt ≠ []
  found : (service.search prompt service.settings.hitLimit).outcome = .done hits
  ne_nil : hits ≠ []
  strong : (Number.double (bestScore hits)).below service.settings.threshold = false

theorem restsOn_iff {prompt : Text} : service.RestsOn prompt hits ↔ prompt ≠ [] ∧
    (service.search prompt service.settings.hitLimit).outcome = .done hits ∧
      service.isWeak hits = false := by
  rw [isWeak, Bool.or_eq_false_iff, List.isEmpty_eq_false_iff]
  exact ⟨fun ⟨hprompt, hfound, hsome, hstrong⟩ => ⟨hprompt, hfound, hsome, hstrong⟩,
    fun ⟨hprompt, hfound, hsome, hstrong⟩ => ⟨hprompt, hfound, hsome, hstrong⟩⟩

/-- The question for the correction of a snippet, with some hits to rest on. -/
def correctionQuestion (service : Service) (request : CorrectionRequest) (hits : List Hit) :
    ChatQuestion where
  prompt := Prompt.correction request.intent request.code request.findings
  context := service.contextOf hits
  mostTokens := GenerationClient.tokenLimit

/-- Who generates makes no difference to a search. -/
theorem searchAll_asking (generate : ChatQuestion → Work Text) (names : List Text) :
    (service.asking generate).searchAll names = service.searchAll names := by
  induction names with
  | nil => rfl
  | cons name names ih =>
      rw [searchAll, searchAll, ih]
      rfl

theorem suggest_asking (generate : ChatQuestion → Work Text) (request : CorrectionRequest) :
    (service.asking generate).suggest request =
      service.search request.intent service.settings.hitLimit >>= fun hits =>
        service.searchAll request.documented >>= fun more =>
          generate (service.correctionQuestion request (hits ++ more)) >>= fun answer =>
            .done (Text.firstMatch? Snippet.fencedBlock answer) := by
  rw [suggest, searchAll_asking]
  rfl

/-- A correction is asked for once, unless a search fails. -/
theorem asksOnly_suggest (hcontext : 0 ≤ service.settings.contextPassages)
    (request : CorrectionRequest) :
    AsksOnly service.Grounded fun generate => (service.asking generate).suggest request := by
  simp only [suggest_asking]
  refine AsksOnly.after fun hits hhits => AsksOnly.after fun more hmore => ?_
  have hshown : ∀ hit ∈ hits ++ more, ∃ row ∈ service.store.table, row.Shows hit.passage := by
    intro hit hhit
    rcases List.mem_append.mp hhit with hhit | hhit
    · exact shown_of_search hhits hit hhit
    · exact shown_of_searchAll hmore hit hhit
  exact Or.inr ⟨_, grounded_of_shown hcontext rfl hshown, (asksOnce_ask _).bind _⟩

/-- A validation asks at most for one correction. -/
theorem asksOnly_validate (hcontext : 0 ≤ service.settings.contextPassages) (assisted : Bool)
    (threshold : Number) (limit : Option Number) (asked : Snippet.ValidationRequest) :
    AsksOnly service.Grounded fun generate =>
      Snippet.validate ((service.asking generate).advisers assisted) threshold limit asked := by
  cases assisted with
  | false => exact AsksOnly.const (Snippet.validate (service.advisers false) threshold limit asked)
  | true =>
      have hrun : ∀ generate,
          Snippet.validate ((service.asking generate).advisers true) threshold limit asked =
            Snippet.prepared (service.advisers true).score threshold limit asked >>= fun found =>
              Snippet.correctionOf (some (service.asking generate).suggest) found.1 found.2.1
                found.2.2 >>= Snippet.conclude found.2.1 :=
        fun generate => Snippet.validate_eq_prepared _ asked
      simp only [hrun]
      refine AsksOnly.after fun found hprepared => AsksOnly.bind ?_ _
      obtain ⟨given, plain, corrective⟩ := found
      have hasks := (Snippet.prepared_outcome_eq_done hprepared).2
      by_cases hneeds : Snippet.NeedsAssistant asked.mode plain
      · simp only [(Snippet.correctionOf_of_needs given hasks hneeds).2]
        exact asksOnly_suggest hcontext _
      · simp only [Snippet.correctionOf_of_not_needs hasks hneeds]
        exact AsksOnly.const _

end Service

namespace Server

variable {service : Service} {form : AnswerForm} {hits : List Hit}

/-- Without a question nothing is searched for. -/
theorem answerQuestion_of_blank (hblank : form.prompt = []) (service : Service) :
    answerQuestion service form = .fail .questionBlank := by
  rw [answerQuestion, hblank]
  rfl

/-- The answer that a text of the provider makes, with the documents that it rests on. -/
def answerFrom (service : Service) (form : AnswerForm) (hits : List Hit) (text : Text) : Answer :=
  let sources := distinct
    ((service.contextOf hits).map fun passage => Reference.shownPath passage.sourcePath)
  if form.wantsCode then
    { code := some ((Text.firstMatch? Markdown.wholeBlock text).getD text), sources,
      confidence := Service.confidence hits }
  else { words := some text, sources, confidence := Service.confidence hits }

/-- An answer starts with a search, and the provider is asked after it, if at all. -/
theorem answerQuestion_asking (hprompt : form.prompt ≠ []) (generate : ChatQuestion → Work Text) :
    answerQuestion (service.asking generate) form =
      service.search form.prompt service.settings.hitLimit >>= fun hits =>
        if service.isWeak hits then
          .done { words := some Prompt.notDocumented, confidence := Service.confidence hits }
        else generate (form.question (service.contextOf hits)) >>= fun text =>
          .done (answerFrom service form hits text) := by
  have hsome : form.prompt.isEmpty = false := List.isEmpty_eq_false_iff.mpr hprompt
  rw [answerQuestion, hsome, if_neg Bool.false_ne_true]
  unfold answerFrom
  cases form.wantsCode <;> rfl

/-- Strong hits are answered from. -/
theorem asksOnce_answerQuestion (hrests : service.RestsOn form.prompt hits) :
    AsksOnce (form.question (service.contextOf hits)) fun generate =>
      answerQuestion (service.asking generate) form := by
  obtain ⟨hprompt, hfound, hstrong⟩ := Service.restsOn_iff.mp hrests
  simp only [answerQuestion_asking hprompt]
  apply AsksOnce.after hfound
  simp only [hstrong, Bool.false_eq_true, if_false]
  exact (asksOnce_ask _).bind _

/-- Without strong hits nobody is asked. -/
theorem asksNothing_answerQuestion (hnot : ∀ hits, ¬ service.RestsOn form.prompt hits) :
    AsksNothing fun generate => answerQuestion (service.asking generate) form := by
  by_cases hprompt : form.prompt = []
  · simp only [answerQuestion_of_blank hprompt]
    exact asksNothing_const _
  simp only [answerQuestion_asking hprompt]
  refine AsksNothing.after fun hits hhits => ?_
  have hweak : service.isWeak hits = true := by
    by_contra hstrong
    exact hnot hits (Service.restsOn_iff.mpr ⟨hprompt, hhits, by simpa using hstrong⟩)
  simp only [hweak, if_true]
  exact asksNothing_const _

theorem asksOnly_answerQuestion (hcontext : 0 ≤ service.settings.contextPassages)
    (form : AnswerForm) :
    AsksOnly service.Grounded fun generate => answerQuestion (service.asking generate) form := by
  by_cases hrests : ∃ hits, service.RestsOn form.prompt hits
  · obtain ⟨hits, hrests⟩ := hrests
    exact Or.inr ⟨_, Service.grounded_of_shown hcontext rfl (Service.shown_of_search hrests.found),
      asksOnce_answerQuestion hrests⟩
  · exact Or.inl (asksNothing_answerQuestion fun hits h => hrests ⟨hits, h⟩)

/-- Whatever a request is for, it asks the provider at most once, and rests on stored passages. -/
theorem asksOnly_respond (hcontext : 0 ≤ service.settings.contextPassages) (request : Request) :
    AsksOnly service.Grounded fun generate => respond (service.asking generate) request := by
  unfold respond
  split
  · rename_i route hroute
    split
    · cases route with
      | health => exact AsksOnly.const (healthResponse service.settings)
      | search => exact AsksOnly.const (Route.work service request .search)
      | statistics => exact AsksOnly.const (Route.work service request .statistics)
      | function => exact AsksOnly.const (Route.work service request .function)
      | validation =>
          exact (Service.asksOnly_validate hcontext true service.settings.threshold none _).bind _
      | answer =>
          unfold Route.work
          dsimp only
          split
          · exact (asksOnly_answerQuestion hcontext _).bind _
          · exact AsksOnly.const _
    · exact AsksOnly.const _
  · split
    · exact AsksOnly.const _
    · exact AsksOnly.const _

/-- Generation is grounded. Whatever a request, a validation or a call for a correction is about, it
asks the generation provider at most once, with no more passages than the settings admit, each of
them stored but for the form of its title. An answer is asked for just where the search for the
cleaned question finds hits of which the best is not below the threshold, and then once, with the
first ones of these hits. They are the first ones of the ranking for the question; their best score
is the greatest one; and not to be below a threshold that is a number is to reach it. -/
theorem generation_is_grounded (hcontext : 0 ≤ service.settings.contextPassages) :
    (∀ request, AsksOnly service.Grounded fun generate =>
      respond (service.asking generate) request) ∧
    (∀ assisted threshold limit asked, AsksOnly service.Grounded fun generate =>
      Snippet.validate ((service.asking generate).advisers assisted) threshold limit asked) ∧
    (∀ request, AsksOnly service.Grounded fun generate =>
      (service.asking generate).suggest request) ∧
    (∀ request mostTokens,
      let form := AnswerForm.ofRequest request mostTokens
      let run := fun generate => answerQuestion (service.asking generate) form
      (¬ AsksNothing run ↔ ∃ hits, service.RestsOn form.prompt hits) ∧
      ∀ hits, service.RestsOn form.prompt hits →
        AsksOnce (form.question ((hits.take service.settings.contextPassages.toNat).map
          fun hit => Service.contextPassage hit.passage)) run) ∧
    ∀ query k hits, (service.search query k).outcome = .done hits →
      (∃ vector, service.Embeds query vector ∧
        hits = Table.firstHits vector service.store.table k) ∧
      (∀ hit ∈ hits, hit.score.atMost (Service.bestScore hits) = true) ∧
      (service.settings.threshold.IsNumber →
        ((Number.double (Service.bestScore hits)).below service.settings.threshold = false ↔
          service.settings.threshold.atMost (.double (Service.bestScore hits)) = true)) := by
  refine ⟨asksOnly_respond hcontext, Service.asksOnly_validate hcontext,
    Service.asksOnly_suggest hcontext, fun request mostTokens => ?_, fun query k hits hfound => ?_⟩
  · intro form run
    have honce : ∀ hits, service.RestsOn form.prompt hits →
        AsksOnce (form.question ((hits.take service.settings.contextPassages.toNat).map
          fun hit => Service.contextPassage hit.passage)) run := by
      intro hits hrests
      have hasked := asksOnce_answerQuestion hrests
      rwa [Service.contextOf, upTo, if_neg (not_lt.mpr hcontext)] at hasked
    refine ⟨⟨fun hasks => ?_, ?_⟩, honce⟩
    · by_contra hnone
      exact hasks (asksNothing_answerQuestion fun hits hrests => hnone ⟨hits, hrests⟩)
    · rintro ⟨hits, hrests⟩
      exact (honce hits hrests).not_asksNothing
  · obtain ⟨vector, hanswer, -, hhits⟩ := Service.search_outcome_eq_done_iff.mp hfound
    refine ⟨⟨vector, hanswer, hhits⟩, Service.atMost_bestScore_of_search hfound, fun hnumber => ?_⟩
    have hbest : Number.IsNumber (.double (Service.bestScore hits)) := by
      rw [hhits]
      exact Number.isNumber_double (Service.bestScore_ne_notANumber vector _)
    rw [Number.atMost_eq_not_below hnumber hbest, Bool.not_eq_true']

/-- A row about a function whose title stands on two lines. -/
def titledRow : Row :=
  Service.pingRow (some "A\nB") "$ping[a]"

/-- A request with a question for an answer. -/
def pingRequest : Request where
  path := Route.answer.path
  parameters := [("q", " ping ")]

/-- The question is cleaned, and the title is put on one line. -/
theorem generation_is_grounded_of_titledRow :
    let service := Service.ofRows [titledRow]
    let form := AnswerForm.ofRequest pingRequest none
    0 ≤ service.settings.contextPassages ∧ form.prompt = "ping" ∧
      (∀ question,
        AsksOnce question (fun generate => answerQuestion (service.asking generate) form) ↔
          question = form.question [Service.pingPassage (some "A B") "$ping[a]"]) ∧
      AsksOnly service.Grounded fun generate => respond (service.asking generate) pingRequest := by
  intro service form
  have hcontext : 0 ≤ service.settings.contextPassages := by decide
  have hrests : service.RestsOn form.prompt
      [⟨Service.pingPassage (some "A\nB") "$ping[a]", .one⟩] :=
    ⟨by decide +kernel, by decide +kernel, List.cons_ne_nil _ _, by decide +kernel⟩
  obtain ⟨hrequests, -, -, hanswers, -⟩ := generation_is_grounded hcontext
  have honce := (hanswers pingRequest none).2 _ hrests
  refine ⟨hcontext, by decide +kernel, fun question => ⟨fun hasked => hasked.unique honce, ?_⟩,
    hrequests pingRequest⟩
  rintro rfl
  exact honce

end Server

end ScriptDocs
