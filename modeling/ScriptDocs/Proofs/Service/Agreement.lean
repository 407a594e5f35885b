/-
# Where validation and description agree

Both look a function up by the same query, and both compare the best score among the passages that
document it with the threshold; only a description ranks more passages before it narrows them. As
the fewer ones are the front of the more, what a validation takes for documented is described. What
is described counts as documented just where one of the passages about it is already among the
fewer ones.
-/

import ScriptDocs.Proofs.Service.Score
import ScriptDocs.Proofs.Snippet.Stripping
import ScriptDocs.Correction

namespace ScriptDocs

theorem Binary64.unitsOfOne_pos : 0 < Binary64.unitsOfOne := by
  decide +kernel

namespace Number

variable {threshold : Number}

theorem isNumber_of_positive (hpositive : (integer 0).below threshold = true) :
    threshold.IsNumber := by
  rintro rfl
  cases hpositive

theorem zero_below_of_positive (hpositive : (integer 0).below threshold = true) :
    (double .zero).below threshold = true := by
  cases threshold with
  | integer n =>
      have hn : 0 < n := of_decide_eq_true hpositive
      have hunits : 0 < n * Binary64.unitsOfOne :=
        Int.mul_pos hn (Int.natCast_pos.mpr Binary64.unitsOfOne_pos)
      rw [below, Binary64.zero, compareWith]
      exact decide_eq_true hunits
  | double x =>
      cases x with
      | notANumber => cases hpositive
      | infinite negative =>
          cases negative with
          | true => cases hpositive
          | false => decide +kernel
      | finite negative units =>
          rw [below, compareWith, Int.zero_mul] at hpositive
          exact hpositive

end Number

namespace Snippet

variable {name : Text}

/-- A snippet that does nothing but call a function without arguments. -/
def emptyCall (name : Text) : Text :=
  '$' :: (name ++ "[]".toList)

theorem not_mem_emptyCall (hname : IsName name) {c : Char} (hc : isNameChar c = false)
    (hother : c ∉ "$[]".toList) : c ∉ emptyCall name := by
  intro hmem
  rcases List.mem_cons.mp hmem with rfl | hrest
  · exact hother (by decide)
  · rcases List.mem_append.mp hrest with hinside | hbracket
    · rw [hname.isNameChar hinside] at hc
      cases hc
    · exact hother (List.mem_cons_of_mem _ hbracket)

theorem unfenced_of_not_mem {s : Text} (hs : '`' ∉ s) : Unfenced s := by
  rintro t ht ⟨opened, rfl, -⟩
  exact hs (ht.subset List.mem_cons_self)

theorem stripFences_emptyCall (hname : IsName name) :
    stripFences (emptyCall name) = emptyCall name := by
  have htrimmed : Text.trim (emptyCall name) = emptyCall name := by
    refine Text.trim_eq_self_iff.mpr ⟨?_, fun c hc => ?_⟩
    · rintro c ⟨⟩
      rfl
    · rw [emptyCall, ← List.cons_append, List.getLast?_append] at hc
      cases hc
      rfl
  have hunfenced : Unfenced (emptyCall name) :=
    unfenced_of_not_mem (not_mem_emptyCall hname (by decide) (by decide))
  rw [stripFences, htrimmed, hunfenced.replaceMatches_eq, htrimmed]

/-- The only name in a call without arguments is that of the function. -/
theorem referencedFunctions_emptyCall (hname : IsName name)
    (hkeyword : Text.lower ('$' :: name) ∉ flowKeywords) :
    referencedFunctions (emptyCall name) = ['$' :: name] := by
  have hends : EndsName "[]".toList := by
    rintro c ⟨⟩
    decide
  have hsigil : '$' ∉ name ++ "[]".toList := by
    rw [List.mem_append, not_or]
    refine ⟨fun hmem => ?_, by decide⟩
    exact absurd (hname.isNameChar hmem) (by decide)
  have hsome : name.isEmpty = false := List.isEmpty_eq_false_iff.mpr hname.1
  have hnames : Text.allMatches nameInFront (emptyCall name) = ['$' :: name] := by
    rw [readsRun_nameInFront.allMatches_eq, emptyCall, Text.runsBehind, if_pos rfl,
      Text.runsBehind_of_not_mem hsigil, (hname.takeWhile_append hends).1, List.filterMap_cons_some]
    · rfl
    · rw [sigiled?, hsome, if_neg Bool.false_ne_true]
  rw [referencedFunctions, functionNames, hnames]
  exact List.filter_eq_self.mpr fun other hother => by
    rw [List.mem_singleton.mp hother]
    exact decide_eq_true hkeyword

/-- The function counts as documented just where its score is told and reaches the threshold. -/
theorem exists_documented_emptyCall_iff (hname : IsName name)
    (hkeyword : Text.lower ('$' :: name) ∉ flowKeywords) {advisers : Advisers}
    {threshold : Number} :
    (∃ diagnosis, (validate advisers threshold none ⟨some (emptyCall name), none, .null⟩).outcome =
        .done diagnosis ∧ '$' :: name ∈ diagnosis.coverage.documented) ↔
      ∃ found, (advisers.score ('$' :: name)).outcome = .done found ∧
        threshold.atMost found = true := by
  have hlookup : ∀ coverage, (Work.within none .validationTimedOut (classify advisers.score
      threshold (referencedFunctions (stripFences (emptyCall name))))).outcome = .done coverage ↔
        ∃ found, (advisers.score ('$' :: name)).outcome = .done found ∧
          coverage = if threshold.atMost found then ⟨['$' :: name], []⟩
            else ⟨[], ['$' :: name]⟩ := by
    intro coverage
    rw [stripFences_emptyCall hname, referencedFunctions_emptyCall hname hkeyword, Work.within,
      classify, Work.outcome_bind_eq_done_iff]
    apply exists_congr
    intro found
    apply and_congr_right
    intro _
    cases threshold.atMost found <;>
      exact ⟨fun hend => (Outcome.done.inj hend).symm, fun hsame => congrArg _ hsame.symm⟩
  constructor
  · rintro ⟨diagnosis, hdone, hmem⟩
    obtain ⟨-, plain, hplain, corrective, -, corrected, -, -, rfl⟩ :=
      validate_outcome_eq_done_iff.mp hdone
    obtain ⟨coverage, hcoverage, rfl⟩ := diagnose_outcome_eq_done_iff.mp hplain
    obtain ⟨found, hfound, rfl⟩ := (hlookup coverage).mp hcoverage
    refine ⟨found, hfound, ?_⟩
    by_contra hlow
    dsimp only [diagnosisOf] at hmem
    rw [if_neg hlow] at hmem
    cases hmem
  · rintro ⟨found, hfound, hreaches⟩
    have hcoverage := (hlookup ⟨['$' :: name], []⟩).mpr ⟨found, hfound, by rw [if_pos hreaches]⟩
    have hsome : stripFences (emptyCall name) ≠ [] := by
      rw [stripFences_emptyCall hname]
      exact List.cons_ne_nil _ _
    refine ⟨_, validate_outcome_eq_done_iff.mpr ⟨⟨List.cons_ne_nil _ _, hsome⟩, _,
      diagnose_outcome_eq_done_iff.mpr ⟨_, hcoverage, rfl⟩, false, rfl, none, rfl, rfl, rfl⟩, ?_⟩
    exact List.mem_cons_self

end Snippet

namespace Service

variable {service : Service} {name : Text} {vector : Vector64} {table : Table}

theorem documentedRows_isPrefix {fewer more : Int} (hless : fewer ≤ more) :
    documentedRows vector table fewer name <+: documentedRows vector table more name :=
  (List.take_prefix_take_left (Int.toNat_le_toNat hless)).filter _

/-- What documents a function among more hits begins with what documents it among fewer. -/
theorem documentedHits_isPrefix {fewer more : Int} (hless : fewer ≤ more) :
    documentedHits vector table fewer name <+: documentedHits vector table more name :=
  (documentedRows_isPrefix hless).map _

theorem bestScore_eq_of_isPrefix {hits more : List Hit} (hpart : hits <+: more)
    (hsome : hits ≠ []) : bestScore more = bestScore hits := by
  obtain ⟨rest, rfl⟩ := hpart
  cases hits with
  | nil => exact absurd rfl hsome
  | cons hit hits => rfl

theorem bestScore_documentedHits_ne_notANumber (k : Int) :
    bestScore (documentedHits vector table k name) ≠ .notANumber :=
  bestScore_ne_notANumber vector _

/-- There are such hits just where a row that documents the function is among the best ranked. -/
theorem documentedHits_ne_nil_iff {k : Int} :
    documentedHits vector table k name ≠ [] ↔ ∃ entry ∈ table.zipIdx,
      AmongBest vector table k entry ∧ entry.1.Documents name := by
  have hnumbers : ∀ row ∈ table, row.similarityTo vector ≠ .notANumber :=
    fun row _ => row.similarityTo_ne_notANumber vector
  rw [documentedHits, ne_eq, List.map_eq_nil_iff]
  constructor
  · intro hsome
    obtain ⟨entry, hentry⟩ := List.exists_mem_of_ne_nil _ hsome
    obtain ⟨hfront, hdocuments⟩ := mem_documentedRows_iff.mp hentry
    have hrow := Table.ranking_perm.mem_iff.mp (List.mem_of_mem_take hfront)
    exact ⟨entry, hrow, (Table.mem_take_ranking_iff hnumbers hrow k).mp hfront, hdocuments⟩
  · rintro ⟨entry, hrow, hbest, hdocuments⟩
    have hfront := (Table.mem_take_ranking_iff hnumbers hrow k).mpr hbest
    exact List.ne_nil_of_mem (mem_documentedRows_iff.mpr ⟨hfront, hdocuments⟩)

/-- Hits are strong enough to rest on just where the best of them reaches the threshold. -/
theorem isWeak_eq_false_iff
    (hpositive : (Number.integer 0).below service.settings.threshold = true) {hits : List Hit}
    (hnumber : bestScore hits ≠ .notANumber) :
    service.isWeak hits = false ↔
      service.settings.threshold.atMost (.double (bestScore hits)) = true := by
  rw [isWeak, Bool.or_eq_false_iff, Number.atMost_eq_not_below
    (Number.isNumber_of_positive hpositive) (Number.isNumber_double hnumber), Bool.not_eq_true']
  refine and_iff_right_of_imp fun hstrong => ?_
  rw [List.isEmpty_eq_false_iff]
  rintro rfl
  cases hstrong.symm.trans (Number.zero_below_of_positive hpositive)

/-- Without hits nothing reaches a positive threshold. -/
theorem ne_nil_of_reaches (hpositive : (Number.integer 0).below service.settings.threshold = true)
    {hits : List Hit} (hnumber : bestScore hits ≠ .notANumber)
    (hreaches : service.settings.threshold.atMost (.double (bestScore hits)) = true) :
    hits ≠ [] := by
  have hstrong := (isWeak_eq_false_iff hpositive hnumber).mpr hreaches
  rw [isWeak, Bool.or_eq_false_iff, List.isEmpty_eq_false_iff] at hstrong
  exact hstrong.1

/-- Where the store can be searched, hits are completed. -/
theorem exists_enrichment (hstore : service.store.Searchable) (name : Text) (hits : List Hit) :
    ∃ extra, service.enrichment name hits = .ok extra := by
  unfold enrichment
  split
  · have hshown : ∀ source ∈ (distinct ((hits.map Hit.passage).map Passage.sourcePath)).filter
        (!·.isEmpty), ∃ passages, service.store.bySource source sourceLimit = .ok passages :=
      fun source _ => hstore.exists_bySource source (by decide)
    obtain ⟨parts, hparts⟩ := exists_mapM_eq_ok hshown
    rw [passagesOf, hparts]
    exact ⟨parts.flatten, rfl⟩
  · exact ⟨[], rfl⟩

/-- The validator lists a function as documented for a snippet that only calls it. -/
def Lists (service : Service) (assisted : Bool) (name : Text) : Prop :=
  ∃ diagnosis, (Snippet.validate (service.advisers assisted) service.settings.threshold none
      ⟨some (Snippet.emptyCall name), none, .null⟩).outcome = .done diagnosis ∧
    '$' :: name ∈ diagnosis.coverage.documented

/-- A description finds hits of which the best reaches the threshold, and goes on to the page that
their passages and those of their documents make. -/
def Describes (service : Service) (name : Text) : Prop :=
  let name' := Reference.normalizeName name
  ∃ hits, (service.searchFunction name' describedHits).outcome = .done hits ∧
    service.settings.threshold.atMost (.double (bestScore hits)) = true ∧
    ∃ extra, service.enrichment name' hits = .ok extra ∧
      (service.describe name).outcome = .done
        { Reference.Page.ofPassages name' (hits.map Hit.passage ++ extra) with
          confidence := confidence hits }

theorem lists_iff (hname : Snippet.IsName name)
    (hkeyword : Text.lower ('$' :: name) ∉ Snippet.flowKeywords) (assisted : Bool) :
    service.Lists assisted name ↔ ∃ top, (service.topScore ('$' :: name)).outcome = .done top ∧
      service.settings.threshold.atMost (.double top) = true := by
  rw [Lists, Snippet.exists_documented_emptyCall_iff hname hkeyword]
  show (∃ found, (service.topScore ('$' :: name) >>= fun top =>
    Work.done (Number.double top)).outcome = .done found ∧ _) ↔ _
  simp only [Work.outcome_bind_eq_done_iff]
  constructor
  · rintro ⟨found, ⟨top, htop, hend⟩, hreaches⟩
    cases hend
    exact ⟨top, htop, hreaches⟩
  · rintro ⟨top, htop, hreaches⟩
    exact ⟨_, ⟨top, htop, rfl⟩, hreaches⟩

theorem describes_iff (hname : Snippet.IsName name)
    (hpositive : (Number.integer 0).below service.settings.threshold = true)
    (hresults : 1 ≤ service.settings.functionResults) :
    service.Describes name ↔
      ∃ vector, service.Embeds ('$' :: Text.lower name) vector ∧ service.store.Searchable ∧
        service.settings.threshold.atMost (.double (bestScore
          (documentedHits vector service.store.table describedHits (Text.lower name)))) = true := by
  have hnormal := Reference.normalizeName_bare hname
  have hagain : Reference.normalizeName (Text.lower name) = Text.lower name := by
    rw [Reference.normalizeName_bare hname.lower, Text.lower_lower]
  rw [Describes, hnormal]
  constructor
  · rintro ⟨hits, hhits, hreaches, -⟩
    obtain ⟨vector, hanswer, hstore, rfl⟩ :=
      (searchFunction_outcome_eq_done_iff hname hagain).mp hhits
    rw [bestScore_upTo hresults] at hreaches
    exact ⟨vector, hanswer, hstore (by decide), hreaches⟩
  · rintro ⟨vector, hanswer, hstore, hreaches⟩
    obtain ⟨hits, hbest, hhits⟩ : ∃ hits, bestScore hits = bestScore
        (documentedHits vector service.store.table describedHits (Text.lower name)) ∧
          (service.searchFunction (Text.lower name) describedHits).outcome = .done hits :=
      ⟨_, bestScore_upTo hresults _, (searchFunction_outcome_eq_done_iff hname hagain).mpr
        ⟨vector, hanswer, fun _ => hstore, rfl⟩⟩
    obtain ⟨extra, hextra⟩ := exists_enrichment hstore (Text.lower name) hits
    have hnumber : bestScore hits ≠ .notANumber := by
      rw [hbest]
      exact bestScore_documentedHits_ne_notANumber describedHits
    rw [← hbest] at hreaches
    have hstrong := (isWeak_eq_false_iff hpositive hnumber).mpr hreaches
    refine ⟨hits, hhits, hreaches, extra, hextra, describe_outcome_eq_done_iff.mpr ?_⟩
    rw [hnormal]
    refine ⟨hits, hhits, ?_⟩
    rw [hstrong, if_neg Bool.false_ne_true]
    exact ⟨extra, hextra, rfl⟩

/-- A function counts as documented just where it is described and one of the rows that document it
is among the best ranked for its name, as many as a lookup ranks. -/
theorem lists_iff_describes (assisted : Bool)
    (hpositive : (Number.integer 0).below service.settings.threshold = true)
    (hresults : 1 ≤ service.settings.functionResults)
    (hfewer : service.settings.functionHits ≤ describedHits) (hname : Snippet.IsName name)
    (hkeyword : Text.lower ('$' :: name) ∉ Snippet.flowKeywords) :
    let table := service.store.table
    service.Lists assisted name ↔ service.Describes name ∧
      ∃ vector, service.Embeds ('$' :: Text.lower name) vector ∧
        ∃ entry ∈ table.zipIdx, AmongBest vector table service.settings.functionHits entry ∧
          entry.1.Documents (Text.lower name) := by
  intro table
  rw [lists_iff hname hkeyword, describes_iff hname hpositive hresults]
  simp only [topScore_outcome_eq_done_iff hname hresults]
  constructor
  · rintro ⟨top, ⟨vector, hanswer, hstore, rfl⟩, hreaches⟩
    have hsome := ne_nil_of_reaches hpositive
      (bestScore_documentedHits_ne_notANumber _) hreaches
    have hentry := documentedHits_ne_nil_iff.mp hsome
    have hranked : 0 < service.settings.functionHits := by
      obtain ⟨entry, -, hbest, -⟩ := hentry
      exact (Int.natCast_nonneg _).trans_lt hbest
    refine ⟨⟨vector, hanswer, hstore hranked, ?_⟩, vector, hanswer, hentry⟩
    rw [bestScore_eq_of_isPrefix (documentedHits_isPrefix hfewer) hsome]
    exact hreaches
  · rintro ⟨⟨vector, hanswer, hstore, hreaches⟩, other, hother, hentry⟩
    obtain rfl := hanswer.unique hother
    refine ⟨_, ⟨vector, hanswer, fun _ => hstore, rfl⟩, ?_⟩
    rw [← bestScore_eq_of_isPrefix (documentedHits_isPrefix hfewer)
      (documentedHits_ne_nil_iff.mpr hentry)]
    exact hreaches

theorem isName_ping : Snippet.IsName "ping" := by
  decide

/-- A row that is described is listed where nothing comes before it. -/
theorem lists_iff_describes_of_pingRow :
    let service := ofRows [pingRow none "$ping[a]"]
    ((Number.integer 0).below service.settings.threshold = true ∧
        1 ≤ service.settings.functionResults ∧ service.settings.functionHits ≤ describedHits ∧
        Snippet.IsName "ping" ∧ Text.lower ('$' :: "ping".toList) ∉ Snippet.flowKeywords) ∧
      service.Describes "ping" ∧ service.Lists true "ping" := by
  intro service
  have hpositive : (Number.integer 0).below service.settings.threshold = true := by decide +kernel
  have hkeyword : Text.lower ('$' :: "ping".toList) ∉ Snippet.flowKeywords := by decide
  have hresults : 1 ≤ service.settings.functionResults := by decide
  have hfewer : service.settings.functionHits ≤ describedHits := by decide
  have hstore : service.store.Searchable :=
    searchable_ofRows (by decide +kernel) (by decide +kernel)
  have hdescribes : service.Describes "ping" :=
    (describes_iff isName_ping hpositive hresults).mpr
      ⟨[.one], rfl, hstore, by decide +kernel⟩
  have hdocuments : (pingRow none "$ping[a]").Documents (Text.lower "ping") :=
    (documents_iff [.one]).mp (by decide +kernel)
  have hbest : AmongBest [.one] service.store.table service.settings.functionHits
      (pingRow none "$ping[a]", 0) := by
    unfold AmongBest
    decide +kernel
  refine ⟨⟨hpositive, hresults, hfewer, isName_ping, hkeyword⟩, hdescribes, ?_⟩
  exact (lists_iff_describes true hpositive hresults hfewer isName_ping hkeyword).mpr
    ⟨hdescribes, [.one], rfl, (pingRow none "$ping[a]", 0), List.mem_cons_self, hbest, hdocuments⟩

/-- Rows beside the directory of functions, as many as a lookup ranks, and behind them one that
documents a function; all of them lie in the direction of all queries. -/
def crowdedRows : Table :=
  (List.range 40).map (fun n => { guideRow with fingerprint := Text.ofNat n }) ++
    [pingRow none "$ping[a]"]

/-- The one row that documents the function is described, but comes too late for a lookup, with
nothing set otherwise than by default. -/
theorem not_lists_iff_describes_of_crowdedRows :
    let service := ofRows crowdedRows
    service.settings = {} ∧ (Number.integer 0).below service.settings.threshold = true ∧
      ¬ (service.Lists true "ping" ↔ service.Describes "ping") := by
  have hranking : Table.ranking [.one] crowdedRows = crowdedRows.zipIdx :=
    Table.ranking_eq_zipIdx (show ∀ row ∈ crowdedRows, row.similarityTo [.one] = .one by
      decide +kernel)
  have hpositive : (Number.integer 0).below (ofRows crowdedRows).settings.threshold = true := by
    decide +kernel
  have hstore : (ofRows crowdedRows).store.Searchable :=
    searchable_ofRows (by decide +kernel) (by decide +kernel)
  have hdescribes : (ofRows crowdedRows).Describes "ping" := by
    refine (describes_iff isName_ping hpositive (by decide)).mpr ⟨[.one], rfl, hstore, ?_⟩
    show Number.atMost _ (.double (bestScore (documentedHits _ crowdedRows _ _))) = _
    rw [documentedHits, documentedRows, hranking]
    decide +kernel
  refine ⟨rfl, hpositive, fun hagree => ?_⟩
  obtain ⟨top, htop, hreaches⟩ :=
    (lists_iff isName_ping (by decide) true).mp (hagree.mpr hdescribes)
  obtain ⟨vector, hanswer, -, rfl⟩ :=
    (topScore_outcome_eq_done_iff isName_ping (by decide)).mp htop
  obtain rfl : [.one] = vector := Outcome.done.inj hanswer
  have hnone : documentedHits [.one] crowdedRows 40 (Text.lower "ping") = [] := by
    rw [documentedHits, documentedRows, hranking]
    decide +kernel
  have hlow : Number.atMost (ofRows crowdedRows).settings.threshold
      (.double (bestScore (documentedHits [.one] crowdedRows 40 (Text.lower "ping")))) = false := by
    rw [hnone]
    decide +kernel
  cases hlow.symm.trans hreaches

end Service

end ScriptDocs
