/-
# Ingestions that race

Several ingestions take turns on one table, each through a view of its own. Another one may insert
a piece between the turn that does not find it and the turn that inserts it; the later of the two
then finds the row and counts the piece as skipped. However the turns interleave, a log of who
added which row tells the table and all the counts: every new row has one entry, and what an
ingestion counts as inserted are its own entries.
-/

import ScriptDocs.Proofs.Ingest.Racer

namespace ScriptDocs

/-- Counting some pieces one by one. -/
theorem Report.foldl_count (report : Report) (told : List (Piece × Bool)) :
    told.foldl (fun report told => report.count told.2) report =
      report.counting told.length (told.filter Prod.snd).length := by
  induction told generalizing report with
  | nil => rfl
  | cons first told ih =>
      obtain ⟨piece, isNew⟩ := first
      rw [List.foldl_cons, ih, List.length_cons]
      cases isNew with
      | true => exact report.count_true_counting _ _
      | false => exact report.count_false_counting (List.length_filter_le _ _)

namespace Racer

/-- What an ingestion has made of the pieces of its document, given the fingerprints that it has
added to the table. -/
structure Accounts (racer : Racer) (table : Table) (pieces : List Piece) (credit : List Text) :
    Prop where
  pieces : racer.told.map Prod.fst ++ racer.rest = pieces
  stored : ∀ told ∈ racer.told, told.1.chunk.fingerprint ∈ table.fingerprints
  added : racer.added = credit

theorem Accounts.grow {racer : Racer} {table : Table} {pieces : List Piece} {credit : List Text}
    (haccounts : racer.Accounts table pieces credit) (row : Row) :
    racer.Accounts (table ++ [row]) pieces credit where
  pieces := haccounts.pieces
  stored told htold := by
    rw [Table.fingerprints_append]
    exact List.mem_append_left _ (haccounts.stored told htold)
  added := haccounts.added

/-- The next piece has been counted. -/
theorem Accounts.tell {before after : Racer} {table : Table} {pieces : List Piece}
    {credit : List Text} (haccounts : before.Accounts table pieces credit) {piece : Piece}
    {isNew : Bool} (htold : after.told = before.told ++ [(piece, isNew)])
    (hrest : before.rest = piece :: after.rest)
    (hstored : piece.chunk.fingerprint ∈ table.fingerprints) :
    after.Accounts table pieces
      (credit ++ if isNew then [piece.chunk.fingerprint] else []) where
  pieces := by
    rw [← haccounts.pieces, htold, hrest, List.map_append, List.append_assoc]
    rfl
  stored told hmem := by
    rw [htold] at hmem
    rcases List.mem_append.mp hmem with hbefore | hlast
    · exact haccounts.stored told hbefore
    · rw [List.mem_singleton.mp hlast]
      exact hstored
  added := by
    rw [Racer.added, htold, List.filter_append, List.map_append, ← haccounts.added, Racer.added]
    cases isNew <;> rfl

theorem mem_added_iff {racer : Racer} {fingerprint : Text} :
    fingerprint ∈ racer.added ↔
      ∃ piece, (piece, true) ∈ racer.told ∧ piece.chunk.fingerprint = fingerprint := by
  simp [added]

/-- The counters tell how many pieces were done and how many of them were new. -/
theorem report_eq (racer : Racer) :
    racer.report = Report.counting { files := 1 } racer.told.length racer.added.length := by
  rw [report, Report.foldl_count, added, List.length_map]

/-- An ingestion that nothing stops ends when no pieces are left, with its counters. -/
theorem Ready.outcome?_eq_some_iff {racer : Racer} {length : Nat} {table : Table}
    (hready : racer.Ready length table) {outcome : Outcome Report} :
    racer.outcome? = some outcome ↔ racer.rest = [] ∧ outcome = .done racer.report := by
  have hgoing := hready.going
  rw [outcome?]
  cases hstage : racer.stage with
  | stopped outcome => exact absurd hstage (hgoing outcome)
  | untouched | unknown | answered _ =>
      cases racer.rest with
      | nil => simp [eq_comm]
      | cons piece rest => simp

end Racer

/-- Some ingestions that share a table. -/
structure Race (ι : Type) where
  table : Table
  racers : ι → Racer

namespace Race

/-- Some ingestions before their first turns. -/
def start {ι : Type} (table : Table) (ingesters : ι → Ingester) (documents : ι → Document)
    (stores : ι → Store) : Race ι where
  table
  racers i := Racer.of (ingesters i) (documents i) (stores i)

variable {ι : Type} [DecidableEq ι]

/-- The turn of one of the ingestions. -/
def turn (race : Race ι) (i : ι) : Race ι :=
  let (racer, table) := (race.racers i).turn race.table
  { table, racers := Function.update race.racers i racer }

/-- The race behind some turns. -/
def after (race : Race ι) (schedule : List ι) : Race ι :=
  schedule.foldl turn race

/-- The fingerprints of the entries that one of the ingestions has in the log. -/
def credit (log : List (ι × Row)) (i : ι) : List Text :=
  (log.filter fun entry => entry.1 = i).map fun entry => entry.2.fingerprint

/-- Nothing keeps anyone from inserting, the log tells how the table has grown, and everyone has
counted its own entries. -/
structure Logged (length : Nat) (table : Table) (pieces : ι → List Piece) (log : List (ι × Row))
    (race : Race ι) : Prop where
  table : race.table = table ++ log.map Prod.snd
  distinct : race.table.fingerprints.Nodup
  ready : ∀ i, (race.racers i).Ready length race.table
  accounts : ∀ i, (race.racers i).Accounts race.table (pieces i) (credit log i)

namespace Logged

variable {length : Nat} {table : Table} {pieces : ι → List Piece} {log : List (ι × Row)}
  {race : Race ι}

/-- Nothing is logged before the first turn. -/
theorem start {ingesters : ι → Ingester} {documents : ι → Document} {stores : ι → Store}
    (hdistinct : table.fingerprints.Nodup) (hpaths : ∀ i, (documents i).path ≠ [])
    (hpauses : ∀ i, ∃ pause, Ingester.seconds (ingesters i).milliseconds = .ok pause)
    (hanswers : ∀ i, (ingesters i).Answers length) (hunbroken : ∀ i, (stores i).isBroken = false)
    (hadmits : ∀ i, ((stores i).onto table).Admits length) :
    Logged length table (fun i => piecesOf (documents i).text) []
      (Race.start table ingesters documents stores) where
  table := (List.append_nil table).symm
  distinct := hdistinct
  ready i := by
    obtain ⟨pause, hpause⟩ := hpauses i
    show (Racer.of (ingesters i) (documents i) (stores i)).Ready length table
    rw [Racer.of, hpause]
    refine ⟨hpaths i, hunbroken i, hadmits i, hanswers i, ?_, ?_⟩
    · intro vector hstage
      cases hstage
    · intro outcome hstage
      cases hstage
  accounts i := by
    obtain ⟨pause, hpause⟩ := hpauses i
    show (Racer.of (ingesters i) (documents i) (stores i)).Accounts table _ []
    rw [Racer.of, hpause]
    exact ⟨rfl, fun told hnone => absurd hnone List.not_mem_nil, rfl⟩

/-- One ingestion has moved on, which is all right with it and with the others. -/
theorem put {news : List (ι × Row)} (hlogged : Logged length table pieces log race) (i : ι)
    {racer : Racer} {grown : Table} (htable : grown = race.table ++ news.map Prod.snd)
    (hdistinct : grown.fingerprints.Nodup) (hready : racer.Ready length grown)
    (haccounts : racer.Accounts grown (pieces i) (credit (log ++ news) i))
    (hothers : ∀ j ≠ i, (race.racers j).Ready length grown ∧
      (race.racers j).Accounts grown (pieces j) (credit (log ++ news) j)) :
    Logged length table pieces (log ++ news)
      { table := grown, racers := Function.update race.racers i racer } where
  table := by
    show grown = _
    rw [htable, hlogged.table, List.map_append, List.append_assoc]
  distinct := hdistinct
  ready := (Function.forall_update_iff race.racers
    fun _ racer => racer.Ready length grown).mpr ⟨hready, fun j hj => (hothers j hj).1⟩
  accounts := (Function.forall_update_iff race.racers
    fun j racer => racer.Accounts grown (pieces j) (credit (log ++ news) j)).mpr
      ⟨haccounts, fun j hj => (hothers j hj).2⟩

/-- A turn adds an entry to the log at most. -/
theorem exists_turn (hlogged : Logged length table pieces log race) (i : ι) :
    ∃ news, Logged length table pieces (log ++ news) (race.turn i) := by
  have hadvances := (hlogged.ready i).advances
  have haccounts := hlogged.accounts i
  rw [Race.turn]
  rcases hturn : (race.racers i).turn race.table with ⟨racer, grown⟩
  rw [hturn] at hadvances
  obtain ⟨hmoves, hready, -⟩ := hadvances
  dsimp only at hmoves hready ⊢
  have hsame : ∀ j, credit (log ++ []) j = credit log j := fun j => by rw [List.append_nil]
  cases hmoves with
  | goesOn htold hrest =>
      refine ⟨[], hlogged.put i (List.append_nil _).symm hlogged.distinct hready ?_ ?_⟩
      · rw [hsame]
        refine ⟨?_, ?_, ?_⟩
        · rw [htold, hrest]
          exact haccounts.pieces
        · rw [htold]
          exact haccounts.stored
        · rw [Racer.added, htold]
          exact haccounts.added
      · intro j _
        rw [hsame]
        exact ⟨hlogged.ready j, hlogged.accounts j⟩
  | finds piece htold hrest hheld =>
      refine ⟨[], hlogged.put i (List.append_nil _).symm hlogged.distinct hready ?_ ?_⟩
      · rw [hsame, ← List.append_nil (credit log i)]
        exact haccounts.tell htold hrest hheld
      · intro j _
        rw [hsame]
        exact ⟨hlogged.ready j, hlogged.accounts j⟩
  | adds piece row htold hrest hnew hmark hrow =>
      refine ⟨[(i, row)], hlogged.put i rfl ?_ hready ?_ ?_⟩
      · rw [Table.fingerprints_append]
        show (race.table.fingerprints ++ [row.fingerprint]).Nodup
        rw [← List.concat_eq_append, hmark]
        exact hlogged.distinct.concat hnew
      · have hcredit : credit (log ++ [(i, row)]) i =
            credit log i ++ if true then [piece.chunk.fingerprint] else [] := by
          simp [credit, hmark]
        rw [hcredit]
        apply (haccounts.grow row).tell htold hrest
        rw [Table.fingerprints_append]
        exact List.mem_append_right _ (List.mem_singleton.mpr hmark.symm)
      · intro j hj
        have hcredit : credit (log ++ [(i, row)]) j = credit log j := by
          simp [credit, Ne.symm hj]
        rw [hcredit]
        exact ⟨(hlogged.ready j).grow hrow, (hlogged.accounts j).grow row⟩

/-- A turn brings an ingestion nearer to its end, and no other one. -/
theorem left_turn (hlogged : Logged length table pieces log race) (i j : ι) :
    ((race.turn i).racers j).left ≤ (race.racers j).left - [i].count j := by
  by_cases hsame : j = i
  · subst hsame
    have hcount : [j].count j = 1 := List.count_singleton_self
    have hracer : (race.turn j).racers j = ((race.racers j).turn race.table).1 :=
      Function.update_self j _ race.racers
    rw [hracer, hcount]
    exact (hlogged.ready j).advances.left
  · have hcount : [i].count j = 0 := List.count_eq_zero_of_not_mem (by simpa using hsame)
    have hracer : (race.turn i).racers j = race.racers j :=
      Function.update_of_ne hsame _ race.racers
    rw [hracer, hcount]
    exact Nat.le_refl _

/-- Some turns add entries to the log, and bring everyone nearer to its end. -/
theorem after (hlogged : Logged length table pieces log race) (schedule : List ι) :
    ∃ news, Logged length table pieces (log ++ news) (race.after schedule) ∧
      ∀ i, ((race.after schedule).racers i).left ≤ (race.racers i).left - schedule.count i := by
  induction schedule generalizing race log with
  | nil => exact ⟨[], (List.append_nil log).symm ▸ hlogged, fun i => Nat.le_refl _⟩
  | cons i schedule ih =>
      obtain ⟨first, hfirst⟩ := hlogged.exists_turn i
      have hnearer := hlogged.left_turn i
      obtain ⟨later, hlater, hleft⟩ := ih hfirst
      refine ⟨first ++ later, List.append_assoc log first later ▸ hlater, ?_⟩
      intro j
      have hone := hnearer j
      have hmany := hleft j
      have hcount : (i :: schedule).count j = [i].count j + schedule.count j := by
        rw [← List.count_append]
        rfl
      rw [hcount]
      show (((race.turn i).after schedule).racers j).left ≤ _
      omega

/-- Turns only put rows behind those that are there. -/
theorem prefix_after (hlogged : Logged length table pieces log race) (schedule : List ι) :
    race.table <+: (race.after schedule).table := by
  obtain ⟨news, hafter, -⟩ := hlogged.after schedule
  rw [hafter.table, List.map_append, ← List.append_assoc, ← hlogged.table]
  exact List.prefix_append _ _

/-- Every new fingerprint belongs to an entry of the log. -/
theorem fingerprints (hlogged : Logged length table pieces log race) :
    race.table.fingerprints =
      table.fingerprints ++ log.map fun entry => entry.2.fingerprint := by
  rw [hlogged.table, Table.fingerprints_append, Table.fingerprints, Table.fingerprints,
    List.map_map]
  rfl

/-- What an ingestion has counted as inserted is new, and counted once. -/
theorem nodup_added (hlogged : Logged length table pieces log race) (i : ι) :
    (race.racers i).added.Nodup ∧ ∀ fingerprint ∈ (race.racers i).added,
      fingerprint ∈ race.table.fingerprints ∧ fingerprint ∉ table.fingerprints := by
  have hdistinct := hlogged.distinct
  rw [hlogged.fingerprints, List.nodup_append'] at hdistinct
  obtain ⟨-, hnodup, hapart⟩ := hdistinct
  have hcredit : (credit log i).Sublist (log.map fun entry => entry.2.fingerprint) :=
    List.filter_sublist.map _
  rw [(hlogged.accounts i).added, hlogged.fingerprints]
  refine ⟨hnodup.sublist hcredit, ?_⟩
  intro fingerprint hmem
  have hlog := hcredit.subset hmem
  exact ⟨List.mem_append_right _ hlog, fun hold => hapart hold hlog⟩

/-- What is new has been counted as inserted by one ingestion. -/
theorem existsUnique_added (hlogged : Logged length table pieces log race) {fingerprint : Text}
    (hstored : fingerprint ∈ race.table.fingerprints)
    (hnew : fingerprint ∉ table.fingerprints) :
    ∃! i, fingerprint ∈ (race.racers i).added := by
  have hdistinct := hlogged.distinct
  rw [hlogged.fingerprints, List.nodup_append'] at hdistinct
  rw [hlogged.fingerprints] at hstored
  have hadded : ∀ i, fingerprint ∈ (race.racers i).added ↔
      ∃ entry ∈ log, entry.2.fingerprint = fingerprint ∧ entry.1 = i := by
    intro i
    rw [(hlogged.accounts i).added]
    simp only [credit, List.mem_map, List.mem_filter, decide_eq_true_eq]
    exact exists_congr fun entry => by tauto
  obtain ⟨entry, hentry, hmark⟩ :=
    List.mem_map.mp ((List.mem_append.mp hstored).resolve_left hnew)
  refine ⟨entry.1, (hadded entry.1).mpr ⟨entry, hentry, hmark, rfl⟩, ?_⟩
  intro i hi
  obtain ⟨other, hother, hsame, rfl⟩ := (hadded i).mp hi
  rw [List.inj_on_of_nodup_map hdistinct.2.1 hother hentry (hsame.trans hmark.symm)]

/-- An ingestion that has ended has counted all its pieces. -/
theorem done_of_ended (hlogged : Logged length table pieces log race) {i : ι}
    {outcome : Outcome Report} (hended : (race.racers i).outcome? = some outcome) :
    (race.racers i).told.map Prod.fst = pieces i ∧ outcome = .done (race.racers i).report := by
  obtain ⟨hrest, hdone⟩ := (hlogged.ready i).outcome?_eq_some_iff.mp hended
  refine ⟨?_, hdone⟩
  rw [← (hlogged.accounts i).pieces, hrest, List.append_nil]

/-- The counters of an ingestion that has ended add up. -/
theorem counters_of_ended (hlogged : Logged length table pieces log race) {i : ι}
    {outcome : Outcome Report} (hended : (race.racers i).outcome? = some outcome) :
    ∃ report, outcome = .done report ∧ report.chunks = (pieces i).length ∧
      report.inserted = (race.racers i).added.length ∧
      report.chunks = report.inserted + report.skipped := by
  obtain ⟨htold, hdone⟩ := hlogged.done_of_ended hended
  have hmost : (race.racers i).added.length ≤ (race.racers i).told.length := by
    rw [Racer.added, List.length_map]
    exact List.length_filter_le _ _
  refine ⟨(race.racers i).report, hdone, ?_⟩
  rw [← htold, List.length_map, Racer.report_eq]
  refine ⟨Nat.zero_add _, Nat.zero_add _, ?_⟩
  show 0 + _ = 0 + _ + (0 + (_ - _))
  omega

/-- When all have ended, all pieces are stored, and nothing else is new. -/
theorem stored_of_ended (hlogged : Logged length table pieces log race)
    (hended : ∀ i, (race.racers i).outcome? ≠ none) (fingerprint : Text) :
    fingerprint ∈ race.table.fingerprints ↔ fingerprint ∈ table.fingerprints ∨
      ∃ i, ∃ piece ∈ pieces i, piece.chunk.fingerprint = fingerprint := by
  have htold : ∀ i, (race.racers i).told.map Prod.fst = pieces i := by
    intro i
    obtain ⟨outcome, houtcome⟩ := Option.ne_none_iff_exists'.mp (hended i)
    exact (hlogged.done_of_ended houtcome).1
  constructor
  · intro hstored
    by_cases hold : fingerprint ∈ table.fingerprints
    · exact Or.inl hold
    · obtain ⟨i, hi, -⟩ := hlogged.existsUnique_added hstored hold
      obtain ⟨piece, hpiece, hmark⟩ := Racer.mem_added_iff.mp hi
      exact Or.inr ⟨i, piece, htold i ▸ List.mem_map_of_mem hpiece, hmark⟩
  · rintro (hold | ⟨i, piece, hpiece, rfl⟩)
    · rw [hlogged.fingerprints]
      exact List.mem_append_left _ hold
    · rw [← htold i] at hpiece
      obtain ⟨told, htold, rfl⟩ := List.mem_map.mp hpiece
      exact (hlogged.accounts i).stored told htold

end Logged

/-- However the turns interleave: no row is changed; no fingerprint is stored twice; every
fingerprint that is new has been counted as inserted by exactly one ingestion, and once; an
ingestion that has had three turns for each piece has ended; the counters of one that has ended
add up to its pieces; and when all have ended, the fingerprints of all pieces are stored beside
those that were there, and no others. -/
theorem inserts_each_piece_once (ingesters : ι → Ingester) (documents : ι → Document)
    (stores : ι → Store) (table : Table) (length : Nat) (schedule : List ι)
    (hdistinct : table.fingerprints.Nodup) (hpaths : ∀ i, (documents i).path ≠ [])
    (hpauses : ∀ i, ∃ pause, Ingester.seconds (ingesters i).milliseconds = .ok pause)
    (hanswers : ∀ i, (ingesters i).Answers length) (hunbroken : ∀ i, (stores i).isBroken = false)
    (hadmits : ∀ i, ((stores i).onto table).Admits length) :
    let race := (start table ingesters documents stores).after schedule
    let pieces := fun i => piecesOf (documents i).text
    let isNew := fun fingerprint =>
      fingerprint ∈ race.table.fingerprints ∧ fingerprint ∉ table.fingerprints
    (∀ earlier, earlier <+: schedule →
      ((start table ingesters documents stores).after earlier).table <+: race.table) ∧
    race.table.fingerprints.Nodup ∧
    (∀ i, (race.racers i).added.Nodup ∧ ∀ fingerprint ∈ (race.racers i).added, isNew fingerprint) ∧
    (∀ fingerprint, isNew fingerprint → ∃! i, fingerprint ∈ (race.racers i).added) ∧
    (∀ i, 3 * (pieces i).length ≤ schedule.count i → (race.racers i).outcome? ≠ none) ∧
    (∀ i outcome, (race.racers i).outcome? = some outcome →
      ∃ report, outcome = .done report ∧ report.chunks = (pieces i).length ∧
        report.inserted = (race.racers i).added.length ∧
        report.chunks = report.inserted + report.skipped) ∧
    ((∀ i, (race.racers i).outcome? ≠ none) → ∀ fingerprint,
      fingerprint ∈ race.table.fingerprints ↔ fingerprint ∈ table.fingerprints ∨
        ∃ i, ∃ piece ∈ pieces i, piece.chunk.fingerprint = fingerprint) := by
  intro race pieces isNew
  have hstart := Logged.start hdistinct hpaths hpauses hanswers hunbroken hadmits
  obtain ⟨log, hlogged, hleft⟩ := hstart.after schedule
  rw [List.nil_append] at hlogged
  refine ⟨?_, hlogged.distinct, hlogged.nodup_added, ?_, ?_, ?_, hlogged.stored_of_ended⟩
  · rintro earlier ⟨later, rfl⟩
    obtain ⟨first, hfirst, -⟩ := hstart.after earlier
    have hrace : race = ((start table ingesters documents stores).after earlier).after later :=
      List.foldl_append
    rw [hrace]
    exact hfirst.prefix_after later
  · intro fingerprint hnew
    exact hlogged.existsUnique_added hnew.1 hnew.2
  · intro i henough
    have hmost : ((start table ingesters documents stores).racers i).left ≤
        3 * (pieces i).length := by
      have hpieces := congrArg List.length (hstart.accounts i).pieces
      rw [List.length_append] at hpieces
      dsimp only [pieces]
      unfold Racer.left
      omega
    have hnone : (race.racers i).left ≤ 0 := Nat.le_trans (hleft i) (by omega)
    have hrest := Racer.rest_eq_nil (Nat.le_zero.mp hnone)
    rw [(hlogged.ready i).outcome?_eq_some_iff.mpr ⟨hrest, rfl⟩]
    exact Option.some_ne_none _
  · intro i outcome hended
    exact hlogged.counters_of_ended hended

/-- Two documents with one text, told apart by a flag. -/
def twin (second : Bool) : Document :=
  ⟨if second then "b.md" else "a.md", "Text"⟩

/-- The race of two ingestions of these, which look the text up before either inserts it. -/
def twins : Race Bool :=
  start [] (fun _ => .answering (fun _ => [.one]) (some (.integer 0))) twin fun _ => {}

/-- The second ingestion is the first to insert the text, and the first one counts it as
skipped. -/
theorem inserts_each_piece_once_of_twins :
    let schedule := [false, true, false, true, true, false]
    (((twins.after schedule).racers true).report.inserted = 1 ∧
      ((twins.after schedule).racers false).report.skipped = 1) ∧
    (twins.after schedule).table.fingerprints.Nodup ∧
    (∀ fingerprint ∈ (twins.after schedule).table.fingerprints,
      ∃! i, fingerprint ∈ ((twins.after schedule).racers i).added) ∧
    ∀ piece ∈ piecesOf "Text",
      piece.chunk.fingerprint ∈ (twins.after schedule).table.fingerprints := by
  intro schedule
  obtain ⟨-, hdistinct, -, hunique, hends, -, hstored⟩ :=
    inserts_each_piece_once (fun _ => .answering (fun _ => [.one]) (some (.integer 0))) twin
      (fun _ => {}) [] 1 schedule List.nodup_nil (by decide) (fun _ => ⟨.zero, by decide +kernel⟩)
      (fun _ _ _ => ⟨[.one], rfl, rfl⟩) (fun _ => rfl)
      (fun _ => ⟨by decide, by decide, Or.inl rfl⟩)
  have henough : ∀ second, 3 * (piecesOf (twin second).text).length ≤ schedule.count second := by
    decide +kernel
  have hall := hstored fun i => hends i (henough i)
  refine ⟨by decide +kernel, ?_⟩
  rw [twins]
  refine ⟨hdistinct, ?_, ?_⟩
  · intro fingerprint hfingerprint
    exact hunique fingerprint ⟨hfingerprint, List.not_mem_nil⟩
  · intro piece hpiece
    exact (hall piece.chunk.fingerprint).mpr (Or.inr ⟨false, piece, hpiece, rfl⟩)

/-- A document without a path, and a database of another kind, each end an ingestion before its
only piece is stored. -/
theorem ended_without_piece :
    let ingester := Ingester.answering (fun _ => [.one]) (some (.integer 0))
    let race := fun (document : Document) (store : Store) =>
      (start [] (fun _ : Unit => ingester) (fun _ => document) fun _ => store).after [(), (), ()]
    let endsWithout := fun (document : Document) (store : Store) =>
      ((race document store).racers ()).outcome?.isSome = true ∧
        ∃ piece ∈ piecesOf document.text,
          piece.chunk.fingerprint ∉ (race document store).table.fingerprints
    endsWithout ⟨[], "Text"⟩ {} ∧ endsWithout ⟨"a.md", "Text"⟩ { dialect := "mysql" } := by
  decide +kernel

end Race

end ScriptDocs
