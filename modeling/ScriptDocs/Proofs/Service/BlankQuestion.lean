/-
# Questions of white space alone

White space around a question is trimmed before anything is taken out of it, and never after that.
So the spaces between two tags stay where the tags are taken out, and a control character at an end,
which is no white space to trimming, becomes a space. A question of such spaces alone is not empty:
the routes that refuse an empty question embed it.
-/

import ScriptDocs.Proofs.Asking
import ScriptDocs.Proofs.Question
import ScriptDocs.Proofs.Service.Grounding

namespace ScriptDocs

namespace Question

theorem collapseFrom_of_blanks {s : Text} (hblank : ∀ c ∈ s, Text.isBlank c = true) :
    collapseFrom true s = [] := by
  induction s with
  | nil => rfl
  | cons c s ih =>
      rw [collapseFrom, if_pos (hblank c List.mem_cons_self), if_pos rfl]
      exact ih fun d hd => hblank d (List.mem_cons_of_mem c hd)

theorem mem_collapseFrom_of_not_blank {within : Bool} {s : Text} {c : Char} (hmem : c ∈ s)
    (hc : Text.isBlank c = false) : c ∈ collapseFrom within s := by
  induction s generalizing within with
  | nil => cases hmem
  | cons d s ih =>
      rw [collapseFrom]
      rcases List.mem_cons.mp hmem with rfl | hmem
      · rw [if_neg (by simp [hc])]
        exact List.mem_cons_self
      · split
        · split
          · exact ih hmem
          · exact List.mem_cons_of_mem ' ' (ih hmem)
        · exact List.mem_cons_of_mem d (ih hmem)

/-- Behind white space no further space is kept. -/
theorem head?_collapseFrom_true (s : Text) : (collapseFrom true s).head? ≠ some ' ' := by
  induction s with
  | nil => exact nofun
  | cons c s ih =>
      rw [collapseFrom]
      split
      · exact ih
      · rename_i hc
        intro hspace
        obtain rfl : c = ' ' := Option.some.inj hspace
        exact hc (by decide)

/-- A text is one space, once its runs of white space are, just where it is one such run. -/
theorem collapse_eq_space_iff {s : Text} :
    collapse s = [' '] ↔ s ≠ [] ∧ ∀ c ∈ s, Text.isBlank c = true := by
  constructor
  · intro hspace
    have hsome : s ≠ [] := by
      rintro rfl
      cases hspace
    refine ⟨hsome, fun c hc => ?_⟩
    by_contra hother
    have hkept : c ∈ collapse s :=
      mem_collapseFrom_of_not_blank hc (Bool.eq_false_iff.mpr hother)
    rw [hspace, List.mem_singleton] at hkept
    exact hother (by rw [hkept]; decide)
  · rintro ⟨hsome, hblank⟩
    cases s with
    | nil => exact absurd rfl hsome
    | cons c s =>
        have hrest := collapseFrom_of_blanks fun d hd => hblank d (List.mem_cons_of_mem c hd)
        rw [collapse, collapseFrom, if_pos (hblank c List.mem_cons_self), if_neg Bool.false_ne_true,
          hrest]

/-- No two spaces stand side by side once runs of white space are single spaces, so a front of
several characters is not made of spaces. -/
theorem collapse_eq_space_of_take {s : Text} {n : Nat} (hsome : collapse s ≠ [])
    (hspaces : ∀ c ∈ (collapse s).take (n + 2), c = ' ') : collapse s = [' '] := by
  cases s with
  | nil => exact absurd rfl hsome
  | cons c s =>
      rw [collapse, collapseFrom] at hsome hspaces ⊢
      by_cases hblank : Text.isBlank c = true
      · rw [if_pos hblank, if_neg Bool.false_ne_true] at hspaces ⊢
        cases hrest : collapseFrom true s with
        | nil => rfl
        | cons d rest =>
            have hd : d = ' ' := hspaces d (by simp [hrest])
            exact absurd (by rw [hrest, hd]; rfl) (head?_collapseFrom_true s)
      · rw [if_neg hblank] at hspaces
        have hc : c = ' ' := hspaces c List.mem_cons_self
        exact absurd (by rw [hc]; decide) hblank

/-- What is left of a question, before it is cut. -/
def bare (s : Text) : Text :=
  Text.takeOut passes (plain s)

/-- Something is left of a question, and as far as it is kept it is spaces. -/
def LeavesSpaces (s : Text) : Prop :=
  bare s ≠ [] ∧ ∀ c ∈ (bare s).take limit, c = ' '

/-- A cleaned question is white space, and not empty, just where spaces are left. -/
theorem isBlankText_clean_iff {s : Text} :
    clean s ≠ [] ∧ Text.isBlankText (clean s) = true ↔ LeavesSpaces s := by
  have hclean : clean s = (bare s).take limit := clean_eq s
  have hempty : clean s = [] ↔ bare s = [] := by
    rw [hclean, List.take_eq_nil_iff]
    exact or_iff_right (by decide)
  have hspaces : Text.isBlankText (clean s) = true ↔ ∀ c ∈ clean s, c = ' ' := by
    rw [Text.isBlankText, List.all_eq_true]
    refine forall₂_congr fun c hc => ⟨(isPlain_clean s c hc).2, ?_⟩
    rintro rfl
    decide
  rw [LeavesSpaces, ne_eq, hempty, hspaces, hclean]

/-- A question that is white space from the start is cleaned to nothing. -/
theorem clean_of_isBlankText {s : Text} (hblank : Text.isBlankText s = true) : clean s = [] := by
  have hplain : plain s = [] := by
    rw [plain, Text.isBlankText_iff.mp hblank]
    rfl
  have hsublist := clean_sublist s
  rw [hplain] at hsublist
  exact List.sublist_nil.mp hsublist

/-- A question on one line is a space just where all that is left of it by trimming, and that is
something, are control characters and white space between them. -/
theorem plain_eq_space_iff {s : Text} :
    plain s = [' '] ↔ (∃ c ∈ s, Text.isBlank c = false) ∧
      ∀ c ∈ s, Text.isBlank c = false → isControl c = true := by
  have hsome : withoutControls (Text.trim s) ≠ [] ↔ ∃ c ∈ s, Text.isBlank c = false := by
    rw [withoutControls, ne_eq, List.map_eq_nil_iff, Text.trim_eq_nil_iff]
    simp
  have hblanks : (∀ c ∈ withoutControls (Text.trim s), Text.isBlank c = true) ↔
      ∀ c ∈ s, Text.isBlank c = false → isControl c = true := by
    rw [withoutControls, List.forall_mem_map]
    constructor
    · intro hall c hc hink
      have hblank := hall c ((Text.mem_trim_iff hink).mpr hc)
      by_contra hcontrol
      rw [if_neg hcontrol, hink] at hblank
      cases hblank
    · intro hall c hc
      split
      · decide
      · rename_i hcontrol
        by_contra hink
        exact hcontrol (hall c ((Text.trim_sublist s).subset hc) (Bool.eq_false_iff.mpr hink))
  rw [plain, collapse_eq_space_iff, hsome, hblanks]

/-- Where nothing is taken out, spaces are left of a question just where it holds a character that
is no white space, and no such character but control characters. -/
theorem Harmless.leavesSpaces_iff {s : Text} (hharmless : Harmless (plain s)) :
    LeavesSpaces s ↔ (∃ c ∈ s, Text.isBlank c = false) ∧
      ∀ c ∈ s, Text.isBlank c = false → isControl c = true := by
  have hbare : bare s = plain s := (takeOut_passes_eq_self_iff hharmless.noControl).mpr hharmless
  rw [← plain_eq_space_iff, LeavesSpaces, hbare]
  constructor
  · rintro ⟨hsome, hspaces⟩
    exact collapse_eq_space_of_take hsome hspaces
  · intro hspace
    rw [hspace]
    exact ⟨List.cons_ne_nil _ _, fun c hc => List.mem_singleton.mp (List.mem_of_mem_take hc)⟩

end Question

/-- What a search is for turns on the vector of its query where time is left. -/
theorem Service.turnsOn_search_iff {β : Type} {service : Service} {query text : Text} {k : Int}
    {after : List Hit → Work β} :
    TurnsOn text (fun embed => Service.search { service with embed } query k >>= after) ↔
      Work.LeavesTime service.timeLimit ∧ text = query := by
  have hwaits : ∀ embed, Service.search { service with embed } query k =
      Work.within service.timeLimit .searchTimedOut (embed query >>= fun vector =>
        Work.ofExcept (service.store.search (vector.map Number.double) k)) :=
    fun embed => rfl
  simp only [hwaits]
  exact turnsOn_within_iff

namespace Server

open Question (LeavesSpaces clean)

/-- The text that an answer is asked for by a request. -/
def askedOf (request : Request) : Text :=
  (firstGiven [request.parameter? "q", request.parameter? "request"]).getD []

theorem prompt_ofRequest (request : Request) (mostTokens : Option Int) :
    (AnswerForm.ofRequest request mostTokens).prompt = clean (askedOf request) := by
  unfold AnswerForm.ofRequest askedOf
  cases firstGiven [request.parameter? "q", request.parameter? "request"] with
  | none => rfl
  | some s => rfl

/-- A route that searches turns on the vector of the cleaned query, unless nothing is left of it or
no time. -/
theorem turnsOn_searchResponse_iff {service : Service} {form : SearchForm} {text : Text} :
    TurnsOn text (fun embed => searchResponse { service with embed } form) ↔
      clean form.query ≠ [] ∧ Work.LeavesTime service.timeLimit ∧ text = clean form.query := by
  by_cases hquery : clean form.query = []
  · have hnothing : AsksNothing fun embed => searchResponse { service with embed } form :=
      fun first second => by simp [searchResponse, hquery]
    exact ⟨fun hturns => absurd hnothing hturns.2, fun h => absurd hquery h.1⟩
  · have hasks : ∀ embed, searchResponse { service with embed } form =
        Service.search { service with embed } (clean form.query) form.count >>= fun hits =>
          Work.done ⟨200, .list (hits.map hitView)⟩ := by
      intro embed
      rw [searchResponse, List.isEmpty_eq_false_iff.mpr hquery]
      rfl
    simp only [hasks, Service.turnsOn_search_iff]
    exact (and_iff_right hquery).symm

/-- An answer turns on the vector of the question, unless that is empty or no time is left. -/
theorem turnsOn_answerQuestion_iff {service : Service} {form : AnswerForm} {text : Text} :
    TurnsOn text (fun embed => answerQuestion { service with embed } form) ↔
      form.prompt ≠ [] ∧ Work.LeavesTime service.timeLimit ∧ text = form.prompt := by
  by_cases hprompt : form.prompt = []
  · simp only [answerQuestion_of_blank hprompt]
    exact ⟨fun hturns => absurd (asksNothing_const _) hturns.2, fun h => absurd hprompt h.1⟩
  · have hasks : ∀ embed, answerQuestion { service with embed } form =
        Service.search { service with embed } form.prompt service.settings.hitLimit >>= fun hits =>
          if service.isWeak hits then
            .done { words := some Prompt.notDocumented, confidence := Service.confidence hits }
          else service.generate (form.question (service.contextOf hits)) >>= fun text =>
            .done (answerFrom service form hits text) :=
      fun embed => @answerQuestion_asking { service with embed } form hprompt service.generate
    simp only [hasks, Service.turnsOn_search_iff]
    exact (and_iff_right hprompt).symm

/-- The embedding provider is asked for a text of white space alone. -/
def EmbedsBlank {β : Type} (run : (Text → Work Vector64) → Work β) : Prop :=
  ∃ text, Text.isBlankText text = true ∧ TurnsOn text run

/-- Work that turns on a cleaned question, if anything is left of it, embeds white space alone where
spaces are left. -/
theorem embedsBlank_iff_of_turnsOn {β : Type} {run : (Text → Work Vector64) → Work β} {s : Text}
    {timely : Prop} (hturns : ∀ text, TurnsOn text run ↔ clean s ≠ [] ∧ timely ∧ text = clean s) :
    EmbedsBlank run ↔ timely ∧ LeavesSpaces s := by
  rw [← Question.isBlankText_clean_iff]
  simp only [EmbedsBlank, hturns]
  constructor
  · rintro ⟨_, hblank, hsome, htime, rfl⟩
    exact ⟨htime, hsome, hblank⟩
  · rintro ⟨htime, hsome, hblank⟩
    exact ⟨_, hblank, hsome, htime, rfl⟩

/-- A search and an answer embed white space alone just where spaces are left of the question. A
question of white space never does, and one out of which nothing is taken does where control
characters are all that it holds besides. -/
theorem embedsBlank_iff (service : Service) (form : SearchForm) (request : Request)
    (mostTokens : Option Int) :
    (EmbedsBlank (fun embed => searchResponse { service with embed } form) ↔
        Work.LeavesTime service.timeLimit ∧ LeavesSpaces form.query) ∧
      (EmbedsBlank (fun embed => answerQuestion { service with embed }
          (AnswerForm.ofRequest request mostTokens)) ↔
        Work.LeavesTime service.timeLimit ∧ LeavesSpaces (askedOf request)) ∧
      ∀ s, (LeavesSpaces s ↔ clean s ≠ [] ∧ Text.isBlankText (clean s) = true) ∧
        (Text.isBlankText s = true → clean s = []) ∧
        (Question.Harmless (Question.plain s) →
          (LeavesSpaces s ↔ (∃ c ∈ s, Text.isBlank c = false) ∧
            ∀ c ∈ s, Text.isBlank c = false → Question.isControl c = true)) := by
  have hprompt := prompt_ofRequest request mostTokens
  refine ⟨embedsBlank_iff_of_turnsOn fun _ => turnsOn_searchResponse_iff,
    embedsBlank_iff_of_turnsOn fun _ => ?_, fun s => ⟨Question.isBlankText_clean_iff.symm,
      Question.clean_of_isBlankText, Question.Harmless.leavesSpaces_iff⟩⟩
  rw [turnsOn_answerQuestion_iff, hprompt]

/-- A question of one control character, which is no white space. -/
def controlQuestion : Text := "\x00"

/-- Nothing is taken out of it, and a space is left. -/
theorem embedsBlank_iff_controlQuestion :
    Question.Harmless (Question.plain controlQuestion) ∧ LeavesSpaces controlQuestion := by
  have hplain : Question.plain controlQuestion = [' '] := by decide
  have hharmless : Question.Harmless (Question.plain controlQuestion) := by
    rw [hplain]
    exact (Question.takeOut_passes_eq_self_iff (List.forall_mem_singleton.mpr (by decide))).mp
      (by decide)
  obtain ⟨-, -, hquestion⟩ := embedsBlank_iff (Service.ofRows []) ⟨controlQuestion, 1⟩
    { path := Route.answer.path } none
  have hcontrols : (∃ c ∈ controlQuestion, Text.isBlank c = false) ∧
      ∀ c ∈ controlQuestion, Text.isBlank c = false → Question.isControl c = true :=
    ⟨⟨'\x00', List.mem_singleton_self '\x00', by decide⟩,
      List.forall_mem_singleton.mpr fun _ => by decide⟩
  exact ⟨hharmless, ((hquestion controlQuestion).2.2 hharmless).mpr hcontrols⟩

/-- A question of two tags with a space between them. -/
def tagPair : Text := "<script> <script>"

/-- The space between the tags is all that is left, and a search embeds it. -/
theorem embedsBlank_tagPair : clean tagPair = [' '] ∧
    EmbedsBlank fun embed => searchResponse { Service.ofRows [] with embed } ⟨tagPair, 1⟩ := by
  have hclean : clean tagPair = [' '] := by decide +kernel
  refine ⟨hclean, [' '], by decide, turnsOn_searchResponse_iff.mpr ⟨?_, nofun, hclean.symm⟩⟩
  rw [hclean]
  exact List.cons_ne_nil _ _

end Server

end ScriptDocs
