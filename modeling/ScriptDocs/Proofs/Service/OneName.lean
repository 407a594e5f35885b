/-
# One name throughout a lookup

A function is described in three steps, and each brings the name that it is given into the form of a
lookup: the page shows the name, the query asks for it, and the hits are told by it. The steps agree
where that form does not change any further. It does just where another sigil or white space stands
behind the first sigil, since only one sigil is taken away and nothing is trimmed after that.
-/

import ScriptDocs.Proofs.Service.Description
import ScriptDocs.Proofs.Text.Lower

namespace ScriptDocs

namespace Reference

/-- Behind the sigil in front of a name there is one more sigil, or white space. -/
def GoesOn (name : Text) : Prop :=
  ∃ c rest, Text.trim name = '$' :: c :: rest ∧ (c = '$' ∨ Text.isBlank c = true)

theorem withoutSigil_suffix (s : Text) : withoutSigil s <:+ s := by
  unfold withoutSigil
  split
  · exact List.suffix_cons _ _
  · exact List.suffix_rfl

theorem withoutSigil_eq_self_iff {s : Text} : withoutSigil s = s ↔ s.head? ≠ some '$' := by
  unfold withoutSigil
  split
  · simp
  · rename_i hother
    cases s with
    | nil => simp
    | cons c s => simpa using fun h : c = '$' => hother s (h ▸ rfl)

/-- A name in small letters is as it is looked up just where it is trimmed and begins with no
sigil. -/
theorem normalizeName_eq_self_iff {name : Text} (hsmall : ∀ c ∈ name, Text.lowerChar c = c) :
    normalizeName name = name ↔ Text.IsTrimmed name ∧ name.head? ≠ some '$' := by
  have hsuffix := withoutSigil_suffix (Text.trim name)
  have hpart := hsuffix.sublist.trans (Text.trim_sublist name)
  rw [normalizeName, Text.lower_eq_self fun c hc => hsmall c (hpart.subset hc),
    ← Text.trim_eq_self_iff, ← withoutSigil_eq_self_iff]
  constructor
  · intro hself
    have hlength : name.length ≤ (Text.trim name).length := by
      have hshorter := hsuffix.length_le
      rwa [hself] at hshorter
    have htrim : Text.trim name = name := (Text.trim_sublist name).eq_of_length_le hlength
    rw [htrim] at hself
    exact ⟨htrim, hself⟩
  · rintro ⟨htrim, hsigil⟩
    rw [htrim, hsigil]

/-- The lower case of a text that does not end with white space is as it is looked up just where the
text begins with neither a sigil nor white space. -/
theorem normalizeName_lower_eq_self_iff {s : Text}
    (hend : ∀ c, s.getLast? = some c → Text.isBlank c = false) :
    normalizeName (Text.lower s) = Text.lower s ↔
      ∀ c, s.head? = some c → ¬ (c = '$' ∨ Text.isBlank c = true) := by
  rw [normalizeName_eq_self_iff fun c => Text.lowerChar_eq_of_mem_lower]
  cases s with
  | nil => simpa using ⟨Text.isTrimmed_nil, by simp [Text.lower, Text.lowerAfter]⟩
  | cons c s =>
      obtain ⟨first, hfirst, hblank, hsigil⟩ := Text.exists_head?_lower_cons c s
      have htrimmed : Text.IsTrimmed (Text.lower (c :: s)) ↔ Text.isBlank c = false := by
        obtain ⟨front, last, hconcat⟩ := (List.eq_nil_or_concat' (c :: s)).resolve_left
          (List.cons_ne_nil c s)
        obtain ⟨final, hfinal, hsame⟩ := Text.exists_getLast?_lower_concat front last
        rw [← hconcat] at hfinal
        have hlast : Text.isBlank final = false := by
          rw [hsame]
          exact hend last (by rw [hconcat, List.getLast?_concat])
        simp [Text.IsTrimmed, hfirst, hfinal, hblank, hlast]
      rw [htrimmed, hfirst]
      simp [hsigil, and_comm]

/-- A name that is looked up is brought into the form of a lookup once more without a change, but
where it goes on behind its sigil. -/
theorem normalizeName_normalizeName_iff (name : Text) :
    normalizeName (normalizeName name) = normalizeName name ↔ ¬ GoesOn name := by
  have htrimmed := Text.isTrimmed_trim name
  have hsuffix := withoutSigil_suffix (Text.trim name)
  have hend : ∀ c, (withoutSigil (Text.trim name)).getLast? = some c →
      Text.isBlank c = false := by
    intro c hc
    obtain ⟨before, hwhole⟩ := hsuffix
    have hsome : withoutSigil (Text.trim name) ≠ [] := fun hnone => by simp [hnone] at hc
    refine htrimmed.2 c ?_
    rw [← hwhole, List.getLast?_append_of_ne_nil _ hsome, hc]
  change normalizeName (Text.lower _) = Text.lower _ ↔ _
  rw [normalizeName_lower_eq_self_iff hend]
  unfold GoesOn
  cases hname : Text.trim name with
  | nil => simp [withoutSigil]
  | cons c s =>
      by_cases hc : c = '$'
      · subst c
        cases s with
        | nil => simp [withoutSigil]
        | cons d s => simp [withoutSigil]
      · have hself : withoutSigil (c :: s) = c :: s :=
          withoutSigil_eq_self_iff.mpr (by simpa using hc)
        have hblank := htrimmed.1 c (by rw [hname]; rfl)
        simp [hself, hc, hblank]

end Reference

namespace Service

open Reference (Page normalizeName GoesOn)

/-- The hits for a query with the name `asked` that document the function of the name `told`. -/
def hitsAbout (service : Service) (asked told : Text) : Work (List Hit) := do
  let hits ← service.search ('$' :: asked) describedHits
  return upTo service.settings.functionResults
    (if told.isEmpty then [] else hits.filter fun hit => documents told hit.passage)

/-- The page of some hits, for the function of the name `shown`. -/
def pageFrom (service : Service) (shown : Text) (hits : List Hit) : Work Page :=
  if service.isWeak hits then
    return { function := '$' :: shown, confidence := confidence hits }
  else do
    let page ← Work.ofExcept (service.pageOf shown hits)
    return { page with confidence := confidence hits }

/-- A lookup that shows one name, asks for a second and tells its hits by a third. -/
def lookUp (service : Service) (shown asked told : Text) : Work Page := do
  service.pageFrom shown (← service.hitsAbout asked told)

/-- A description brings the name into the form of a lookup once for its page, twice for its query
and three times for its hits. -/
theorem describe_eq_lookUp (service : Service) (name : Text) :
    service.describe name = service.lookUp (normalizeName name)
      (normalizeName (normalizeName name)) (normalizeName (normalizeName (normalizeName name))) :=
  rfl

/-- A service without passages, whose embedding provider records what it is asked and ends in one
way. -/
def recording (outcome : Outcome Vector64) : Service :=
  { ofRows [] with embed := fun text => ⟨outcome, [.embedded text]⟩ }

theorem events_lookUp_recording (failure : Failure) (shown asked told : Text) :
    ((recording (.failed failure)).lookUp shown asked told).events = [.embedded ('$' :: asked)] :=
  rfl

/-- The three names of a description are one name just where the given name does not go on behind
its sigil: then the form of a lookup changes no further, and else the query tells the difference. -/
theorem describe_one_name_iff (name : Text) :
    (∀ service : Service, service.describe name = service.lookUp (normalizeName name)
        (normalizeName (normalizeName name)) (normalizeName (normalizeName (normalizeName name)))) ∧
      (normalizeName (normalizeName name) = normalizeName name ↔ ¬ GoesOn name) ∧
      ((∀ service : Service, service.describe name =
          service.lookUp (normalizeName name) (normalizeName name) (normalizeName name)) ↔
        ¬ GoesOn name) := by
  have hrepeat := Reference.normalizeName_normalizeName_iff name
  refine ⟨fun service => service.describe_eq_lookUp name, hrepeat, ?_⟩
  rw [← hrepeat]
  constructor
  · intro hone
    have hevents := congrArg Work.events (hone (recording (.failed .embeddingKeyMissing)))
    rw [describe_eq_lookUp, events_lookUp_recording, events_lookUp_recording] at hevents
    simpa using hevents
  · intro hsame service
    rw [describe_eq_lookUp, hsame, hsame]

/-- Of two sigils the page shows the second one, and the query asks without it. -/
theorem describe_doubleSigil :
    let described := (recording (.done [.one])).describe "$$ban"
    normalizeName (normalizeName "$$ban") ≠ normalizeName "$$ban" ∧
      described.outcome = .done { function := "$$ban", confidence := .zero } ∧
      described.events = [.embedded "$ban"] := by
  decide +kernel

end Service

end ScriptDocs
