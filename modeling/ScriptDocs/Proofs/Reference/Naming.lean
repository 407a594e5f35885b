/-
# Looking up a name

The name of a function is looked up in small letters and without its sigil, however often it is
brought into that form.
-/

import ScriptDocs.Proofs.Snippet.Cutting
import ScriptDocs.Proofs.Text.Blank
import ScriptDocs.Proofs.Text.Letter
import ScriptDocs.Reference.Name

namespace ScriptDocs

namespace Snippet

variable {name : Text}

theorem IsName.isNameChar (hname : IsName name) {c : Char} (hc : c ∈ name) : isNameChar c = true :=
  (isNameChar_iff c).mpr (hname.2 c hc)

theorem isNameChar_toLower {c : Char} (hc : isNameChar c = true) : isNameChar c.toLower = true :=
  Text.forall_ascii (p := fun c => isNameChar c = true → isNameChar c.toLower = true) (by decide)
    (toNat_lt_of_isNameChar hc) hc

theorem isBlank_of_isNameChar {c : Char} (hc : isNameChar c = true) : Text.isBlank c = false :=
  Text.forall_ascii (p := fun c => isNameChar c = true → Text.isBlank c = false) (by decide)
    (toNat_lt_of_isNameChar hc) hc

/-- A name is lowered letter by letter. -/
theorem IsName.lower_eq (hname : IsName name) : Text.lower name = name.map Char.toLower :=
  Text.lower_of_ascii fun _ hc => toNat_lt_of_isNameChar (hname.isNameChar hc)

/-- A name in small letters is a name. -/
theorem IsName.lower (hname : IsName name) : IsName (Text.lower name) := by
  rw [hname.lower_eq]
  refine ⟨by simpa using hname.1, fun c hc => ?_⟩
  obtain ⟨d, hd, rfl⟩ := List.mem_map.mp hc
  exact (isNameChar_iff _).mp (isNameChar_toLower (hname.isNameChar hd))

end Snippet

namespace Reference

open Snippet (IsName)

variable {name : Text}

theorem normalizeName_sigiled (hname : IsName name) :
    normalizeName ('$' :: name) = Text.lower name := by
  have htrim : Text.trim ('$' :: name) = '$' :: name := by
    refine Text.trim_eq_self_iff.mpr ⟨?_, fun c hc => ?_⟩
    · rintro c ⟨⟩
      rfl
    · rw [List.getLast?_cons_of_ne_nil hname.1] at hc
      exact Snippet.isBlank_of_isNameChar (hname.isNameChar (List.mem_of_getLast? hc))
  rw [normalizeName, htrim]
  rfl

theorem normalizeName_bare (hname : IsName name) : normalizeName name = Text.lower name := by
  have htrim : Text.trim name = name := by
    refine Text.trim_eq_self_iff.mpr ⟨fun c hc => ?_, fun c hc => ?_⟩
    · exact Snippet.isBlank_of_isNameChar (hname.isNameChar (List.mem_of_mem_head? hc))
    · exact Snippet.isBlank_of_isNameChar (hname.isNameChar (List.mem_of_getLast? hc))
  have hsigil : withoutSigil name = name := by
    unfold withoutSigil
    split
    · rename_i rest
      rcases hname.2 '$' List.mem_cons_self with h | h
      · exact absurd h (by decide)
      · exact absurd h (by decide)
    · rfl
  rw [normalizeName, htrim, hsigil]

end Reference

end ScriptDocs
