/-
# Reading back a fenced snippet

A block is read from a fence mark up to the first mark behind its tag. So a snippet that holds no
mark comes back, trimmed, when it is put on lines of its own between fences and the fences are
stripped again.
-/

import ScriptDocs.Proofs.Text.Blank
import ScriptDocs.Proofs.Text.Front
import ScriptDocs.Proofs.Text.Replace
import ScriptDocs.Snippet.Fence

namespace ScriptDocs.Snippet

/-- A snippet between the fences that a correction is given in. -/
def fencedSnippet (body : Text) : Text :=
  "```js\n".toList ++ (body ++ "\n```".toList)

/-- No mark stands in a text, and none is begun at its end. -/
structure Bare (s : Text) : Prop where
  unmarked : ¬ fenceMark <:+: s
  unbegun : s.getLast? ≠ some '`'

namespace Bare

variable {s t : Text}

theorem of_suffix (hbare : Bare s) (ht : t <:+ s) : Bare t where
  unmarked hmark := hbare.unmarked (hmark.trans ht.isInfix)
  unbegun hlast := by
    obtain ⟨front, rfl⟩ := ht
    apply hbare.unbegun
    rw [List.getLast?_append, hlast]
    rfl

/-- No mark begins in a text that is bare of marks, whatever stands behind it. -/
theorem not_prefix_append (hbare : Bare s) (hsome : s ≠ []) (rest : Text) :
    ¬ fenceMark <+: s ++ rest := by
  intro hmark
  match s with
  | [] => exact hsome rfl
  | [a] =>
      obtain ⟨rfl, -⟩ := List.cons_prefix_cons.mp hmark
      exact hbare.unbegun rfl
  | [a, b] =>
      obtain ⟨rfl, hnext⟩ := List.cons_prefix_cons.mp hmark
      obtain ⟨rfl, -⟩ := List.cons_prefix_cons.mp hnext
      exact hbare.unbegun rfl
  | a :: b :: c :: s =>
      have hinside : fenceMark <+: a :: b :: c :: s :=
        List.prefix_of_prefix_length_le hmark (List.prefix_append _ _) (Nat.le_add_left 3 _)
      exact hbare.unmarked hinside.isInfix

end Bare

/-- A block is read where it opens, up to the first mark behind the tag. -/
theorem fencedBody_eq_some_iff {s body : Text} {read : Nat} :
    fencedBody s = some (body, read) ↔ ∃ opened rest, s = fenceMark ++ opened ∧
      Text.cut? fenceMark (Text.trimLeft (withoutTag opened)) = some (body, rest) ∧
        read = s.length - rest.length := by
  rw [fencedBody]
  simp only [Option.bind_eq_bind, Option.bind_eq_some_iff, Text.afterFront?_eq_some_iff,
    Option.pure_def, Option.some.injEq, Prod.exists, Prod.mk.injEq]
  constructor
  · rintro ⟨opened, hopened, body, rest, hcut, rfl, rfl⟩
    exact ⟨opened, rest, hopened, hcut, rfl⟩
  · rintro ⟨opened, rest, hopened, hcut, rfl⟩
    exact ⟨opened, hopened, body, rest, hcut, rfl, rfl⟩

/-- White space in front is trimmed up to a mark. -/
theorem trimLeft_append_fenceMark (s : Text) :
    Text.trimLeft (s ++ fenceMark) = Text.trimLeft s ++ fenceMark := by
  rw [Text.trimLeft, List.dropWhile_append]
  split
  · rename_i hempty
    rw [Text.trimLeft, List.isEmpty_iff.mp hempty]
    rfl
  · rfl

/-- Nothing is trimmed off marks. -/
theorem trim_between_fenceMarks (s : Text) :
    Text.trim (fenceMark ++ (s ++ fenceMark)) = fenceMark ++ (s ++ fenceMark) := by
  have hmark : Text.isBlank '`' = false := rfl
  rw [Text.trim_eq_self_iff]
  constructor
  · intro c hc
    cases hc
    exact hmark
  · have hlast : fenceMark ++ (s ++ fenceMark) = fenceMark ++ (s ++ ['`', '`']) ++ ['`'] := by
      rw [List.append_assoc, List.append_assoc]
      rfl
    intro c hc
    rw [hlast, List.getLast?_concat] at hc
    cases hc
    exact hmark

/-- The line ends around a text are trimmed off with its own white space. -/
theorem trim_between_lineEnds (s : Text) :
    Text.trim (Text.trimLeft ('\n' :: (s ++ ['\n']))) = Text.trim s := by
  have hfront : Text.trimLeft ('\n' :: (s ++ ['\n'])) = Text.trimLeft (s ++ ['\n']) :=
    List.dropWhile_cons_of_pos rfl
  have htwice : Text.trimLeft (Text.trimLeft (s ++ ['\n'])) = Text.trimLeft (s ++ ['\n']) :=
    List.dropWhile_idempotent Text.isBlank _
  rw [hfront, Text.trim, htwice, Text.trimLeft, List.dropWhile_append]
  split
  · rename_i hempty
    rw [Text.trim, Text.trimLeft, List.isEmpty_iff.mp hempty]
    rfl
  · exact List.rdropWhile_concat_pos Text.isBlank _ '\n' rfl

theorem bare_between_lineEnds {code : Text} (hmark : ¬ fenceMark <:+: code) :
    Bare ('\n' :: (code ++ ['\n'])) where
  unmarked hinside := by
    have hfront : fenceMark <:+: ['\n'] ++ (code ++ ['\n']) := hinside
    have hback : fenceMark <:+: code ++ ['\n'] :=
      Text.infix_of_append_infix rfl (by decide) hfront
    exact hmark (Text.infix_of_infix_append rfl (by decide) hback)
  unbegun := by
    rw [← List.cons_append, List.getLast?_concat]
    decide

/-- A snippet without a mark that stands between fences is read up to the second one. -/
theorem fencedBody_fenced {tag code : Text} (htag : tag ∈ [] :: fenceTags)
    (hmark : ¬ fenceMark <:+: code) :
    fencedBody (fenceMark ++ (tag ++ '\n' :: (code ++ ['\n']) ++ fenceMark)) =
      some (Text.trimLeft ('\n' :: (code ++ ['\n'])),
        (fenceMark ++ (tag ++ '\n' :: (code ++ ['\n']) ++ fenceMark)).length) := by
  have huntagged : ∀ s, withoutTag (tag ++ '\n' :: s) = '\n' :: s := by
    intro s
    simp only [fenceTags, List.mem_cons, List.not_mem_nil, or_false] at htag
    rcases htag with rfl | rfl | rfl | rfl <;> rfl
  have hopened : Text.trimLeft (withoutTag (tag ++ '\n' :: (code ++ ['\n']) ++ fenceMark)) =
      Text.trimLeft ('\n' :: (code ++ ['\n'])) ++ (fenceMark ++ []) := by
    rw [List.append_assoc, List.cons_append, huntagged, ← List.cons_append,
      trimLeft_append_fenceMark, List.append_nil]
  have hbody : Bare (Text.trimLeft ('\n' :: (code ++ ['\n']))) :=
    (bare_between_lineEnds hmark).of_suffix (List.dropWhile_suffix Text.isBlank)
  rw [fencedBody_eq_some_iff]
  refine ⟨_, [], rfl, ?_, rfl⟩
  rw [Text.cut?_eq_some_iff]
  exact ⟨hopened, fun t ht hne => (hbody.of_suffix ht).not_prefix_append hne _⟩

/-- A snippet without a mark comes back trimmed from between its fences. -/
theorem stripFences_fenced {tag code : Text} (htag : tag ∈ [] :: fenceTags)
    (hmark : ¬ fenceMark <:+: code) :
    stripFences (fenceMark ++ (tag ++ '\n' :: (code ++ ['\n']) ++ fenceMark)) =
      Text.trim code := by
  have hsome : fenceMark ++ (tag ++ '\n' :: (code ++ ['\n']) ++ fenceMark) ≠ [] :=
    List.cons_ne_nil _ _
  rw [stripFences, trim_between_fenceMarks,
    Text.replaceMatches_eq_of_whole hsome (fencedBody_fenced htag hmark)]
  exact trim_between_lineEnds code

/-- Stripping undoes fencing. -/
theorem stripFences_fencedSnippet {body : Text} (htrimmed : Text.IsTrimmed body)
    (hmark : ¬ fenceMark <:+: body) : stripFences (fencedSnippet body) = body := by
  have hfenced : fencedSnippet body =
      fenceMark ++ ("js".toList ++ '\n' :: (body ++ ['\n']) ++ fenceMark) := by
    rw [List.append_assoc, List.cons_append, List.append_assoc]
    rfl
  have hknown : "js".toList ∈ [] :: fenceTags := by decide
  rw [hfenced, stripFences_fenced hknown hmark]
  exact Text.trim_eq_self_iff.mpr htrimmed

end ScriptDocs.Snippet
