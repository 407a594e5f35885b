/-
# Names in nested calls

The names of a snippet can be found in two ways: by one scan for the sigils and the names behind
them, and by reading its calls, then the calls in each of their arguments, and so on until no
call is left. Both find the same names, however malformed the snippet is. A name, with its sigil,
never reaches over a bracket or a semicolon, and nothing but these is lost on the way from a
call to its arguments. An argument is shorter than the snippet it stands in, so that reading
the arguments comes to an end.
-/

import ScriptDocs.Proofs.Snippet.Names
import ScriptDocs.Proofs.Text.Pieces

namespace ScriptDocs.Snippet

section Tokens

variable {name rest : Text}

theorem nameTokens_eq (code : Text) :
    nameTokens code = (Text.runsBehind '$' isNameChar code).filterMap sigiled? :=
  readsRun_nameInFront.allMatches_eq code

/-- No name reaches over a character that no name has. -/
theorem nameTokens_append_cons {mark : Char} (hmark : isNameChar mark = false) (s rest : Text) :
    nameTokens (s ++ mark :: rest) = nameTokens s ++ nameTokens (mark :: rest) := by
  simp only [nameTokens_eq, Text.runsBehind_append_cons hmark, List.filterMap_append]

theorem nameTokens_cons_of_ne {c : Char} (hsigil : c ≠ '$') (s : Text) :
    nameTokens (c :: s) = nameTokens s :=
  Text.allMatches_cons_of_none (readsRun_nameInFront.none_of_ne c s hsigil)

/-- Text on both sides of a character that stands neither in a name nor in front of one. -/
theorem nameTokens_parted {mark : Char} (hmark : isNameChar mark = false) (hsigil : mark ≠ '$')
    (s rest : Text) : nameTokens (s ++ mark :: rest) = nameTokens s ++ nameTokens rest := by
  rw [nameTokens_append_cons hmark, nameTokens_cons_of_ne hsigil]

/-- A name with its sigil in front is the first one. -/
theorem nameTokens_sigiled (hname : IsName name) (hends : EndsName rest) :
    nameTokens ('$' :: name ++ rest) = ('$' :: name) :: nameTokens rest := by
  have hmatch : nameInFront ('$' :: name ++ rest) = some ('$' :: name, ('$' :: name).length) := by
    simp [nameInFront, (hname.takeWhile_append hends).1, hname.1]
  exact Text.allMatches_append_of_some rest (List.cons_ne_nil '$' name) hmatch

/-- The names of joined arguments are those of each argument. -/
theorem nameTokens_join (arguments : List Text) :
    nameTokens (Text.join ";" arguments) = arguments.flatMap nameTokens := by
  induction arguments with
  | nil => rfl
  | cons argument arguments ih =>
      cases arguments with
      | nil => simp [Text.join]
      | cons next arguments =>
          have hjoin : Text.join ";" (argument :: next :: arguments) =
              argument ++ ';' :: Text.join ";" (next :: arguments) := by
            simp [Text.join]
          rw [hjoin, nameTokens_parted (by decide) (by decide), ih]
          rfl

end Tokens

/-- The name of a call and the names that are found in its arguments. -/
def Call.tokens (call : Call) : List Text :=
  call.name :: (call.arguments?.getD []).flatMap nameTokens

/-- In front of the rest of a snippet, a piece gives the names of the call that it is read as. -/
theorem Piece.nameTokens_append {piece : Piece} {rest : Text} (hfits : piece.Fits rest) :
    nameTokens (piece.text ++ rest) =
      piece.call?.toList.flatMap Call.tokens ++ nameTokens rest := by
  cases piece with
  | skipped c =>
      by_cases hsigil : c = '$'
      · subst c
        have hnone : nameInFront ('$' :: rest) = none := by
          simp [nameInFront, (hfits rfl).takeWhile_eq_nil]
        exact Text.allMatches_cons_of_none hnone
      · exact nameTokens_cons_of_ne hsigil rest
  | bare name =>
      obtain ⟨hname, hends, -⟩ := hfits
      have htokens : (call? (.bare name)).toList.flatMap Call.tokens = ['$' :: name] := by
        by_cases hkeyword : Text.lower ('$' :: name) ∈ bracketlessKeywords <;>
          simp [call?, hkeyword, Call.tokens, Call.arguments?]
      rw [text, nameTokens_sigiled hname hends, htokens]
      rfl
  | closed name arguments =>
      have hopens : EndsName ('[' :: (Text.join ";" arguments ++ ']' :: rest)) :=
        endsName_cons rfl _
      have htext : text (.closed name arguments) ++ rest =
          '$' :: name ++ '[' :: (Text.join ";" arguments ++ ']' :: rest) := by simp [text]
      rw [htext, nameTokens_sigiled hfits.1 hopens, nameTokens_cons_of_ne (by decide),
        nameTokens_parted (by decide) (by decide), nameTokens_join]
      simp [call?, Call.tokens, Call.arguments?]
  | unclosed name arguments =>
      obtain ⟨⟨hname, rfl⟩, -⟩ := hfits
      have hopens : EndsName ('[' :: Text.join ";" arguments) := endsName_cons rfl _
      rw [List.append_nil, text, nameTokens_sigiled hname hopens,
        nameTokens_cons_of_ne (by decide), nameTokens_join]
      simp [call?, Call.tokens, Call.arguments?, nameTokens, Text.allMatches, Text.matchesFrom]

/-- The names of a snippet are those of its calls, in order. -/
theorem nameTokens_eq_flatMap_calls (code : Text) :
    nameTokens code = (calls code).flatMap Call.tokens := by
  obtain ⟨pieces, hcut⟩ := Cut.exists_cut code
  rw [hcut.calls_eq]
  induction hcut with
  | nil => rfl
  | @cons piece rest pieces hfits _ ih =>
      rw [Piece.nameTokens_append hfits, ih, List.filterMap_cons]
      cases piece.call? <;> simp

/-- The arguments of the calls of a snippet, under each name in order. -/
def nestedTexts (code : Text) : List Text :=
  (groupByName (calls code)).flatMap fun entry =>
    entry.2.flatMap fun call => call.arguments?.getD []

theorem mem_nestedTexts_iff {code argument : Text} :
    argument ∈ nestedTexts code ↔ ∃ call ∈ calls code, argument ∈ call.arguments?.getD [] := by
  simp only [nestedTexts, groupByName, callsOf, List.flatMap_map, List.mem_flatMap, mem_distinct,
    List.mem_map, List.mem_filter, decide_eq_true_eq]
  constructor
  · rintro ⟨-, -, call, ⟨hcall, -⟩, hargument⟩
    exact ⟨call, hcall, hargument⟩
  · rintro ⟨call, hcall, hargument⟩
    exact ⟨call.name, ⟨call, hcall, rfl⟩, call, ⟨hcall, rfl⟩, hargument⟩

/-- An argument is shorter than its call is written. -/
theorem Piece.length_lt_of_mem_arguments {piece : Piece} {call : Call} {argument : Text}
    (hread : piece.call? = some call) (hmem : argument ∈ call.arguments?.getD []) :
    argument.length < piece.text.length := by
  cases piece with
  | skipped => cases hread
  | bare name =>
      obtain rfl := Option.some.inj hread
      split at hmem <;> cases hmem
  | closed name arguments | unclosed name arguments =>
      obtain rfl := Option.some.inj hread
      have hjoined : argument.length ≤ (Text.join ";" arguments).length :=
        (Text.infix_join_of_mem hmem).length_le
      simp only [text, List.length_append, List.length_cons]
      omega

/-- An argument is shorter than the snippet. -/
theorem length_lt_of_mem_nestedTexts {code argument : Text} (hmem : argument ∈ nestedTexts code) :
    argument.length < code.length := by
  obtain ⟨call, hcall, hargument⟩ := mem_nestedTexts_iff.mp hmem
  obtain ⟨pieces, hcut⟩ := Cut.exists_cut code
  rw [hcut.calls_eq] at hcall
  obtain ⟨piece, hpiece, hread⟩ := List.mem_filterMap.mp hcall
  have hwhole : piece.text.length ≤ code.length := by
    obtain ⟨before, behind, rfl⟩ := List.append_of_mem hpiece
    rw [← hcut.text_eq, List.flatMap_append, List.flatMap_cons]
    simp only [List.length_append]
    omega
  exact (Piece.length_lt_of_mem_arguments hread hargument).trans_le hwhole

/-- The names of the calls of a snippet, of the calls in their arguments, and so on. -/
def namesWithin (code : Text) : List Text :=
  (groupByName (calls code)).map Prod.fst ++
    (nestedTexts code).attach.flatMap fun argument => namesWithin argument.1
termination_by code.length
decreasing_by exact length_lt_of_mem_nestedTexts argument.2

theorem mem_namesWithin_iff {code name : Text} :
    name ∈ namesWithin code ↔ name ∈ nameTokens code := by
  -- By induction on the length: nested texts are no tails of the snippet, but they are shorter.
  induction hlength : code.length using Nat.strong_induction_on generalizing code with
  | _ length ih =>
      have hkeys : name ∈ (groupByName (calls code)).map Prod.fst ↔
          ∃ call ∈ calls code, name = call.name := by
        simp [groupByName, eq_comm]
      have hnested : (∃ argument ∈ nestedTexts code, name ∈ namesWithin argument) ↔
          ∃ argument ∈ nestedTexts code, name ∈ nameTokens argument := by
        refine exists_congr fun argument => and_congr_right fun hargument => ?_
        exact ih _ (hlength ▸ length_lt_of_mem_nestedTexts hargument) rfl
      have hwithin : name ∈ namesWithin code ↔ name ∈ (groupByName (calls code)).map Prod.fst ∨
          ∃ argument ∈ nestedTexts code, name ∈ namesWithin argument := by
        rw [namesWithin]
        simp
      rw [hwithin, hkeys, hnested, nameTokens_eq_flatMap_calls]
      simp only [Call.tokens, List.mem_flatMap, List.mem_cons, mem_nestedTexts_iff]
      constructor
      · rintro (⟨call, hcall, hname⟩ | ⟨argument, ⟨call, hcall, hargument⟩, hname⟩)
        · exact ⟨call, hcall, Or.inl hname⟩
        · exact ⟨call, hcall, Or.inr ⟨argument, hargument, hname⟩⟩
      · rintro ⟨call, hcall, hname | ⟨argument, hargument, hname⟩⟩
        · exact Or.inl ⟨call, hcall, hname⟩
        · exact Or.inr ⟨argument, ⟨call, hcall, hargument⟩, hname⟩

/-- For every snippet the scan for names finds just the names of its calls at any depth, each of
them once. -/
theorem functionNames_are_names_within (code : Text) :
    (∀ name, name ∈ functionNames code ↔ name ∈ namesWithin code) ∧
      (functionNames code).Nodup := by
  refine ⟨fun name => ?_, nodup_distinct _⟩
  rw [mem_namesWithin_iff, functionNames, mem_distinct]
  rfl

end ScriptDocs.Snippet
