/-
# Chunks of a section

A section is cut into chunks for embedding. Its paragraphs are collected as long as
they fit within the upper limit; a paragraph that alone exceeds it is sliced. A
chunk shorter than the lower limit is merged with the one before it when both fit
together. Limits count characters.
-/

import ScriptDocs.Markdown.Section
import ScriptDocs.Sha256

namespace ScriptDocs.Markdown

/-- The limits on the length of a chunk. -/
structure Limits where
  least : Int := 1500
  most : Int := 3500

/-- A chunk and the fingerprint of its content. -/
structure Chunk where
  content : Text
  fingerprint : Text
  deriving DecidableEq, Repr

/-- What stands between two paragraphs of a chunk. -/
def paragraphBreak : Text := "\n\n"

/-- Paragraphs, where `within` says that the last character ended a paragraph. -/
def paragraphsFrom (within : Bool) : Text → List Text
  | [] => [[]]
  | c :: s =>
    if c = '\n' && within then paragraphsFrom true s
    else if c = '\n' && s.head? = some '\n' then [] :: paragraphsFrom true s
    else Text.ontoFirst c (paragraphsFrom false s)

/-- The pieces of a text between runs of two or more line feeds. -/
def paragraphs (text : Text) : List Text :=
  paragraphsFrom false text

/-- The first slices of a text, as many as the first number says. -/
def someSlices (size : Nat) : Nat → Text → List Text
  | 0, _ => []
  | count + 1, s => if s.isEmpty then [] else s.take size :: someSlices size count (s.drop size)

/-- Consecutive slices of one size, the last one possibly shorter; none for a size
that is not positive. -/
def slices (size : Int) (s : Text) : List Text :=
  if size ≤ 0 then [] else someSlices size.toNat s.length s

/-- The finished chunks, last first, when a collected text is added to them: merged with
the last one if one of the two is too short and they fit together, else on its own. -/
def addCollected (limits : Limits) (finished : List Text) (collected : Text) : List Text :=
  let candidate := Text.trim collected
  if candidate.isEmpty then finished
  else
    match finished with
    | [] => [candidate]
    | previous :: earlier =>
      let merged := previous ++ paragraphBreak ++ candidate
      if (candidate.length < limits.least ∨ previous.length < limits.least)
          ∧ merged.length ≤ limits.most then
        merged :: earlier
      else candidate :: previous :: earlier

/-- The chunks from the next paragraph on, given the finished ones, last first, and
the text collected since. -/
def collect (limits : Limits) : List Text → Text → List Text → List Text
  | finished, collected, [] => (addCollected limits finished collected).reverse
  | finished, collected, raw :: rest =>
    let paragraph := Text.trim raw
    if paragraph.isEmpty then collect limits finished collected rest
    else
      let joined :=
        if collected.isEmpty then paragraph else collected ++ paragraphBreak ++ paragraph
      if joined.length ≤ limits.most then collect limits finished joined rest
      else
        let finished := addCollected limits finished collected
        if paragraph.length ≤ limits.most then collect limits finished paragraph rest
        else collect limits ((slices limits.most paragraph).reverse ++ finished) [] rest

/-- The contents of the chunks of a section. -/
def chunkTexts (limits : Limits) (text : Text) : List Text :=
  collect limits [] [] (paragraphs (Text.trim text))

/-- The chunks of a section with their fingerprints. -/
def chunks (limits : Limits) (text : Text) : List Chunk :=
  (chunkTexts limits text).map fun content => ⟨content, fingerprint content⟩

/-- The chunks of a section, or nothing when a paragraph would have to be cut into
slices of size zero. -/
def chunks? (limits : Limits) (text : Text) : Option (List Chunk) :=
  if limits.most = 0 ∧ !Text.isBlankText text then none else some (chunks limits text)

end ScriptDocs.Markdown
