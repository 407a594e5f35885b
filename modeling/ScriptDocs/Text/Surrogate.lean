/-
# Surrogates that stand alone

A surrogate is half of a pair of 16-bit units and no character by itself, but escapes
and some encodings can spell one alone. A text keeps it as the private character
that lies 0xF0000 code points above it, so that it can be recognized and written again.

Only a reader of JSON makes such texts; files and addresses are decoded to whole
characters. Where a text of JSON is taken in as a field of a form or a passage, as a
column of a row, as a correction or as a part of a request, it is refused if it holds a
surrogate, so that none gets into the store, a chunk or a fingerprint. The texts that
are left out by this are those that hold one of the characters U+FD800 to U+FDFFF
themselves: they are taken for texts with a surrogate.
-/

import ScriptDocs.Text.Basic

namespace ScriptDocs.Text

/-- Whether a number is a surrogate. -/
def isSurrogate (n : Nat) : Bool :=
  0xD800 ≤ n && n ≤ 0xDFFF

/-- How far above a surrogate the character lies that stands for it. -/
def surrogateShift : Nat := 0xF0000

/-- The character with a code point, or the one that stands for a surrogate. -/
def charOf (n : Nat) : Char :=
  if isSurrogate n then Char.ofNat (n + surrogateShift) else Char.ofNat n

/-- The surrogate that a character stands for. -/
def surrogate? (c : Char) : Option Nat :=
  let n := c.toNat - surrogateShift
  if surrogateShift ≤ c.toNat && isSurrogate n then some n else none

/-- Whether a text holds a surrogate, so that no encoding can write it. -/
def holdsSurrogate (s : Text) : Bool :=
  s.any fun c => (surrogate? c).isSome

end ScriptDocs.Text
