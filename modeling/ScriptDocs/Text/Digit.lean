/-
# Decimal digits

A decimal digit is a character for one of the numbers from zero to nine in any
script. The table lists the zeros above U+007F; the other nine digits of a script
follow its zero. An integer is spelled by such digits, with a sign in front and low
lines between digits where one likes.
-/

import ScriptDocs.Text.Blank

namespace ScriptDocs.Text

/-- The decimal zeros above U+007F. -/
def digitZeros : List Nat :=
  [0x660, 0x6F0, 0x7C0, 0x966, 0x9E6, 0xA66, 0xAE6, 0xB66, 0xBE6, 0xC66, 0xCE6, 0xD66, 0xDE6,
   0xE50, 0xED0, 0xF20, 0x1040, 0x1090, 0x17E0, 0x1810, 0x1946, 0x19D0, 0x1A80, 0x1A90, 0x1B50,
   0x1BB0, 0x1C40, 0x1C50, 0xA620, 0xA8D0, 0xA900, 0xA9D0, 0xA9F0, 0xAA50, 0xABF0, 0xFF10,
   0x104A0, 0x10D30, 0x11066, 0x110F0, 0x11136, 0x111D0, 0x112F0, 0x11450, 0x114D0, 0x11650,
   0x116C0, 0x11730, 0x118E0, 0x11950, 0x11C50, 0x11D50, 0x11DA0, 0x16A60, 0x16AC0, 0x16B50,
   0x1D7CE, 0x1D7D8, 0x1D7E2, 0x1D7EC, 0x1D7F6, 0x1E140, 0x1E2F0, 0x1E950, 0x1FBF0]

/-- The number that a decimal digit of any script stands for. -/
def digit? (c : Char) : Option Nat :=
  if c.isDigit then some (c.toNat - 0x30)
  else
    (digitZeros.find? fun start => start ≤ c.toNat && c.toNat < start + 10).map fun start =>
      c.toNat - start

/-- Whether a character is a decimal digit of some script. -/
def isDecimal (c : Char) : Bool :=
  (digit? c).isSome

/-- The most digits of an integer that is read. -/
def integerDigitLimit : Nat := 4300

/-- The natural number that a text spells, with low lines between digits. -/
def natural? (s : Text) : Option Nat :=
  let groups := pieces '_' s
  if groups.any List.isEmpty ∨ integerDigitLimit < groups.flatten.length then none
  else groups.flatten.foldlM (fun n c => (digit? c).map (n * 10 + ·)) 0

/-- The integer that a text spells, with a sign and with margins around it. -/
def integer? (s : Text) : Option Int :=
  match dropEnds isMargin s with
  | '+' :: s => (natural? s).map Int.ofNat
  | '-' :: s => (natural? s).map fun n => -(n : Int)
  | s => (natural? s).map Int.ofNat

end ScriptDocs.Text
