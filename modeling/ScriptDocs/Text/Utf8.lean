/-
# UTF-8 and its relatives

Writing a text as bytes, and reading bytes back. Reading UTF-8 stops at the first
byte that no text can have there and says which bytes are to blame and why. The
two wider encodings are read for replies whose first bytes announce them.
Surrogates are no characters; a reader that is told to accept them keeps each as the
character that stands for it.
-/

import ScriptDocs.Text.Surrogate

namespace ScriptDocs

/-- A sequence of bytes. -/
abbrev Bytes := List UInt8

namespace Text

/-- The UTF-8 bytes of a character. -/
def charBytes (c : Char) : Bytes :=
  let n := c.toNat
  if n < 0x80 then [n.toUInt8]
  else if n < 0x800 then [(0xC0 + n / 64).toUInt8, (0x80 + n % 64).toUInt8]
  else if n < 0x10000 then
    [(0xE0 + n / 4096).toUInt8, (0x80 + n / 64 % 64).toUInt8, (0x80 + n % 64).toUInt8]
  else
    [(0xF0 + n / 262144).toUInt8, (0x80 + n / 4096 % 64).toUInt8,
      (0x80 + n / 64 % 64).toUInt8, (0x80 + n % 64).toUInt8]

/-- The UTF-8 bytes of a text. -/
def utf8 (s : Text) : Bytes :=
  s.flatMap charBytes

end Text

/-- Why bytes are no UTF-8. -/
inductive Utf8Cause
  | badStart
  | badContinuation
  | cutShort
  deriving DecidableEq, Repr

/-- The bytes that are no UTF-8: the first of them, its value, how many there are, and why. -/
structure Utf8Fault where
  position : Nat
  byte : Nat
  length : Nat
  cause : Utf8Cause
  deriving DecidableEq, Repr

/-- The wording of a cause. -/
def Utf8Cause.message : Utf8Cause → Text
  | .badStart => "invalid start byte"
  | .badContinuation => "invalid continuation byte"
  | .cutShort => "unexpected end of data"

/-- The wording of a fault. -/
def Utf8Fault.message (fault : Utf8Fault) : Text :=
  let place : Text :=
    if fault.length = 1 then
      let digits := Nat.toDigits 16 fault.byte
      " byte 0x" ++ List.replicate (2 - digits.length) '0' ++ digits ++ " in position ".toList
        ++ Text.ofNat fault.position
    else
      " bytes in position " ++ Text.ofNat fault.position ++ "-".toList
        ++ Text.ofNat (fault.position + fault.length - 1)
  "'utf-8' codec can't decode" ++ place ++ ": ".toList ++ fault.cause.message

namespace Bytes

/-- The replacement character. -/
def replacement : Char := Char.ofNat 0xFFFD

/-- The least and the greatest second byte behind a lead byte of several bytes, and
the number of bytes in all. -/
def leadForm? (surrogates : Bool) (lead : Nat) : Option (Nat × Nat × Nat) :=
  if 0xC2 ≤ lead && lead ≤ 0xDF then some (0x80, 0xBF, 2)
  else if lead == 0xE0 then some (0xA0, 0xBF, 3)
  else if lead == 0xED then some (0x80, if surrogates then 0xBF else 0x9F, 3)
  else if 0xE1 ≤ lead && lead ≤ 0xEF then some (0x80, 0xBF, 3)
  else if lead == 0xF0 then some (0x90, 0xBF, 4)
  else if 0xF1 ≤ lead && lead ≤ 0xF3 then some (0x80, 0xBF, 4)
  else if lead == 0xF4 then some (0x80, 0x8F, 4)
  else none

/-- The payload bits of `owed` continuation bytes, or the number of good ones before
the first that is missing or wrong. -/
def tailBits (low high : Nat) : Nat → Nat → Bytes → Except (Nat × Utf8Cause) Nat
  | 0, bits, _ => .ok bits
  | _ + 1, _, [] => .error (0, .cutShort)
  | owed + 1, bits, b :: rest =>
    if low ≤ b.toNat ∧ b.toNat ≤ high then
      match tailBits 0x80 0xBF owed (bits * 64 + b.toNat % 64) rest with
      | .ok bits => .ok bits
      | .error (good, cause) => .error (good + 1, cause)
    else .error (0, .badContinuation)

/-- The character in front and the number of its bytes. -/
def frontChar (surrogates : Bool) (position : Nat) (lead : UInt8) (rest : Bytes) :
    Except Utf8Fault (Char × Nat) :=
  let n := lead.toNat
  if n < 0x80 then .ok (Char.ofNat n, 1)
  else
    match leadForm? surrogates n with
    | none => .error ⟨position, n, 1, .badStart⟩
    | some (low, high, count) =>
      match tailBits low high (count - 1) (n % Nat.pow 2 (7 - count)) rest with
      | .ok bits => .ok (Text.charOf bits, count)
      | .error (good, cause) => .error ⟨position, n, good + 1, cause⟩

/-- Reading after `skip` more bytes of the last character. -/
def textFrom (surrogates : Bool) : Nat → Nat → Bytes → Except Utf8Fault Text
  | _, _, [] => .ok []
  | skip + 1, position, _ :: rest => textFrom surrogates skip (position + 1) rest
  | 0, position, lead :: rest =>
    match frontChar surrogates position lead rest with
    | .error fault => .error fault
    | .ok (c, count) =>
      match textFrom surrogates (count - 1) (position + 1) rest with
      | .error fault => .error fault
      | .ok s => .ok (c :: s)

/-- The text whose UTF-8 the bytes are. -/
def text? (bytes : Bytes) : Except Utf8Fault Text :=
  textFrom false 0 0 bytes

/-- Reading with replacements after `skip` more bytes of the last character. -/
def replacedFrom : Nat → Bytes → Text
  | _, [] => []
  | skip + 1, _ :: rest => replacedFrom skip rest
  | 0, lead :: rest =>
    match frontChar false 0 lead rest with
    | .ok (c, count) => c :: replacedFrom (count - 1) rest
    | .error fault => replacement :: replacedFrom (fault.length - 1) rest

/-- The text whose UTF-8 the bytes are, with a replacement character for each group of
bytes that spells none. -/
def replaced (bytes : Bytes) : Text :=
  replacedFrom 0 bytes

/-- The numbers that the bytes spell in groups of two, or nothing when one is left over. -/
def pairs? (bigEndian : Bool) : Bytes → Option (List Nat)
  | [] => some []
  | [_] => none
  | a :: b :: rest =>
    (pairs? bigEndian rest).map
      ((if bigEndian then a.toNat * 256 + b.toNat else b.toNat * 256 + a.toNat) :: ·)

/-- The text that 16-bit units spell; a surrogate without partner is kept. -/
def ofUnits16 : List Nat → Text
  | [] => []
  | [a] => [Text.charOf a]
  | a :: b :: rest =>
    if 0xD800 ≤ a && a ≤ 0xDBFF && 0xDC00 ≤ b && b ≤ 0xDFFF then
      Char.ofNat (0x10000 + (a - 0xD800) * 0x400 + (b - 0xDC00)) :: ofUnits16 rest
    else Text.charOf a :: ofUnits16 (b :: rest)

/-- The text that 32-bit units spell, given as pairs of 16-bit units, high one first. -/
def ofUnits32 : List (Nat × Nat) → Option Text
  | [] => some []
  | (high, low) :: rest =>
    if high ≤ 0x10 then (ofUnits32 rest).map (Text.charOf (high * 0x10000 + low) :: ·) else none

/-- The members of a list two by two, or nothing when one is left over. -/
def twoByTwo : List Nat → Option (List (Nat × Nat))
  | [] => some []
  | [_] => none
  | a :: b :: rest => (twoByTwo rest).map ((a, b) :: ·)

/-- Reading UTF-16. -/
def text16? (bigEndian : Bool) (bytes : Bytes) : Option Text :=
  (pairs? bigEndian bytes).map ofUnits16

/-- Reading UTF-32. -/
def text32? (bigEndian : Bool) (bytes : Bytes) : Option Text := do
  let groups ← twoByTwo (← pairs? bigEndian bytes)
  ofUnits32 (if bigEndian then groups else groups.map Prod.swap)

/-- The text of a reply whose first bytes tell its encoding: a byte order mark, or
else the zero bytes around the first characters; without either it is UTF-8. A
byte order mark is no part of the text, and lone surrogates are accepted. -/
def announcedText? : Bytes → Option Text
  | 0x00 :: 0x00 :: 0xFE :: 0xFF :: rest => text32? true rest
  | 0xFF :: 0xFE :: 0x00 :: 0x00 :: rest => text32? false rest
  | 0xFE :: 0xFF :: rest => text16? true rest
  | 0xFF :: 0xFE :: rest => text16? false rest
  | 0xEF :: 0xBB :: 0xBF :: rest => (textFrom true 0 0 rest).toOption
  | [a, b] =>
    if a = 0 then text16? true [a, b]
    else if b = 0 then text16? false [a, b]
    else (textFrom true 0 0 [a, b]).toOption
  | a :: b :: c :: d :: rest =>
    let bytes := a :: b :: c :: d :: rest
    if a = 0 then (if b = 0 then text32? true bytes else text16? true bytes)
    else if b = 0 then (if c = 0 ∧ d = 0 then text32? false bytes else text16? false bytes)
    else (textFrom true 0 0 bytes).toOption
  | bytes => (textFrom true 0 0 bytes).toOption

end Bytes

end ScriptDocs
