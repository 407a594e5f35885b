/-
# Bytes as letters

Three bytes are written as four characters of an alphabet of 64, which stand for six bits
each; where bytes are missing at the end, equals signs fill up.
-/

import ScriptDocs.Text.Utf8

namespace ScriptDocs.Bytes

/-- The character for six bits. -/
def sixBits (n : Nat) : Char :=
  if n < 26 then Char.ofNat (0x41 + n)
  else if n < 52 then Char.ofNat (0x61 + (n - 26))
  else if n < 62 then Char.ofNat (0x30 + (n - 52))
  else if n = 62 then '+' else '/'

/-- Bytes written in base 64. -/
def base64 : Bytes → Text
  | a :: b :: c :: rest =>
    let n := (a.toNat * 256 + b.toNat) * 256 + c.toNat
    sixBits (n / 262144) :: sixBits (n / 4096 % 64) :: sixBits (n / 64 % 64) :: sixBits (n % 64)
      :: base64 rest
  | [a, b] =>
    let n := (a.toNat * 256 + b.toNat) * 4
    [sixBits (n / 4096), sixBits (n / 64 % 64), sixBits (n % 64), '=']
  | [a] =>
    let n := a.toNat * 16
    [sixBits (n / 64), sixBits (n % 64), '=', '=']
  | [] => []

end ScriptDocs.Bytes
