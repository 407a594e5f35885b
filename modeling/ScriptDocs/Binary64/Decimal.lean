/-
# Doubles and decimal numerals

Reading a decimal numeral gives the double nearest to it. Writing with a fixed
number of places rounds the exact value of the double, and rounding to places
gives the double nearest to that rounded value; in all three a tie goes to the
even neighbour.
-/

import ScriptDocs.Binary64.Basic
import ScriptDocs.Text.Basic

namespace ScriptDocs.Binary64

/-- The double nearest to `digits` times ten to the power `exponent`. Powers far
beyond the range of doubles are not computed. -/
def ofDecimal (negative : Bool) (digits : Nat) (exponent : Int) : Binary64 :=
  if digits = 0 then .finite negative 0
  else if 400 < exponent then .infinite negative
  else if 0 ≤ exponent then ofUnits negative (digits * Nat.pow 10 exponent.toNat * unitsOfOne) 1
  else if (digits.log2 : Int) + 1100 < 3 * -exponent then .finite negative 0
  else ofUnits negative (digits * unitsOfOne) (Nat.pow 10 exponent.natAbs)

/-- A double rounded to a number of decimal places. -/
def roundPlaces (places : Nat) : Binary64 → Binary64
  | .finite negative units =>
    let scale := Nat.pow 10 places
    ofUnits negative (nearestEven (units * scale) unitsOfOne * unitsOfOne) scale
  | x => x

/-- A double written with a fixed number of places behind the point. A result of
zero is written without a sign. -/
def fixedText (places : Nat) : Binary64 → Text
  | .notANumber => "nan"
  | .infinite negative => if negative then "-inf" else "inf"
  | .finite negative units =>
    let scale := Nat.pow 10 places
    let scaled := nearestEven (units * scale) unitsOfOne
    let sign : Text := if negative ∧ scaled ≠ 0 then "-" else []
    sign ++ Text.ofNat (scaled / scale) ++ '.' :: Text.padded 10 places (scaled % scale)

/-- The bits of a double as sixteen hexadecimal digits. -/
def hexText (x : Binary64) : Text :=
  Text.padded 16 16 x.toBits

end ScriptDocs.Binary64
