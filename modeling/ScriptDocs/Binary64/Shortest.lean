/-
# The shortest numeral of a double

Of all decimal numerals that read back as a double, the one with the fewest digits is
taken, and of those the nearest to it. It is written positionally from a ten
thousandth up to ten to the power 16, and with a power of ten elsewhere.
-/

import ScriptDocs.Binary64.Decimal

namespace ScriptDocs.Binary64

/-- How many digits a whole number has. -/
def digitCount (n : Nat) : Nat :=
  (Nat.toDigits 10 n).length

/-- The power of ten just above a positive number of units: the number is below it, but
not below the tenth of it. -/
def magnitude (units : Nat) : Int :=
  if unitsOfOne ≤ units then digitCount (units / unitsOfOne)
  else 1 - digitCount (unitsOfOne / units)

/-- The two neighbours of a number of units on the grid of a power of ten, the nearer one
first; of two equally near ones, the even one. -/
def neighbours (units : Nat) (power : Int) : List Nat :=
  let numerator := if power < 0 then units * Nat.pow 10 power.natAbs else units
  let denominator := if power < 0 then unitsOfOne else unitsOfOne * Nat.pow 10 power.toNat
  let lower := numerator / denominator
  if nearestEven numerator denominator = lower then [lower, lower + 1] else [lower + 1, lower]

/-- The digits and the power of ten of the shortest numeral of a positive number of units. -/
def shortest (units : Nat) : Nat × Int :=
  let top := magnitude units
  let found := (List.range 17).findSome? fun (count : Nat) =>
    let power := top - (count + 1 : Nat)
    (neighbours units power).findSome? fun digits =>
      if ofDecimal false digits power = .finite false units then some (digits, power) else none
  found.getD (0, 0)

/-- Digits without the zeros at their end. -/
def significant (digits : Nat) : Text :=
  Text.dropRightWhile (· == '0') (Text.ofNat digits)

/-- The text of a number `0.d₁d₂… × 10^point`, given its digits. -/
def placed (digits : Text) (point : Int) : Text :=
  if point < -3 ∨ 16 < point then
    let power := point - 1
    let places : Text := if digits.length ≤ 1 then [] else '.' :: digits.drop 1
    let sign := if power < 0 then '-' else '+'
    digits.take 1 ++ places ++ 'e' :: sign :: Text.padded 10 2 power.natAbs
  else if point ≤ 0 then
    '0' :: '.' :: List.replicate point.natAbs '0' ++ digits
  else
    let whole := digits.take point.toNat
    let places := digits.drop point.toNat
    whole ++ List.replicate (point.toNat - digits.length) '0'
      ++ '.' :: if places.isEmpty then ['0'] else places

/-- The shortest text that reads back as a double. -/
def shortestText : Binary64 → Text
  | .notANumber => "nan"
  | .infinite negative => if negative then "-inf" else "inf"
  | .finite negative units =>
    let sign : Text := if negative then ['-'] else []
    if units = 0 then sign ++ ['0', '.', '0']
    else
      let (digits, power) := shortest units
      sign ++ placed (significant digits) (digitCount digits + power)

end ScriptDocs.Binary64
