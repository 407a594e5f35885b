/-
# Double precision numbers

A finite double is a sign and a whole number of units, where one unit is the
smallest positive double, 2 to the power -1074. Every double has exactly one such
form, so equality of the type is equality of bits, and every operation is an
exact computation on natural numbers followed by one rounding to 53 significant
bits, where a tie goes to the even neighbour. Nothing here depends on the
floating point unit of the machine.
-/

namespace ScriptDocs

/-- The whole number nearest to a quotient; of two equally near ones, the even one. -/
def nearestEven (numerator denominator : Nat) : Nat :=
  let quotient := numerator / denominator
  let remainder := numerator % denominator
  if 2 * remainder < denominator then quotient
  else if denominator < 2 * remainder then quotient + 1
  else quotient + quotient % 2

/-- A double: no number, an infinity, or a number of units of 2 to the power -1074. -/
inductive Binary64
  | notANumber
  | infinite (negative : Bool)
  | finite (negative : Bool) (units : Nat)
  deriving DecidableEq, Repr

namespace Binary64

/-- One, in units. -/
def unitsOfOne : Nat := Nat.pow 2 1074

/-- The least number of units that no finite double reaches. -/
def unitLimit : Nat := Nat.pow 2 2098

/-- The units nearest to a quotient that 53 significant bits can hold. -/
def roundUnits (numerator denominator : Nat) : Nat :=
  let excess := ((numerator / denominator).log2 + 1) - 53
  nearestEven numerator (denominator * Nat.pow 2 excess) * Nat.pow 2 excess

/-- The double nearest to a quotient of units. -/
def ofUnits (negative : Bool) (numerator denominator : Nat) : Binary64 :=
  let units := roundUnits numerator denominator
  if units < unitLimit then .finite negative units else .infinite negative

/-- The double nearest to a quotient of integers; the divisor is positive. -/
def ofRatio (numerator : Int) (denominator : Nat) : Binary64 :=
  ofUnits (decide (numerator < 0)) (numerator.natAbs * unitsOfOne) denominator

/-- The double nearest to an integer, infinite beyond the range of doubles. -/
def ofInt (n : Int) : Binary64 :=
  ofRatio n 1

/-- Whether a double is a finite number. -/
def isFinite : Binary64 → Bool
  | .finite _ _ => true
  | _ => false

/-- The double nearest to an integer, or nothing beyond the range of doubles. -/
def ofInt? (n : Int) : Option Binary64 :=
  let x := ofInt n
  if x.isFinite then some x else none

/-- Zero. -/
def zero : Binary64 := .finite false 0

/-- One. -/
def one : Binary64 := .finite false unitsOfOne

/-- A double with the other sign. -/
def neg : Binary64 → Binary64
  | .notANumber => .notANumber
  | .infinite negative => .infinite (!negative)
  | .finite negative units => .finite (!negative) units

/-- The signed number of units of a finite double. -/
def signedUnits (negative : Bool) (units : Nat) : Int :=
  if negative then -(units : Int) else units

/-- The place of a double on the line of units; an infinity lies beyond every
finite double, and what is no number has no place. -/
def place : Binary64 → Option Int
  | .notANumber => none
  | .infinite negative => some (signedUnits negative unitLimit)
  | .finite negative units => some (signedUnits negative units)

/-- Whether one double is at most another; false when either is no number. -/
def atMost (a b : Binary64) : Bool :=
  match a.place, b.place with
  | some m, some n => decide (m ≤ n)
  | _, _ => false

/-- Whether one double is below another; false when either is no number. -/
def below (a b : Binary64) : Bool :=
  match a.place, b.place with
  | some m, some n => decide (m < n)
  | _, _ => false

/-- Whether a double is zero of either sign. -/
def isZero (a : Binary64) : Bool :=
  a.place == some 0

/-- The sum of two doubles. -/
def add : Binary64 → Binary64 → Binary64
  | .notANumber, _ | _, .notANumber => .notANumber
  | .infinite s, .infinite t => if s = t then .infinite s else .notANumber
  | .infinite s, .finite _ _ | .finite _ _, .infinite s => .infinite s
  | .finite s m, .finite t n =>
    let sum := signedUnits s m + signedUnits t n
    if sum = 0 then .finite (s && t) 0 else ofUnits (decide (sum < 0)) sum.natAbs 1

/-- The product of two doubles. -/
def mul : Binary64 → Binary64 → Binary64
  | .notANumber, _ | _, .notANumber => .notANumber
  | .infinite s, .infinite t => .infinite (s != t)
  | .infinite s, .finite t n | .finite t n, .infinite s =>
    if n = 0 then .notANumber else .infinite (s != t)
  | .finite s m, .finite t n => ofUnits (s != t) (m * n) unitsOfOne

/-- The quotient of two doubles. -/
def div : Binary64 → Binary64 → Binary64
  | .notANumber, _ | _, .notANumber => .notANumber
  | .infinite _, .infinite _ => .notANumber
  | .infinite s, .finite t _ => .infinite (s != t)
  | .finite s _, .infinite t => .finite (s != t) 0
  | .finite s m, .finite t n =>
    if n = 0 then (if m = 0 then .notANumber else .infinite (s != t))
    else ofUnits (s != t) (m * unitsOfOne) n

/-- The greatest whole number whose square is at most `n`, found bit by bit from
the given number of bits down. -/
def rootBits (n : Nat) : Nat → Nat → Nat
  | 0, root => root
  | bits + 1, root =>
    let candidate := root + Nat.pow 2 bits
    if candidate * candidate ≤ n then rootBits n bits candidate else rootBits n bits root

/-- The square root of a double. The root of the leading 120 bits or so has more
than 53 bits, and one further bit says whether anything was left over. -/
def sqrt : Binary64 → Binary64
  | .notANumber => .notANumber
  | .infinite negative => if negative then .notANumber else .infinite false
  | .finite negative units =>
    if units = 0 then .finite negative 0
    else if negative then .notANumber
    else
      let square := units * unitsOfOne
      let shift := (square.log2 - 120) / 2
      let lead := square / Nat.pow 4 shift
      let root := rootBits lead (lead.log2 / 2 + 1) 0
      let leftOver := if root * root = lead ∧ square % Nat.pow 4 shift = 0 then 0 else 1
      ofUnits false ((2 * root + leftOver) * Nat.pow 2 shift) 2

/-- A double moved into the range between `low` and `high`. -/
def clip (x low high : Binary64) : Binary64 :=
  if below x low then low else if below high x then high else x

/-- The 64 bits of a double, as a number. -/
def toBits : Binary64 → Nat
  | .notANumber => 0x7FF8000000000000
  | .infinite negative => (if negative then Nat.pow 2 63 else 0) + 0x7FF0000000000000
  | .finite negative units =>
    let exponent := units.log2 - 52
    (if negative then Nat.pow 2 63 else 0) +
      if units < Nat.pow 2 52 then units
      else (exponent + 1) * Nat.pow 2 52 + (units / Nat.pow 2 exponent - Nat.pow 2 52)

end Binary64

end ScriptDocs
