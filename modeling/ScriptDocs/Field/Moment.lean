/-
# Points in time

The time of storing a passage may be given with it: as a date and a time of day with or
without a zone, as a date alone, or as a number of seconds since the start of 1970, where a
number of more than eleven digits or so counts milliseconds. Nothing is kept of it but
whether it is one.
-/

import ScriptDocs.Field.Fault
import ScriptDocs.Json.Basic

namespace ScriptDocs.Moment

/-- The number that exactly `count` digits in front of a text spell, and the rest. -/
def digits? (count : Nat) (s : Text) : Option (Nat × Text) :=
  let digits := s.take count
  if digits.length = count ∧ digits.all Char.isDigit then
    some (Text.digitsValue digits, s.drop count)
  else none

/-- Whether a year has a leap day. -/
def isLeap (year : Nat) : Bool :=
  year % 4 == 0 && (year % 100 != 0 || year % 400 == 0)

/-- The number of days of a month. -/
def daysOf (year month : Nat) : Nat :=
  if month = 2 then (if isLeap year then 29 else 28)
  else if month ∈ [4, 6, 9, 11] then 30 else 31

/-- The year of a date in front of a text, and the rest. -/
def date? (s : Text) : Option (Nat × Text) := do
  let (year, s) ← digits? 4 s
  let (month, s) ← digits? 2 (← Text.afterFront? "-" s)
  let (day, s) ← digits? 2 (← Text.afterFront? "-" s)
  if 1 ≤ month ∧ month ≤ 12 ∧ 1 ≤ day ∧ day ≤ daysOf year month then some (year, s) else none

/-- The rest of a text behind two digits for a number below a bound. -/
def below? (bound : Nat) (s : Text) : Option Text := do
  let (n, s) ← digits? 2 s
  if n < bound then some s else none

/-- The rest of a text behind the parts of a second, of which one digit is there at least. -/
def afterFraction? : Text → Option Text
  | mark :: s =>
    if mark = '.' ∨ mark = ',' then
      if s.head?.any Char.isDigit then some (s.dropWhile Char.isDigit) else none
    else some (mark :: s)
  | [] => some []

/-- The rest of a text behind a time of day, of which the seconds may be missing. -/
def afterTime? (s : Text) : Option Text := do
  let s ← below? 24 s
  let s ← below? 60 (← Text.afterFront? ":" s)
  match s with
  | ':' :: s => afterFraction? (← below? 60 s)
  | s => some s

/-- Whether a character is a sign in front of a zone. -/
def isZoneSign (c : Char) : Bool :=
  c == '+' || c == '-' || c.toNat == 0x2212

/-- Whether a text is a zone, or empty. -/
def isZone : Text → Bool
  | [] => true
  | [c] => c == 'Z' || c == 'z'
  | sign :: s =>
    let minutes (s : Text) : Text := match s with | ':' :: s => s | s => s
    isZoneSign sign && ((below? 24 s).bind fun s => below? 60 (minutes s)) == some []

/-- Whether a character may stand between a date and a time. -/
def isDivider (c : Char) : Bool :=
  c == 'T' || c == 't' || c == ' ' || c == '_'

/-- The year of a date that a text spells, with a time behind it or not. -/
def calendarYear? (s : Text) : Option Nat := do
  let (year, rest) ← date? s
  match rest with
  | [] => some year
  | divider :: time =>
    if isDivider divider && (afterTime? time).any isZone then some year else none

/-- The number of seconds that a text spells, rounded down; digits with a sign and a
fraction or without. -/
def seconds? (s : Text) : Option Int :=
  let negative := s.head? == some '-'
  let s := match s with | '-' :: s | '+' :: s => s | s => s
  let whole := s.takeWhile Char.isDigit
  let n := Text.digitsValue whole
  let places? : Option Text := match s.dropWhile Char.isDigit with
    | [] => some []
    | '.' :: places => if places.all Char.isDigit then some places else none
    | _ => none
  if whole.isEmpty || Nat.pow 2 63 ≤ n then none
  else
    places?.map fun places =>
      if negative then -(n : Int) - (if places.all (· == '0') then 0 else 1) else n

/-- The greatest number that counts seconds; a greater one counts milliseconds. -/
def secondLimit : Nat := 20000000000

/-- The seconds of a number of seconds or milliseconds. -/
def ofNumber (n : Int) : Int :=
  if n.natAbs ≤ secondLimit then n else n / 1000

/-- Whether the seconds lie in the years from 0 to 9999. -/
def isInRange (seconds : Int) : Bool :=
  -62167219200 ≤ seconds && seconds ≤ 253402300799

/-- Whether the seconds lie before the year 1. -/
def isYearZero (seconds : Int) : Bool :=
  seconds < -62135596800

/-- Whether a number names a moment of the year 0; the rule tells what it is else. -/
def ofSeconds (rule : FieldRule) (n : Int) : Except FieldRule Bool :=
  if isInRange (ofNumber n) then .ok (isYearZero (ofNumber n)) else .error rule

/-- Whether a text names a moment of the year 0. -/
def ofText (s : Text) : Except FieldRule Bool :=
  match calendarYear? s, seconds? s with
  | some year, _ => .ok (year == 0)
  | none, some n => ofSeconds .momentUnreadable n
  | none, none => .error .momentUnreadable

/-- Whether a value names a moment of the year 0, which no calendar has, or the rule by
which it names no moment at all. -/
def ofValue : Json → Except FieldRule Bool
  | .null => .ok false
  | .text s => ofText s
  | .integer n =>
    match Binary64.ofInt? n with
    | some _ => ofSeconds .momentOutOfRange n
    | none => .error .momentExpected
  | .decimal (.finite negative units) =>
    ofSeconds .momentOutOfRange (Binary64.signedUnits negative units / Binary64.unitsOfOne)
  | .decimal _ => .error .momentOutOfRange
  | .boolean _ | .list _ | .object _ => .error .momentExpected

end ScriptDocs.Moment
