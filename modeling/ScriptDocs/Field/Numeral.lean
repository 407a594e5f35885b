/-
# Lenient numerals

Numbers in environment variables, query parameters and passages may be written
with blanks around them, with a sign and with low lines between digits; an integer
may have a fraction of zeros. Words for infinities and for no number are read as
doubles in any letter case.
-/

import ScriptDocs.Binary64.Decimal
import ScriptDocs.Field.Fault
import ScriptDocs.Text.Blank
import ScriptDocs.Text.Letter

namespace ScriptDocs.Numeral

/-- A text without the margins around it. -/
def bare (s : Text) : Text :=
  Text.dropEnds Text.isMargin s

/-- Whether a text is made of digits, and of one at least. -/
def isDigits (s : Text) : Bool :=
  !s.isEmpty && s.all Char.isDigit

/-- A numeral from its first digit other than zero on, or from a minus sign that stands
there. Low lines between the zeros are passed over, and one zero is kept before a point
and where nothing else follows. `last` is the character before the text. -/
def afterZeros? (last : Char) : Text → Option Text
  | [] => some [last]
  | c :: s =>
    if c = '0' ∨ c = '_' then afterZeros? c s
    else if c.isDigit ∨ c = '-' then some (c :: s)
    else if c = '.' then some (last :: c :: s)
    else none

/-- A numeral without the zeros in front. -/
def withoutLeadingZeros? : Text → Option Text
  | '0' :: s => afterZeros? '0' s
  | c :: s => if c.isDigit ∨ c = '-' then some (c :: s) else none
  | [] => none

/-- The part of a numeral before its fraction, where that is a point and zeros, of
which there is one at least. -/
def withoutZeroFraction (s : Text) : Text :=
  match s.dropWhile (· ≠ '.') with
  | _ :: '0' :: zeros => if zeros.all (· == '0') then s.takeWhile (· ≠ '.') else s
  | _ => s

/-- A numeral without its low lines, where each of them stands alone and inside. -/
def withoutLowLines? (s : Text) : Option Text :=
  let groups := Text.pieces '_' s
  if groups.all (!·.isEmpty) then some groups.flatten else none

/-- The plain form of a lenient numeral: digits, with a minus sign where it is negative. -/
def plainForm? (s : Text) : Option Text :=
  let body? (s : Text) : Option Text := (withoutLeadingZeros? s).map withoutZeroFraction
  let signed? : Option Text :=
    match bare s with
    | '+' :: '-' :: _ => none
    | '+' :: s => body? s
    | '-' :: s => (body? s).map ('-' :: ·)
    | s => body? s
  signed?.bind withoutLowLines?

/-- The most characters of an integer in plain form. -/
def lengthLimit : Nat := 4300

/-- The integer in plain form: a minus sign where it is negative, and digits, of which the
first is a zero only where it is the only one. -/
def plainInteger? (s : Text) : Option Int :=
  let magnitude? (s : Text) : Option Nat :=
    if isDigits s ∧ (s.head? ≠ some '0' ∨ s.length = 1) then some (Text.digitsValue s) else none
  if lengthLimit < s.length then none
  else
    match s with
    | '-' :: s => (magnitude? s).map fun n => -(n : Int)
    | s => (magnitude? s).map Int.ofNat

/-- The digits in front of a text with a minus sign before them, unless the first of them
is a zero. -/
def frontNumeral (s : Text) : Text :=
  let digits (s : Text) : Text :=
    if s.head? = some '0' then [] else s.takeWhile Char.isDigit
  match s with
  | '-' :: s => '-' :: digits s
  | s => digits s

/-- The integer that a numeral spells. A text that starts with too many digits is told
apart from one that is unreadable for another cause. -/
def integer (s : Text) : Except FieldRule Int :=
  if lengthLimit < (frontNumeral s).length then .error .integerTooLong
  else
    match (plainForm? s).bind plainInteger? with
    | some n => .ok n
    | none => .error .integerUnreadable

/-- The power of ten that stands behind a decimal numeral; nothing stands for zero. -/
def power? : Text → Option Int
  | [] => some 0
  | mark :: s =>
    if mark = 'e' ∨ mark = 'E' then
      match s with
      | '-' :: digits => if isDigits digits then some (-(Text.digitsValue digits : Int)) else none
      | '+' :: digits => if isDigits digits then some (Text.digitsValue digits) else none
      | digits => if isDigits digits then some (Text.digitsValue digits) else none
    else none

/-- The double that a decimal numeral without a sign spells. -/
def magnitude? (negative : Bool) (s : Text) : Option Binary64 :=
  let whole := s.takeWhile Char.isDigit
  let rest := s.dropWhile Char.isDigit
  let (places, rest) :=
    match rest with
    | '.' :: behind => (behind.takeWhile Char.isDigit, behind.dropWhile Char.isDigit)
    | _ => ([], rest)
  if (whole ++ places).isEmpty then none
  else
    (power? rest).map fun power =>
      Binary64.ofDecimal negative (Text.digitsValue (whole ++ places)) (power - places.length)

/-- The double that a word or a decimal numeral spells. -/
def plainDouble? (s : Text) : Option Binary64 :=
  let unsigned (negative : Bool) (s : Text) : Option Binary64 :=
    let small := Text.lower s
    if small = "inf".toList ∨ small = "infinity".toList then some (.infinite negative)
    else if small = "nan".toList then some .notANumber
    else magnitude? negative s
  match s with
  | '+' :: s => unsigned false s
  | '-' :: s => unsigned true s
  | _ => unsigned false s

/-- The double that a numeral spells. -/
def double? (s : Text) : Option Binary64 :=
  plainDouble? (bare s) <|> (withoutLowLines? s).bind plainDouble?

end ScriptDocs.Numeral
