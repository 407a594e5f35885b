/-
# Reading JSON

The reader accepts JSON and three words more, `NaN`, `Infinity` and `-Infinity`.
White space is the space, the tab and the two line ends; of several fields with one
name the last counts. A refusal names the position at which reading stopped. An
integer may have at most 4300 digits. How deep lists and objects may be nested is a
parameter: whoever runs the reader leaves it so much room, and no more is known of it.
-/

import ScriptDocs.Json.Basic
import ScriptDocs.Text.Utf8

namespace ScriptDocs

/-- Why a text is not read as JSON. -/
inductive JsonFault
  | malformed (position : Nat)
  | integerTooLong
  | nestedTooDeep
  | notText
  deriving DecidableEq, Repr

namespace Json

/-- The most digits an integer may have. -/
def digitLimit : Nat := 4300

/-- How deep lists and objects may be nested where the reader runs. -/
class DepthLimit where
  depth : Nat

/-- The depth where nothing else is said; it is what is left to the service's own calls. -/
instance defaultDepthLimit : DepthLimit where
  depth := 960

/-- How deep lists and objects may be nested. -/
def depthLimit [limit : DepthLimit] : Nat :=
  limit.depth

/-- Whether a character is white space between the parts of a value. -/
def isGap (c : Char) : Bool :=
  c == ' ' || c == '\n' || c == '\r' || c == '\t'

/-- The position and the text behind the white space in front. -/
def skipGap (position : Nat) (s : Text) : Nat × Text :=
  (position + (s.takeWhile isGap).length, s.dropWhile isGap)

/-- The number that four hexadecimal digits spell. -/
def hexQuad? (a b c d : Char) : Option Nat := do
  let digit := Text.hexValue?
  return (((← digit a) * 16 + (← digit b)) * 16 + (← digit c)) * 16 + (← digit d)

/-- What stands for a character behind a backslash, the escape with digits apart. -/
def plainEscape? : Char → Option Char
  | '"' => some '"'
  | '\\' => some '\\'
  | '/' => some '/'
  | 'b' => some '\x08'
  | 'f' => some '\x0c'
  | 'n' => some '\n'
  | 'r' => some '\r'
  | 't' => some '\t'
  | _ => none

/-- The character that stands behind a backslash and the number of characters it is
spelled with. Two escapes of a surrogate pair spell one character. -/
def escapeAt (opening position : Nat) : Text → Except JsonFault (Char × Nat)
  | [] => .error (.malformed opening)
  | 'u' :: a :: b :: c :: d :: e :: s =>
    match hexQuad? a b c d with
    | none => .error (.malformed (position + 1))
    | some high =>
      let alone : Except JsonFault (Char × Nat) := .ok (Text.charOf high, 5)
      if 0xD800 ≤ high && high ≤ 0xDBFF then
        match e :: s with
        | '\\' :: 'u' :: a :: b :: c :: d :: _ :: _ =>
          match hexQuad? a b c d with
          | none => .error (.malformed (position + 7))
          | some low =>
            if 0xDC00 ≤ low && low ≤ 0xDFFF then
              .ok (Char.ofNat (0x10000 + (high - 0xD800) * 0x400 + (low - 0xDC00)), 11)
            else alone
        | _ => alone
      else alone
  | 'u' :: _ => .error (.malformed (position + 1))
  | c :: _ =>
    match plainEscape? c with
    | some plain => .ok (plain, 1)
    | none => .error (.malformed position)

/-- A text in quotes, read behind its opening quote, which stands at `opening`, and
behind `skip` more characters of the last escape. The text read so far is held in
reverse. -/
def readQuoted (opening : Nat) : Nat → Nat → Text → Text → Except JsonFault (Text × Nat × Text)
  | _, _, _, [] => .error (.malformed opening)
  | skip + 1, position, sofar, _ :: s => readQuoted opening skip (position + 1) sofar s
  | 0, position, sofar, c :: s =>
    if c = '"' then .ok (sofar.reverse, position + 1, s)
    else if c = '\\' then
      match escapeAt opening position s with
      | .error fault => .error fault
      | .ok (plain, length) => readQuoted opening length (position + 1) (plain :: sofar) s
    else if c.toNat < 0x20 then .error (.malformed position)
    else readQuoted opening 0 (position + 1) (c :: sofar) s

/-- The digits in front of a text, and the rest. -/
def digitRun (s : Text) : Text × Text :=
  (s.takeWhile Char.isDigit, s.dropWhile Char.isDigit)

/-- The digits behind a point and the rest; a point without digits is no part of a number. -/
def readPlaces (s : Text) : Text × Text :=
  match s with
  | '.' :: s' =>
    match digitRun s' with
    | ([], _) => ([], s)
    | run => run
  | _ => ([], s)

/-- The power of ten behind a number and the rest; a mark without digits is no part of it. -/
def readPower (s : Text) : Option Int × Text :=
  let signed (negative : Bool) (s' : Text) : Option Int × Text :=
    match digitRun s' with
    | ([], _) => (none, s)
    | (digits, rest) =>
      let n : Int := Text.digitsValue digits
      (some (if negative then -n else n), rest)
  match s with
  | mark :: s' =>
    if mark = 'e' ∨ mark = 'E' then
      match s' with
      | '-' :: s'' => signed true s''
      | '+' :: s'' => signed false s''
      | _ => signed false s'
    else (none, s)
  | [] => (none, s)

/-- A number behind its sign, or nothing when no digit is in front. -/
def readMagnitude (negative : Bool) (s : Text) : Option (Except JsonFault Json × Text) :=
  let whole? : Option (Text × Text) :=
    match s with
    | '0' :: rest => some (['0'], rest)
    | c :: _ => if c.isDigit then some (digitRun s) else none
    | [] => none
  whole?.map fun (whole, rest) =>
    match readPlaces rest with
    | (places, rest) =>
      match readPower rest with
      | (power, rest) =>
        if places.isEmpty && power.isNone then
          let n : Int := Text.digitsValue whole
          if digitLimit < whole.length then (.error .integerTooLong, rest)
          else (.ok (.integer (if negative then -n else n)), rest)
        else
          let exponent := power.getD 0 - places.length
          let value := Binary64.ofDecimal negative (Text.digitsValue (whole ++ places)) exponent
          (.ok (.decimal value), rest)

/-- Whether a character may stand in a number. -/
def isNumeralChar (c : Char) : Bool :=
  c.isDigit || c == '-' || c == '+' || c == '.' || c == 'e' || c == 'E'

/-- How many characters of a number in front of `s` have been read when `rest` is left. Only
the characters up to the first that stands in no number are counted on either side. -/
def numeralLength (s rest : Text) : Nat :=
  (s.takeWhile isNumeralChar).length - (rest.takeWhile isNumeralChar).length

/-- A word or a number. -/
def readScalar (position : Nat) (s : Text) : Except JsonFault (Json × Nat × Text) :=
  let word? (word : Text) (value : Json) : Option (Json × Nat × Text) :=
    (Text.afterFront? word s).map fun rest => (value, position + word.length, rest)
  let words := [word? "null" .null, word? "true" (.boolean true), word? "false" (.boolean false),
    word? "NaN" (.decimal .notANumber), word? "Infinity" (.decimal (.infinite false)),
    word? "-Infinity" (.decimal (.infinite true))]
  match words.findSome? id with
  | some found => .ok found
  | none =>
    let number? :=
      match s with
      | '-' :: s' => readMagnitude true s'
      | _ => readMagnitude false s
    match number? with
    | none => .error (.malformed position)
    | some (.error fault, _) => .error fault
    | some (.ok value, rest) => .ok (value, position + numeralLength s rest, rest)

mutual

/-- A value. Every value and every member uses one unit of `fuel`, and each reads a
character at least, so the length of the text is enough of it. -/
def readValue : Nat → Nat → Nat → Text → Except JsonFault (Json × Nat × Text)
  | 0, _, position, _ => .error (.malformed position)
  | fuel + 1, depth, position, s =>
    match s with
    | '"' :: s' =>
      (readQuoted position 0 (position + 1) [] s').map fun (value, next) => (.text value, next)
    | '[' :: s' =>
      match depth, skipGap (position + 1) s' with
      | 0, _ => .error .nestedTooDeep
      | _ + 1, (next, ']' :: rest) => .ok (.list [], next + 1, rest)
      | depth + 1, (next, rest) => readItems fuel depth next rest []
    | '{' :: s' =>
      match depth, skipGap (position + 1) s' with
      | 0, _ => .error .nestedTooDeep
      | _ + 1, (next, '}' :: rest) => .ok (.object [], next + 1, rest)
      | depth + 1, (next, rest) => readFields fuel depth next rest []
    | _ => readScalar position s

/-- The items of a list from the next one on; those before it are held in reverse. -/
def readItems : Nat → Nat → Nat → Text → List Json → Except JsonFault (Json × Nat × Text)
  | 0, _, position, _, _ => .error (.malformed position)
  | fuel + 1, depth, position, s, items =>
    match readValue fuel depth position s with
    | .error fault => .error fault
    | .ok (item, next, rest) =>
      match skipGap next rest with
      | (next, ']' :: rest) => .ok (.list (item :: items).reverse, next + 1, rest)
      | (next, ',' :: rest) =>
        match skipGap (next + 1) rest with
        | (next, rest) => readItems fuel depth next rest (item :: items)
      | (next, _) => .error (.malformed next)

/-- The fields of an object from the next one on. -/
def readFields : Nat → Nat → Nat → Text → List (Text × Json) →
    Except JsonFault (Json × Nat × Text)
  | 0, _, position, _, _ => .error (.malformed position)
  | fuel + 1, depth, position, s, fields =>
    match s with
    | '"' :: s' =>
      match readQuoted position 0 (position + 1) [] s' with
      | .error fault => .error fault
      | .ok (name, next, rest) =>
        match skipGap next rest with
        | (next, ':' :: rest) =>
          match skipGap (next + 1) rest with
          | (next, rest) =>
            match readValue fuel depth next rest with
            | .error fault => .error fault
            | .ok (value, next, rest) =>
              let fields := withField name value fields
              match skipGap next rest with
              | (next, '}' :: rest) => .ok (.object fields, next + 1, rest)
              | (next, ',' :: rest) =>
                match skipGap (next + 1) rest with
                | (next, rest) => readFields fuel depth next rest fields
              | (next, _) => .error (.malformed next)
        | (next, _) => .error (.malformed next)
    | _ => .error (.malformed position)

end

/-- The value that a text spells. -/
def read [DepthLimit] (s : Text) : Except JsonFault Json :=
  match s with
  | c :: _ =>
    if c.toNat = 0xFEFF then .error (.malformed 0)
    else
      let (start, s') := skipGap 0 s
      match readValue (2 * s.length + 2) depthLimit start s' with
      | .error fault => .error fault
      | .ok (value, next, rest) =>
        match skipGap next rest with
        | (_, []) => .ok value
        | (next, _) => .error (.malformed next)
  | [] => .error (.malformed 0)

/-- The value that bytes spell, in the encoding that they announce. -/
def readBytes [DepthLimit] (bytes : Bytes) : Except JsonFault Json :=
  match bytes.announcedText? with
  | none => .error .notText
  | some s => read s

end Json

end ScriptDocs
