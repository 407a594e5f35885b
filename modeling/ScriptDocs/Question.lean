/-
# Questions

Free text from outside is cleaned before it is embedded or put into a prompt:
control characters and runs of blanks become single spaces, fenced code, some
tags and some phrases are taken out, each kind in one pass from the left, and the
rest is cut to a fixed length.
-/

import ScriptDocs.Text.Blank
import ScriptDocs.Text.Letter
import ScriptDocs.Text.Scan

namespace ScriptDocs.Question

/-- The most characters of a question. -/
def limit : Nat := 4000

/-- Whether a character is a control character of ASCII. -/
def isControl (c : Char) : Bool :=
  c.toNat < 0x20 || c.toNat == 0x7F

/-- A text whose control characters are spaces. -/
def withoutControls (s : Text) : Text :=
  s.map fun c => if isControl c then ' ' else c

/-- A text in which every run of blanks is one space; `within` says that the last
character was a blank. -/
def collapseFrom (within : Bool) : Text → Text
  | [] => []
  | c :: s =>
    if Text.isBlank c then (if within then collapseFrom true s else ' ' :: collapseFrom true s)
    else c :: collapseFrom false s

/-- A text in which every run of blanks is one space. -/
def collapse (s : Text) : Text :=
  collapseFrom false s

/-- A fenced block. -/
def fenced : Text.Pattern Text := Text.reading [] fun s => do
  let opened ← Text.afterFront? "```" s
  let (_, rest) ← Text.cut? "```" opened
  return rest

/-- The names of the tags that are taken out. -/
def tagNames : List Text := ["script", "style", "iframe"]

/-- An opening or closing tag of one of these names, up to its closing bracket. -/
def tag : Text.Pattern Text := Text.reading [] fun s => do
  let inner ← Text.afterFront? "<" s
  let named := match inner with | '/' :: rest => rest | _ => inner
  let rest ← tagNames.findSome? fun name => Text.afterFrontAnyCase? name named
  match rest.dropWhile (· ≠ '>') with
  | _ :: behind => some behind
  | [] => none

/-- One of some phrases, of which the first that fits is read, in any letter case. -/
def phrase (spellings : List Text) : Text.Pattern Text :=
  Text.reading [] fun s => spellings.findSome? fun spelling => Text.afterFrontAnyCase? spelling s

/-- The phrases that are taken out, in this order. -/
def phrases : List (List Text) :=
  [["ignore all instructions", "ignore previous instructions"],
   ["system prompt"],
   ["you are now ", "you are "],
   ["pretend to"],
   ["act as"]]

/-- A question as it is embedded and asked. -/
def clean (s : Text) : Text :=
  let plain := collapse (withoutControls (Text.trim s))
  let bare := Text.replaceMatches tag (Text.replaceMatches fenced plain)
  (phrases.foldl (fun s spellings => Text.replaceMatches (phrase spellings) s) bare).take limit

end ScriptDocs.Question
