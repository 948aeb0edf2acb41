import Wristband.Json.Text

/-! Skipping a value of any shape. The open brackets are kept on a stack of their own, so
values may nest to any depth. -/

namespace Wristband.Json

inductive Bracket where
  | list
  | record
deriving DecidableEq, Repr

/-- What may come next. -/
inductive Expecting where
  | value
  /-- The first item of a list or record, or its end. -/
  | first
  /-- A comma or the end of a list or record. -/
  | next
deriving DecidableEq, Repr

def skipDigits (text : List Char) : Except ReadError (List Char) :=
  match text with
  | digit :: rest =>
    if digit.isDigit then .ok (rest.dropWhile Char.isDigit) else .error .malformed
  | [] => .error .malformed

/-- The whole part of a number, which is zero or does not begin with zero. -/
def skipWhole (text : List Char) : Except ReadError (List Char) :=
  match text with
  | '0' :: rest =>
    if (rest.head?.map Char.isDigit).getD false then .error .malformed else .ok rest
  | text => skipDigits text

def skipFraction (text : List Char) : Except ReadError (List Char) :=
  match text with
  | '.' :: rest => skipDigits rest
  | text => .ok text

def skipExponent (text : List Char) : Except ReadError (List Char) :=
  match text with
  | mark :: rest =>
    if mark = 'e' ∨ mark = 'E' then
      match rest with
      | sign :: digits => if sign = '+' ∨ sign = '-' then skipDigits digits else skipDigits rest
      | [] => .error .malformed
    else .ok text
  | [] => .ok text

def skipNumber (text : List Char) : Except ReadError (List Char) := do
  let text ← skipWhole (match text with
    | '-' :: rest => rest
    | text => text)
  let text ← skipFraction text
  skipExponent text

/-- Skips a value that is no list and no record. -/
def skipScalar (text : List Char) : Except ReadError (List Char) :=
  match text with
  | 'n' :: 'u' :: 'l' :: 'l' :: rest => .ok rest
  | 't' :: 'r' :: 'u' :: 'e' :: rest => .ok rest
  | 'f' :: 'a' :: 'l' :: 's' :: 'e' :: rest => .ok rest
  | '\x22' :: rest => skipCharacters rest
  | text => skipNumber text

/-- Skips a name and the colon behind it. -/
def skipName (text : List Char) : Except ReadError (List Char) :=
  match text with
  | '\x22' :: rest => do
    match skipSpaces (← skipCharacters rest) with
    | ':' :: rest => return rest
    | _ => throw .malformed
  | _ => .error .malformed

/-- Skips to the end of the outermost value. Every second step takes a character. -/
def skipSteps : Nat → Expecting → List Bracket → List Char → Except ReadError (List Char)
  | 0, _, _, _ => .error .malformed
  | steps + 1, .value, stack, text =>
    match skipSpaces text with
    | '[' :: rest => skipSteps steps .first (.list :: stack) rest
    | '\x7b' :: rest => skipSteps steps .first (.record :: stack) rest
    | text =>
      match skipScalar text with
      | .ok rest => skipSteps steps .next stack rest
      | .error error => .error error
  | steps + 1, .first, stack, text =>
    match stack, skipSpaces text with
    | .list :: outer, ']' :: rest => skipSteps steps .next outer rest
    | .list :: _, text => skipSteps steps .value stack text
    | .record :: outer, '\x7d' :: rest => skipSteps steps .next outer rest
    | .record :: _, text =>
      match skipName text with
      | .ok rest => skipSteps steps .value stack rest
      | .error error => .error error
    | [], _ => .error .malformed
  | steps + 1, .next, stack, text =>
    match stack, skipSpaces text with
    | [], _ => .ok text
    | .list :: outer, ']' :: rest => skipSteps steps .next outer rest
    | .list :: _, ',' :: rest => skipSteps steps .value stack rest
    | .record :: outer, '\x7d' :: rest => skipSteps steps .next outer rest
    | .record :: _, ',' :: rest =>
      match skipName (skipSpaces rest) with
      | .ok rest => skipSteps steps .value stack rest
      | .error error => .error error
    | _, _ => .error .malformed

/-- Skips one value. -/
def skipValue : Reading Unit := do
  let text ← get
  set (← skipSteps (2 * text.length + 2) .value [] text)

end Wristband.Json
