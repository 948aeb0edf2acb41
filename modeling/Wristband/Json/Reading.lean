import Wristband.DataError

/-! Reading JSON text from left to right into values of a known shape. Whatever is wrong
first decides the error, so the text is never read further than to the first mistake. -/

namespace Wristband.Json

inductive ReadError where
  /-- The text is no JSON or has another shape. -/
  | malformed
  /-- A text in it is no key. -/
  | badKey (error : DataError)
deriving DecidableEq, Repr

/-- A step that takes characters from the front of the text. -/
abbrev Reading (α : Type) := StateT (List Char) (Except ReadError) α

def malformed {α : Type} : Reading α := throw .malformed

/-- The four characters that may stand between the parts of a text. -/
def isSpace (character : Char) : Bool :=
  character == ' ' || character == '\t' || character == '\n' || character == '\r'

def skipSpaces (text : List Char) : List Char := text.dropWhile isSpace

/-- The next character that is no space, which stays where it is. -/
def peek : Reading (Option Char) := do
  modify skipSpaces
  return (← get).head?

/-- Takes the given characters, without spaces between them. -/
def takeExactly (expected : List Char) : Reading Unit := do
  let text ← get
  if expected.isPrefixOf text then set (text.drop expected.length) else malformed

/-- Takes the given word after any spaces. -/
def takeWord (word : String) : Reading Unit := do
  modify skipSpaces
  takeExactly word.toList

/-- Takes one character after any spaces. -/
def takeMark (mark : Char) : Reading Unit := do
  modify skipSpaces
  takeExactly [mark]

/-- Nothing but spaces is left. -/
def finish : Reading Unit := do
  if (skipSpaces (← get)).isEmpty then return else malformed

/-- Reads a whole text. -/
def readAll {α : Type} (reading : Reading α) (text : String) : Except ReadError α :=
  ((do let value ← reading; finish; return value : Reading α).run text.toList).map Prod.fst

def readBool : Reading Bool := do
  match ← peek with
  | some 't' => do takeWord "true"; return true
  | some 'f' => do takeWord "false"; return false
  | _ => malformed

def readNull : Reading Unit := takeWord "null"

/-- A value that may be missing, written as null. -/
def readOptional {α : Type} (reading : Reading α) : Reading (Option α) := do
  match ← peek with
  | some 'n' => do readNull; return none
  | _ => do
    let value ← reading
    return some value

def digitsValue (digits : List Char) : Nat :=
  digits.foldl (fun value digit => value * 10 + (digit.toNat - 48)) 0

/-- What follows the digits would make them a part of another kind of number. -/
def continuesNumber (rest : List Char) : Bool :=
  match rest with
  | character :: _ => character == '.' || character == 'e' || character == 'E'
  | [] => false

/-- A plain number below a limit: no sign, no fraction, no exponent, no leading zero. -/
def readNatural (limit : Nat) : Reading Nat := do
  modify skipSpaces
  let text ← get
  let digits := text.takeWhile Char.isDigit
  let rest := text.dropWhile Char.isDigit
  if digits.isEmpty ∨ (digits.head? = some '0' ∧ digits.length ≠ 1) ∨ continuesNumber rest
      ∨ limit ≤ digitsValue digits then malformed
  else
    set rest
    return digitsValue digits

end Wristband.Json
