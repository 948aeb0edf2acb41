import Wristband.Json.Skip

/-! Lists and records in JSON. A record is written with the names of its fields, in any
order, or as a list of their values. Unknown names are skipped and repeated ones refused.
Whether a field may be missing is up to the reader of the record. -/

namespace Wristband.Json

variable {α σ : Type}

/-- Reads the items of a list behind its opening bracket. -/
def readItems (item : Reading α) : Nat → (isFirst : Bool) → Reading (List α)
  | 0, _ => malformed
  | limit + 1, isFirst => do
    if (← peek) = some ']' then
      takeMark ']'
      return []
    if !isFirst then takeMark ','
    let value ← item
    let rest ← readItems item limit false
    return value :: rest

def readList (item : Reading α) : Reading (List α) := do
  takeMark '['
  readItems item ((← get).length + 1) true

/-- Reads the values of a record that is written as a list. `fields` are the numbers of
the fields that have not been read. -/
def readPositional (readField : Nat → σ → Reading σ) :
    (fields : List Nat) → (isFirst : Bool) → σ → Reading σ
  | [], _, state => do
    takeMark ']'
    return state
  | field :: fields, isFirst, state => do
    if (← peek) = some ']' then
      takeMark ']'
      return state
    if !isFirst then takeMark ','
    let state ← readField field state
    readPositional readField fields false state

/-- Reads the fields of a record behind its opening brace. `seen` are the numbers of the
fields that have been read. -/
def readNamed (names : List String) (readField : Nat → σ → Reading σ) :
    Nat → (seen : List Nat) → (isFirst : Bool) → σ → Reading σ
  | 0, _, _, _ => malformed
  | limit + 1, seen, isFirst, state => do
    if (← peek) = some '\x7d' then
      takeMark '\x7d'
      return state
    if !isFirst then takeMark ','
    let name ← readText
    match names.idxOf? name with
    | none =>
      takeMark ':'
      skipValue
      readNamed names readField limit seen false state
    | some field =>
      if field ∈ seen then malformed
      else
        takeMark ':'
        let state ← readField field state
        readNamed names readField limit (field :: seen) false state

/-- Reads a record whose fields have the given names. A field is read by its number and
adds its value to what was read before. -/
def readRecord (names : List String) (readField : Nat → σ → Reading σ) (start : σ) :
    Reading σ := do
  match ← peek with
  | some '[' =>
    takeMark '['
    readPositional readField (List.range names.length) true start
  | some '\x7b' =>
    takeMark '\x7b'
    readNamed names readField ((← get).length + 1) [] true start
  | _ => malformed

/-- The value of a field that must not be missing. -/
def require (field : Option α) : Reading α :=
  match field with
  | some value => return value
  | none => malformed

/-- Reads one of several cases: a name that stands for itself, or a record with the name as
its only field. -/
def readCase (plain : String → Reading α) (withValue : String → Reading α) : Reading α := do
  match ← peek with
  | some '\x22' => plain (← readText)
  | some '\x7b' =>
    takeMark '\x7b'
    let name ← readText
    takeMark ':'
    let value ← withValue name
    takeMark '\x7d'
    return value
  | _ => malformed

end Wristband.Json
