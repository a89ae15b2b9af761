/-
# Values of any shape

A JSON text read without knowing what to expect.  Lists and objects nest to at
most 127 levels; of two members with one key the later counts.
-/
import VirtualTouchpad.Json.Typed

namespace VirtualTouchpad.Json

/-- A JSON value; the members of an object stand in the order of the text. -/
inductive Value where
  | null
  | boolean (value : Bool)
  | number (value : Number)
  | text (value : String)
  | list (items : List Value)
  | object (members : List (String × Value))

namespace Value

/-- Reads the elements of a list, last first, in at most so many steps. -/
def readItems (read : Reader Value) : Nat → Bool → List Value → Reader (List Value)
  | 0, _, _ => fun _ => .error (.ended .list)
  | steps + 1, first, items => fun input => do
    match ← nextElement first input with
    | .closed rest => .ok (items.reverse, rest)
    | .entry rest => do
      let (item, rest) ← read rest
      readItems read steps false (item :: items) rest

/-- Reads the members of an object, last first, in at most so many steps. -/
def readPairs (read : Reader Value) :
    Nat → Bool → List (String × Value) → Reader (List (String × Value))
  | 0, _, _ => fun _ => .error (.ended .object)
  | steps + 1, first, pairs => fun input => do
    match ← nextKey first input with
    | .closed rest => .ok (pairs.reverse, rest)
    | .entry rest => do
      let (key, rest) ← textLiteral rest
      let (value, rest) ← read (← dropColon rest)
      readPairs read steps false ((key, value) :: pairs) rest

/-- Reads a value that may nest fewer than `depth` levels. -/
def readNested : Nat → Reader Value
  | 0 => fun _ => .error .tooDeep
  | depth + 1 => fun input =>
    match dropBlanks input with
    | [] => .error (.ended .value)
    | b :: rest =>
      if b = ascii 'n' then (finishWord (bytesOf "ull") rest).map fun rest => (.null, rest)
      else if b = ascii 't' then
        (finishWord (bytesOf "rue") rest).map fun rest => (.boolean true, rest)
      else if b = ascii 'f' then
        (finishWord (bytesOf "alse") rest).map fun rest => (.boolean false, rest)
      else if b = ascii '-' ∨ isDigitByte b then
        (readNumber (b :: rest)).map fun (n, rest) => (.number n, rest)
      else if b = ascii '"' then (textLiteral rest).map fun (t, rest) => (.text t, rest)
      else if b = ascii '[' then
        if depth = 0 then .error .tooDeep
        else do
          let (items, rest) ← readItems (readNested depth) (rest.length + 1) true [] rest
          .ok (.list items, rest)
      else if b = ascii '{' then
        if depth = 0 then .error .tooDeep
        else do
          let (pairs, rest) ← readPairs (readNested depth) (rest.length + 1) true [] rest
          .ok (.object pairs, rest)
      else .error .expectedValue

/-- Reads a whole text as a value. -/
def parse (input : Bytes) : Except Fault Value := readAll (readNested 128) input

/-- The value of the last member with a key. -/
def member? (key : String) : Value → Option Value
  | .object members => (members.reverse.find? (·.1 == key)).map (·.2)
  | _ => none

/-- The text that a value is. -/
def text? : Value → Option String
  | .text value => some value
  | _ => none

end Value

end VirtualTouchpad.Json
