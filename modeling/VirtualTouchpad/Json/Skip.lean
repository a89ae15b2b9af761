/-
# Skipped values

The value of an unknown member is read over without being kept: it has to be
well-formed, but it may nest to any depth, its numbers may have any size, and
its texts need be no characters.

The brackets that are open are kept in a list, so skipping needs no nesting of
its own.  Each step takes at least one byte, which is what bounds their number.
-/
import VirtualTouchpad.Json.Numeral

namespace VirtualTouchpad.Json

/-- An open bracket. -/
inductive Bracket where
  | list
  | object
  deriving DecidableEq, Repr

/-- What is open inside a bracket. -/
def Bracket.part : Bracket → Part
  | .list => .list
  | .object => .object

/-- The byte that closes a bracket. -/
def Bracket.closing : Bracket → UInt8
  | .list => ascii ']'
  | .object => ascii '}'

/-- The fault of something else than a comma or the closing bracket after a value. -/
def Bracket.commaFault : Bracket → Fault
  | .list => .expectedListComma
  | .object => .expectedObjectComma

/-- The bytes after the colon that follows a key. -/
def dropColon (input : Bytes) : Except Fault Bytes :=
  match dropBlanks input with
  | [] => .error (.ended .object)
  | b :: rest => if b = ascii ':' then .ok rest else .error .expectedColon

/-- The bytes after a key and its colon. -/
def skipKey (input : Bytes) : Except Fault Bytes :=
  match dropBlanks input with
  | [] => .error (.ended .object)
  | b :: rest =>
    if b = ascii '"' then do dropColon (← skipTextFrom .plain rest) else .error .keyNotText

/-- What a value starts with: a bracket, or a value without parts and the bytes after it. -/
inductive Opening where
  | bracket (bracket : Bracket) (rest : Bytes)
  | scalar (rest : Bytes)

/-- The start of a skipped value. -/
def skipOpening (input : Bytes) : Except Fault Opening :=
  match dropBlanks input with
  | [] => .error (.ended .value)
  | b :: rest =>
    if b = ascii 'n' then (finishWord (bytesOf "ull") rest).map .scalar
    else if b = ascii 't' then (finishWord (bytesOf "rue") rest).map .scalar
    else if b = ascii 'f' then (finishWord (bytesOf "alse") rest).map .scalar
    else if b = ascii '-' ∨ isDigitByte b then
      (scanNumeral .invalidNumber (b :: rest)).map fun (_, rest) => .scalar rest
    else if b = ascii '"' then (skipTextFrom .plain rest).map .scalar
    else if b = ascii '[' then .ok (.bracket .list rest)
    else if b = ascii '{' then .ok (.bracket .object rest)
    else .error .expectedValue

/-- What comes next while skipping: a value, or what may follow one. -/
inductive Turn where
  | value
  | rest

/-- Skips in at most so many steps, inside the given open brackets. -/
def skipFrom : Nat → Turn → List Bracket → Bytes → Except Fault Bytes
  | 0, _, _, _ => .error (.ended .value)
  | _ + 1, .rest, [], input => .ok input
  | steps + 1, .rest, bracket :: outer, input =>
    match dropBlanks input with
    | [] => .error (.ended bracket.part)
    | b :: rest =>
      if b = bracket.closing then skipFrom steps .rest outer rest
      else if b = ascii ',' then
        match bracket with
        | .list => skipFrom steps .value (.list :: outer) rest
        | .object => do skipFrom steps .value (.object :: outer) (← skipKey rest)
      else .error bracket.commaFault
  | steps + 1, .value, brackets, input => do
    match ← skipOpening input with
    | .scalar rest => skipFrom steps .rest brackets rest
    | .bracket bracket inside =>
      match dropBlanks inside with
      | [] => .error (.ended bracket.part)
      | b :: rest =>
        if b = bracket.closing then skipFrom steps .rest brackets rest
        else
          match bracket with
          | .list => skipFrom steps .value (.list :: brackets) (b :: rest)
          | .object => do skipFrom steps .value (.object :: brackets) (← skipKey (b :: rest))

/-- The bytes after a value that nobody asked for. -/
def skipValue (input : Bytes) : Except Fault Bytes :=
  skipFrom (input.length + 1) .value [] input

end VirtualTouchpad.Json
