/-
# The words of a JSON text

Readers take bytes and give what they read together with the bytes that follow
it.  This module reads what has no parts: blanks, the words `null`, `true` and
`false`, and the texts between quotation marks.

A text is read by a machine that takes one byte at a time; `TextState` says
where it stands.  A text in a skipped value is held to the same rules, except
that its escapes need not make up characters.
-/
import VirtualTouchpad.Json.Fault
import VirtualTouchpad.Text.Utf8

namespace VirtualTouchpad.Json

/-- Bytes still to be read. -/
abbrev Bytes := List UInt8

/-- A reader of values from the front of the bytes. -/
abbrev Reader (α : Type) := Bytes → Except Fault (α × Bytes)

/-- The byte of an ASCII character. -/
def ascii (c : Char) : UInt8 := c.toUInt8

/-! ## Blanks and words -/

/-- Space, tab, line feed and carriage return. -/
def isBlankByte (b : UInt8) : Bool := b == 0x20 || b == 0x09 || b == 0x0A || b == 0x0D

/-- The bytes from the first that is not blank. -/
def dropBlanks (input : Bytes) : Bytes := input.dropWhile isBlankByte

/-- The bytes after the rest of a word. -/
def finishWord : Bytes → Bytes → Except Fault Bytes
  | [], input => .ok input
  | _ :: _, [] => .error (.ended .value)
  | w :: word, b :: input => if b = w then finishWord word input else .error .expectedWord

/-! ## Texts -/

/-- The value of a hexadecimal digit. -/
def hexDigit? (b : UInt8) : Option Nat :=
  if ascii '0' ≤ b ∧ b ≤ ascii '9' then some (b.toNat - 48)
  else if ascii 'a' ≤ b ∧ b ≤ ascii 'f' then some (b.toNat - 87)
  else if ascii 'A' ≤ b ∧ b ≤ ascii 'F' then some (b.toNat - 55)
  else none

/-- The value of hexadecimal digits. -/
def hexValue? (digits : Bytes) : Option Nat :=
  digits.foldlM (fun value b => (hexDigit? b).map (16 * value + ·)) 0

/-- The byte that a short escape stands for. -/
def shortEscape? (b : UInt8) : Option UInt8 :=
  if b = ascii '"' then some (ascii '"')
  else if b = ascii '\\' then some (ascii '\\')
  else if b = ascii '/' then some (ascii '/')
  else if b = ascii 'b' then some 0x08
  else if b = ascii 'f' then some 0x0C
  else if b = ascii 'n' then some 0x0A
  else if b = ascii 'r' then some 0x0D
  else if b = ascii 't' then some 0x09
  else none

/-- Whether a code unit is the first of a pair. -/
def isHighSurrogate (unit : Nat) : Bool := 0xD800 ≤ unit && unit < 0xDC00

/-- Whether a code unit is the second of a pair. -/
def isLowSurrogate (unit : Nat) : Bool := 0xDC00 ≤ unit && unit < 0xE000

/-- The code point of a pair of code units. -/
def pairedCodePoint (high low : Nat) : Nat := 0x10000 + (high - 0xD800) * 0x400 + (low - 0xDC00)

/-- The bytes of a code point. -/
def codePointBytes (n : Nat) : Bytes := String.utf8EncodeChar (Char.ofNat n)

/-- Where the reading of a text stands. -/
inductive TextState where
  /-- Between characters. -/
  | plain
  /-- After a backslash. -/
  | escape
  /-- In the four digits of a code unit, the second of a pair if the first is given. -/
  | hex (digits : Bytes) (high : Option Nat)
  /-- After the first unit of a pair, before the backslash of the second. -/
  | pairBackslash (high : Nat)
  /-- After the first unit of a pair, before the `u` of the second. -/
  | pairLetter (high : Nat)

/-- Reads a text up to its closing quotation mark; `done` holds its bytes so far, last first. -/
def textFrom : TextState → Bytes → Reader Bytes
  | _, _, [] => .error (.ended .string)
  | .plain, done, b :: rest =>
    if b = ascii '"' then .ok (done.reverse, rest)
    else if b = ascii '\\' then textFrom .escape done rest
    else if b < 0x20 then .error .controlCharacter
    else textFrom .plain (b :: done) rest
  | .escape, done, b :: rest =>
    match shortEscape? b with
    | some byte => textFrom .plain (byte :: done) rest
    | none => if b = ascii 'u' then textFrom (.hex [] none) done rest else .error .invalidEscape
  | .hex digits high, done, b :: rest =>
    if digits.length < 3 then textFrom (.hex (digits ++ [b]) high) done rest
    else match hexValue? (digits ++ [b]), high with
      | none, _ => .error .invalidEscape
      | some unit, none =>
        if isLowSurrogate unit then .error .loneSurrogate
        else if isHighSurrogate unit then textFrom (.pairBackslash unit) done rest
        else textFrom .plain ((codePointBytes unit).reverse ++ done) rest
      | some unit, some first =>
        if isLowSurrogate unit then
          textFrom .plain ((codePointBytes (pairedCodePoint first unit)).reverse ++ done) rest
        else .error .loneSurrogate
  | .pairBackslash high, done, b :: rest =>
    if b = ascii '\\' then textFrom (.pairLetter high) done rest else .error .unfinishedSurrogate
  | .pairLetter high, done, b :: rest =>
    if b = ascii 'u' then textFrom (.hex [] (some high)) done rest else .error .unfinishedSurrogate

/-- Reads a text after its opening quotation mark. -/
def textLiteral : Reader String := fun input => do
  let (bytes, rest) ← textFrom .plain [] input
  match textOf? bytes with
  | some text => .ok (text, rest)
  | none => .error .invalidCodePoint

/-- Where the skipping of a text stands: between characters, after a backslash, or in the digits
of a code unit. -/
inductive SkipState where
  | plain
  | escape
  | hex (digits : Bytes)

/-- The bytes after a text whose escapes need not make up characters. -/
def skipTextFrom : SkipState → Bytes → Except Fault Bytes
  | _, [] => .error (.ended .string)
  | .plain, b :: rest =>
    if b = ascii '"' then .ok rest
    else if b = ascii '\\' then skipTextFrom .escape rest
    else if b < 0x20 then .error .controlCharacter
    else skipTextFrom .plain rest
  | .escape, b :: rest =>
    if (shortEscape? b).isSome then skipTextFrom .plain rest
    else if b = ascii 'u' then skipTextFrom (.hex []) rest
    else .error .invalidEscape
  | .hex digits, b :: rest =>
    if digits.length < 3 then skipTextFrom (.hex (digits ++ [b])) rest
    else if (hexValue? (digits ++ [b])).isSome then skipTextFrom .plain rest
    else .error .invalidEscape

end VirtualTouchpad.Json
