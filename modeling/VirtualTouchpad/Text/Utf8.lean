/-
# Text as bytes

Sockets and files carry bytes; `bytesOf` and `textOf?` go between text and its
UTF-8 bytes, and `textOf?_bytesOf` says that nothing is lost on the way.  Where
bytes are no text, `Utf8.fault?` finds the first place that rules it out.
-/

namespace VirtualTouchpad

/-- The UTF-8 bytes of a text. -/
def bytesOf (text : String) : List UInt8 := text.toUTF8.data.toList

/-- The text with the given UTF-8 bytes, if they are any text's. -/
def textOf? (bytes : List UInt8) : Option String := String.fromUTF8? ⟨bytes.toArray⟩

theorem textOf?_bytesOf (text : String) : textOf? (bytesOf text) = some text := by
  have h : (⟨(bytesOf text).toArray⟩ : ByteArray) = text.toUTF8 := by simp [bytesOf]
  simp [textOf?, h, String.fromUTF8?, text.isValidUTF8, String.fromUTF8]

/-! ## Where bytes stop being text -/

/-- A place that rules text out: the offset of the character that begins there, and how many of
its bytes can be no character's beginning; none if the bytes only end too early. -/
structure Utf8Fault where
  offset : Nat
  length : Option Nat
  deriving DecidableEq, Repr

/-- How a complaint about such a place reads. -/
def Utf8Fault.message (fault : Utf8Fault) : String :=
  match fault.length with
  | some n => s!"invalid utf-8 sequence of {n} bytes from index {fault.offset}"
  | none => s!"incomplete utf-8 byte sequence from index {fault.offset}"

namespace Utf8

/-- A character of several bytes, part way through: where it began, the bytes seen and owed, and
the least and the greatest byte that may come next. -/
structure Pending where
  start : Nat
  seen : Nat
  owed : Nat
  low : UInt8
  high : UInt8

/-- What a character's first byte announces: the bytes owed and the range of the second one.
Nothing is owed after a character of one byte, and no character begins with any other byte. -/
def lead (b : UInt8) : Option (Nat × UInt8 × UInt8) :=
  if b < 0x80 then some (0, 0x80, 0xBF)
  else if b < 0xC2 then none
  else if b < 0xE0 then some (1, 0x80, 0xBF)
  else if b = 0xE0 then some (2, 0xA0, 0xBF)
  else if b = 0xED then some (2, 0x80, 0x9F)
  else if b < 0xF0 then some (2, 0x80, 0xBF)
  else if b = 0xF0 then some (3, 0x90, 0xBF)
  else if b < 0xF4 then some (3, 0x80, 0xBF)
  else if b = 0xF4 then some (3, 0x80, 0x8F)
  else none

/-- The first fault in bytes that start at `offset`, inside the character `pending` if any. -/
def faultFrom? : Nat → Option Pending → List UInt8 → Option Utf8Fault
  | _, none, [] => none
  | _, some p, [] => some ⟨p.start, none⟩
  | offset, none, b :: rest =>
    match lead b with
    | none => some ⟨offset, some 1⟩
    | some (0, _, _) => faultFrom? (offset + 1) none rest
    | some (owed, low, high) => faultFrom? (offset + 1) (some ⟨offset, 1, owed, low, high⟩) rest
  | offset, some p, b :: rest =>
    if p.low ≤ b ∧ b ≤ p.high then
      if p.owed = 1 then faultFrom? (offset + 1) none rest
      else faultFrom? (offset + 1) (some ⟨p.start, p.seen + 1, p.owed - 1, 0x80, 0xBF⟩) rest
    else some ⟨p.start, some p.seen⟩

/-- The first place where bytes stop being text, if any. -/
def fault? (bytes : List UInt8) : Option Utf8Fault := faultFrom? 0 none bytes

end Utf8

end VirtualTouchpad
