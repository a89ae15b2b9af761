/-
# Quoted text

A text in quotation marks, for messages: quotes, backslashes and the usual
controls have short escapes, and any other character that cannot be shown as
itself is written by its code point.
-/
import VirtualTouchpad.Text.Printable

namespace VirtualTouchpad

/-- The spelling of one character inside quotation marks. -/
def quotedChar (c : Char) : List Char :=
  match c with
  | '\x00' => ['\\', '0']
  | '\t' => ['\\', 't']
  | '\r' => ['\\', 'r']
  | '\n' => ['\\', 'n']
  | '\\' => ['\\', '\\']
  | '"' => ['\\', '"']
  | c =>
    if isPrintable c then [c]
    else '\\' :: 'u' :: '{' :: (Nat.toDigits 16 c.toNat ++ ['}'])

/-- A text in quotation marks. -/
def quoted (text : String) : String :=
  String.ofList ('"' :: (text.toList.flatMap quotedChar ++ ['"']))

end VirtualTouchpad
