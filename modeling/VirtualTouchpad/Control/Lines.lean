/-
# Lines of bytes

A stream of bytes is read as lines.  A line ends after a newline, which is part
of it; bytes without a newline wait for more, and are a line of their own when
the stream ends.
-/
import VirtualTouchpad.Json.Lexical

namespace VirtualTouchpad.Control

open Json (Bytes)

/-- The newline. -/
def newline : UInt8 := 0x0A

/-- Bytes up to their first newline and after it; all of them and nothing without a newline. -/
def firstLine : Bytes → Bytes × Bytes
  | [] => ([], [])
  | b :: rest =>
    if b = newline then ([b], rest)
    else
      let (line, rest) := firstLine rest
      (b :: line, rest)

/-- The finished lines of some bytes, and the unfinished rest. -/
def splitLines : Bytes → List Bytes × Bytes
  | [] => ([], [])
  | b :: rest =>
    match splitLines rest with
    | (lines, last) =>
      if b = newline then ([b] :: lines, last)
      else
        match lines with
        | [] => ([], b :: last)
        | line :: lines => ((b :: line) :: lines, last)

/-- Splitting loses nothing. -/
theorem flatten_splitLines (bytes : Bytes) :
    (splitLines bytes).1.flatten ++ (splitLines bytes).2 = bytes := by
  induction bytes with
  | nil => rfl
  | cons b rest ih =>
    simp only [splitLines]
    by_cases h : b = newline
    · simp only [if_pos h, List.flatten_cons, List.cons_append, List.nil_append, ih]
    · cases hs : (splitLines rest).1 with
      | nil => simpa [if_neg h, hs] using ih
      | cons line lines => simpa [if_neg h, hs] using ih

/-- The unfinished rest holds no newline. -/
theorem newline_notMem_splitLines (bytes : Bytes) : newline ∉ (splitLines bytes).2 := by
  induction bytes with
  | nil => simp [splitLines]
  | cons b rest ih =>
    simp only [splitLines]
    by_cases h : b = newline
    · simpa only [if_pos h] using ih
    · cases hs : (splitLines rest).1 with
      | nil => simp [if_neg h, ih, Ne.symm h]
      | cons line lines => simpa [if_neg h, hs] using ih

/-- Bytes that come in two pieces are split as in one: the second piece goes on where the first
one's rest ends. -/
theorem splitLines_append (first second : Bytes) :
    splitLines (first ++ second) =
      ((splitLines first).1 ++ (splitLines ((splitLines first).2 ++ second)).1,
        (splitLines ((splitLines first).2 ++ second)).2) := by
  induction first with
  | nil => simp [splitLines]
  | cons b rest ih =>
    simp only [List.cons_append, splitLines, ih]
    by_cases h : b = newline
    · simp only [if_pos h, List.cons_append]
    · cases hs : (splitLines rest).1 with
      | nil => simp [if_neg h, splitLines]
      | cons line lines => simp [if_neg h]

/-- All lines of a stream that ends, an unfinished last one included. -/
def allLines (stream : Bytes) : List Bytes :=
  let (lines, last) := splitLines stream
  if last = [] then lines else lines ++ [last]

end VirtualTouchpad.Control
