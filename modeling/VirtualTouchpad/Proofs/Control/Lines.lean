/-
# What the lines of a stream are

`Lined` says of a stream and a list of lines that these are the stream's lines, without
telling how to find them.  There is exactly one such list for each stream, and `allLines`
finds it (`lined_iff`).
-/
import VirtualTouchpad.Control.Lines

namespace VirtualTouchpad.Control

open Json (Bytes)

/-- The lines of a stream: each ends with its only newline, but for a last one that has none and is
not empty. -/
inductive Lined : Bytes → List Bytes → Prop
  | nil : Lined [] []
  | last {body : Bytes} : body ≠ [] → newline ∉ body → Lined body [body]
  | line {body stream : Bytes} {lines : List Bytes} : newline ∉ body → Lined stream lines →
      Lined (body ++ newline :: stream) ((body ++ [newline]) :: lines)

/-! ## Splitting -/

/-- Bytes without a newline are no finished line. -/
theorem splitLines_of_not_mem {body : Bytes} (h : newline ∉ body) :
    splitLines body = ([], body) := by
  induction body with
  | nil => rfl
  | cons b body ih =>
    obtain ⟨hb, hbody⟩ : newline ≠ b ∧ newline ∉ body := by simpa using h
    simp [splitLines, ih hbody, Ne.symm hb]

/-- The first newline ends the first line. -/
theorem splitLines_line {body : Bytes} (h : newline ∉ body) (stream : Bytes) :
    splitLines (body ++ newline :: stream)
      = ((body ++ [newline]) :: (splitLines stream).1, (splitLines stream).2) := by
  induction body with
  | nil => simp [splitLines]
  | cons b body ih =>
    obtain ⟨hb, hbody⟩ : newline ≠ b ∧ newline ∉ body := by simpa using h
    simp [splitLines, ih hbody, Ne.symm hb]

theorem allLines_of_not_mem {body : Bytes} (h : newline ∉ body) :
    allLines body = if body = [] then [] else [body] := by
  simp [allLines, splitLines_of_not_mem h]

theorem allLines_line {body : Bytes} (h : newline ∉ body) (stream : Bytes) :
    allLines (body ++ newline :: stream) = (body ++ [newline]) :: allLines stream := by
  simp only [allLines, splitLines_line h]
  split <;> rfl

/-- Bytes without a newline are put before the first line, or before the unfinished rest. -/
theorem allLines_split (bytes : Bytes) :
    allLines bytes = (splitLines bytes).1
      ++ if (splitLines bytes).2 = [] then [] else [(splitLines bytes).2] := by
  simp only [allLines]
  split <;> simp_all

/-! ## The first line -/

/-- The first newline ends the first line of what there is. -/
theorem firstLine_line {body : Bytes} (h : newline ∉ body) (rest : Bytes) :
    firstLine (body ++ newline :: rest) = (body ++ [newline], rest) := by
  induction body with
  | nil => rfl
  | cons b body ih =>
    obtain ⟨hb, hbody⟩ : newline ≠ b ∧ newline ∉ body := by simpa using h
    rw [List.cons_append, firstLine, if_neg (Ne.symm hb), ih hbody]
    rfl

/-- Without a newline all there is counts as the first line. -/
theorem firstLine_of_not_mem {bytes : Bytes} (h : newline ∉ bytes) :
    firstLine bytes = (bytes, []) := by
  induction bytes with
  | nil => rfl
  | cons b bytes ih =>
    obtain ⟨hb, hbytes⟩ : newline ≠ b ∧ newline ∉ bytes := by simpa using h
    rw [firstLine, if_neg (Ne.symm hb), ih hbytes]

/-! ## The lines of a stream -/

theorem lined_allLines (stream : Bytes) : Lined stream (allLines stream) := by
  -- The induction is on the length, since a whole line is taken off at once.
  induction hn : stream.length using Nat.strongRecOn generalizing stream with
  | ind n ih =>
    by_cases hmem : newline ∈ stream
    · obtain ⟨body, rest, rfl, hbody⟩ := List.eq_append_cons_of_mem hmem
      rw [allLines_line hbody]
      refine .line hbody (ih rest.length ?_ rest rfl)
      simp only [List.length_append, List.length_cons] at hn
      omega
    · rw [allLines_of_not_mem hmem]
      split
      · next hnil => exact hnil ▸ .nil
      · next hsome => exact .last hsome hmem

/-- **A stream has exactly one list of lines**, the one that `allLines` finds. -/
theorem lined_iff {stream : Bytes} {lines : List Bytes} :
    Lined stream lines ↔ lines = allLines stream := by
  constructor
  · intro h
    induction h with
    | nil => rfl
    | last hsome hbody => rw [allLines_of_not_mem hbody, if_neg hsome]
    | line hbody _ ih => rw [allLines_line hbody, ih]
  · rintro rfl
    exact lined_allLines stream

end VirtualTouchpad.Control
