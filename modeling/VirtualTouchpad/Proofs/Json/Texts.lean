/-
# Written texts are read back

`Takes read text value` says that a reader takes exactly `text` off the front of
the bytes and makes `value` of it.  What follows is arbitrary, but for bytes
that would go on a number: no reader can tell where a number ends if another
digit comes after it.

A text is read by a machine that takes a byte at a time.  `textFrom_escapeByte`
says that the machine makes of the spelling of one byte that byte; a whole text
is an induction on its bytes.
-/
import VirtualTouchpad.Json.Typed
import VirtualTouchpad.Json.Writer
import Mathlib.Data.List.TakeWhile

namespace VirtualTouchpad.Json

variable {α : Type}

/-! ## ASCII text as bytes -/

theorem bytesOf_append (s t : String) : bytesOf (s ++ t) = bytesOf s ++ bytesOf t := by
  simp [bytesOf]

theorem bytesOf_chars (cs : List Char) :
    bytesOf (String.ofList cs) = cs.flatMap String.utf8EncodeChar := by
  simp [bytesOf, List.utf8Encode]

theorem utf8EncodeChar_ascii {c : Char} (h : c.toNat < 128) :
    String.utf8EncodeChar c = [ascii c] := by
  have hsize : c.utf8Size = 1 := by
    rw [Char.utf8Size_eq_one_iff, UInt32.le_iff_toNat_le]
    exact Nat.le_of_lt_succ h
  exact String.utf8EncodeChar_eq_singleton hsize

theorem bytesOf_ofList {cs : List Char} (h : ∀ c ∈ cs, c.toNat < 128) :
    bytesOf (String.ofList cs) = cs.map ascii := by
  rw [bytesOf_chars]
  induction cs with
  | nil => rfl
  | cons c cs ih =>
    obtain ⟨hc, hcs⟩ := List.forall_mem_cons.1 h
    rw [List.flatMap_cons, utf8EncodeChar_ascii hc, ih hcs, List.map_cons, List.singleton_append]

/-! ## Readers that take a text -/

/-- Whether a number ends before these bytes. -/
def EndsNumber (rest : Bytes) : Prop :=
  ∀ b ∈ rest.head?, isDigitByte b = false ∧ b ≠ ascii '.' ∧ b ≠ ascii 'e' ∧ b ≠ ascii 'E'

/-- A reader takes a text and gives its value, and leaves what comes after it. -/
def Takes (read : Reader α) (text : Bytes) (value : α) : Prop :=
  ∀ rest, EndsNumber rest → read (text ++ rest) = .ok (value, rest)

theorem endsNumber_nil : EndsNumber [] := by simp [EndsNumber]

/-- A byte that is no part of a number ends one. -/
theorem endsNumber_cons {b : UInt8} (rest : Bytes)
    (h : isDigitByte b = false ∧ b ≠ ascii '.' ∧ b ≠ ascii 'e' ∧ b ≠ ascii 'E') :
    EndsNumber (b :: rest) := by
  simpa [EndsNumber] using h

/-- A whole text that a reader takes is read, with blanks after it or without. -/
theorem readAll_of_takes {read : Reader α} {text : Bytes} {value : α} (h : Takes read text value)
    {blanks : Bytes} (hall : blanks.all isBlankByte = true) :
    readAll read (text ++ blanks) = .ok value := by
  have hblanks := List.all_eq_true.1 hall
  have hends : EndsNumber blanks := by
    cases blanks with
    | nil => exact endsNumber_nil
    | cons b rest =>
      have hb := hblanks b List.mem_cons_self
      simp only [isBlankByte, Bool.or_eq_true, beq_iff_eq] at hb
      refine endsNumber_cons rest ?_
      obtain ((rfl | rfl) | rfl) | rfl := hb <;> decide
  have hdrop : dropBlanks blanks = [] := by simpa [dropBlanks, List.dropWhile_eq_nil_iff] using hblanks
  simp only [readAll, h blanks hends, hdrop, bind, Except.bind]

/-! ## Blanks and words -/

/-- Nothing is dropped before a byte that is not blank. -/
@[simp] theorem dropBlanks_cons {b : UInt8} (rest : Bytes) (h : isBlankByte b = false) :
    dropBlanks (b :: rest) = b :: rest := by
  simp [dropBlanks, h]

theorem finishWord_append (word rest : Bytes) : finishWord word (word ++ rest) = .ok rest := by
  induction word with
  | nil => rfl
  | cons w word ih => rw [List.cons_append, finishWord, if_pos rfl, ih]

/-! ## Texts -/

/-- A control byte is the value of the code that spells it. -/
theorem hexValue?_control :
    ∀ n < 32, hexValue? [ascii '0', ascii '0', hexDigit (n / 16), hexDigit (n % 16)] = some n ∧
      codePointBytes n = [UInt8.ofNat n] := by
  decide

/-- A short escape is read as the byte that it stands for. -/
theorem textFrom_shortEscape {letter byte : UInt8} (h : shortEscape? letter = some byte)
    (done rest : Bytes) :
    textFrom .plain done (ascii '\\' :: letter :: rest) = textFrom .plain (byte :: done) rest := by
  have hback : ascii '\\' ≠ ascii '"' := by decide
  simp only [textFrom, if_neg hback, if_true, h]

/-- The code of a control byte is read as that byte. -/
theorem textFrom_hexEscape {n : Nat} (h : n < 32) (done rest : Bytes) :
    textFrom .plain done
        (bytesOf "\\u00" ++ hexDigit (n / 16) :: hexDigit (n % 16) :: rest) =
      textFrom .plain (UInt8.ofNat n :: done) rest := by
  obtain ⟨hvalue, hbytes⟩ := hexValue?_control n h
  have hcode : bytesOf "\\u00" = [ascii '\\', ascii 'u', ascii '0', ascii '0'] := by decide
  have hback : ascii '\\' ≠ ascii '"' := by decide
  have hnone : shortEscape? (ascii 'u') = none := by decide
  have hlow : isLowSurrogate n = false := by simp [isLowSurrogate]; omega
  have hhigh : isHighSurrogate n = false := by simp [isHighSurrogate]; omega
  simp [hcode, textFrom, hback, hnone, hvalue, hlow, hhigh, hbytes]

/-- The reader makes of the spelling of a byte that byte. -/
theorem textFrom_escapeByte (b : UInt8) (done rest : Bytes) :
    textFrom .plain done (escapeByte b ++ rest) = textFrom .plain (b :: done) rest := by
  unfold escapeByte
  split
  next h => obtain rfl | rfl := h <;> exact textFrom_shortEscape (by decide) done rest
  next hplain =>
    obtain ⟨hquote, hback⟩ := not_or.1 hplain
    split
    next hprint =>
      have hnot : ¬ b < 0x20 := by simpa using hprint
      simp [textFrom, hquote, hback, hnot]
    next hcontrol =>
      have hlt : b.toNat < 32 := by simpa [UInt8.lt_iff_toNat_lt] using hcontrol
      have hcode := textFrom_hexEscape hlt done rest
      rw [UInt8.ofNat_toNat] at hcode
      repeat' split
      all_goals first
        | (subst b; exact textFrom_shortEscape (by decide) done rest)
        | simpa using hcode

/-- A spelled text up to its closing quotation mark is read back. -/
theorem textFrom_escaped (bytes done rest : Bytes) :
    textFrom .plain done (bytes.flatMap escapeByte ++ ascii '"' :: rest) =
      .ok (done.reverse ++ bytes, rest) := by
  induction bytes generalizing done with
  | nil => simp [textFrom]
  | cons b bytes ih =>
    rw [List.flatMap_cons, List.append_assoc, textFrom_escapeByte, ih]
    simp

/-- After the quotation mark that opens it, a written text is read back. -/
theorem textLiteral_written (text : String) (rest : Bytes) :
    textLiteral ((bytesOf text).flatMap escapeByte ++ ascii '"' :: rest) = .ok (text, rest) := by
  simp only [textLiteral, textFrom_escaped, bind, Except.bind, List.reverse_nil, List.nil_append,
    textOf?_bytesOf]

/-- A written text is read back. -/
theorem readText_writeText (expected text : String) (rest : Bytes) :
    readText expected (writeText text ++ rest) = .ok (text, rest) := by
  have hblank : isBlankByte (ascii '"') = false := by decide
  simp [readText, writeText, hblank, textLiteral_written]

theorem takes_writeText (expected text : String) :
    Takes (readText expected) (writeText text) text :=
  fun rest _ => readText_writeText expected text rest

/-! ## Printable texts -/

/-- The bytes of a text without controls. -/
structure Printable (bytes : Bytes) : Prop where
  least : ∀ b ∈ bytes, 0x20 ≤ b
  isText : ∃ text, bytesOf text = bytes

theorem Printable.append {first second : Bytes} (hfirst : Printable first)
    (hsecond : Printable second) : Printable (first ++ second) := by
  obtain ⟨s, hs⟩ := hfirst.isText
  obtain ⟨t, ht⟩ := hsecond.isText
  exact ⟨List.forall_mem_append.2 ⟨hfirst.least, hsecond.least⟩,
    s ++ t, by rw [bytesOf_append, hs, ht]⟩

/-- Whether a byte is a printable ASCII character. -/
def isPrintableAscii (b : UInt8) : Bool := 0x20 ≤ b && b < 0x80

/-- Printable ASCII characters are a printable text. -/
theorem printable_of_ascii {bytes : Bytes} (hall : bytes.all isPrintableAscii = true) :
    Printable bytes := by
  have h : ∀ b ∈ bytes, 0x20 ≤ b ∧ b < 0x80 := by
    simpa [isPrintableAscii, List.all_eq_true] using hall
  refine ⟨fun b hb => (h b hb).1, String.ofList (bytes.map fun b => Char.ofNat b.toNat), ?_⟩
  have hchar : ∀ n < 128, (Char.ofNat n).toNat < 128 ∧ ascii (Char.ofNat n) = UInt8.ofNat n := by
    decide
  have hlt : ∀ b ∈ bytes, b.toNat < 128 := fun b hb => by
    simpa [UInt8.lt_iff_toNat_lt] using (h b hb).2
  rw [bytesOf_ofList, List.map_map]
  · refine (List.map_congr_left fun b hb => ?_).trans (List.map_id _)
    rw [Function.comp_apply, (hchar _ (hlt b hb)).2, UInt8.ofNat_toNat, id]
  · intro c hc
    obtain ⟨b, hb, rfl⟩ := List.mem_map.1 hc
    exact (hchar _ (hlt b hb)).1

theorem printable_nil : Printable [] := printable_of_ascii rfl

theorem Printable.cons {b : UInt8} {rest : Bytes} (hb : isPrintableAscii b = true)
    (hrest : Printable rest) : Printable (b :: rest) :=
  (printable_of_ascii (by simpa using hb) : Printable [b]).append hrest

/-- The bytes of a character beyond ASCII are beyond it, too. -/
theorem le_of_mem_utf8EncodeChar {c : Char} (hc : 128 ≤ c.toNat) {b : UInt8}
    (hb : b ∈ String.utf8EncodeChar c) : 0x80 ≤ b := by
  have hle (n : Nat) (hlow : 128 ≤ n) (hhigh : n < 256) : (0x80 : UInt8) ≤ UInt8.ofNat n := by
    rw [UInt8.le_iff_toNat_le, UInt8.toNat_ofNat_of_lt' hhigh]
    exact hlow
  have hbig : ¬ c.val.toNat ≤ 127 := Nat.not_le.2 hc
  simp only [String.utf8EncodeChar, if_neg hbig] at hb
  split at hb
  · simp only [List.mem_cons, List.not_mem_nil, or_false] at hb
    rcases hb with rfl | rfl <;> exact hle _ (by omega) (by omega)
  · split at hb
    · simp only [List.mem_cons, List.not_mem_nil, or_false] at hb
      rcases hb with rfl | rfl | rfl <;> exact hle _ (by omega) (by omega)
    · simp only [List.mem_cons, List.not_mem_nil, or_false] at hb
      rcases hb with rfl | rfl | rfl | rfl <;> exact hle _ (by omega) (by omega)

/-- The bytes beyond ASCII are spelled as they are. -/
theorem flatMap_escapeByte_of_le {bytes : Bytes} (h : ∀ b ∈ bytes, 0x80 ≤ b) :
    bytes.flatMap escapeByte = bytes := by
  induction bytes with
  | nil => rfl
  | cons b bytes ih =>
    obtain ⟨hb, hbytes⟩ := List.forall_mem_cons.1 h
    have hquote : ascii '"' < 0x80 ∧ ascii '\\' < 0x80 := by decide
    have hnot : ¬ (b = ascii '"' ∨ b = ascii '\\') := by
      rintro (rfl | rfl)
      · exact UInt8.not_le.2 hquote.1 hb
      · exact UInt8.not_le.2 hquote.2 hb
    have hself : escapeByte b = [b] := by
      rw [escapeByte, if_neg hnot, if_pos (UInt8.le_trans (by decide) hb)]
    rw [List.flatMap_cons, hself, ih hbytes, List.singleton_append]

/-- The spelling of the bytes of a character is printable. -/
theorem printable_escapedChar (c : Char) :
    Printable ((String.utf8EncodeChar c).flatMap escapeByte) := by
  by_cases hc : c.toNat < 128
  · have hascii : ∀ n < 128, (escapeByte (UInt8.ofNat n)).all isPrintableAscii = true := by decide
    rw [utf8EncodeChar_ascii hc, List.flatMap_singleton]
    exact printable_of_ascii (hascii c.toNat hc)
  · have hbeyond : ∀ b ∈ String.utf8EncodeChar c, 0x80 ≤ b :=
      fun b hb => le_of_mem_utf8EncodeChar (Nat.not_lt.1 hc) hb
    rw [flatMap_escapeByte_of_le hbeyond]
    refine ⟨fun b hb => UInt8.le_trans (by decide) (hbeyond b hb), String.ofList [c], ?_⟩
    rw [bytesOf_chars, List.flatMap_singleton]

/-- A written text is printable. -/
theorem printable_writeText (text : String) : Printable (writeText text) := by
  have hchars (cs : List Char) :
      Printable ((cs.flatMap String.utf8EncodeChar).flatMap escapeByte) := by
    induction cs with
    | nil => exact printable_nil
    | cons c cs ih =>
      rw [List.flatMap_cons, List.flatMap_append]
      exact (printable_escapedChar c).append ih
  have hbytes := bytesOf_chars text.toList
  rw [String.ofList_toList] at hbytes
  have hquote : isPrintableAscii (ascii '"') = true := by decide
  rw [writeText, hbytes]
  exact .cons hquote ((hchars _).append (.cons hquote printable_nil))

end VirtualTouchpad.Json
