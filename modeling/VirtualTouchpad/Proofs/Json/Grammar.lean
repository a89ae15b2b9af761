/-
# The grammar of JSON

What JSON texts are, apart from any reader.  A text between quotation marks has many
spellings: each of its characters stands for itself, or is escaped, beyond the first
65536 code points as two code units (`SpellsText`).  A value has any blanks between its
parts, nests to any depth, and may hold escapes that are no characters (`Phrase`).

The readers of quoted texts are held to this: a spelling is read as the text that it
spells (`textLiteral_of_spells`), and what may stand between quotation marks is skipped
(`skipTextFrom_of_quotable`).
-/
import VirtualTouchpad.Proofs.Json.Numerals
import VirtualTouchpad.Proofs.Json.Skipping

namespace VirtualTouchpad.Json

/-! ## Blanks -/

/-- Bytes that are all blank. -/
def Blank (bytes : Bytes) : Prop := ∀ b ∈ bytes, isBlankByte b = true

instance (bytes : Bytes) : Decidable (Blank bytes) :=
  decidable_of_iff (bytes.all isBlankByte = true) List.all_eq_true

theorem dropBlanks_append {blanks : Bytes} (h : Blank blanks) (rest : Bytes) :
    dropBlanks (blanks ++ rest) = dropBlanks rest :=
  List.dropWhile_append_of_pos h

/-- What follows a blank or nothing may end a number. -/
theorem endsNumber_append {blanks rest : Bytes} (h : Blank blanks) (hrest : EndsNumber rest) :
    EndsNumber (blanks ++ rest) := by
  cases blanks with
  | nil => exact hrest
  | cons b blanks =>
    have hb := h b List.mem_cons_self
    simp only [isBlankByte, Bool.or_eq_true, beq_iff_eq] at hb
    refine endsNumber_cons _ ?_
    obtain ((rfl | rfl) | rfl) | rfl := hb <;> decide

/-! ## Spellings of texts -/

/-- The letters of the short escapes, and what they stand for. -/
def shortEscapes : List (Char × Char) :=
  [('"', '"'), ('\\', '\\'), ('/', '/'), ('b', '\x08'), ('f', '\x0C'), ('n', '\n'), ('r', '\r'),
    ('t', '\t')]

/-- A byte is the hexadecimal digit of a value, as a small letter or a capital one. -/
def IsHexDigit (value : Nat) (b : UInt8) : Prop :=
  (bytesOf "0123456789abcdef")[value]? = some b ∨ (bytesOf "0123456789ABCDEF")[value]? = some b

/-- Four bytes spell a code unit in hexadecimal. -/
inductive SpellsUnit : Nat → Bytes → Prop
  | digits {a b c d : Nat} {w x y z : UInt8} (first : IsHexDigit a w) (second : IsHexDigit b x)
      (third : IsHexDigit c y) (fourth : IsHexDigit d z) :
      SpellsUnit (16 * (16 * (16 * a + b) + c) + d) [w, x, y, z]

/-- The spellings of a character. -/
inductive SpellsChar : Char → Bytes → Prop
  | plain {c : Char} (least : 0x20 ≤ c.toNat) (quote : c ≠ '"') (backslash : c ≠ '\\') :
      SpellsChar c (String.utf8EncodeChar c)
  | short {letter c : Char} (known : (letter, c) ∈ shortEscapes) :
      SpellsChar c [ascii '\\', ascii letter]
  | unit {c : Char} {digits : Bytes} (spells : SpellsUnit c.toNat digits) :
      SpellsChar c (ascii '\\' :: ascii 'u' :: digits)
  | pair {c : Char} {high low : Bytes} (beyond : 0x10000 ≤ c.toNat)
      (spells_high : SpellsUnit (0xD800 + (c.toNat - 0x10000) / 0x400) high)
      (spells_low : SpellsUnit (0xDC00 + (c.toNat - 0x10000) % 0x400) low) :
      SpellsChar c
        (ascii '\\' :: ascii 'u' :: (high ++ ascii '\\' :: ascii 'u' :: low))

/-- The spellings of characters, one after the other. -/
inductive SpellsChars : List Char → Bytes → Prop
  | nil : SpellsChars [] []
  | cons {c : Char} {cs : List Char} {bytes more : Bytes} (first : SpellsChar c bytes)
      (others : SpellsChars cs more) : SpellsChars (c :: cs) (bytes ++ more)

/-- The spellings of a text, without its quotation marks. -/
def SpellsText (text : String) (bytes : Bytes) : Prop := SpellsChars text.toList bytes

/-- Whether a character needs no escape. -/
def isPlainChar (c : Char) : Bool := decide (0x20 ≤ c.toNat) && c != '"' && c != '\\'

/-- A text without quotation marks, backslashes and control characters spells itself. -/
theorem spellsText_self {text : String} (h : text.toList.all isPlainChar = true) :
    SpellsText text (bytesOf text) := by
  have hchars : ∀ cs : List Char, cs.all isPlainChar = true →
      SpellsChars cs (cs.flatMap String.utf8EncodeChar) := by
    intro cs hcs
    induction cs with
    | nil => exact .nil
    | cons c cs ih =>
      rw [List.all_cons, Bool.and_eq_true] at hcs
      obtain ⟨hplain, hothers⟩ := hcs
      simp only [isPlainChar, Bool.and_eq_true, decide_eq_true_eq, bne_iff_ne] at hplain
      obtain ⟨⟨hleast, hquote⟩, hback⟩ := hplain
      exact .cons (.plain hleast hquote hback) (ih hothers)
  have hself := hchars text.toList h
  rwa [← bytesOf_chars, String.ofList_toList] at hself

theorem SpellsChars.append {cs more : List Char} {bytes others : Bytes} (h : SpellsChars cs bytes)
    (hmore : SpellsChars more others) : SpellsChars (cs ++ more) (bytes ++ others) := by
  induction h with
  | nil => exact hmore
  | cons first _ ih =>
    rw [List.append_assoc]
    exact .cons first ih

theorem SpellsText.append {text more : String} {bytes others : Bytes} (h : SpellsText text bytes)
    (hmore : SpellsText more others) : SpellsText (text ++ more) (bytes ++ others) := by
  unfold SpellsText
  rw [String.toList_append]
  exact SpellsChars.append h hmore

/-- What may stand between quotation marks: escapes need not make up characters. -/
inductive Quotable : Bytes → Prop
  | nil : Quotable []
  | plain {b : UInt8} {rest : Bytes} (least : 0x20 ≤ b) (quote : b ≠ ascii '"')
      (backslash : b ≠ ascii '\\') (others : Quotable rest) : Quotable (b :: rest)
  | short {letter c : Char} {rest : Bytes} (known : (letter, c) ∈ shortEscapes)
      (others : Quotable rest) : Quotable (ascii '\\' :: ascii letter :: rest)
  | unit {n : Nat} {digits rest : Bytes} (spells : SpellsUnit n digits) (others : Quotable rest) :
      Quotable (ascii '\\' :: ascii 'u' :: (digits ++ rest))

/-- A text in quotation marks, from its spelling. -/
def inQuotes (spelling : Bytes) : Bytes := ascii '"' :: (spelling ++ [ascii '"'])

/-- The spellings of a text, with its quotation marks. -/
def SpellsQuoted (text : String) (bytes : Bytes) : Prop :=
  ∃ inside, SpellsText text inside ∧ bytes = inQuotes inside

/-! ## Values -/

/-- A value with the blanks around it. -/
structure Padded where
  ahead : Bytes
  value : Bytes
  behind : Bytes
  blank_ahead : Blank ahead
  blank_behind : Blank behind

/-- The bytes of a value with its blanks. -/
def Padded.text (padded : Padded) : Bytes := padded.ahead ++ (padded.value ++ padded.behind)

/-- A member of an object as it is spelled: a key, a colon and a value, with blanks. -/
structure MemberText extends Padded where
  before : Bytes
  /-- What stands between the key's quotation marks. -/
  key : Bytes
  between : Bytes
  blank_before : Blank before
  blank_between : Blank between

/-- The bytes of a member. -/
def MemberText.text (member : MemberText) : Bytes :=
  member.before ++ (inQuotes member.key ++ (member.between ++ ascii ':' :: member.toPadded.text))

/-- The parts of JSON values. -/
inductive Construct where
  /-- A value without blanks around it. -/
  | value
  /-- The elements of a list, with commas. -/
  | elements
  /-- The members of an object, with commas. -/
  | members

/-- Bytes are a part of a JSON value. -/
inductive Phrase : Construct → Bytes → Prop
  | word {word : String} (known : word ∈ ["null", "true", "false"]) : Phrase .value (bytesOf word)
  | number {n : Numeral} {text : Bytes} (wellFormed : n.WellFormed) (spells : n.Spells text) :
      Phrase .value text
  | text {inside : Bytes} (quotable : Quotable inside) : Phrase .value (inQuotes inside)
  | emptyList {blanks : Bytes} (blank : Blank blanks) :
      Phrase .value (ascii '[' :: (blanks ++ [ascii ']']))
  | list {elements : Bytes} (inside : Phrase .elements elements) :
      Phrase .value (ascii '[' :: (elements ++ [ascii ']']))
  | emptyObject {blanks : Bytes} (blank : Blank blanks) :
      Phrase .value (ascii '{' :: (blanks ++ [ascii '}']))
  | object {members : Bytes} (inside : Phrase .members members) :
      Phrase .value (ascii '{' :: (members ++ [ascii '}']))
  | element (element : Padded) (inside : Phrase .value element.value) :
      Phrase .elements element.text
  | elements {others : Bytes} (element : Padded) (inside : Phrase .value element.value)
      (more : Phrase .elements others) : Phrase .elements (element.text ++ ascii ',' :: others)
  | member (member : MemberText) (quotable : Quotable member.key)
      (inside : Phrase .value member.value) : Phrase .members member.text
  | members {others : Bytes} (member : MemberText) (quotable : Quotable member.key)
      (inside : Phrase .value member.value) (more : Phrase .members others) :
      Phrase .members (member.text ++ ascii ',' :: others)

/-! ## Reading quoted texts -/

theorem hexDigit?_of_isHexDigit {value : Nat} {b : UInt8} (h : IsHexDigit value b) :
    hexDigit? b = some value ∧ value < 16 := by
  have hread : ∀ digits : Bytes, digits.length = 16 →
      (∀ v < 16, digits[v]?.bind hexDigit? = some v) → digits[value]? = some b →
      hexDigit? b = some value ∧ value < 16 := by
    intro digits hlength hall hdigit
    have hlt : value < 16 := hlength ▸ (List.getElem?_eq_some_iff.1 hdigit).1
    have hvalue := hall value hlt
    rw [hdigit, Option.bind_some] at hvalue
    exact ⟨hvalue, hlt⟩
  rcases h with hsmall | hcapital
  · exact hread _ (by decide) (by decide) hsmall
  · exact hread _ (by decide) (by decide) hcapital

/-- What the digits of a code unit are worth. -/
theorem hexValue?_of_spellsUnit {n : Nat} {digits : Bytes} (h : SpellsUnit n digits) :
    hexValue? digits = some n ∧ n < 0x10000 := by
  cases h with
  | digits first second third fourth =>
    obtain ⟨hfirst, _⟩ := hexDigit?_of_isHexDigit first
    obtain ⟨hsecond, _⟩ := hexDigit?_of_isHexDigit second
    obtain ⟨hthird, _⟩ := hexDigit?_of_isHexDigit third
    obtain ⟨hfourth, _⟩ := hexDigit?_of_isHexDigit fourth
    exact ⟨by simp [hexValue?, hfirst, hsecond, hthird, hfourth], by omega⟩

theorem textFrom_unit (done rest : Bytes) :
    textFrom .plain done (ascii '\\' :: ascii 'u' :: rest) = textFrom (.hex [] none) done rest := by
  have hback : ascii '\\' ≠ ascii '"' := by decide
  have hletter : shortEscape? (ascii 'u') = none := by decide
  simp only [textFrom, if_neg hback, if_true, hletter]

theorem textFrom_secondUnit (high : Nat) (done rest : Bytes) :
    textFrom (.pairBackslash high) done (ascii '\\' :: ascii 'u' :: rest)
      = textFrom (.hex [] (some high)) done rest := by
  simp only [textFrom, if_true]

/-- Four digits are read one after the other. -/
theorem textFrom_hex {n : Nat} {digits : Bytes} (h : SpellsUnit n digits) (high : Option Nat)
    (done rest : Bytes) : textFrom (.hex [] high) done (digits ++ rest) =
      match high with
      | none =>
        if isLowSurrogate n then .error .loneSurrogate
        else if isHighSurrogate n then textFrom (.pairBackslash n) done rest
        else textFrom .plain ((codePointBytes n).reverse ++ done) rest
      | some first =>
        if isLowSurrogate n then
          textFrom .plain ((codePointBytes (pairedCodePoint first n)).reverse ++ done) rest
        else .error .loneSurrogate := by
  obtain ⟨hvalue, -⟩ := hexValue?_of_spellsUnit h
  cases h with
  | digits =>
    simp only [List.cons_append, List.nil_append, textFrom, List.length_cons, List.length_nil,
      hvalue]
    cases high <;> rfl

/-- Bytes that stand for themselves are read as they are. -/
theorem textFrom_plain {bytes : Bytes}
    (h : ∀ b ∈ bytes, 0x20 ≤ b ∧ b ≠ ascii '"' ∧ b ≠ ascii '\\') (done rest : Bytes) :
    textFrom .plain done (bytes ++ rest) = textFrom .plain (bytes.reverse ++ done) rest := by
  induction bytes generalizing done with
  | nil => rfl
  | cons b bytes ih =>
    obtain ⟨⟨hleast, hquote, hback⟩, hbytes⟩ := List.forall_mem_cons.1 h
    rw [List.cons_append, textFrom, if_neg hquote, if_neg hback, if_neg (UInt8.not_lt.2 hleast),
      ih hbytes]
    simp

/-- The bytes of a character that needs no escape stand for themselves. -/
theorem plain_of_mem_utf8EncodeChar {c : Char} (hleast : 0x20 ≤ c.toNat) (hquote : c ≠ '"')
    (hback : c ≠ '\\') :
    ∀ b ∈ String.utf8EncodeChar c, 0x20 ≤ b ∧ b ≠ ascii '"' ∧ b ≠ ascii '\\' := by
  intro b hb
  by_cases hc : c.toNat < 128
  · have hall : ∀ n < 128, 0x20 ≤ n ∧ n ≠ 34 ∧ n ≠ 92 → (0x20 : UInt8) ≤ UInt8.ofNat n
        ∧ UInt8.ofNat n ≠ ascii '"' ∧ UInt8.ofNat n ≠ ascii '\\' := by
      decide
    rw [utf8EncodeChar_ascii hc] at hb
    rw [List.mem_singleton.1 hb]
    exact hall c.toNat hc ⟨hleast, fun h => hquote (Char.toNat_inj.1 h),
      fun h => hback (Char.toNat_inj.1 h)⟩
  · have hle := le_of_mem_utf8EncodeChar (Nat.not_lt.1 hc) hb
    refine ⟨UInt8.le_trans (by decide) hle, ?_, ?_⟩ <;>
      rintro rfl <;>
      exact absurd hle (by decide)

theorem shortEscape?_of_mem :
    ∀ escape ∈ shortEscapes, shortEscape? (ascii escape.1) = some (ascii escape.2)
      ∧ String.utf8EncodeChar escape.2 = [ascii escape.2] := by
  decide

/-- A code unit that is a character's code point is no half of a pair. -/
theorem not_surrogate (c : Char) : isLowSurrogate c.toNat = false ∧ isHighSurrogate c.toNat = false := by
  have hvalid : c.toNat < 0xD800 ∨ 0xDFFF < c.toNat ∧ c.toNat < 0x110000 := c.valid
  simp only [isLowSurrogate, isHighSurrogate, Bool.and_eq_false_iff, decide_eq_false_iff_not]
  omega

/-- The two code units of a code point beyond the first 65536 make it up again. -/
theorem halves_spec {n : Nat} (hleast : 0x10000 ≤ n) (hmost : n < 0x110000) :
    pairedCodePoint (0xD800 + (n - 0x10000) / 0x400) (0xDC00 + (n - 0x10000) % 0x400) = n
      ∧ (isLowSurrogate (0xD800 + (n - 0x10000) / 0x400) = false
        ∧ isHighSurrogate (0xD800 + (n - 0x10000) / 0x400) = true)
      ∧ isLowSurrogate (0xDC00 + (n - 0x10000) % 0x400) = true := by
  obtain ⟨m, rfl⟩ := Nat.exists_eq_add_of_le hleast
  rw [Nat.add_sub_cancel_left]
  have hparts := Nat.div_add_mod' m 0x400
  have hlow : m % 0x400 < 0x400 := Nat.mod_lt _ (by decide)
  generalize m / 0x400 = high at *
  generalize m % 0x400 = low at *
  refine ⟨?_, ?_, ?_⟩
  · unfold pairedCodePoint
    omega
  · simp only [isLowSurrogate, isHighSurrogate, Bool.and_eq_false_iff, Bool.and_eq_true,
      decide_eq_false_iff_not, decide_eq_true_eq]
    omega
  · simp only [isLowSurrogate, Bool.and_eq_true, decide_eq_true_eq]
    omega

/-- Each spelling of a character may be quoted. -/
theorem SpellsChar.quotable {c : Char} {bytes rest : Bytes} (h : SpellsChar c bytes)
    (hrest : Quotable rest) : Quotable (bytes ++ rest) := by
  cases h with
  | plain least quote backslash =>
    have hplain := plain_of_mem_utf8EncodeChar least quote backslash
    generalize String.utf8EncodeChar c = bytes at hplain
    induction bytes with
    | nil => exact hrest
    | cons b bytes ih =>
      obtain ⟨⟨hleast, hquote, hback⟩, hbytes⟩ := List.forall_mem_cons.1 hplain
      exact .plain hleast hquote hback (ih hbytes)
  | short known => exact .short known hrest
  | unit spells => exact .unit spells hrest
  | pair _ spells_high spells_low =>
    rw [List.cons_append, List.cons_append, List.append_assoc, List.cons_append, List.cons_append]
    exact .unit spells_high (.unit spells_low hrest)

/-- Each spelling of a text may be quoted. -/
theorem SpellsText.quotable {text : String} {bytes : Bytes} (h : SpellsText text bytes) :
    Quotable bytes := by
  have hchars : ∀ {cs : List Char} {bytes : Bytes}, SpellsChars cs bytes → Quotable bytes := by
    intro cs bytes hspells
    induction hspells with
    | nil => exact .nil
    | cons first _ ih => exact first.quotable ih
  exact hchars h

/-- **A character is read** from each of its spellings. -/
theorem textFrom_of_spellsChar {c : Char} {bytes : Bytes} (h : SpellsChar c bytes)
    (done rest : Bytes) : textFrom .plain done (bytes ++ rest) =
      textFrom .plain ((String.utf8EncodeChar c).reverse ++ done) rest := by
  cases h with
  | plain least quote backslash =>
    exact textFrom_plain (plain_of_mem_utf8EncodeChar least quote backslash) done rest
  | short known =>
    obtain ⟨hshort, hbytes⟩ := shortEscape?_of_mem _ known
    rw [hbytes]
    exact textFrom_shortEscape hshort done rest
  | unit spells =>
    obtain ⟨hlow, hhigh⟩ := not_surrogate c
    have hchar : codePointBytes c.toNat = String.utf8EncodeChar c := by
      rw [codePointBytes, Char.ofNat_toNat]
    rw [List.cons_append, List.cons_append, textFrom_unit, textFrom_hex spells, ← hchar]
    simp only [hlow, hhigh, Bool.false_eq_true, if_false]
  | pair beyond spells_high spells_low =>
    have hmost : c.toNat < 0x110000 := by
      have hvalid : c.toNat < 0xD800 ∨ 0xDFFF < c.toNat ∧ c.toNat < 0x110000 := c.valid
      omega
    obtain ⟨hpoint, hfirst, hsecond⟩ := halves_spec beyond hmost
    have hchar : codePointBytes (pairedCodePoint (0xD800 + (c.toNat - 0x10000) / 0x400)
        (0xDC00 + (c.toNat - 0x10000) % 0x400)) = String.utf8EncodeChar c := by
      rw [hpoint, codePointBytes, Char.ofNat_toNat]
    rw [List.cons_append, List.cons_append, List.append_assoc, textFrom_unit,
      textFrom_hex spells_high]
    simp only [hfirst, Bool.false_eq_true, if_false, if_true]
    rw [List.cons_append, List.cons_append, textFrom_secondUnit, textFrom_hex spells_low]
    simp only [hsecond, if_true, hchar]

theorem textFrom_of_spellsChars {cs : List Char} {bytes : Bytes} (h : SpellsChars cs bytes)
    (done rest : Bytes) : textFrom .plain done (bytes ++ ascii '"' :: rest) =
      .ok (done.reverse ++ cs.flatMap String.utf8EncodeChar, rest) := by
  induction h generalizing done with
  | nil => simp [textFrom]
  | cons first others ih =>
    rw [List.append_assoc, textFrom_of_spellsChar first, ih]
    simp

/-- **A text is read** from each of its spellings. -/
theorem textLiteral_of_spells {text : String} {bytes : Bytes} (h : SpellsText text bytes)
    (rest : Bytes) : textLiteral (bytes ++ ascii '"' :: rest) = .ok (text, rest) := by
  have hbytes : text.toList.flatMap String.utf8EncodeChar = bytesOf text := by
    rw [← bytesOf_chars, String.ofList_toList]
  simp only [textLiteral, textFrom_of_spellsChars h, hbytes, bind, Except.bind, List.reverse_nil,
    List.nil_append, textOf?_bytesOf]

/-- A spelling is the spelling of one text only. -/
theorem SpellsText.eq {text other : String} {bytes : Bytes} (h : SpellsText text bytes)
    (hother : SpellsText other bytes) : text = other := by
  have hsame := (textLiteral_of_spells h []).symm.trans (textLiteral_of_spells hother [])
  injection hsame with hsame
  exact congrArg Prod.fst hsame

/-- **What may be quoted is skipped.** -/
theorem skipTextFrom_of_quotable {bytes : Bytes} (h : Quotable bytes) (rest : Bytes) :
    skipTextFrom .plain (bytes ++ ascii '"' :: rest) = .ok rest := by
  have hback : ascii '\\' ≠ ascii '"' := by decide
  induction h with
  | nil => simp [skipTextFrom]
  | plain least quote backslash others ih =>
    rw [List.cons_append, skipTextFrom, if_neg quote, if_neg backslash,
      if_neg (UInt8.not_lt.2 least), ih]
  | @short letter c rest known others ih =>
    have hsome : (shortEscape? (ascii letter)).isSome = true := by
      rw [(shortEscape?_of_mem _ known).1]
      rfl
    simp [skipTextFrom, hback, hsome, ih]
  | unit spells others ih =>
    have hletter : shortEscape? (ascii 'u') = none := by decide
    obtain ⟨hvalue, -⟩ := hexValue?_of_spellsUnit spells
    cases spells with
    | digits => simp [skipTextFrom, hback, hletter, hvalue, ih]

end VirtualTouchpad.Json
