/-
# Written numbers are read back

`Numeral.Spells` relates a number to its texts, which differ in how the exponent
is marked and signed, and `scanNumeral_of_spells` says that the scanner finds the
number's parts again; `Numeral.text` is the text that is written.  What the parts
are worth follows from the value of all digits together, as long as that fits 64
bits (`unsignedFloat_eq`).
-/
import VirtualTouchpad.Proofs.Json.Texts

namespace VirtualTouchpad.Json

/-! ## Digits -/

/-- The byte of a digit. -/
def digitByte (d : Nat) : UInt8 := UInt8.ofNat (48 + d)

theorem digitByte_spec : ∀ d < 10, isDigitByte (digitByte d) = true ∧ digitValue (digitByte d) = d := by
  decide

/-- Whether no digit comes next. -/
def NoDigit (rest : Bytes) : Prop := ∀ b ∈ rest.head?, isDigitByte b = false

theorem takeDigits_digits {digits : List Nat} (h : ∀ d ∈ digits, d < 10) {rest : Bytes}
    (hrest : NoDigit rest) : takeDigits (digits.map digitByte ++ rest) = (digits, rest) := by
  have hdigits : ∀ b ∈ digits.map digitByte, isDigitByte b = true := by
    intro b hb
    obtain ⟨d, hd, rfl⟩ := List.mem_map.1 hb
    exact (digitByte_spec d (h d hd)).1
  have hvalues : (digits.map digitByte).map digitValue = digits := by
    rw [List.map_map]
    exact (List.map_congr_left fun d hd => (digitByte_spec d (h d hd)).2).trans (List.map_id _)
  have hnone : rest.takeWhile isDigitByte = [] ∧ rest.dropWhile isDigitByte = rest := by
    cases rest with
    | nil => exact ⟨rfl, rfl⟩
    | cons b rest =>
      have hb : isDigitByte b = false := hrest b rfl
      simp [hb]
  rw [takeDigits, List.takeWhile_append_of_pos hdigits, List.dropWhile_append_of_pos hdigits,
    hnone.1, hnone.2, List.append_nil, hvalues]

theorem noDigit_of_endsNumber {rest : Bytes} (h : EndsNumber rest) : NoDigit rest :=
  fun b hb => (h b hb).1

theorem someDigits_digits {digits : List Nat} (hne : digits ≠ []) (h : ∀ d ∈ digits, d < 10)
    {rest : Bytes} (hrest : NoDigit rest) (short : Fault) :
    someDigits short (digits.map digitByte ++ rest) = .ok (digits, rest) := by
  rw [someDigits, takeDigits_digits h hrest]
  cases digits with
  | nil => exact absurd rfl hne
  | cons d digits => rfl

/-! ## The parts of a number -/

namespace Numeral

/-- The text of an exponent. -/
def exponentText : Option (Bool × List Nat) → Bytes
  | none => []
  | some (negative, digits) =>
    ascii 'e' :: (if negative then ascii '-' else ascii '+') :: digits.map digitByte

/-- The text of a fraction. -/
def fractionText (digits : List Nat) : Bytes :=
  if digits = [] then [] else ascii '.' :: digits.map digitByte

/-- The text of a number. -/
def text (n : Numeral) : Bytes :=
  (if n.negative then [ascii '-'] else []) ++
    (n.whole.map digitByte ++ (fractionText n.fraction ++ exponentText n.exponent))

/-- The texts of an exponent: the mark is either letter, and a plus may be left out. -/
inductive SpellsExponent : Option (Bool × List Nat) → Bytes → Prop
  | none : SpellsExponent none []
  | some {mark : UInt8} {negative : Bool} {sign : Bytes} (digits : List Nat)
      (marks : mark = ascii 'e' ∨ mark = ascii 'E')
      (signs : sign = [ascii '-'] ∧ negative = true
        ∨ (sign = [] ∨ sign = [ascii '+']) ∧ negative = false) :
      SpellsExponent (some (negative, digits)) (mark :: (sign ++ digits.map digitByte))

/-- The texts of a number. -/
def Spells (n : Numeral) (text : Bytes) : Prop :=
  ∃ exponent, SpellsExponent n.exponent exponent ∧
    text = (if n.negative then [ascii '-'] else []) ++
      (n.whole.map digitByte ++ (fractionText n.fraction ++ exponent))

theorem spells_text (n : Numeral) : n.Spells n.text := by
  refine ⟨_, ?_, rfl⟩
  rcases n.exponent with _ | ⟨_ | _, digits⟩
  · exact .none
  · exact .some digits (.inl rfl) (.inr ⟨.inr rfl, rfl⟩)
  · exact .some digits (.inl rfl) (.inl ⟨rfl, rfl⟩)

/-- All parts are digits, there are some before the point and in the exponent, and no zero leads
others. -/
structure WellFormed (n : Numeral) : Prop where
  whole : n.whole = [0] ∨ ∃ d digits, n.whole = d :: digits ∧ d ≠ 0
  whole_lt : ∀ d ∈ n.whole, d < 10
  fraction_lt : ∀ d ∈ n.fraction, d < 10
  exponent : ∀ e ∈ n.exponent, e.2 ≠ [] ∧ ∀ d ∈ e.2, d < 10

end Numeral

section Scan

variable {exponent rest text : Bytes} (short : Fault)

theorem scanExponent_of_spells {value : Option (Bool × List Nat)}
    (hspells : Numeral.SpellsExponent value exponent)
    (h : ∀ e ∈ value, e.2 ≠ [] ∧ ∀ d ∈ e.2, d < 10) (hrest : EndsNumber rest) :
    scanExponent short (exponent ++ rest) = .ok (value, rest) := by
  cases hspells with
  | none =>
    cases rest with
    | nil => rfl
    | cons b rest =>
      obtain ⟨-, -, he, hE⟩ := hrest b rfl
      simp [scanExponent, he, hE]
  | @some mark negative sign digits marks signs =>
    obtain ⟨hne, hlt⟩ := h _ rfl
    have hdigits := someDigits_digits hne hlt (noDigit_of_endsNumber hrest) short
    have hsigns : ascii '+' ≠ ascii '-' := by decide
    rcases signs with ⟨rfl, rfl⟩ | ⟨rfl | rfl, rfl⟩
    · simp [scanExponent, marks, hdigits, Except.map]
    · -- Without a sign the digits come at once.
      have hplain : ∀ d < 10, digitByte d ≠ ascii '-' ∧ digitByte d ≠ ascii '+' := by decide
      obtain ⟨d, digits, rfl⟩ := List.exists_cons_of_ne_nil hne
      obtain ⟨hminus, hplus⟩ := hplain d (hlt d List.mem_cons_self)
      rw [List.map_cons, List.cons_append] at hdigits
      simp [scanExponent, marks, hminus, hplus, hdigits, Except.map]
    · simp [scanExponent, marks, hdigits, hsigns, Except.map]

/-- An exponent goes on no digits and no point. -/
theorem head?_of_spellsExponent {value : Option (Bool × List Nat)}
    (hspells : Numeral.SpellsExponent value exponent) (hrest : EndsNumber rest) :
    ∀ b ∈ (exponent ++ rest).head?, isDigitByte b = false ∧ b ≠ ascii '.' := by
  cases hspells with
  | none =>
    intro b hb
    obtain ⟨hdigit, hpoint, -, -⟩ := hrest b hb
    exact ⟨hdigit, hpoint⟩
  | some digits marks signs =>
    rintro b ⟨⟩
    rcases marks with rfl | rfl <;> decide

theorem scanFraction_text {fraction : List Nat} (h : ∀ d ∈ fraction, d < 10)
    (hrest : NoDigit rest) (hpoint : rest.head? ≠ some (ascii '.')) :
    scanFraction short (Numeral.fractionText fraction ++ rest) = .ok (fraction, rest) := by
  by_cases hne : fraction = []
  · subst hne
    cases rest with
    | nil => rfl
    | cons b rest =>
      have hb : b ≠ ascii '.' := by simpa using hpoint
      simp [Numeral.fractionText, scanFraction, hb]
  · simp only [Numeral.fractionText, if_neg hne, List.cons_append, scanFraction, if_true]
    exact someDigits_digits hne h hrest short

theorem noDigit_fractionText (fraction : List Nat) (hrest : NoDigit rest) :
    NoDigit (Numeral.fractionText fraction ++ rest) := by
  by_cases hne : fraction = []
  · simpa [Numeral.fractionText, hne] using hrest
  · have hpoint : isDigitByte (ascii '.') = false := by decide
    simp [Numeral.fractionText, hne, NoDigit, hpoint]

theorem scanWhole_text {whole : List Nat}
    (h : whole = [0] ∨ ∃ d digits, whole = d :: digits ∧ d ≠ 0) (hlt : ∀ d ∈ whole, d < 10)
    (hrest : NoDigit rest) :
    scanWhole short (whole.map digitByte ++ rest) = .ok (whole, rest) := by
  rcases h with rfl | ⟨d, digits, rfl, hd⟩
  · have hzero : digitByte 0 = ascii '0' := by decide
    have hnone : rest.head?.any isDigitByte = false := by
      cases rest with
      | nil => rfl
      | cons b rest => exact hrest b rfl
    simp [scanWhole, hzero, hnone]
  · have hlead : ∀ d < 10, d ≠ 0 → digitByte d ≠ ascii '0' := by decide
    have hd10 := hlt d List.mem_cons_self
    have htake := takeDigits_digits hlt hrest
    rw [List.map_cons, List.cons_append] at htake ⊢
    simp only [scanWhole, if_neg (hlead d hd10 hd), (digitByte_spec d hd10).1, if_true, htake]

theorem scanUnsigned_of_spells {n : Numeral} (h : n.WellFormed)
    (hspells : Numeral.SpellsExponent n.exponent exponent) (hrest : EndsNumber rest) :
    scanUnsigned short n.negative
      (n.whole.map digitByte ++ (Numeral.fractionText n.fraction ++ exponent) ++ rest) =
      .ok (n, rest) := by
  have hexponent := scanExponent_of_spells short hspells h.exponent hrest
  have hhead := head?_of_spellsExponent hspells hrest
  have hnoDigit : NoDigit (exponent ++ rest) := fun b hb => (hhead b hb).1
  have hpoint : (exponent ++ rest).head? ≠ some (ascii '.') := fun hb => (hhead _ hb).2 rfl
  have hfraction := scanFraction_text short h.fraction_lt hnoDigit hpoint
  have hwhole := scanWhole_text short h.whole h.whole_lt
    (noDigit_fractionText n.fraction hnoDigit)
  rw [List.append_assoc, List.append_assoc]
  simp only [scanUnsigned, hwhole, hfraction, hexponent, bind, Except.bind]

/-- The text of a number starts with a minus or a digit. -/
theorem exists_eq_cons_of_spells {n : Numeral} (h : n.WellFormed) (hspells : n.Spells text) :
    ∃ b tail, text = b :: tail ∧
      if n.negative then b = ascii '-' else isDigitByte b = true ∧ b ≠ ascii '-' := by
  obtain ⟨exponent, -, rfl⟩ := hspells
  cases hn : n.negative with
  | true => exact ⟨_, _, by rw [if_pos rfl]; rfl, rfl⟩
  | false =>
    have hdigit : ∀ d < 10, isDigitByte (digitByte d) = true ∧ digitByte d ≠ ascii '-' := by
      decide
    obtain ⟨d, digits, hwhole⟩ : ∃ d digits, n.whole = d :: digits := by
      rcases h.whole with h0 | ⟨d, digits, hd, -⟩
      · exact ⟨0, [], h0⟩
      · exact ⟨d, digits, hd⟩
    refine ⟨digitByte d, _, by rw [hwhole]; rfl, ?_⟩
    exact hdigit d (h.whole_lt d (by simp [hwhole]))

/-- The scanner finds the parts of a number in each of its texts. -/
theorem scanNumeral_of_spells {n : Numeral} (h : n.WellFormed) (hspells : n.Spells text)
    (hrest : EndsNumber rest) : scanNumeral short (text ++ rest) = .ok (n, rest) := by
  obtain ⟨b, tail, htext, hb⟩ := exists_eq_cons_of_spells h hspells
  obtain ⟨exponent, hexponent, hparts⟩ := hspells
  have hunsigned := scanUnsigned_of_spells short h hexponent hrest
  cases hn : n.negative with
  | true =>
    rw [hn] at hunsigned
    simpa [hparts, hn, scanNumeral] using hunsigned
  | false =>
    rw [hn] at hparts hunsigned hb
    rw [if_neg Bool.false_ne_true, List.nil_append] at hparts
    rw [← hparts, htext, List.cons_append] at hunsigned
    rw [htext, List.cons_append, scanNumeral, if_neg hb.2]
    exact hunsigned

end Scan

/-! ## What the parts are worth -/

theorem ofDigits_append (digits more : List Nat) :
    ofDigits (digits ++ more) = more.foldl (10 * · + ·) (ofDigits digits) := by
  rw [ofDigits, List.foldl_append, ofDigits]

theorem le_foldl_digits (n : Nat) (digits : List Nat) : n ≤ digits.foldl (10 * · + ·) n := by
  induction digits generalizing n with
  | nil => exact Nat.le_refl n
  | cons d digits ih => exact Nat.le_trans (by omega) (ih (10 * n + d))

/-- Digits that fit are all taken. -/
theorem absorb_eq {n : Nat} {digits : List Nat}
    (h : digits.foldl (10 * · + ·) n < UInt64.size) :
    absorb n digits = (digits.foldl (10 * · + ·) n, []) := by
  induction digits generalizing n with
  | nil => rfl
  | cons d digits ih =>
    have hfits : 10 * n + d < UInt64.size := Nat.lt_of_le_of_lt (le_foldl_digits _ digits) h
    rw [absorb, if_pos hfits, ih h, List.foldl_cons]

/-- The exponent of a number, as it is spelled. -/
def Numeral.scale (n : Numeral) : Int :=
  match n.exponent with
  | none => 0
  | some (negative, digits) => if negative then -(ofDigits digits : Int) else ofDigits digits

/-- The float for a number whose digits fit 64 bits. -/
theorem unsignedFloat_eq {n : Numeral} (hfits : ofDigits (n.whole ++ n.fraction) < UInt64.size)
    (hscale : n.scale.natAbs < 0x80000000) :
    n.unsignedFloat = scaledFloat (ofDigits (n.whole ++ n.fraction)) (n.scale - n.fraction.length) := by
  rw [ofDigits_append] at hfits ⊢
  have hwhole : absorb 0 n.whole = (ofDigits n.whole, []) :=
    absorb_eq (Nat.lt_of_le_of_lt (le_foldl_digits _ n.fraction) hfits)
  have hfraction := absorb_eq hfits
  rw [Numeral.unsignedFloat, hwhole]
  simp only [hfraction, List.length_nil, Nat.sub_zero]
  cases hexponent : n.exponent with
  | none => simp [Numeral.scale, hexponent]
  | some e =>
    obtain ⟨negative, digits⟩ := e
    have hsmall : ¬ 0x80000000 ≤ ofDigits digits := by
      simp only [Numeral.scale, hexponent] at hscale
      split at hscale <;> omega
    simp only [if_neg hsmall, Numeral.scale, hexponent]
    congr 1
    split <;> omega

/-- A number with a fraction or an exponent is a float. -/
theorem value_eq_float {n : Numeral} (h : n.fraction ≠ [] ∨ n.exponent ≠ none) :
    n.value = n.float.map .floating := by
  have hnot (left : List Nat) : ¬ (n.fraction = [] ∧ n.exponent = none ∧ left = []) :=
    fun hall => h.elim (fun hf => hf hall.1) fun he => he hall.2.1
  simp only [Numeral.value, if_neg (hnot _)]

/-- The first byte of a number is no blank. -/
theorem exists_start_of_spells {n : Numeral} {text : Bytes} (h : n.WellFormed)
    (hspells : n.Spells text) : ∃ b tail, text = b :: tail ∧
      (b = ascii '-' ∨ isDigitByte b = true) ∧ isBlankByte b = false := by
  obtain ⟨b, tail, htext, hb⟩ := exists_eq_cons_of_spells h hspells
  have hstart : b = ascii '-' ∨ isDigitByte b = true := by
    split at hb
    · exact .inl hb
    · exact .inr hb.1
  refine ⟨b, tail, htext, hstart, ?_⟩
  by_contra hblank
  simp only [isBlankByte, Bool.not_eq_false, Bool.or_eq_true, beq_iff_eq] at hblank
  revert hstart
  obtain ((rfl | rfl) | rfl) | rfl := hblank <;> decide

theorem exists_text_start {n : Numeral} (h : n.WellFormed) : ∃ b tail, n.text = b :: tail ∧
    (b = ascii '-' ∨ isDigitByte b = true) ∧ isBlankByte b = false :=
  exists_start_of_spells h n.spells_text

theorem readNumber_of_spells {n : Numeral} {number : Number} {text : Bytes} (h : n.WellFormed)
    (hspells : n.Spells text) (hvalue : n.value = .ok number) {rest : Bytes}
    (hrest : EndsNumber rest) : readNumber (text ++ rest) = .ok (number, rest) := by
  simp only [readNumber, scanNumeral_of_spells (.ended .value) h hspells hrest, hvalue, bind,
    Except.bind]

theorem readNumber_text {n : Numeral} {number : Number} (h : n.WellFormed)
    (hvalue : n.value = .ok number) {rest : Bytes} (hrest : EndsNumber rest) :
    readNumber (n.text ++ rest) = .ok (number, rest) :=
  readNumber_of_spells h n.spells_text hvalue hrest

/-- A reader of numbers takes each text of a number. -/
theorem takes_of_spells {α : Type} {n : Numeral} {number : Number} {value : α} {text : Bytes}
    {expected : String} {accept : Number → Except Fault α} (h : n.WellFormed)
    (hspells : n.Spells text) (hvalue : n.value = .ok number) (haccept : accept number = .ok value) :
    Takes (readNumeric expected accept) text value := by
  intro rest hrest
  have hread := readNumber_of_spells h hspells hvalue hrest
  obtain ⟨b, tail, htext, hstart, hblank⟩ := exists_start_of_spells h hspells
  rw [htext, List.cons_append] at hread ⊢
  simp only [readNumeric, dropBlanks_cons _ hblank, if_pos hstart, hread, haccept, bind,
    Except.bind]

theorem takes_text {α : Type} {n : Numeral} {number : Number} {value : α} {expected : String}
    {accept : Number → Except Fault α} (h : n.WellFormed) (hvalue : n.value = .ok number)
    (haccept : accept number = .ok value) : Takes (readNumeric expected accept) n.text value :=
  takes_of_spells h n.spells_text hvalue haccept

/-- The text of a number is printable. -/
theorem printable_text {n : Numeral} (h : n.WellFormed) : Printable n.text := by
  have hdigit : ∀ d < 10, isPrintableAscii (digitByte d) = true := by decide
  have hdigits : ∀ {digits : List Nat}, (∀ d ∈ digits, d < 10) →
      Printable (digits.map digitByte) := by
    intro digits hlt
    refine printable_of_ascii (List.all_eq_true.2 fun b hb => ?_)
    obtain ⟨d, hd, rfl⟩ := List.mem_map.1 hb
    exact hdigit d (hlt d hd)
  refine .append ?_ (.append (hdigits h.whole_lt) (.append ?_ ?_))
  · split
    · exact printable_of_ascii (by decide)
    · exact printable_nil
  · rw [Numeral.fractionText]
    split
    · exact printable_nil
    · exact .cons (by decide) (hdigits h.fraction_lt)
  · match hexponent : n.exponent with
    | none => exact printable_nil
    | some (negative, digits) =>
      refine .cons (by decide) (.cons ?_ (hdigits (h.exponent _ hexponent).2))
      split <;> decide

/-! ## Whole numbers -/

/-- The value of a decimal digit. -/
def charDigit (c : Char) : Nat := c.toNat - 48

theorem isDigit_iff_toNat (c : Char) : c.isDigit = true ↔ 48 ≤ c.toNat ∧ c.toNat ≤ 57 := by
  simp [Char.isDigit, UInt32.le_iff_toNat_le]

theorem charDigit_spec {c : Char} (h : c.isDigit = true) :
    charDigit c < 10 ∧ ascii c = digitByte (charDigit c) := by
  obtain ⟨hlow, hhigh⟩ := (isDigit_iff_toNat c).1 h
  refine ⟨by rw [charDigit]; omega, ?_⟩
  rw [digitByte, charDigit, Nat.add_sub_cancel' hlow]
  rfl

/-- The decimal digits of a number. -/
def decimalDigits (n : Nat) : List Nat := (Nat.toDigits 10 n).map charDigit

theorem isDigit_of_mem_toDigits {n : Nat} {c : Char} (h : c ∈ Nat.toDigits 10 n) :
    c.isDigit = true :=
  Nat.isDigit_of_mem_toDigits (by decide) (by decide) h

theorem map_ascii_digits {cs : List Char} (h : ∀ c ∈ cs, c.isDigit = true) :
    cs.map ascii = (cs.map charDigit).map digitByte := by
  rw [List.map_map]
  exact List.map_congr_left fun c hc => (charDigit_spec (h c hc)).2

theorem lt_of_mem_decimalDigits {n d : Nat} (h : d ∈ decimalDigits n) : d < 10 := by
  obtain ⟨c, hc, rfl⟩ := List.mem_map.1 h
  exact (charDigit_spec (isDigit_of_mem_toDigits hc)).1

theorem ofDigits_decimalDigits (n : Nat) : ofDigits (decimalDigits n) = n := by
  rw [ofDigits, decimalDigits, List.foldl_map]
  exact Nat.ofDigitChars_toDigits (by decide) (by decide)

/-- No zero leads the digits of a number, but for zero itself. -/
theorem decimalDigits_eq_cons (n : Nat) :
    decimalDigits n = [0] ∨ ∃ d digits, decimalDigits n = d :: digits ∧ d ≠ 0 := by
  induction n using Nat.strongRecOn with
  | ind n ih =>
    have hdigit : ∀ d < 10, charDigit (Nat.digitChar d) = d := by decide
    rw [decimalDigits, Nat.toDigits_eq_if (by decide)]
    split
    next hlt =>
      rw [List.map_singleton, hdigit n hlt]
      rcases Nat.eq_zero_or_pos n with rfl | hpos
      · exact .inl rfl
      · exact .inr ⟨n, [], rfl, hpos.ne'⟩
    next hge =>
      rw [List.map_append]
      rcases ih (n / 10) (by omega) with hzero | ⟨d, digits, hcons, hd⟩
      · have hvalue := ofDigits_decimalDigits (n / 10)
        rw [hzero] at hvalue
        have : n / 10 = 0 := hvalue.symm
        omega
      · rw [decimalDigits] at hcons
        rw [hcons]
        exact .inr ⟨d, _, rfl, hd⟩

theorem length_decimalDigits (n : Nat) : (decimalDigits n).length = (Nat.toDigits 10 n).length :=
  List.length_map _

theorem toNat_lt_of_mem_toDigits {n : Nat} {c : Char} (h : c ∈ Nat.toDigits 10 n) :
    c.toNat < 128 := by
  have := (isDigit_iff_toNat c).1 (isDigit_of_mem_toDigits h)
  omega

theorem bytesOf_digits (n : Nat) :
    (Nat.toDigits 10 n).map ascii = (decimalDigits n).map digitByte :=
  map_ascii_digits fun _ hc => isDigit_of_mem_toDigits hc

theorem bytesOf_toString (n : Nat) : bytesOf (toString n) = (decimalDigits n).map digitByte := by
  rw [Nat.toString_eq_ofList_toDigits, bytesOf_ofList fun _ hc => toNat_lt_of_mem_toDigits hc,
    bytesOf_digits]

theorem decimalDigits_ne_nil (n : Nat) : decimalDigits n ≠ [] := by
  rcases decimalDigits_eq_cons n with h | ⟨d, digits, h, -⟩ <;> simp [h]

/-- The parts of a whole number. -/
def wholeNumeral (n : Nat) : Numeral := ⟨false, decimalDigits n, [], none⟩

theorem writeNat_eq (n : Nat) : writeNat n = (wholeNumeral n).text := by
  rw [writeNat, bytesOf_toString]
  simp [wholeNumeral, Numeral.text, Numeral.fractionText, Numeral.exponentText]

theorem wellFormed_wholeNumeral (n : Nat) : (wholeNumeral n).WellFormed where
  whole := decimalDigits_eq_cons n
  whole_lt _ hd := lt_of_mem_decimalDigits hd
  fraction_lt := by simp [wholeNumeral]
  exponent := by simp [wholeNumeral]

theorem value_wholeNumeral {n : Nat} (h : n < UInt64.size) :
    (wholeNumeral n).value = .ok (.whole n) := by
  have hfold : (decimalDigits n).foldl (10 * · + ·) 0 = n := ofDigits_decimalDigits n
  have habsorb : absorb 0 (decimalDigits n) = (n, []) := by
    rw [absorb_eq (by rwa [hfold]), hfold]
  simp [Numeral.value, wholeNumeral, habsorb]

theorem printable_writeNat (n : Nat) : Printable (writeNat n) := by
  rw [writeNat_eq]
  exact printable_text (wellFormed_wholeNumeral n)

/-- A written number is read back. -/
theorem takes_writeNat {n bound : Nat} (hn : n < UInt64.size) (hbound : n < bound)
    (expected : String) : Takes (readUnsigned expected bound) (writeNat n) n := by
  rw [writeNat_eq]
  exact takes_text (wellFormed_wholeNumeral n) (value_wholeNumeral hn) (if_pos hbound)

theorem takes_uint64 (n : UInt64) : Takes readUInt64 (writeNat n.toNat) n := by
  intro rest hrest
  have hread := takes_writeNat n.toNat_lt n.toNat_lt "usize" rest hrest
  simp [readUInt64, hread, Except.map]

theorem takes_uint32 (n : UInt32) : Takes readUInt32 (writeNat n.toNat) n := by
  intro rest hrest
  have hsize : UInt32.size < UInt64.size := by decide
  have hread := takes_writeNat (n.toNat_lt.trans hsize) n.toNat_lt "u32" rest hrest
  simp [readUInt32, hread, Except.map]

/-! ## Signed numbers -/

/-- The parts of a signed whole number. -/
def intNumeral (n : Int) : Numeral := ⟨n < 0, decimalDigits n.natAbs, [], none⟩

theorem bytesOf_toString_int (n : Int) : bytesOf (toString n) = (intNumeral n).text := by
  have hplain : (intNumeral n).text
      = (if n < 0 then [ascii '-'] else []) ++ bytesOf (toString n.natAbs) := by
    rw [bytesOf_toString]
    simp [intNumeral, Numeral.text, Numeral.fractionText, Numeral.exponentText]
  rw [hplain]
  cases n with
  | ofNat n =>
    have hnonneg : ¬ Int.ofNat n < 0 := Int.not_lt.2 (Int.natCast_nonneg n)
    rw [if_neg hnonneg]
    rfl
  | negSucc n =>
    have hsign : toString (Int.negSucc n) = "-" ++ toString (n + 1) := rfl
    rw [hsign, bytesOf_append, if_pos (Int.negSucc_lt_zero n)]
    rfl

theorem wellFormed_intNumeral (n : Int) : (intNumeral n).WellFormed where
  whole := decimalDigits_eq_cons n.natAbs
  whole_lt _ hd := lt_of_mem_decimalDigits hd
  fraction_lt := by simp [intNumeral]
  exponent := by simp [intNumeral]

theorem value_intNumeral {n : Int} (h : n.natAbs < 0x8000000000000000) :
    (intNumeral n).value = .ok (if n < 0 then .negative n.natAbs else .whole n.natAbs) := by
  have hfold : (decimalDigits n.natAbs).foldl (10 * · + ·) 0 = n.natAbs :=
    ofDigits_decimalDigits n.natAbs
  have habsorb : absorb 0 (decimalDigits n.natAbs) = (n.natAbs, []) := by
    have hsize : UInt64.size = 0x10000000000000000 := rfl
    rw [absorb_eq (by rw [hfold]; omega), hfold]
  by_cases hneg : n < 0
  · have hrange : n ≠ 0 ∧ n.natAbs ≤ 0x8000000000000000 := by omega
    simp [Numeral.value, intNumeral, habsorb, hneg, hrange]
  · simp [Numeral.value, intNumeral, habsorb, hneg]

theorem takes_int32 (n : Int32) : Takes readInt32 (bytesOf (toString n.toInt)) n := by
  have hlow := n.le_toInt
  have hhigh := n.toInt_lt
  have hself : Int32.ofInt n.toInt = n := Int32.ofInt_toInt n
  rw [bytesOf_toString_int]
  refine takes_text (wellFormed_intNumeral _) (value_intNumeral (by omega)) ?_
  by_cases hneg : n.toInt < 0
  · have hvalue : -(n.toInt.natAbs : Int) = n.toInt := by omega
    simp only [if_pos hneg, if_pos (show n.toInt.natAbs ≤ 0x80000000 by omega), hvalue, hself]
  · have hvalue : (n.toInt.natAbs : Int) = n.toInt := by omega
    simp only [if_neg hneg, if_pos (show n.toInt.natAbs < 0x80000000 by omega), hvalue, hself]

end VirtualTouchpad.Json
