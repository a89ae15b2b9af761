/-
# Written floats are read back

A finite 32-bit number is written as one of four layouts of its shortest
decimal.  `Decimal.numeral` names the parts of each, and says nothing new about
the digits: `scanned_numeral` puts them together to the decimal that
`scaledFloat_shortest` is about.
-/
import VirtualTouchpad.Proofs.Json.Singles
import VirtualTouchpad.Proofs.Json.Numerals

namespace VirtualTouchpad

namespace Json

/-! ## Zeros beside digits -/

theorem ofDigits_zeros_append (k : Nat) (digits : List Nat) :
    ofDigits (List.replicate k 0 ++ digits) = ofDigits digits := by
  induction k with
  | zero => rfl
  | succ k ih => rw [← ih]; rfl

theorem ofDigits_append_zeros (digits : List Nat) (k : Nat) :
    ofDigits (digits ++ List.replicate k 0) = ofDigits digits * 10 ^ k := by
  induction k with
  | zero => simp
  | succ k ih =>
    rw [List.replicate_succ', ← List.append_assoc, ofDigits_append, ih, pow_succ]
    simp only [List.foldl_cons, List.foldl_nil]
    ring

end Json

namespace Decimal

open Json

/-! ## The parts of a spelled decimal -/

/-- The parts of a decimal without an exponent, and with `.0` behind a whole number. -/
def positionalNumeral (negative : Bool) (d : Decimal) : Numeral :=
  let digits := decimalDigits d.digits
  let point : Int := digits.length + d.exponent
  if point ≤ 0 then ⟨negative, [0], List.replicate (-point).toNat 0 ++ digits, none⟩
  else if 0 ≤ d.exponent then
    ⟨negative, digits ++ List.replicate d.exponent.toNat 0, [0], none⟩
  else ⟨negative, digits.take point.toNat, digits.drop point.toNat, none⟩

/-- The parts of a decimal with one digit before the point and an exponent. -/
def scientificNumeral (negative : Bool) (d : Decimal) : Numeral :=
  let digits := decimalDigits d.digits
  let exponent := d.leadingExponent
  ⟨negative, digits.take 1, digits.drop 1,
    some (decide (exponent < 0), decimalDigits exponent.natAbs)⟩

/-- The parts of a decimal on the wire. -/
def numeral (negative : Bool) (d : Decimal) : Numeral :=
  if -6 ≤ d.leadingExponent ∧ d.leadingExponent ≤ 12 then d.positionalNumeral negative
  else d.scientificNumeral negative

/-- A decimal without superfluous zeros: zero is written with the exponent zero. -/
def Plain (d : Decimal) : Prop := 0 < d.digits ∨ d.exponent = 0

/-! ## Its text -/

/-- The bytes of a sign. -/
def signText (negative : Bool) : Bytes := if negative then [ascii '-'] else []

theorem text_positionalNumeral (negative : Bool) (d : Decimal) :
    (d.positionalNumeral negative).text = signText negative ++ bytesOf (d.positional ".0") := by
  have hlength : ((Nat.toDigits 10 d.digits).length : Int) = (decimalDigits d.digits).length := by
    rw [length_decimalDigits]
  have hdigits := bytesOf_digits d.digits
  have hsmall : ∀ c ∈ Nat.toDigits 10 d.digits, c.toNat < 128 :=
    fun c hc => toNat_lt_of_mem_toDigits hc
  have hzeros : ∀ k : Nat, ∀ c ∈ List.replicate k '0', c.toNat < 128 := by
    intro k c hc
    rw [List.eq_of_mem_replicate hc]
    decide
  have hlead : ∀ c ∈ "0.".toList, c.toNat < 128 := by simp
  have hzero : digitByte 0 = ascii '0' := by decide
  have hne := decimalDigits_ne_nil d.digits
  rw [positional, positionalNumeral, signText]
  simp only [hlength]
  split
  next hpoint =>
    rw [bytesOf_ofList]
    · simp [Numeral.text, Numeral.fractionText, Numeral.exponentText, hne, hdigits, hzero]
    · rw [List.forall_mem_append, List.forall_mem_append]
      exact ⟨⟨hlead, hzeros _⟩, hsmall⟩
  next hpoint =>
    split
    next hexp =>
      have hmark : bytesOf ".0" = [ascii '.', ascii '0'] := by decide
      rw [bytesOf_append, bytesOf_ofList (List.forall_mem_append.2 ⟨hsmall, hzeros _⟩), hmark]
      simp [Numeral.text, Numeral.fractionText, Numeral.exponentText, hdigits, hzero]
    next hexp =>
      have hdrop : (decimalDigits d.digits).drop
          (((decimalDigits d.digits).length + d.exponent).toNat) ≠ [] := by
        rw [Ne, List.drop_eq_nil_iff]
        omega
      rw [bytesOf_ofList]
      · simp [Numeral.text, Numeral.fractionText, Numeral.exponentText, hdrop, hdigits,
          List.map_take, List.map_drop]
      · rw [List.forall_mem_append, List.forall_mem_cons]
        exact ⟨fun c hc => hsmall c (List.mem_of_mem_take hc), by decide,
          fun c hc => hsmall c (List.mem_of_mem_drop hc)⟩

theorem text_scientificNumeral (negative : Bool) (d : Decimal) :
    (d.scientificNumeral negative).text = signText negative ++ bytesOf d.scientific := by
  have hmark : bytesOf (if d.leadingExponent < 0 then "e-" else "e+") =
      [ascii 'e', if d.leadingExponent < 0 then ascii '-' else ascii '+'] := by
    split <;> decide
  have hsmall : ∀ c ∈ Nat.toDigits 10 d.digits, c.toNat < 128 :=
    fun c hc => toNat_lt_of_mem_toDigits hc
  have hbyte : ∀ c ∈ Nat.toDigits 10 d.digits, digitByte (charDigit c) = ascii c :=
    fun c hc => (charDigit_spec (isDigit_of_mem_toDigits hc)).2.symm
  rw [scientific, scientificNumeral, signText, bytesOf_append, bytesOf_append, hmark,
    bytesOf_toString, decimalDigits]
  -- a point is written only if digits follow it
  rcases hcs : Nat.toDigits 10 d.digits with _ | ⟨digit, _ | ⟨next, rest⟩⟩
  · exact absurd hcs Nat.toDigits_ne_nil
  · rw [hcs] at hsmall hbyte
    rw [bytesOf_ofList hsmall]
    simp [Numeral.text, Numeral.fractionText, Numeral.exponentText, hbyte]
  · rw [hcs, List.forall_mem_cons] at hsmall hbyte
    have hrest := List.map_congr_left hbyte.2
    rw [bytesOf_ofList]
    · simpa [Numeral.text, Numeral.fractionText, Numeral.exponentText, hbyte.1] using hrest
    · exact List.forall_mem_cons.2 ⟨hsmall.1, List.forall_mem_cons.2 ⟨by decide, hsmall.2⟩⟩

/-- The text of a decimal on the wire. -/
theorem text_numeral (negative : Bool) (d : Decimal) :
    (d.numeral negative).text = signText negative ++ bytesOf (d.spell .wire) := by
  rw [numeral]
  split
  next h =>
    rw [text_positionalNumeral]
    exact congrArg _ (congrArg _ (if_pos h).symm)
  next h =>
    rw [text_scientificNumeral]
    exact congrArg _ (congrArg _ (if_neg h).symm)

/-! ## Its parts -/

/-- Digits from the front of a number's do not start with a superfluous zero either. -/
theorem take_decimalDigits (n k : Nat) :
    (decimalDigits n).take (k + 1) = [0] ∨
      ∃ d digits, (decimalDigits n).take (k + 1) = d :: digits ∧ d ≠ 0 := by
  rcases decimalDigits_eq_cons n with h | ⟨d, digits, h, hd⟩
  · exact .inl (by rw [h, List.take_succ_cons, List.take_nil])
  · exact .inr ⟨d, _, by rw [h, List.take_succ_cons], hd⟩

theorem wellFormed_positionalNumeral (negative : Bool) {d : Decimal} (h : d.Plain) :
    (d.positionalNumeral negative).WellFormed := by
  have hlt : ∀ n ∈ decimalDigits d.digits, n < 10 := fun n hn => lt_of_mem_decimalDigits hn
  have hzeros : ∀ k : Nat, ∀ n ∈ List.replicate k 0, n < 10 := by
    intro k n hn
    rw [List.eq_of_mem_replicate hn]
    decide
  rw [positionalNumeral]
  split
  next => exact ⟨.inl rfl, by simp, List.forall_mem_append.2 ⟨hzeros _, hlt⟩, by simp⟩
  next hpoint =>
    split
    next hexp =>
      refine ⟨?_, List.forall_mem_append.2 ⟨hlt, hzeros _⟩, by simp, by simp⟩
      rcases decimalDigits_eq_cons d.digits with hzero | ⟨lead, digits, hcons, hlead⟩
      · have hvalue := ofDigits_decimalDigits d.digits
        rw [hzero] at hvalue
        have hexponent : d.exponent = 0 := h.resolve_left (by rw [← hvalue]; decide)
        exact .inl (by rw [hzero, hexponent]; rfl)
      · exact .inr ⟨lead, _, by rw [hcons]; rfl, hlead⟩
    next =>
      refine ⟨?_, fun n hn => hlt n (List.mem_of_mem_take hn),
        fun n hn => hlt n (List.mem_of_mem_drop hn), by simp⟩
      obtain ⟨k, hk⟩ : ∃ k, (((decimalDigits d.digits).length : Int) + d.exponent).toNat = k + 1 :=
        ⟨_, (Nat.succ_pred (by omega)).symm⟩
      rw [hk]
      exact take_decimalDigits d.digits k

theorem wellFormed_scientificNumeral (negative : Bool) (d : Decimal) :
    (d.scientificNumeral negative).WellFormed where
  whole := take_decimalDigits d.digits 0
  whole_lt n hn := lt_of_mem_decimalDigits (List.mem_of_mem_take hn)
  fraction_lt n hn := lt_of_mem_decimalDigits (List.mem_of_mem_drop hn)
  exponent := by
    rintro _ ⟨⟩
    exact ⟨decimalDigits_ne_nil _, fun n hn => lt_of_mem_decimalDigits hn⟩

theorem wellFormed_numeral (negative : Bool) {d : Decimal} (h : d.Plain) :
    (d.numeral negative).WellFormed := by
  rw [numeral]
  split
  · exact wellFormed_positionalNumeral negative h
  · exact wellFormed_scientificNumeral negative d

/-- The exponent of the parts is the one that is spelled. -/
theorem scale_numeral (negative : Bool) (d : Decimal) :
    (d.numeral negative).scale =
      if -6 ≤ d.leadingExponent ∧ d.leadingExponent ≤ 12 then 0 else d.leadingExponent := by
  rw [numeral]
  split
  · rw [positionalNumeral]
    repeat' split
    all_goals rfl
  · rw [scientificNumeral, Numeral.scale]
    simp only [ofDigits_decimalDigits, decide_eq_true_eq]
    split <;> omega

/-- All digits of the parts together, and what they are to be scaled by. -/
theorem scanned_numeral (negative : Bool) (d : Decimal) :
    let n := d.numeral negative
    ofDigits (n.whole ++ n.fraction) = d.scanned.1 ∧ n.scale - n.fraction.length = d.scanned.2 := by
  have hlength : 0 < (decimalDigits d.digits).length :=
    List.length_pos_iff.2 (decimalDigits_ne_nil _)
  have hlead : d.leadingExponent = (decimalDigits d.digits).length - 1 + d.exponent := by
    rw [leadingExponent, length_decimalDigits]
  dsimp only
  rw [scale_numeral, scanned, numeral]
  split
  next hshort =>
    rw [positionalNumeral]
    split
    next hpoint =>
      rw [if_neg (by omega)]
      refine ⟨?_, ?_⟩
      · exact (ofDigits_zeros_append (_ + 1) _).trans (ofDigits_decimalDigits _)
      · simp only [List.length_append, List.length_replicate]
        omega
    next hpoint =>
      split
      next hexp =>
        rw [if_pos ⟨hshort, hexp⟩]
        refine ⟨?_, rfl⟩
        rw [List.append_assoc, ← List.replicate_succ', ofDigits_append_zeros,
          ofDigits_decimalDigits]
      next hexp =>
        rw [if_neg (by omega)]
        refine ⟨?_, ?_⟩
        · rw [List.take_append_drop, ofDigits_decimalDigits]
        · rw [List.length_drop]
          omega
  next hlong =>
    rw [if_neg (by omega), scientificNumeral]
    refine ⟨?_, ?_⟩
    · rw [List.take_append_drop, ofDigits_decimalDigits]
    · rw [List.length_drop]
      omega

theorem negative_numeral (negative : Bool) (d : Decimal) :
    (d.numeral negative).negative = negative := by
  rw [numeral, positionalNumeral]
  repeat' split
  all_goals rfl

/-- A decimal on the wire has a fraction or an exponent. -/
theorem numeral_ne_whole (negative : Bool) (d : Decimal) :
    (d.numeral negative).fraction ≠ [] ∨ (d.numeral negative).exponent ≠ none := by
  have hne := decimalDigits_ne_nil d.digits
  rw [numeral]
  split
  · left
    rw [positionalNumeral]
    split
    · simp [hne]
    · split
      · simp
      · rw [Ne, List.drop_eq_nil_iff]
        omega
  · right
    simp [scientificNumeral]

end Decimal

namespace Json

open Binary

variable {x : Single}

/-! ## The text of a number -/

/-- The parts that a number is written with. -/
def singleNumeral (x : Single) : Numeral := (x.shortest .even).numeral x.negative

theorem writeSingle_eq (hx : x.IsFinite) : writeSingle x = (singleNumeral x).text := by
  have hsign : bytesOf (if x.negative then "-" else "") = Decimal.signText x.negative := by
    cases x.negative <;> decide
  rw [writeSingle, spell, reading_of_isFinite hx, singleNumeral, Decimal.text_numeral, ← hsign]
  exact bytesOf_append _ _

theorem plain_shortest (x : Single) : (x.shortest .even).Plain := by
  by_cases hc : x.coefficient = 0
  · rw [shortest, if_pos hc]
    exact .inr rfl
  · exact .inl (isShortest_shortest hc .even).digits_pos

theorem wellFormed_singleNumeral (x : Single) : (singleNumeral x).WellFormed :=
  Decimal.wellFormed_numeral _ (plain_shortest x)

theorem digits_shortest_lt (x : Single) : (x.shortest .even).digits < 2 ^ 30 := by
  by_cases hc : x.coefficient = 0
  · rw [shortest, if_pos hc]
    decide
  · exact (isShortest_shortest hc .even).digits_lt

/-- The decimal exponent of the leading digit is small. -/
theorem natAbs_leadingExponent_le (hx : x.IsFinite) :
    (x.shortest .even).leadingExponent.natAbs ≤ 209 := by
  by_cases hc : x.coefficient = 0
  · rw [shortest, if_pos hc]
    decide
  · have hexp := natAbs_exponent_le_of_isShortest hx (isShortest_shortest hc .even)
    have hdigits : (Nat.toDigits 10 (x.shortest .even).digits).length ≤ 10 :=
      (Nat.length_toDigits_le_iff (by decide) (by decide)).2
        ((digits_shortest_lt x).trans (by decide))
    have hpos : 0 < (Nat.toDigits 10 (x.shortest .even).digits).length :=
      Nat.length_toDigits_pos
    rw [Decimal.leadingExponent]
    omega

theorem unsignedFloat_singleNumeral (hx : x.IsFinite) :
    (singleNumeral x).unsignedFloat = .ok (floatFor (x.shortest .even)) := by
  obtain ⟨hdigits, hscale⟩ := (x.shortest .even).scanned_numeral x.negative
  have hsize : 2 ^ 53 < UInt64.size := by decide
  rw [← scaledFloat_shortest hx, ← hdigits, ← hscale]
  refine unsignedFloat_eq ?_ ?_
  · rw [singleNumeral, hdigits]
    exact (Decimal.scanned_lt (digits_shortest_lt x)).trans hsize
  · have hlead := natAbs_leadingExponent_le hx
    rw [singleNumeral, Decimal.scale_numeral]
    split <;> omega

/-- A number on the wire is read as a float, also if it is whole. -/
theorem value_singleNumeral (hx : x.IsFinite) : (singleNumeral x).value =
    .ok (.floating (if x.negative then (floatFor (x.shortest .even)).neg
      else floatFor (x.shortest .even))) := by
  have hsign : (singleNumeral x).negative = x.negative := Decimal.negative_numeral _ _
  have hfloat : (singleNumeral x).value = (singleNumeral x).float.map .floating :=
    value_eq_float (Decimal.numeral_ne_whole _ _)
  rw [hfloat, Numeral.float, unsignedFloat_singleNumeral hx, hsign]
  rfl

/-- A written 32-bit float is read back. -/
theorem takes_writeSingle (hx : x.IsFinite) : Takes readSingle (writeSingle x) x := by
  rw [writeSingle_eq hx]
  refine takes_text (wellFormed_singleNumeral x) (value_singleNumeral hx) ?_
  exact congrArg Except.ok (convert_of_roundsTo hx (roundsTo_shortest hx))

/-- What is no number is written as `null`. -/
theorem writeSingle_of_not_isFinite (hx : ¬ x.IsFinite) : writeSingle x = bytesOf "null" := by
  have htop : x.exponentField = BinaryFormat.single.topField := not_not.1 hx
  rw [writeSingle, spell, reading, if_pos htop]
  by_cases hinfinite : x.fractionField = 0
  · rw [if_pos hinfinite]; rfl
  · rw [if_neg hinfinite]; rfl

theorem printable_writeSingle (x : Single) : Printable (writeSingle x) := by
  by_cases hx : x.IsFinite
  · rw [writeSingle_eq hx]
    exact printable_text (wellFormed_singleNumeral x)
  · rw [writeSingle_of_not_isFinite hx]
    exact printable_of_ascii (by decide)

end Json

end VirtualTouchpad
