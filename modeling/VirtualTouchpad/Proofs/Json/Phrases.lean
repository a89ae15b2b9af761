/-
# Skipping any value

Whatever the grammar allows as a value is skipped, and skipping stops where the value
ends (`skipValue_padded`).  This is an induction on the phrase: a value takes no more
steps than it has bytes, whatever brackets are open around it; what is said of the
elements of a list, or of the members of an object, includes the closing bracket, which
takes a step more.
-/
import VirtualTouchpad.Proofs.Json.Extents
import VirtualTouchpad.Proofs.Json.Grammar

namespace VirtualTouchpad.Json

/-! ## The start of a value -/

/-- Bytes that start with one that is neither blank nor closes a list. -/
def StartsValue (text : Bytes) : Prop :=
  ∃ b tail, text = b :: tail ∧ isBlankByte b = false ∧ b ≠ ascii ']'

theorem startsValue_numeral {n : Numeral} {text : Bytes} (h : n.WellFormed)
    (hspells : n.Spells text) : StartsValue text := by
  obtain ⟨b, tail, rfl, hstart, hblank⟩ := exists_start_of_spells h hspells
  refine ⟨b, tail, rfl, hblank, ?_⟩
  rintro rfl
  exact absurd hstart (by decide)

theorem startsValue_writeNat (n : Nat) : StartsValue (writeNat n) := by
  rw [writeNat_eq]
  exact startsValue_numeral (wellFormed_wholeNumeral n) (Numeral.spells_text _)

theorem startsValue_toString (n : Int) : StartsValue (bytesOf (toString n)) := by
  rw [bytesOf_toString_int]
  exact startsValue_numeral (wellFormed_intNumeral n) (Numeral.spells_text _)

theorem startsValue_inQuotes (inside : Bytes) : StartsValue (inQuotes inside) :=
  ⟨_, _, rfl, by decide, by decide⟩

theorem StartsValue.dropBlanks_eq {text : Bytes} (h : StartsValue text) (rest : Bytes) :
    dropBlanks (text ++ rest) = text ++ rest := by
  obtain ⟨b, tail, rfl, hblank, -⟩ := h
  exact dropBlanks_cons _ hblank

/-- Every value starts so. -/
theorem Phrase.startsValue {text : Bytes} (h : Phrase .value text) : StartsValue text := by
  cases h with
  | word known =>
    simp only [List.mem_cons, List.not_mem_nil, or_false] at known
    rcases known with rfl | rfl | rfl <;> exact ⟨_, _, rfl, by decide, by decide⟩
  | number wellFormed spells => exact startsValue_numeral wellFormed spells
  | text | emptyList | list | emptyObject | object =>
    exact ⟨_, _, rfl, by decide, by decide⟩

/-- Blanks before a value that is skipped do not matter. -/
theorem skipFrom_blanks {blanks : Bytes} (h : Blank blanks) (steps : Nat) (brackets : List Bracket)
    (rest : Bytes) : skipFrom (steps + 1) .value brackets (blanks ++ rest)
      = skipFrom (steps + 1) .value brackets rest := by
  simp only [skipFrom, skipOpening, dropBlanks_append h]

theorem skipFrom_scalar {input rest : Bytes} (h : skipOpening input = .ok (.scalar rest))
    (steps : Nat) (brackets : List Bracket) :
    skipFrom (steps + 1) .value brackets input = skipFrom steps .rest brackets rest := by
  simp only [skipFrom, h, bind, Except.bind]

/-! ### Values without parts -/

theorem skipOpening_phraseWord {word : String} (h : word ∈ ["null", "true", "false"])
    (rest : Bytes) : skipOpening (bytesOf word ++ rest) = .ok (.scalar rest) := by
  have hcons : ∀ (b : UInt8) (tail : String), bytesOf word = b :: bytesOf tail →
      isBlankByte b = false →
      (b, tail) ∈ [(ascii 'n', "ull"), (ascii 't', "rue"), (ascii 'f', "alse")] →
      skipOpening (bytesOf word ++ rest) = .ok (.scalar rest) := by
    intro b tail hword hblank hmem
    rw [hword, List.cons_append]
    exact skipOpening_word hmem (dropBlanks_cons _ hblank) (finishWord_append _ _)
  simp only [List.mem_cons, List.not_mem_nil, or_false] at h
  rcases h with rfl | rfl | rfl
  · exact hcons (ascii 'n') "ull" (by decide) (by decide) (by simp)
  · exact hcons (ascii 't') "rue" (by decide) (by decide) (by simp)
  · exact hcons (ascii 'f') "alse" (by decide) (by decide) (by simp)

theorem skipOpening_phraseNumber {n : Numeral} {text rest : Bytes} (h : n.WellFormed)
    (hspells : n.Spells text) (hrest : EndsNumber rest) :
    skipOpening (text ++ rest) = .ok (.scalar rest) := by
  have hscan := scanNumeral_of_spells .invalidNumber h hspells hrest
  obtain ⟨b, tail, rfl, hstart, hblank⟩ := exists_start_of_spells h hspells
  exact skipOpening_numeral (dropBlanks_cons _ hblank) hstart hscan

theorem skipOpening_phraseText {inside : Bytes} (h : Quotable inside) (rest : Bytes) :
    skipOpening (inQuotes inside ++ rest) = .ok (.scalar rest) := by
  rw [inQuotes, List.cons_append, List.append_assoc, List.singleton_append]
  exact skipOpening_quote (dropBlanks_cons _ (by decide)) (skipTextFrom_of_quotable h rest)

/-! ### Steps inside brackets -/

section Brackets

variable {blanks inside rest : Bytes} {brackets : List Bracket} {bracket : Bracket} (steps : Nat)

theorem isBlankByte_closing (bracket : Bracket) : isBlankByte bracket.closing = false := by
  cases bracket <;> decide

/-- The closing bracket, after a value. -/
theorem skipFrom_closing (h : Blank blanks) :
    skipFrom (steps + 1) .rest (bracket :: brackets) (blanks ++ bracket.closing :: rest)
      = skipFrom steps .rest brackets rest := by
  simp [skipFrom, dropBlanks_append h, isBlankByte_closing]

/-- A comma, after an element. -/
theorem skipFrom_comma_list (h : Blank blanks) :
    skipFrom (steps + 1) .rest (.list :: brackets) (blanks ++ ascii ',' :: rest)
      = skipFrom steps .value (.list :: brackets) rest := by
  have hblank : isBlankByte (ascii ',') = false := by decide
  have hclosing : ascii ',' ≠ Bracket.list.closing := by decide
  simp [skipFrom, dropBlanks_append h, hblank, hclosing]

/-- A comma, after a member. -/
theorem skipFrom_comma_object (h : Blank blanks) {value : Bytes} (hkey : skipKey rest = .ok value) :
    skipFrom (steps + 1) .rest (.object :: brackets) (blanks ++ ascii ',' :: rest)
      = skipFrom steps .value (.object :: brackets) value := by
  have hblank : isBlankByte (ascii ',') = false := by decide
  have hclosing : ascii ',' ≠ Bracket.object.closing := by decide
  simp [skipFrom, dropBlanks_append h, hblank, hclosing, hkey, bind, Except.bind]

/-- Brackets with nothing between them. -/
theorem skipFrom_empty {input : Bytes} (hopening : skipOpening input = .ok (.bracket bracket
      (blanks ++ bracket.closing :: rest))) (h : Blank blanks) :
    skipFrom (steps + 1) .value brackets input = skipFrom steps .rest brackets rest := by
  simp [skipFrom, hopening, dropBlanks_append h, isBlankByte_closing, bind, Except.bind]

/-- The first element of a list. -/
theorem skipFrom_list {input : Bytes} (hopening : skipOpening input = .ok (.bracket .list inside))
    {b : UInt8} {more : Bytes} (hblanks : dropBlanks inside = b :: more) (hb : b ≠ ascii ']') :
    skipFrom (steps + 1 + 1) .value brackets input
      = skipFrom (steps + 1) .value (.list :: brackets) inside := by
  have hclosing : b ≠ Bracket.list.closing := hb
  have hstart : skipFrom (steps + 1) .value (.list :: brackets) (b :: more)
      = skipFrom (steps + 1) .value (.list :: brackets) inside := by
    simp only [skipFrom, skipOpening, ← hblanks, dropBlanks_dropBlanks]
  rw [← hstart, skipFrom]
  simp only [hopening, hblanks, if_neg hclosing, bind, Except.bind]

/-- The key of a member. -/
theorem skipKey_member {member : MemberText} (hkey : Quotable member.key) (rest : Bytes) :
    skipKey (member.text ++ rest) = .ok (member.toPadded.text ++ rest) := by
  have hblanks : isBlankByte (ascii '"') = false ∧ isBlankByte (ascii ':') = false := by decide
  have hskip := skipTextFrom_of_quotable hkey
    (member.between ++ ascii ':' :: (member.toPadded.text ++ rest))
  simp only [MemberText.text, inQuotes, List.append_assoc, List.cons_append, List.nil_append,
    skipKey, dropBlanks_append member.blank_before, dropBlanks_cons _ hblanks.1, if_true, hskip, bind,
    Except.bind, dropColon, dropBlanks_append member.blank_between, dropBlanks_cons _ hblanks.2]

/-- The first member of an object. -/
theorem skipFrom_object {input value : Bytes}
    (hopening : skipOpening input = .ok (.bracket .object inside))
    (hkey : skipKey inside = .ok value) :
    skipFrom (steps + 1) .value brackets input
      = skipFrom steps .value (.object :: brackets) value := by
  unfold skipKey at hkey
  split at hkey
  · cases hkey
  · next b more hblanks =>
    split_ifs at hkey with hquote
    subst hquote
    have hclosing : ascii '"' ≠ Bracket.object.closing := by decide
    have hblank : isBlankByte (ascii '"') = false := by decide
    rw [skipFrom]
    simp only [hopening, hblanks, if_neg hclosing, bind, Except.bind, skipKey,
      dropBlanks_cons _ hblank, if_true]
    simp only [bind, Except.bind] at hkey
    rw [hkey]

end Brackets

/-! ## Values of any shape -/

/-- What skipping does with a part of a value, whatever is around it. -/
def Skips : Construct → Bytes → Prop
  | .value, text => ∃ taken < text.length, ∀ more brackets rest, EndsNumber rest →
      skipFrom (taken + 1 + more) .value brackets (text ++ rest) = skipFrom more .rest brackets rest
  | .elements, text => ∃ taken ≤ text.length, ∀ more brackets rest,
      skipFrom (taken + 1 + more) .value (.list :: brackets) (text ++ ascii ']' :: rest)
        = skipFrom more .rest brackets rest
  | .members, text => ∃ taken ≤ text.length, ∀ more brackets rest, ∃ value,
      skipKey (text ++ ascii '}' :: rest) = .ok value ∧
        skipFrom (taken + 1 + more) .value (.object :: brackets) value
          = skipFrom more .rest brackets rest

/-- A value without parts takes one step. -/
theorem skips_scalar {text : Bytes} (hsome : text ≠ [])
    (h : ∀ rest, EndsNumber rest → skipOpening (text ++ rest) = .ok (.scalar rest)) :
    Skips .value text := by
  refine ⟨0, List.length_pos_iff.2 hsome, fun more brackets rest hrest => ?_⟩
  rw [Nat.zero_add, Nat.add_comm]
  exact skipFrom_scalar (h rest hrest) more brackets

theorem endsNumber_closing (bracket : Bracket) (rest : Bytes) :
    EndsNumber (bracket.closing :: rest) := by
  cases bracket <;> exact endsNumber_cons _ (by decide)

theorem endsNumber_comma (rest : Bytes) : EndsNumber (ascii ',' :: rest) :=
  endsNumber_cons _ (by decide)

theorem Padded.length_value_le (padded : Padded) : padded.value.length ≤ padded.text.length := by
  simp only [Padded.text, List.length_append]
  omega

theorem MemberText.length_value_le (member : MemberText) :
    member.value.length ≤ member.text.length := by
  have hvalue := member.toPadded.length_value_le
  simp only [MemberText.text, List.length_append, List.length_cons]
  omega

/-- A value with blanks around it, of which those behind are left. -/
theorem skipFrom_padded {padded : Padded} {taken : Nat}
    (h : ∀ more brackets rest, EndsNumber rest →
      skipFrom (taken + 1 + more) .value brackets (padded.value ++ rest)
        = skipFrom more .rest brackets rest)
    (more : Nat) (brackets : List Bracket) {rest : Bytes} (hrest : EndsNumber rest) :
    skipFrom (taken + 1 + more) .value brackets (padded.text ++ rest)
      = skipFrom more .rest brackets (padded.behind ++ rest) := by
  rw [Padded.text, List.append_assoc, List.append_assoc, Nat.add_right_comm,
    skipFrom_blanks padded.blank_ahead, ← Nat.add_right_comm,
    h _ _ _ (endsNumber_append padded.blank_behind hrest)]

/-- The elements of a list start with a byte that does not close it. -/
theorem Phrase.exists_element_start {elements : Bytes} (h : Phrase .elements elements)
    (rest : Bytes) : ∃ b more, dropBlanks (elements ++ rest) = b :: more ∧ b ≠ ascii ']' := by
  have hpadded : ∀ {padded : Padded} (rest : Bytes), Phrase .value padded.value →
      ∃ b more, dropBlanks (padded.text ++ rest) = b :: more ∧ b ≠ ascii ']' := by
    intro padded rest hvalue
    rw [Padded.text, List.append_assoc, List.append_assoc, dropBlanks_append padded.blank_ahead,
      hvalue.startsValue.dropBlanks_eq]
    obtain ⟨b, tail, htext, -, hb⟩ := hvalue.startsValue
    exact ⟨b, _, by rw [htext]; rfl, hb⟩
  cases h with
  | element element inside => exact hpadded rest inside
  | elements element inside more =>
    rw [List.append_assoc]
    exact hpadded _ inside

/-- **Every part of a value is skipped.** -/
theorem skips_of_phrase {construct : Construct} {text : Bytes} (h : Phrase construct text) :
    Skips construct text := by
  have hlist : ∀ inside, skipOpening (ascii '[' :: inside) = .ok (.bracket .list inside) :=
    fun inside => skipOpening_list (dropBlanks_cons _ (by decide))
  have hobject : ∀ inside, skipOpening (ascii '{' :: inside) = .ok (.bracket .object inside) :=
    fun inside => skipOpening_object (dropBlanks_cons _ (by decide))
  induction h with
  | word known =>
    obtain ⟨b, tail, htext, -⟩ := (Phrase.word known).startsValue
    exact skips_scalar (by simp [htext]) fun rest _ => skipOpening_phraseWord known rest
  | number wellFormed spells =>
    obtain ⟨b, tail, htext, -⟩ := exists_start_of_spells wellFormed spells
    exact skips_scalar (by simp [htext]) fun rest => skipOpening_phraseNumber wellFormed spells
  | text quotable =>
    exact skips_scalar (by simp [inQuotes]) fun rest _ => skipOpening_phraseText quotable rest
  | emptyList blank =>
    refine ⟨0, by simp, fun more brackets rest _ => ?_⟩
    rw [Nat.zero_add, Nat.add_comm, List.cons_append, List.append_assoc]
    exact skipFrom_empty more (hlist _) blank
  | list inside ih =>
    obtain ⟨taken, htaken, hskip⟩ := ih
    refine ⟨taken + 1, by simp; omega, fun more brackets rest _ => ?_⟩
    obtain ⟨b, tail, hblanks, hb⟩ := inside.exists_element_start (ascii ']' :: rest)
    have hsteps : taken + 1 + 1 + more = taken + more + 1 + 1 := by omega
    have hinside : taken + more + 1 = taken + 1 + more := by omega
    rw [List.cons_append, List.append_assoc, hsteps]
    refine (skipFrom_list (taken + more) (hlist _) hblanks hb).trans ?_
    rw [hinside]
    exact hskip more brackets rest
  | emptyObject blank =>
    refine ⟨0, by simp, fun more brackets rest _ => ?_⟩
    rw [Nat.zero_add, Nat.add_comm, List.cons_append, List.append_assoc]
    exact skipFrom_empty more (hobject _) blank
  | object inside ih =>
    obtain ⟨taken, htaken, hskip⟩ := ih
    refine ⟨taken + 1, by simp; omega, fun more brackets rest _ => ?_⟩
    obtain ⟨value, hkey, hvalue⟩ := hskip more brackets rest
    have hsteps : taken + 1 + 1 + more = taken + 1 + more + 1 := by omega
    rw [List.cons_append, List.append_assoc, hsteps]
    exact (skipFrom_object (taken + 1 + more) (hobject _) hkey).trans hvalue
  | element element inside ih =>
    obtain ⟨taken, htaken, hskip⟩ := ih
    refine ⟨taken + 1, Nat.le_trans htaken element.length_value_le, fun more brackets rest => ?_⟩
    have hsteps : taken + 1 + 1 + more = taken + 1 + (more + 1) := by omega
    have hends : EndsNumber (ascii ']' :: rest) := endsNumber_closing .list rest
    rw [hsteps, skipFrom_padded hskip _ _ hends]
    exact skipFrom_closing more element.blank_behind
  | elements element inside more ih ihMore =>
    obtain ⟨taken, htaken, hskip⟩ := ih
    obtain ⟨later, hlater, hskipLater⟩ := ihMore
    have hlength := element.length_value_le
    refine ⟨taken + 1 + (later + 1), by simp; omega, fun more brackets rest => ?_⟩
    have hsteps : taken + 1 + (later + 1) + 1 + more = taken + 1 + (later + 1 + more + 1) := by
      omega
    rw [hsteps, List.append_assoc, List.cons_append, skipFrom_padded hskip _ _ (endsNumber_comma _),
      skipFrom_comma_list _ element.blank_behind]
    exact hskipLater more brackets rest
  | member member quotable inside ih =>
    obtain ⟨taken, htaken, hskip⟩ := ih
    refine ⟨taken + 1, Nat.le_trans htaken member.length_value_le, fun more brackets rest =>
      ⟨_, skipKey_member quotable _, ?_⟩⟩
    have hsteps : taken + 1 + 1 + more = taken + 1 + (more + 1) := by omega
    have hends : EndsNumber (ascii '}' :: rest) := endsNumber_closing .object rest
    rw [hsteps, skipFrom_padded hskip _ _ hends]
    exact skipFrom_closing more member.blank_behind
  | members member quotable inside more ih ihMore =>
    obtain ⟨taken, htaken, hskip⟩ := ih
    obtain ⟨later, hlater, hskipLater⟩ := ihMore
    have hlength := member.length_value_le
    refine ⟨taken + 1 + (later + 1), by simp; omega, fun more brackets rest => ?_⟩
    obtain ⟨value, hkey, hvalue⟩ := hskipLater more brackets rest
    have hsteps : taken + 1 + (later + 1) + 1 + more = taken + 1 + (later + 1 + more + 1) := by
      omega
    refine ⟨_, by rw [List.append_assoc]; exact skipKey_member quotable _, ?_⟩
    rw [hsteps, List.cons_append, skipFrom_padded hskip _ _ (endsNumber_comma _),
      skipFrom_comma_object _ member.blank_behind hkey]
    exact hvalue

/-- **A value is skipped** up to its end, with the blanks before it. -/
theorem skipValue_padded {padded : Padded} {rest : Bytes} (h : Phrase .value padded.value)
    (hrest : EndsNumber rest) :
    skipValue (padded.text ++ rest) = .ok (padded.behind ++ rest) := by
  obtain ⟨taken, htaken, hskip⟩ := skips_of_phrase h
  have hvalue := padded.length_value_le
  obtain ⟨more, hsteps⟩ : ∃ more, (padded.text ++ rest).length + 1 = taken + 1 + (more + 1) := by
    refine ⟨padded.text.length - taken + rest.length - 1, ?_⟩
    rw [List.length_append]
    omega
  rw [skipValue, hsteps, skipFrom_padded hskip _ _ hrest]
  rfl

theorem spans_padded {padded : Padded} {rest : Bytes} (h : Phrase .value padded.value)
    (hrest : EndsNumber rest) : Spans (padded.text ++ rest) (padded.behind ++ rest) :=
  spans_of_skipValue (skipValue_padded h hrest)

end VirtualTouchpad.Json
