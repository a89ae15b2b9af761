/-
# Readers take whole values

Every reader of a value that takes one stops where the value ends (`Spanning`), the
readers of known shapes as well as the one of values of any shape.  So all that
take the same bytes leave the same rest (`Spans.eq_rest`).
-/
import VirtualTouchpad.Proofs.Json.Skipping
import VirtualTouchpad.Proofs.Json.Texts

namespace VirtualTouchpad.Json

variable {α β δ : Type} {input inside mid rest : Bytes}

/-- A reader that takes something takes exactly one value. -/
def Spanning (read : Reader α) : Prop :=
  ∀ ⦃input : Bytes⦄ ⦃value : α⦄ ⦃rest : Bytes⦄, read input = .ok (value, rest) → Spans input rest

/-- A whole text that is read starts with a value. -/
theorem exists_rest_of_readAll {read : Reader α} {value : α}
    (h : readAll read input = .ok value) : ∃ rest, read input = .ok (value, rest) := by
  obtain ⟨⟨found, rest⟩, hread, hend⟩ := bind_eq_ok.1 h
  dsimp only at hend
  split at hend
  · cases hend
    exact ⟨rest, hread⟩
  · cases hend

/-! ## What values start with -/

theorem skipOpening_word {b : UInt8} {word : String}
    (hword : (b, word) ∈ [(ascii 'n', "ull"), (ascii 't', "rue"), (ascii 'f', "alse")])
    (hblanks : dropBlanks input = b :: mid) (h : finishWord (bytesOf word) mid = .ok rest) :
    skipOpening input = .ok (.scalar rest) := by
  have htrue : ascii 't' ≠ ascii 'n' := by decide
  have hfalse : ascii 'f' ≠ ascii 'n' ∧ ascii 'f' ≠ ascii 't' := by decide
  simp only [List.mem_cons, Prod.mk.injEq, List.not_mem_nil, or_false] at hword
  rcases hword with ⟨rfl, rfl⟩ | ⟨rfl, rfl⟩ | ⟨rfl, rfl⟩
  · simp only [skipOpening, hblanks, if_true, h, Except.map]
  · simp only [skipOpening, hblanks, if_neg htrue, if_true, h, Except.map]
  · simp only [skipOpening, hblanks, if_neg hfalse.1, if_neg hfalse.2, if_true, h, Except.map]

theorem skipOpening_numeral {b : UInt8} {numeral : Numeral} (hblanks : dropBlanks input = b :: mid)
    (hb : b = ascii '-' ∨ isDigitByte b)
    (h : scanNumeral .invalidNumber (b :: mid) = .ok (numeral, rest)) :
    skipOpening input = .ok (.scalar rest) := by
  have hletter : b ≠ ascii 'n' ∧ b ≠ ascii 't' ∧ b ≠ ascii 'f' := by
    refine ⟨?_, ?_, ?_⟩ <;>
      rintro rfl <;>
      revert hb <;>
      decide
  simp only [skipOpening, hblanks, if_neg hletter.1, if_neg hletter.2.1, if_neg hletter.2.2,
    if_pos hb, h, Except.map]

theorem skipOpening_number {b : UInt8} {number : Number} (hblanks : dropBlanks input = b :: mid)
    (hb : b = ascii '-' ∨ isDigitByte b) (h : readNumber (b :: mid) = .ok (number, rest)) :
    skipOpening input = .ok (.scalar rest) := by
  obtain ⟨numeral, hscan⟩ := scanNumeral_of_readNumber h
  exact skipOpening_numeral hblanks hb hscan

theorem skipOpening_quote (hblanks : dropBlanks input = ascii '"' :: mid)
    (h : skipTextFrom .plain mid = .ok rest) : skipOpening input = .ok (.scalar rest) := by
  have hothers : ascii '"' ≠ ascii 'n' ∧ ascii '"' ≠ ascii 't' ∧ ascii '"' ≠ ascii 'f' ∧
      ¬ (ascii '"' = ascii '-' ∨ isDigitByte (ascii '"') = true) := by decide
  obtain ⟨hn, ht, hf, hdigit⟩ := hothers
  simp only [skipOpening, hblanks, if_neg hn, if_neg ht, if_neg hf, if_neg hdigit, if_true, h,
    Except.map]

theorem skipOpening_text {text : String} (hblanks : dropBlanks input = ascii '"' :: mid)
    (h : textLiteral mid = .ok (text, rest)) : skipOpening input = .ok (.scalar rest) :=
  skipOpening_quote hblanks (skipTextFrom_of_textLiteral h)

theorem skipOpening_list (hblanks : dropBlanks input = ascii '[' :: inside) :
    skipOpening input = .ok (.bracket .list inside) := by
  have hothers : ascii '[' ≠ ascii 'n' ∧ ascii '[' ≠ ascii 't' ∧ ascii '[' ≠ ascii 'f' ∧
      ¬ (ascii '[' = ascii '-' ∨ isDigitByte (ascii '[') = true) ∧ ascii '[' ≠ ascii '"' := by
    decide
  obtain ⟨hn, ht, hf, hdigit, hquote⟩ := hothers
  simp only [skipOpening, hblanks, if_neg hn, if_neg ht, if_neg hf, if_neg hdigit, if_neg hquote,
    if_true]

theorem skipOpening_object (hblanks : dropBlanks input = ascii '{' :: inside) :
    skipOpening input = .ok (.bracket .object inside) := by
  have hothers : ascii '{' ≠ ascii 'n' ∧ ascii '{' ≠ ascii 't' ∧ ascii '{' ≠ ascii 'f' ∧
      ¬ (ascii '{' = ascii '-' ∨ isDigitByte (ascii '{') = true) ∧ ascii '{' ≠ ascii '"' ∧
      ascii '{' ≠ ascii '[' := by
    decide
  obtain ⟨hn, ht, hf, hdigit, hquote, hlist⟩ := hothers
  simp only [skipOpening, hblanks, if_neg hn, if_neg ht, if_neg hf, if_neg hdigit, if_neg hquote,
    if_neg hlist, if_true]

/-! ## Values without parts -/

theorem spanning_readText (expected : String) : Spanning (readText expected) := by
  intro input text rest h
  unfold readText at h
  split at h
  · cases h
  · next b mid hblanks =>
    split_ifs at h with hquote
    subst hquote
    exact spans_scalar (skipOpening_text hblanks h)

theorem spanning_readNull (expected : String) : Spanning (readNull expected) := by
  intro input _ rest h
  unfold readNull at h
  split at h
  · cases h
  · next b mid hblanks =>
    split_ifs at h with hb
    obtain ⟨after, hword, h⟩ := map_eq_ok.1 h
    cases h
    exact spans_scalar (skipOpening_word (by simp [hb]) hblanks hword)

theorem spanning_readNumeric (expected : String) (accept : Number → Except Fault α) :
    Spanning (readNumeric expected accept) := by
  intro input value rest h
  unfold readNumeric at h
  split at h
  · cases h
  · next b mid hblanks =>
    split_ifs at h with hb
    obtain ⟨⟨number, after⟩, hnumber, h⟩ := bind_eq_ok.1 h
    obtain ⟨accepted, -, h⟩ := bind_eq_ok.1 h
    cases h
    exact spans_scalar (skipOpening_number hblanks hb hnumber)

/-- What becomes of a value does not matter. -/
theorem Spanning.map {read : Reader α} (h : Spanning read) (f : α → β) :
    Spanning fun input => (read input).map fun (value, rest) => (f value, rest) := by
  intro input value rest hread
  obtain ⟨⟨_, after⟩, hread, heq⟩ := map_eq_ok.1 hread
  cases heq
  exact h hread

theorem spanning_readUInt64 : Spanning readUInt64 := (spanning_readNumeric ..).map _

theorem spanning_readUInt32 : Spanning readUInt32 := (spanning_readNumeric ..).map _

theorem spanning_readSingle : Spanning readSingle := spanning_readNumeric ..

/-! ## Records -/

section Records

variable {shape : RecordShape δ α} {fields : List (RecordField δ)}

/-- Every field of a record takes a whole value. -/
def FieldsSpan (fields : List (RecordField δ)) : Prop :=
  ∀ field ∈ fields, ∀ draft, Spanning (field.read draft)

theorem spanning_keep {name : String} {kept : δ → Option α} {read : Reader α}
    {store : δ → α → δ} (h : Spanning read) (draft : δ) :
    Spanning ((RecordField.keep name kept read store).read draft) :=
  h.map (store draft)

theorem closes_readElements (h : FieldsSpan fields) {index : Nat} {draft final : δ}
    (hread : readElements shape fields index draft input = .ok (final, rest)) :
    Closes .list (index = 0) input rest := by
  induction fields generalizing index draft input with
  | nil =>
    obtain ⟨after, hclose, heq⟩ := map_eq_ok.1 hread
    cases heq
    exact closes_of_closing _ (closeList_closed hclose)
  | cons field fields ih =>
    obtain ⟨next, hnext, hread⟩ := bind_eq_ok.1 hread
    cases next with
    | closed after =>
      dsimp only at hread
      split_ifs at hread
      cases hread
      exact closes_of_closing _ (nextElement_closed hnext)
    | entry mid =>
      obtain ⟨⟨draft, after⟩, hfield, hread⟩ := bind_eq_ok.1 hread
      have hspan := h field List.mem_cons_self _ hfield
      have hothers : FieldsSpan fields := fun field hmem => h field (List.mem_cons_of_mem _ hmem)
      exact Closes.element hnext hspan (ih hothers hread)

/-- What a record does with a member: the field of that name takes the value, or it is skipped. -/
def TakesMember (fields : List (RecordField δ)) (draft : δ) (name : String) (value : Bytes) (next : δ)
    (after : Bytes) : Prop :=
  match fields.find? (·.name == name) with
  | none => next = draft ∧ skipValue value = .ok after
  | some field => field.taken draft = false ∧ field.read draft value = .ok (next, after)

theorem TakesMember.spans {draft next : δ} {name : String} {value after : Bytes}
    (htakes : TakesMember fields draft name value next after) (h : FieldsSpan fields) :
    Spans value after := by
  unfold TakesMember at htakes
  split at htakes
  · exact spans_of_skipValue htakes.2
  · next field hfield => exact h field (List.mem_of_find?_eq_some hfield) _ htakes.2

/-- The members of a record end, or there is one that the record takes. -/
theorem readMembers_eq_ok {steps : Nat} {first : Bool} {draft final : δ}
    (h : readMembers fields (steps + 1) first draft input = .ok (final, rest)) :
    (nextKey first input = .ok (.closed rest) ∧ final = draft) ∨
      ∃ name value next after, HasMember first input name value ∧
        TakesMember fields draft name value next after ∧
        readMembers fields steps false next after = .ok (final, rest) := by
  obtain ⟨next, hnext, h⟩ := bind_eq_ok.1 h
  cases next with
  | closed after =>
    cases h
    exact .inl ⟨hnext, rfl⟩
  | entry mid =>
    obtain ⟨⟨name, colon⟩, hkey, h⟩ := bind_eq_ok.1 h
    dsimp only at h
    cases hfield : fields.find? (·.name == name) with
    | none =>
      simp only [hfield] at h
      obtain ⟨value, hcolon, h⟩ := bind_eq_ok.1 h
      obtain ⟨after, hskip, h⟩ := bind_eq_ok.1 h
      refine .inr ⟨name, value, draft, after, ⟨mid, colon, hnext, hkey, hcolon⟩, ?_, h⟩
      rw [TakesMember, hfield]
      exact ⟨rfl, hskip⟩
    | some field =>
      simp only [hfield] at h
      split_ifs at h with htaken
      obtain ⟨value, hcolon, h⟩ := bind_eq_ok.1 h
      obtain ⟨⟨next, after⟩, hvalue, h⟩ := bind_eq_ok.1 h
      refine .inr ⟨name, value, next, after, ⟨mid, colon, hnext, hkey, hcolon⟩, ?_, h⟩
      rw [TakesMember, hfield]
      exact ⟨Bool.eq_false_iff.2 htaken, hvalue⟩

theorem closes_readMembers (h : FieldsSpan fields) {steps : Nat} {first : Bool} {draft final : δ}
    (hread : readMembers fields steps first draft input = .ok (final, rest)) :
    Closes .object first input rest := by
  induction steps generalizing first draft input with
  | zero => cases hread
  | succ steps ih =>
    rcases readMembers_eq_ok hread with ⟨hclosed, -⟩ | ⟨_, _, _, _, hmember, htakes, hothers⟩
    · exact closes_of_closing _ (nextKey_closed hclosed)
    · exact Closes.member hmember (htakes.spans h) (ih hothers)

/-- **A record** is one value, as a list or as an object. -/
theorem spanning_record (h : FieldsSpan shape.fields) : Spanning shape.read := by
  intro input value rest hread
  unfold RecordShape.read at hread
  split at hread
  · cases hread
  · next b inside hblanks =>
    split_ifs at hread with hlist hobject
    · obtain ⟨⟨draft, after⟩, helements, hread⟩ := bind_eq_ok.1 hread
      obtain ⟨record, -, heq⟩ := bind_eq_ok.1 hread
      cases heq
      subst hlist
      exact (closes_readElements h helements).spans (skipOpening_list hblanks)
    · obtain ⟨⟨draft, after⟩, hmembers, hread⟩ := bind_eq_ok.1 hread
      obtain ⟨record, -, heq⟩ := bind_eq_ok.1 hread
      cases heq
      subst hobject
      exact (closes_readMembers h hmembers).spans (skipOpening_object hblanks)

end Records

/-! ## Choices -/

section Choices

variable {variants : List (Variant α)}

/-- The name of an alternative is a text. -/
theorem readVariant_eq_ok {variant : Variant α}
    (h : readVariant variants input = .ok (variant, rest)) :
    ∃ name, readText "variant identifier" input = .ok (name, rest) ∧
      variants.find? (·.name == name) = some variant := by
  obtain ⟨⟨name, after⟩, hname, h⟩ := bind_eq_ok.1 h
  dsimp only at h
  cases hfound : variants.find? (·.name == name) with
  | none => simp [hfound] at h
  | some found =>
    simp only [hfound, Except.ok.injEq, Prod.mk.injEq] at h
    obtain ⟨rfl, rfl⟩ := h
    exact ⟨name, hname, hfound⟩

/-- The only key of an object is its first. -/
theorem nextKey_of_openKey {key : Bytes} (h : openKey inside = .ok key) :
    ∃ mid, key = ascii '"' :: mid ∧ nextKey true inside = .ok (.entry mid) := by
  unfold openKey at h
  split at h
  · cases h
  · next b mid hblanks =>
    split_ifs at h with hquote
    cases h
    subst hquote
    have hbrace : ascii '"' ≠ ascii '}' := by decide
    exact ⟨mid, rfl, by simp only [nextKey, hblanks, if_neg hbrace, if_true]⟩

/-- A choice that is an object is the one member that it has. -/
theorem readChoice_eq_ok {value : α} (hobject : dropBlanks input = ascii '{' :: inside)
    (h : readChoice variants input = .ok (value, rest)) :
    ∃ name variant start after, HasMember true inside name start ∧
      variants.find? (·.name == name) = some variant ∧
      variant.body start = .ok (value, after) ∧ dropBlanks after = ascii '}' :: rest := by
  have hquote : ascii '{' ≠ ascii '"' := by decide
  simp only [readChoice, hobject, if_neg hquote, if_true] at h
  obtain ⟨key, hopen, h⟩ := bind_eq_ok.1 h
  obtain ⟨mid, rfl, hnext⟩ := nextKey_of_openKey hopen
  obtain ⟨⟨variant, colon⟩, hvariant, h⟩ := bind_eq_ok.1 h
  obtain ⟨start, hcolon, h⟩ := bind_eq_ok.1 h
  obtain ⟨⟨body, after⟩, hbody, h⟩ := bind_eq_ok.1 h
  obtain ⟨name, hname, hfound⟩ := readVariant_eq_ok hvariant
  have hkey : textLiteral mid = .ok (name, colon) := by
    have hblank : isBlankByte (ascii '"') = false := by decide
    simpa only [readText, dropBlanks_cons _ hblank, if_true] using hname
  dsimp only at h
  split at h
  · cases h
  · next c more hclosing =>
    split_ifs at h with hbrace
    cases h
    subst hbrace
    exact ⟨name, variant, start, after, ⟨mid, colon, hnext, hkey, hcolon⟩, hfound, hbody, hclosing⟩

/-- **A choice** is one value: a text, or an object with one member. -/
theorem spanning_choice (h : ∀ variant ∈ variants, Spanning variant.body) :
    Spanning (readChoice variants) := by
  intro input value rest hread
  have hchoice := hread
  unfold readChoice at hread
  split at hread
  · cases hread
  · next b inside hblanks =>
    split_ifs at hread with hquote hobject
    · obtain ⟨⟨variant, after⟩, hvariant, hread⟩ := bind_eq_ok.1 hread
      obtain ⟨alone, -, heq⟩ := bind_eq_ok.1 hread
      cases heq
      obtain ⟨name, hname, -⟩ := readVariant_eq_ok hvariant
      rw [← hblanks] at hname
      exact (spanning_readText _ hname).of_dropBlanks
    · subst hobject
      obtain ⟨name, variant, start, after, hmember, hfound, hbody, hclosing⟩ :=
        readChoice_eq_ok hblanks hchoice
      have hspan := h variant (List.mem_of_find?_eq_some hfound) hbody
      have hclose : Closes .object false after rest := closes_of_closing _ hclosing
      exact (Closes.member hmember hspan hclose).spans (skipOpening_object hblanks)

end Choices

/-! ## Values of any shape -/

namespace Value

theorem closes_readItems {read : Reader Value} (h : Spanning read) {steps : Nat} {first : Bool}
    {items final : List Value} (hread : readItems read steps first items input = .ok (final, rest)) :
    Closes .list first input rest := by
  induction steps generalizing first items input with
  | zero => cases hread
  | succ steps ih =>
    obtain ⟨next, hnext, hread⟩ := bind_eq_ok.1 hread
    cases next with
    | closed after =>
      cases hread
      exact closes_of_closing _ (nextElement_closed hnext)
    | entry mid =>
      obtain ⟨⟨item, after⟩, hitem, hread⟩ := bind_eq_ok.1 hread
      exact Closes.element hnext (h hitem) (ih hread)

/-- The members of an object end, or there is one more. -/
theorem readPairs_eq_ok {read : Reader Value} {steps : Nat} {first : Bool}
    {pairs final : List (String × Value)}
    (h : readPairs read (steps + 1) first pairs input = .ok (final, rest)) :
    (nextKey first input = .ok (.closed rest) ∧ final = pairs.reverse) ∨
      ∃ name start value after, HasMember first input name start ∧
        read start = .ok (value, after) ∧
        readPairs read steps false ((name, value) :: pairs) after = .ok (final, rest) := by
  obtain ⟨next, hnext, h⟩ := bind_eq_ok.1 h
  cases next with
  | closed after =>
    cases h
    exact .inl ⟨hnext, rfl⟩
  | entry mid =>
    obtain ⟨⟨name, colon⟩, hkey, h⟩ := bind_eq_ok.1 h
    obtain ⟨start, hcolon, h⟩ := bind_eq_ok.1 h
    obtain ⟨⟨value, after⟩, hvalue, h⟩ := bind_eq_ok.1 h
    exact .inr ⟨name, start, value, after, ⟨mid, colon, hnext, hkey, hcolon⟩, hvalue, h⟩

theorem closes_readPairs {read : Reader Value} (h : Spanning read) {steps : Nat} {first : Bool}
    {pairs final : List (String × Value)}
    (hread : readPairs read steps first pairs input = .ok (final, rest)) :
    Closes .object first input rest := by
  induction steps generalizing first pairs input with
  | zero => cases hread
  | succ steps ih =>
    rcases readPairs_eq_ok hread with ⟨hclosed, -⟩ | ⟨_, _, _, _, hmember, hvalue, hothers⟩
    · exact closes_of_closing _ (nextKey_closed hclosed)
    · exact Closes.member hmember (h hvalue) (ih hothers)

/-- **A value of any shape** is one value. -/
theorem spanning_readNested (depth : Nat) : Spanning (readNested depth) := by
  induction depth with
  | zero =>
    intro input value rest h
    cases h
  | succ depth ih =>
    intro input value rest h
    unfold readNested at h
    split at h
    · cases h
    · next b inside hblanks =>
      split_ifs at h with hnull htrue hfalse hnumber htext hlist hdeep hobject hdeep
      · obtain ⟨after, hword, heq⟩ := map_eq_ok.1 h
        cases heq
        exact spans_scalar (skipOpening_word (by simp [hnull]) hblanks hword)
      · obtain ⟨after, hword, heq⟩ := map_eq_ok.1 h
        cases heq
        exact spans_scalar (skipOpening_word (by simp [htrue]) hblanks hword)
      · obtain ⟨after, hword, heq⟩ := map_eq_ok.1 h
        cases heq
        exact spans_scalar (skipOpening_word (by simp [hfalse]) hblanks hword)
      · obtain ⟨⟨number, after⟩, hread, heq⟩ := map_eq_ok.1 h
        cases heq
        exact spans_scalar (skipOpening_number hblanks hnumber hread)
      · obtain ⟨⟨text, after⟩, hread, heq⟩ := map_eq_ok.1 h
        cases heq
        subst htext
        exact spans_scalar (skipOpening_text hblanks hread)
      · obtain ⟨⟨items, after⟩, hitems, heq⟩ := bind_eq_ok.1 h
        cases heq
        subst hlist
        exact (closes_readItems ih hitems).spans (skipOpening_list hblanks)
      · obtain ⟨⟨pairs, after⟩, hpairs, heq⟩ := bind_eq_ok.1 h
        cases heq
        subst hobject
        exact (closes_readPairs ih hpairs).spans (skipOpening_object hblanks)

end Value

end VirtualTouchpad.Json
