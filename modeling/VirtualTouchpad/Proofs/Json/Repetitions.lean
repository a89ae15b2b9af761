/-
# Members given twice

A record that was read from an object has read the object's members one after the other, each
up to the blanks behind its value (`admitted_of_read`), and has refused none.  A field that has
a value keeps one and refuses another (`Latches`), so no known member was given twice
(`Admitted.not_twice`).  An object that is a choice has but one member (`member_of_readChoice`).
-/
import VirtualTouchpad.Proofs.Json.Layouts

namespace VirtualTouchpad.Json

variable {α δ : Type} {input rest after : Bytes}

/-! ## Well-formed objects -/

/-- A member has a key between its quotation marks and a value. -/
def MemberText.WellFormed (member : MemberText) : Prop :=
  Quotable member.key ∧ Phrase .value member.value

def ObjectText.WellFormed (object : ObjectText) : Prop :=
  ∀ member ∈ object.members, member.WellFormed

/-- An object has two members of one of some names. -/
def ObjectText.GivesTwice (object : ObjectText) (names : List String) : Prop :=
  ∃ name ∈ names, ∃ first second, [first, second].Sublist object.members
    ∧ SpellsText name first.key ∧ SpellsText name second.key

section Next

variable {member : MemberText} {name : String} {value : Bytes} {first : Bool}

/-- The next member, if it is known how it is spelled. -/
theorem HasMember.of_fromKey (h : HasMember first input name value) (hkey : Quotable member.key)
    (hnext : nextKey first input = .ok (.entry (member.fromKey rest))) :
    (∃ colon, textLiteral (member.key ++ ascii '"' :: colon) = .ok (name, colon))
      ∧ value = member.toPadded.text ++ rest := by
  obtain ⟨mid, colon, hentry, htext, hcolon⟩ := h
  cases hnext.symm.trans hentry
  have hcolon_eq := (skipTextFrom_of_quotable hkey _).symm.trans (skipTextFrom_of_textLiteral htext)
  cases hcolon_eq
  cases (dropColon_between member rest).symm.trans hcolon
  exact ⟨⟨_, htext⟩, rfl⟩

end Next

/-! ## Members of an object that was read -/

section Members

variable {fields : List (RecordField δ)} {draft next final : δ} {member : MemberText}
  {members : List MemberText} {name : String} {field : RecordField δ}

/-- What a record made of one member. -/
structure Admits (fields : List (RecordField δ)) (draft : δ) (member : MemberText) (name : String)
    (next : δ) : Prop where
  key : ∃ colon, textLiteral (member.key ++ ascii '"' :: colon) = .ok (name, colon)
  takes : ∃ tail, EndsNumber tail ∧
    TakesMember fields draft name (member.toPadded.text ++ tail) next (member.behind ++ tail)

/-- What a record made of members, one after the other. -/
inductive Admitted (fields : List (RecordField δ)) : δ → List MemberText → δ → Prop
  | nil (draft : δ) : Admitted fields draft [] draft
  | cons {draft next final : δ} {member : MemberText} {members : List MemberText} {name : String}
      (first : Admits fields draft member name next) (others : Admitted fields next members final) :
      Admitted fields draft (member :: members) final

/-- Reading goes on behind a member. -/
theorem admits_of_readMembers {first : Bool} {steps : Nat} (hspan : FieldsSpan fields)
    (hmember : member.WellFormed) (hrest : EndsNumber rest)
    (hnext : nextKey first input = .ok (.entry (member.fromKey rest)))
    (h : readMembers fields steps first draft input = .ok (final, after)) :
    ∃ name next fewer, Admits fields draft member name next
      ∧ readMembers fields fewer false next (member.behind ++ rest) = .ok (final, after) := by
  cases steps with
  | zero => cases h
  | succ fewer =>
    rcases readMembers_eq_ok h with ⟨hclosed, -⟩ | ⟨name, _, next, behind, hhas, htakes, hothers⟩
    · cases hnext.symm.trans hclosed
    · obtain ⟨hkey, rfl⟩ := hhas.of_fromKey hmember.1 hnext
      have hbehind : behind = member.behind ++ rest :=
        (htakes.spans hspan).eq_rest (spans_padded hmember.2 hrest)
      subst hbehind
      exact ⟨name, next, fewer, ⟨hkey, rest, hrest, htakes⟩, hothers⟩

theorem admitted_of_laterMembers {steps : Nat} (hspan : FieldsSpan fields)
    (hmembers : ∀ member ∈ members, member.WellFormed) {blanks : Bytes} (hblank : Blank blanks)
    (h : readMembers fields steps false draft
      (blanks ++ (laterMembers members ++ ascii '}' :: rest)) = .ok (final, after)) :
    Admitted fields draft members final := by
  induction members generalizing draft blanks steps with
  | nil =>
    have hclosing := nextKey_closing rest hblank false
    cases steps with
    | zero => cases h
    | succ fewer =>
      rcases readMembers_eq_ok h with ⟨-, rfl⟩ | ⟨_, _, _, _, hhas, -, -⟩
      · exact .nil _
      · exact absurd hclosing hhas.not_closed
  | cons member members ih =>
    obtain ⟨hmember, hothers⟩ := List.forall_mem_cons.1 hmembers
    rw [laterMembers_cons] at h
    obtain ⟨name, next, fewer, hadmits, hlater⟩ := admits_of_readMembers hspan hmember
      (endsNumber_laterMembers members rest) (nextKey_laterMember member _ hblank) h
    exact .cons hadmits (ih hothers member.blank_behind hlater)

/-- **A record that was read** from an object has admitted its members. -/
theorem admitted_of_read {shape : RecordShape δ α} {object : ObjectText} {value : α}
    (hspan : FieldsSpan shape.fields) (hobject : object.WellFormed)
    (h : shape.read (object.text ++ rest) = .ok (value, after)) :
    ∃ final, Admitted shape.fields shape.blank object.members final := by
  obtain ⟨members, inside, hinside⟩ := object
  rw [ObjectText.text, List.cons_append, read_brace, List.append_assoc, List.singleton_append] at h
  obtain ⟨⟨final, behind⟩, h, -⟩ := bind_eq_ok.1 h
  refine ⟨final, ?_⟩
  cases members with
  | nil =>
    have hclosing := nextKey_closing rest hinside true
    rcases readMembers_eq_ok h with ⟨-, rfl⟩ | ⟨_, _, _, _, hhas, -, -⟩
    · exact .nil _
    · exact absurd hclosing hhas.not_closed
  | cons member members =>
    obtain ⟨hmember, hothers⟩ := List.forall_mem_cons.1 hobject
    rw [objectBody, List.append_assoc] at h
    obtain ⟨name, next, fewer, hadmits, hlater⟩ := admits_of_readMembers hspan hmember
      (endsNumber_laterMembers members rest) (nextKey_member member _) h
    exact .cons hadmits (admitted_of_laterMembers hspan hothers member.blank_behind hlater)

theorem Admits.name_eq (h : Admits fields draft member name next) {other : String}
    (hspells : SpellsText other member.key) : name = other := by
  obtain ⟨colon, hkey⟩ := h.key
  cases hkey.symm.trans (textLiteral_of_spells hspells colon)
  rfl

/-- A known member's value was read by its field. -/
theorem Admits.read (h : Admits fields draft member name next)
    (hfield : fields.find? (·.name == name) = some field) :
    field.taken draft = false ∧ ∃ tail, EndsNumber tail ∧
      field.read draft (member.toPadded.text ++ tail) = .ok (next, member.behind ++ tail) := by
  obtain ⟨tail, htail, htakes⟩ := h.takes
  simp only [TakesMember, hfield] at htakes
  exact ⟨htakes.1, tail, htail, htakes.2⟩

theorem Admitted.read (h : Admitted fields draft members final) (hmember : member ∈ members)
    (hspells : SpellsText name member.key)
    (hfield : fields.find? (·.name == name) = some field) :
    ∃ before next tail, EndsNumber tail ∧
      field.read before (member.toPadded.text ++ tail) = .ok (next, member.behind ++ tail) := by
  induction h with
  | nil => cases hmember
  | cons first others ih =>
    rcases List.mem_cons.1 hmember with rfl | hmember
    · obtain rfl := first.name_eq hspells
      exact ⟨_, _, (first.read hfield).2⟩
    · exact ih hmember

/-! ## Known members -/

/-- A field that has read a value has one, and no field takes another's away. -/
def Latches (fields : List (RecordField δ)) : Prop :=
  ∀ field ∈ fields, ∀ ⦃draft next : δ⦄ ⦃input rest : Bytes⦄,
    field.read draft input = .ok (next, rest) →
      field.taken next = true ∧ ∀ other ∈ fields, other.taken draft = true → other.taken next = true

theorem Admits.taken (h : Admits fields draft member name next) (hlatch : Latches fields)
    (hfield : field ∈ fields) (htaken : field.taken draft = true) : field.taken next = true := by
  obtain ⟨tail, -, htakes⟩ := h.takes
  unfold TakesMember at htakes
  split at htakes
  · exact htakes.1 ▸ htaken
  · next reader hreader =>
    exact (hlatch reader (List.mem_of_find?_eq_some hreader) htakes.2).2 field hfield htaken

/-- No member of a name comes after the field has a value. -/
theorem Admitted.not_spells (h : Admitted fields draft members final) (hlatch : Latches fields)
    (hfield : fields.find? (·.name == name) = some field) (htaken : field.taken draft = true) :
    ∀ member ∈ members, ¬ SpellsText name member.key := by
  induction h with
  | nil => simp
  | cons first others ih =>
    have hkept := first.taken hlatch (List.mem_of_find?_eq_some hfield) htaken
    refine List.forall_mem_cons.2 ⟨fun hspells => ?_, ih hkept⟩
    obtain rfl := first.name_eq hspells
    exact Bool.false_ne_true ((first.read hfield).1.symm.trans htaken)

/-- **No known member is admitted twice.** -/
theorem Admitted.not_twice (h : Admitted fields draft members final) (hlatch : Latches fields)
    (hfield : fields.find? (·.name == name) = some field) {first second : MemberText}
    (htwice : [first, second].Sublist members) (hspells : SpellsText name first.key) :
    ¬ SpellsText name second.key := by
  induction h with
  | nil => cases htwice
  | cons admits others ih =>
    cases htwice with
    | cons _ hlater => exact ih hlater
    | cons_cons _ hsecond =>
      obtain rfl := admits.name_eq hspells
      obtain ⟨-, tail, -, hread⟩ := admits.read hfield
      have htaken := (hlatch field (List.mem_of_find?_eq_some hfield) hread).1
      exact others.not_spells hlatch hfield htaken _ (List.singleton_sublist.1 hsecond)

end Members

/-! ## Choices -/

/-- **A choice that was read** from an object is its only member. -/
theorem member_of_readChoice {variants : List (Variant α)} {object : ObjectText} {value : α}
    (hspan : ∀ variant ∈ variants, Spanning variant.body) (hobject : object.WellFormed)
    (h : readChoice variants (object.text ++ rest) = .ok (value, after)) :
    ∃ member name variant tail, object.members = [member]
      ∧ (∃ colon, textLiteral (member.key ++ ascii '"' :: colon) = .ok (name, colon))
      ∧ variants.find? (·.name == name) = some variant ∧ EndsNumber tail
      ∧ variant.body (member.toPadded.text ++ tail) = .ok (value, member.behind ++ tail) := by
  obtain ⟨members, inside, hinside⟩ := object
  have hblank : isBlankByte (ascii '{') = false := by decide
  rw [ObjectText.text, List.cons_append, List.append_assoc, List.singleton_append] at h
  obtain ⟨name, variant, start, behind, hhas, hfound, hbody, hclosing⟩ :=
    readChoice_eq_ok (dropBlanks_cons _ hblank) h
  cases members with
  | nil => exact absurd (nextKey_closing rest hinside true) hhas.not_closed
  | cons member members =>
    obtain ⟨hmember, -⟩ := List.forall_mem_cons.1 hobject
    rw [objectBody, List.append_assoc] at hhas
    have hends := endsNumber_laterMembers members rest
    obtain ⟨hkey, rfl⟩ := hhas.of_fromKey hmember.1 (nextKey_member member _)
    have hbehind : behind = member.behind ++ (laterMembers members ++ ascii '}' :: rest) :=
      (hspan variant (List.mem_of_find?_eq_some hfound) hbody).eq_rest (spans_padded hmember.2 hends)
    subst hbehind
    cases members with
    | nil => exact ⟨member, name, variant, _, rfl, hkey, hfound, hends, hbody⟩
    | cons other members =>
      have hcomma : isBlankByte (ascii ',') = false := by decide
      rw [dropBlanks_append member.blank_behind, laterMembers_cons,
        dropBlanks_cons _ hcomma] at hclosing
      exact absurd (List.cons.inj hclosing).1 (by decide)

end VirtualTouchpad.Json
