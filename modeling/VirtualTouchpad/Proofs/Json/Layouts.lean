/-
# Objects in any layout

A record is read from an object whatever the order of the members, the blanks around their
parts and the spelling of their keys, and whatever other members there are.

An object text is given by its members, each with its blanks; `Gathers` says what reading
them one after the other makes of a draft.  `SpellsRecord` is what it takes for an object to
spell a record, and the order of the members is no part of it: `Collects` says of the
record's reader that all it remembers is which members it has seen, and then the record is
read (`takes_record_of_spells`).
-/
import VirtualTouchpad.Proofs.Json.Phrases
import VirtualTouchpad.Proofs.Json.Records

namespace VirtualTouchpad.Json

variable {α β δ : Type}

/-! ## Blanks before values -/

/-- Blanks before a value are nothing to its reader. -/
def IgnoresBlanks (read : Reader α) : Prop := ∀ input, read (dropBlanks input) = read input

theorem IgnoresBlanks.eq_of_blank {read : Reader α} (h : IgnoresBlanks read) {blanks : Bytes}
    (hblanks : Blank blanks) (rest : Bytes) : read (blanks ++ rest) = read rest := by
  rw [← h (blanks ++ rest), dropBlanks_append hblanks, h]

theorem IgnoresBlanks.map {read : Reader α} (h : IgnoresBlanks read) (f : α → β) :
    IgnoresBlanks fun input => (read input).map fun (value, rest) => (f value, rest) := by
  intro input
  simp only [h input]

theorem ignoresBlanks_readText (expected : String) : IgnoresBlanks (readText expected) := by
  intro input
  simp only [readText, dropBlanks_dropBlanks]

theorem ignoresBlanks_readNull (expected : String) : IgnoresBlanks (readNull expected) := by
  intro input
  simp only [readNull, dropBlanks_dropBlanks]

theorem ignoresBlanks_readNumeric (expected : String) (accept : Number → Except Fault α) :
    IgnoresBlanks (readNumeric expected accept) := by
  intro input
  simp only [readNumeric, dropBlanks_dropBlanks]

theorem ignoresBlanks_readUInt64 : IgnoresBlanks readUInt64 := (ignoresBlanks_readNumeric _ _).map _

theorem ignoresBlanks_readUInt32 : IgnoresBlanks readUInt32 := (ignoresBlanks_readNumeric _ _).map _

theorem ignoresBlanks_readInt32 : IgnoresBlanks readInt32 :=
  ignoresBlanks_readNumeric _ _

theorem ignoresBlanks_readSingle : IgnoresBlanks readSingle :=
  ignoresBlanks_readNumeric _ _

theorem ignoresBlanks_record (shape : RecordShape δ α) : IgnoresBlanks shape.read := by
  intro input
  simp only [RecordShape.read, dropBlanks_dropBlanks]

theorem ignoresBlanks_choice (variants : List (Variant α)) :
    IgnoresBlanks (readChoice variants) := by
  intro input
  simp only [readChoice, dropBlanks_dropBlanks]

/-- Blanks before values are nothing to the fields of a record. -/
def FieldsIgnoreBlanks (fields : List (RecordField δ)) : Prop :=
  ∀ field ∈ fields, ∀ draft, IgnoresBlanks (field.read draft)

theorem ignoresBlanks_keep {name : String} {kept : δ → Option α} {read : Reader α}
    {store : δ → α → δ} (h : IgnoresBlanks read) (draft : δ) :
    IgnoresBlanks ((RecordField.keep name kept read store).read draft) :=
  h.map (store draft)

/-- A text in quotation marks is read from each of its spellings. -/
theorem takes_of_spellsQuoted {text : String} {bytes : Bytes} (h : SpellsQuoted text bytes)
    (expected : String) : Takes (readText expected) bytes text := by
  obtain ⟨inside, hspells, rfl⟩ := h
  intro rest _
  have hblank : isBlankByte (ascii '"') = false := by decide
  rw [inQuotes, List.cons_append, List.append_assoc, List.singleton_append]
  simp only [readText, dropBlanks_cons _ hblank, if_true, textLiteral_of_spells hspells]

/-- A whole text that a reader takes is read with blanks around it. -/
theorem readAll_of_takes_blanks {read : Reader α} {ahead text behind : Bytes} {value : α}
    (h : Takes read text value) (hblanks : IgnoresBlanks read) (hahead : Blank ahead)
    (hbehind : Blank behind) : readAll read (ahead ++ (text ++ behind)) = .ok value := by
  have hread := readAll_of_takes h (List.all_eq_true.2 hbehind)
  simpa only [readAll, hblanks.eq_of_blank hahead] using hread

/-- Texts that are a value and blanks around it. -/
def Alone (spells : Bytes → Prop) (text : Bytes) : Prop :=
  ∃ padded : Padded, padded.text = text ∧ spells padded.value

theorem Alone.append_blank {spells : Bytes → Prop} {text blanks : Bytes} (h : Alone spells text)
    (hblanks : Blank blanks) : Alone spells (text ++ blanks) := by
  obtain ⟨padded, rfl, hspells⟩ := h
  have hbehind : Blank (padded.behind ++ blanks) := by
    rw [Blank, List.forall_mem_append]
    exact ⟨padded.blank_behind, hblanks⟩
  refine ⟨{ padded with behind := padded.behind ++ blanks, blank_behind := hbehind }, ?_, hspells⟩
  simp [Padded.text]

theorem readAll_of_alone {read : Reader α} {spells : Bytes → Prop} {text : Bytes} {value : α}
    (h : Alone spells text) (hblanks : IgnoresBlanks read)
    (htakes : ∀ text, spells text → Takes read text value) : readAll read text = .ok value := by
  obtain ⟨padded, rfl, hspells⟩ := h
  exact readAll_of_takes_blanks (htakes _ hspells) hblanks padded.blank_ahead padded.blank_behind

/-! ## Object texts -/

/-- An object as it is spelled. -/
structure ObjectText where
  members : List MemberText
  /-- What stands between the braces if there is no member. -/
  inside : Bytes
  blank_inside : Blank inside

/-- The members after the first. -/
def laterMembers (members : List MemberText) : Bytes :=
  members.flatMap fun member => ascii ',' :: member.text

/-- The bytes between the braces of an object. -/
def objectBody (inside : Bytes) : List MemberText → Bytes
  | [] => inside
  | member :: members => member.text ++ laterMembers members

/-- The bytes of an object. -/
def ObjectText.text (object : ObjectText) : Bytes :=
  ascii '{' :: (objectBody object.inside object.members ++ [ascii '}'])

/-- The bytes from a key on, and what follows the member. -/
def MemberText.fromKey (member : MemberText) (rest : Bytes) : Bytes :=
  member.key ++ ascii '"' :: (member.between ++ ascii ':' :: (member.toPadded.text ++ rest))

theorem MemberText.text_append (member : MemberText) (rest : Bytes) :
    member.text ++ rest = member.before ++ ascii '"' :: member.fromKey rest := by
  simp [MemberText.text, MemberText.fromKey, inQuotes]

theorem laterMembers_cons (member : MemberText) (members : List MemberText) (rest : Bytes) :
    laterMembers (member :: members) ++ rest
      = ascii ',' :: (member.text ++ (laterMembers members ++ rest)) := by
  simp [laterMembers]

theorem endsNumber_laterMembers (members : List MemberText) (rest : Bytes) :
    EndsNumber (laterMembers members ++ ascii '}' :: rest) := by
  cases members with
  | nil => exact endsNumber_brace rest
  | cons member members => exact endsNumber_cons _ (by decide)

theorem length_le_laterMembers (members : List MemberText) :
    members.length ≤ (laterMembers members).length := by
  induction members with
  | nil => exact Nat.le_refl 0
  | cons member members ih =>
    simp only [laterMembers, List.flatMap_cons, List.length_cons, List.length_append] at ih ⊢
    omega

section Keys

variable {blanks : Bytes} (member : MemberText) (rest : Bytes)

theorem nextKey_member : nextKey true (member.text ++ rest) = .ok (.entry (member.fromKey rest)) := by
  have hblank : isBlankByte (ascii '"') = false := by decide
  have hbrace : ascii '"' ≠ ascii '}' := by decide
  simp [member.text_append, nextKey, dropBlanks_append member.blank_before, hblank, hbrace]

theorem nextKey_laterMember (h : Blank blanks) :
    nextKey false (blanks ++ ascii ',' :: (member.text ++ rest))
      = .ok (.entry (member.fromKey rest)) := by
  have hblanks : isBlankByte (ascii '"') = false ∧ isBlankByte (ascii ',') = false := by decide
  have hbrace : ascii ',' ≠ ascii '}' := by decide
  simp [member.text_append, nextKey, dropBlanks_append h, dropBlanks_append member.blank_before,
    hblanks, hbrace]

theorem nextKey_closing (h : Blank blanks) (first : Bool) :
    nextKey first (blanks ++ ascii '}' :: rest) = .ok (.closed rest) := by
  have hblank : isBlankByte (ascii '}') = false := by decide
  simp [nextKey, dropBlanks_append h, hblank]

theorem dropColon_between :
    dropColon (member.between ++ ascii ':' :: (member.toPadded.text ++ rest))
      = .ok (member.toPadded.text ++ rest) := by
  have hblank : isBlankByte (ascii ':') = false := by decide
  simp [dropColon, dropBlanks_append member.blank_between, hblank]

end Keys

/-! ## Reading members -/

section Members

variable {fields : List (RecordField δ)} {draft next final : δ} {member : MemberText}
  {members : List MemberText} {name : String} {first : Bool} {input rest after : Bytes}

/-- A member whose value is taken is read in one step. -/
theorem readMembers_of_takesMember (steps : Nat)
    (hnext : nextKey first input = .ok (.entry (member.fromKey rest)))
    (hkeyed : SpellsText name member.key)
    (htakes : TakesMember fields draft name (member.toPadded.text ++ rest) next after) :
    readMembers fields (steps + 1) first draft input
      = readMembers fields steps false next after := by
  have hkey : textLiteral (member.fromKey rest) = .ok (name, _) := textLiteral_of_spells hkeyed _
  unfold TakesMember at htakes
  simp only [readMembers, hnext, hkey, dropColon_between, bind, Except.bind]
  cases hfound : fields.find? (·.name == name) with
  | none =>
    simp only [hfound] at htakes ⊢
    obtain ⟨rfl, hskip⟩ := htakes
    rw [hskip]
  | some field =>
    simp only [hfound] at htakes ⊢
    obtain ⟨hlacking, hread⟩ := htakes
    simp only [hlacking, hread]
    rfl

/-- What a member does to a draft: the field of its name takes its value, or it is skipped. -/
def MemberFills (fields : List (RecordField δ)) (draft : δ) (member : MemberText) (next : δ) : Prop :=
  ∃ name, SpellsText name member.key ∧
    match fields.find? (·.name == name) with
    | none => next = draft ∧ Phrase .value member.value
    | some field => field.taken draft = false ∧ Takes (field.read draft) member.value next

/-- Members, one after the other, turn one draft into another. -/
inductive Gathers (fields : List (RecordField δ)) : δ → List MemberText → δ → Prop
  | nil (draft : δ) : Gathers fields draft [] draft
  | cons {draft next final : δ} {member : MemberText} {members : List MemberText}
      (fills : MemberFills fields draft member next) (others : Gathers fields next members final) :
      Gathers fields draft (member :: members) final

theorem MemberFills.takesMember {draft next : δ} {member : MemberText}
    (h : MemberFills fields draft member next) (hblanks : FieldsIgnoreBlanks fields)
    (hrest : EndsNumber rest) : ∃ name, SpellsText name member.key ∧
      TakesMember fields draft name (member.toPadded.text ++ rest) next (member.behind ++ rest) := by
  obtain ⟨name, hkeyed, hfills⟩ := h
  refine ⟨name, hkeyed, ?_⟩
  unfold TakesMember
  cases hfound : fields.find? (·.name == name) with
  | none =>
    simp only [hfound] at hfills ⊢
    exact ⟨hfills.1, skipValue_padded hfills.2 hrest⟩
  | some field =>
    simp only [hfound] at hfills ⊢
    have hignores := hblanks field (List.mem_of_find?_eq_some hfound) draft
    refine ⟨hfills.1, ?_⟩
    rw [Padded.text, List.append_assoc, List.append_assoc, hignores.eq_of_blank member.blank_ahead]
    exact hfills.2 _ (endsNumber_append member.blank_behind hrest)

/-- Members after the first are read one step each, and then the closing brace. -/
theorem readMembers_laterMembers (h : Gathers fields draft members final)
    (hblanks : FieldsIgnoreBlanks fields) {blanks : Bytes} (hblank : Blank blanks) (steps : Nat)
    (rest : Bytes) :
    readMembers fields (members.length + (steps + 1)) false draft
      (blanks ++ (laterMembers members ++ ascii '}' :: rest)) = .ok (final, rest) := by
  induction h generalizing blanks with
  | nil draft =>
    have hclose := nextKey_closing rest hblank false
    simp only [laterMembers, List.flatMap_nil, List.nil_append, readMembers, hclose, bind,
      Except.bind]
  | @cons draft next final member members fills others ih =>
    have hends := endsNumber_laterMembers members rest
    obtain ⟨name, hkeyed, htakes⟩ := fills.takesMember hblanks hends
    have hsteps : (member :: members).length + (steps + 1) = members.length + (steps + 1) + 1 := by
      rw [List.length_cons]
      omega
    rw [hsteps, laterMembers_cons,
      readMembers_of_takesMember _ (nextKey_laterMember _ _ hblank) hkeyed htakes,
      ih member.blank_behind]

/-- **A record is read** from an object whose members fill its draft. -/
theorem takes_of_gathers {shape : RecordShape δ α} {object : ObjectText} {value : α}
    (h : Gathers shape.fields shape.blank object.members final)
    (hblanks : FieldsIgnoreBlanks shape.fields) (hfinish : shape.finish final = .ok value) :
    Takes shape.read object.text value := by
  intro rest _
  obtain ⟨members, inside, hinside⟩ := object
  rw [ObjectText.text, List.cons_append, read_brace, List.append_assoc, List.singleton_append]
  cases h with
  | nil =>
    have hclose := nextKey_closing rest hinside true
    simp only [objectBody, readMembers, hclose, hfinish, bind, Except.bind, Except.map]
  | @cons _ next _ member members fills others =>
    have hends := endsNumber_laterMembers members rest
    obtain ⟨name, hkeyed, htakes⟩ := fills.takesMember hblanks hends
    have hlength := length_le_laterMembers members
    obtain ⟨steps, hsteps⟩ : ∃ steps, (member.text ++ laterMembers members
        ++ ascii '}' :: rest).length + 1 = members.length + (steps + 1) + 1 := by
      refine ⟨member.text.length + (laterMembers members).length - members.length + rest.length, ?_⟩
      simp only [List.length_append, List.length_cons]
      omega
    rw [objectBody, hsteps, List.append_assoc,
      readMembers_of_takesMember _ (nextKey_member _ _) hkeyed htakes,
      readMembers_laterMembers others hblanks member.blank_behind]
    simp only [hfinish, Except.bind, Except.map]

end Members

/-! ## Members in any order -/

/-- A member whose key spells a name. -/
structure NamedMember extends MemberText where
  name : String
  spells_key : SpellsText name key

/-- A member without blanks around its parts. -/
def NamedMember.bare (name : String) {key : Bytes} (spells_key : SpellsText name key)
    (value : Bytes) : NamedMember where
  before := []
  key := key
  between := []
  ahead := []
  value := value
  behind := []
  blank_before := by simp [Blank]
  blank_between := by simp [Blank]
  blank_ahead := by simp [Blank]
  blank_behind := by simp [Blank]
  name := name
  spells_key := spells_key

/-- The members with the names of a record, in their order. -/
def knownNames (names : List String) (members : List NamedMember) : List String :=
  (members.map NamedMember.name).filter (· ∈ names)

/-- An object spells a record that has fields of the given names: of these it gives just those that
are listed, in any order, each by a spelling of its value; what else it holds are values of any
kind. -/
def SpellsRecord (names : List String) (given : List (String × (Bytes → Prop))) (text : Bytes) :
    Prop :=
  ∃ (object : ObjectText) (members : List NamedMember),
    object.text = text ∧ object.members = members.map NamedMember.toMemberText
      ∧ (knownNames names members).Perm (given.map Prod.fst)
      ∧ ∀ member ∈ members,
          if member.name ∈ names then
            ∀ field ∈ given, field.1 = member.name → field.2 member.value
          else Phrase .value member.value

/-- All that the reader of a record remembers is which members it has seen. -/
structure Collects (shape : RecordShape δ α) (names : List String)
    (given : List (String × (Bytes → Prop))) (draftOf : List String → δ) (value : α) : Prop where
  known : shape.fields.map RecordField.name = names
  ignoresBlanks : FieldsIgnoreBlanks shape.fields
  start : draftOf [] = shape.blank
  /-- A member that was not seen before is read. -/
  step : ∀ seen, ∀ field ∈ given, field.1 ∉ seen → ∀ text, field.2 text →
    ∃ reader, shape.fields.find? (·.name == field.1) = some reader
      ∧ reader.taken (draftOf seen) = false
      ∧ Takes (reader.read (draftOf seen)) text (draftOf (field.1 :: seen))
  finish : ∀ seen, seen.Perm (given.map Prod.fst) → shape.finish (draftOf seen) = .ok value

section Seen

variable {name other : String} {seen : List String}

/-- What there is of a member if it was seen. -/
def ifSeen (name : String) (seen : List String) (value : Option α) : Option α :=
  if name ∈ seen then value else none

theorem ifSeen_of_mem {value : Option α} (h : name ∈ seen) : ifSeen name seen value = value :=
  if_pos h

theorem ifSeen_of_notMem {value : Option α} (h : name ∉ seen) : ifSeen name seen value = none :=
  if_neg h

theorem ifSeen_cons_self {value : Option α} : ifSeen name (name :: seen) value = value :=
  ifSeen_of_mem List.mem_cons_self

theorem ifSeen_cons_of_ne {value : Option α} (h : name ≠ other) :
    ifSeen name (other :: seen) value = ifSeen name seen value := by
  simp [ifSeen, h]

theorem getD_ifSeen (value standard : α) :
    (ifSeen name seen (some value)).getD standard = if name ∈ seen then value else standard := by
  unfold ifSeen
  split <;> rfl

/-- A field that keeps its value takes it into the draft that is known to have it. -/
theorem takes_keep_of_eq {kept : δ → Option β} {read : Reader β} {store : δ → β → δ}
    {draft next : δ} {value : β} {text : Bytes} (h : Takes read text value)
    (hstore : store draft value = next) :
    Takes ((RecordField.keep name kept read store).read draft) text next :=
  hstore ▸ takes_keep h

end Seen

section Collects

variable {shape : RecordShape δ α} {names : List String} {given : List (String × (Bytes → Prop))}
  {draftOf : List String → δ} {value : α} {text : Bytes}

theorem Collects.unknown (h : Collects shape names given draftOf value) {name : String}
    (hname : name ∉ names) : shape.fields.find? (·.name == name) = none := by
  rw [← h.known] at hname
  rw [List.find?_eq_none]
  exact fun field hfield hsame => hname (List.mem_map.2 ⟨field, hfield, eq_of_beq hsame⟩)

/-- The members that are given are gathered in the order that they have. -/
theorem Collects.gathers (h : Collects shape names given draftOf value)
    {members : List NamedMember} {seen : List String}
    (hnodup : (knownNames names members ++ seen).Nodup)
    (hknown : ∀ name ∈ knownNames names members, name ∈ given.map Prod.fst)
    (hspells : ∀ member ∈ members, if member.name ∈ names then
      ∀ field ∈ given, field.1 = member.name → field.2 member.value
      else Phrase .value member.value) :
    Gathers shape.fields (draftOf seen) (members.map NamedMember.toMemberText)
      (draftOf ((knownNames names members).reverse ++ seen)) := by
  induction members generalizing seen with
  | nil => exact .nil _
  | cons member members ih =>
    obtain ⟨hfirst, hothers⟩ := List.forall_mem_cons.1 hspells
    by_cases hname : member.name ∈ names
    · have hcons : knownNames names (member :: members)
          = member.name :: knownNames names members := by
        simp [knownNames, hname]
      rw [hcons] at hnodup hknown ⊢
      rw [if_pos hname] at hfirst
      obtain ⟨field, hfield, hsame⟩ := List.mem_map.1 (hknown _ List.mem_cons_self)
      have hfresh : field.1 ∉ seen := by
        rw [hsame]
        exact fun hmem => (List.nodup_cons.1 hnodup).1 (List.mem_append_right _ hmem)
      obtain ⟨reader, hreader, hlacking, htakes⟩ :=
        h.step seen field hfield hfresh _ (hfirst field hfield hsame)
      have hmoved : (knownNames names members ++ member.name :: seen).Nodup :=
        List.perm_middle.nodup_iff.2 hnodup
      have hlater := ih hmoved (fun name hmem => hknown name (List.mem_cons_of_mem _ hmem)) hothers
      rw [List.reverse_cons, List.append_assoc, List.singleton_append]
      refine .cons ⟨member.name, member.spells_key, ?_⟩ hlater
      rw [← hsame, hreader]
      exact ⟨hlacking, htakes⟩
    · have hcons : knownNames names (member :: members) = knownNames names members := by
        simp [knownNames, hname]
      rw [hcons] at hnodup hknown ⊢
      rw [if_neg hname] at hfirst
      refine .cons ⟨member.name, member.spells_key, ?_⟩ (ih hnodup hknown hothers)
      rw [h.unknown hname]
      exact ⟨rfl, hfirst⟩

/-- **A record is read** from every object that spells it. -/
theorem takes_record_of_spells (h : Collects shape names given draftOf value)
    (hgiven : (given.map Prod.fst).Nodup) (hspells : SpellsRecord names given text) :
    Takes shape.read text value := by
  obtain ⟨object, members, rfl, hmembers, hperm, hvalues⟩ := hspells
  have hnodup : (knownNames names members ++ []).Nodup := by
    rw [List.append_nil]
    exact hperm.nodup_iff.2 hgiven
  have hgathers := h.gathers hnodup (fun name hmem => hperm.subset hmem) hvalues
  rw [h.start, ← hmembers] at hgathers
  refine takes_of_gathers hgathers h.ignoresBlanks (h.finish _ ?_)
  rw [List.append_nil]
  exact (List.reverse_perm _).trans hperm

end Collects

/-! ## Lists -/

/-- A list as it is spelled. -/
structure ListText where
  elements : List Padded
  /-- What stands between the brackets if there is no element. -/
  inside : Bytes
  blank_inside : Blank inside

/-- The elements after the first. -/
def laterElements (elements : List Padded) : Bytes :=
  elements.flatMap fun element => ascii ',' :: element.text

/-- The bytes between the brackets of a list. -/
def listBody (inside : Bytes) : List Padded → Bytes
  | [] => inside
  | element :: elements => element.text ++ laterElements elements

/-- The bytes of a list. -/
def ListText.text (list : ListText) : Bytes :=
  ascii '[' :: (listBody list.inside list.elements ++ [ascii ']'])

/-- A list spells values, in their order. -/
def SpellsList (values : List (Bytes → Prop)) (text : Bytes) : Prop :=
  ∃ list : ListText, list.text = text
    ∧ List.Forall₂ (fun spells element => spells element.value) values list.elements

/-- Elements are the values of the first fields, in their order. -/
inductive Lines : List (RecordField δ) → δ → List Padded → δ → Prop
  | nil (fields : List (RecordField δ)) (draft : δ) : Lines fields draft [] draft
  | cons {field : RecordField δ} {fields : List (RecordField δ)} {draft next final : δ}
      {element : Padded} {elements : List Padded} (starts : StartsValue element.value)
      (takes : Takes (field.read draft) element.value next)
      (others : Lines fields next elements final) :
      Lines (field :: fields) draft (element :: elements) final

theorem endsNumber_laterElements (elements : List Padded) (rest : Bytes) :
    EndsNumber (laterElements elements ++ ascii ']' :: rest) := by
  cases elements with
  | nil => exact endsNumber_closing .list rest
  | cons element elements => exact endsNumber_comma _

section Elements

variable {blanks : Bytes} {element : Padded} (rest : Bytes)

theorem dropBlanks_padded (h : StartsValue element.value) :
    dropBlanks (element.text ++ rest) = element.value ++ (element.behind ++ rest) := by
  rw [Padded.text, List.append_assoc, List.append_assoc, dropBlanks_append element.blank_ahead,
    h.dropBlanks_eq]

theorem nextElement_padded (h : StartsValue element.value) :
    nextElement true (element.text ++ rest)
      = .ok (.entry (element.value ++ (element.behind ++ rest))) := by
  have hblanks := dropBlanks_padded rest h
  obtain ⟨b, tail, hvalue, -, hb⟩ := h
  rw [hvalue, List.cons_append] at hblanks ⊢
  simp only [nextElement, hblanks, if_neg hb, if_true]

theorem nextElement_laterPadded (hblank : Blank blanks) (h : StartsValue element.value) :
    nextElement false (blanks ++ ascii ',' :: (element.text ++ rest))
      = .ok (.entry (element.value ++ (element.behind ++ rest))) := by
  have hcomma : isBlankByte (ascii ',') = false := by decide
  have hbracket : ascii ',' ≠ ascii ']' := by decide
  have hblanks := dropBlanks_padded rest h
  obtain ⟨b, tail, hvalue, -, hb⟩ := h
  rw [hvalue, List.cons_append] at hblanks ⊢
  simp [nextElement, dropBlanks_append hblank, hcomma, hbracket, hblanks, hb]

theorem nextElement_closing (hblank : Blank blanks) (first : Bool) :
    nextElement first (blanks ++ ascii ']' :: rest) = .ok (.closed rest) := by
  have hbracket : isBlankByte (ascii ']') = false := by decide
  simp [nextElement, dropBlanks_append hblank, hbracket]

theorem closeList_closing (hblank : Blank blanks) :
    closeList (blanks ++ ascii ']' :: rest) = .ok rest := by
  have hbracket : isBlankByte (ascii ']') = false := by decide
  simp [closeList, dropBlanks_append hblank, hbracket]

end Elements

section Lists

variable {shape : RecordShape δ α} {fields : List (RecordField δ)} {draft final : δ}
  {elements : List Padded} {blanks : Bytes}

/-- A list that may end early ends before any field. -/
theorem readElements_closing (hearly : shape.mayEndEarly = true) (hblank : Blank blanks)
    (index : Nat) (rest : Bytes) :
    readElements shape fields index draft (blanks ++ ascii ']' :: rest) = .ok (draft, rest) := by
  cases fields with
  | nil => simp only [readElements, closeList_closing rest hblank, Except.map]
  | cons field fields =>
    simp only [readElements, nextElement_closing rest hblank, hearly, if_true, bind, Except.bind]

/-- Elements after the first are read in their order, and then the closing bracket. -/
theorem readElements_laterElements (h : Lines fields draft elements final)
    (hearly : shape.mayEndEarly = true) (hblank : Blank blanks) {index : Nat} (hindex : index ≠ 0)
    (rest : Bytes) :
    readElements shape fields index draft (blanks ++ (laterElements elements ++ ascii ']' :: rest))
      = .ok (final, rest) := by
  induction h generalizing blanks index with
  | nil fields draft =>
    rw [laterElements, List.flatMap_nil, List.nil_append]
    exact readElements_closing hearly hblank index rest
  | @cons field fields draft next final element elements starts takes others ih =>
    have hends := endsNumber_append element.blank_behind (endsNumber_laterElements elements rest)
    have hnext := nextElement_laterPadded (laterElements elements ++ ascii ']' :: rest) hblank starts
    have htail : laterElements (element :: elements) ++ ascii ']' :: rest
        = ascii ',' :: (element.text ++ (laterElements elements ++ ascii ']' :: rest)) := by
      simp [laterElements]
    rw [htail]
    simp only [readElements, decide_eq_false hindex, hnext, takes _ hends, bind, Except.bind]
    exact ih element.blank_behind (Nat.succ_ne_zero index)

/-- The elements between the brackets are read in their order, and then the closing bracket. -/
theorem readElements_listBody (h : Lines fields draft elements final)
    (hearly : shape.mayEndEarly = true) {inside : Bytes} (hinside : Blank inside) (rest : Bytes) :
    readElements shape fields 0 draft (listBody inside elements ++ ascii ']' :: rest)
      = .ok (final, rest) := by
  cases h with
  | nil => exact readElements_closing hearly hinside 0 rest
  | @cons field fields _ next _ element elements starts takes others =>
    have hends := endsNumber_append element.blank_behind (endsNumber_laterElements elements rest)
    have hnext := nextElement_padded (laterElements elements ++ ascii ']' :: rest) starts
    rw [listBody, List.append_assoc]
    simp only [readElements, decide_true, hnext, takes _ hends, bind, Except.bind]
    exact readElements_laterElements others hearly element.blank_behind (Nat.succ_ne_zero 0) rest

/-- **A record is read** from a list of the values of its first fields. -/
theorem takes_of_lines {list : ListText} {value : α}
    (h : Lines shape.fields shape.blank list.elements final) (hearly : shape.mayEndEarly = true)
    (hfinish : shape.finish final = .ok value) : Takes shape.read list.text value := by
  intro rest _
  have hblank : isBlankByte (ascii '[') = false := by decide
  have helements := readElements_listBody h hearly list.blank_inside rest
  rw [ListText.text, List.cons_append, List.append_assoc, List.singleton_append]
  simp only [RecordShape.read, dropBlanks_cons _ hblank, if_true, helements, hfinish, bind,
    Except.bind]

end Lists

/-! ## Choices -/

section Choices

variable {variants : List (Variant α)} {variant : Variant α} {name : String} {value : α}

/-- An alternative is read from each spelling of its name. -/
theorem takes_choice_of_text (h : variants.find? (·.name == name) = some (.plain name value))
    {inside : Bytes} (hspells : SpellsText name inside) :
    Takes (readChoice variants) (inQuotes inside) value := by
  intro rest _
  have hblank : isBlankByte (ascii '"') = false := by decide
  have hname := textLiteral_of_spells hspells rest
  rw [inQuotes, List.cons_append, List.append_assoc, List.singleton_append]
  simp only [readChoice, dropBlanks_cons _ hblank, if_true, readVariant, readText, hname, h,
    Variant.alone, bind, Except.bind]

/-- An alternative that is a name alone has nothing to say of itself. -/
theorem takes_null (name : String) (value : α) :
    Takes (Variant.plain name value).body (bytesOf "null") value := by
  intro rest _
  have hword : bytesOf "null" = ascii 'n' :: bytesOf "ull" := by decide
  have hblank : isBlankByte (ascii 'n') = false := by decide
  rw [hword, List.cons_append]
  simp only [Variant.body, readNull, dropBlanks_cons _ hblank, if_true, finishWord_append, Except.map]

theorem ignoresBlanks_plain (name : String) (value : α) :
    IgnoresBlanks (Variant.plain name value).body :=
  (ignoresBlanks_readNull "unit").map fun _ => value

/-- A choice is read from an object text once the first member gives a value and nothing but the
closing brace comes after it. -/
theorem readChoice_objectText (h : variants.find? (·.name == name) = some variant)
    {object : ObjectText} {member : MemberText} {members : List MemberText}
    (hmembers : object.members = member :: members) (hspells : SpellsText name member.key)
    {rest closing after : Bytes}
    (hbody : variant.body (member.toPadded.text ++ (laterMembers members ++ ascii '}' :: rest))
      = .ok (value, closing)) (hclosing : dropBlanks closing = ascii '}' :: after) :
    readChoice variants (object.text ++ rest) = .ok (value, after) := by
  have hblanks : isBlankByte (ascii '"') = false ∧ isBlankByte (ascii '{') = false := by decide
  have hbrace : ascii '{' ≠ ascii '"' := by decide
  have hname := textLiteral_of_spells hspells
    (member.between ++ ascii ':' :: (member.toPadded.text
      ++ (laterMembers members ++ ascii '}' :: rest)))
  have htext : object.text ++ rest = ascii '{' :: (member.before ++ ascii '"' ::
      member.fromKey (laterMembers members ++ ascii '}' :: rest)) := by
    rw [← member.text_append]
    simp [ObjectText.text, objectBody, hmembers]
  rw [htext]
  simp only [readChoice, dropBlanks_cons _ hblanks.2, if_neg hbrace, if_true, openKey,
    dropBlanks_append member.blank_before, dropBlanks_cons _ hblanks.1, readVariant, readText,
    MemberText.fromKey, hname, h, dropColon_between, hbody, hclosing, bind, Except.bind]

/-- An alternative is read from an object with the one member that it names. -/
theorem takes_choice_of_object (h : variants.find? (·.name == name) = some variant)
    (hblanks : IgnoresBlanks variant.body) {object : ObjectText} {member : MemberText}
    (hmembers : object.members = [member]) (hspells : SpellsText name member.key)
    (htakes : Takes variant.body member.value value) :
    Takes (readChoice variants) object.text value := by
  intro rest _
  have hblank : isBlankByte (ascii '}') = false := by decide
  have hends := endsNumber_append member.blank_behind (endsNumber_brace rest)
  have hclosing : dropBlanks (member.behind ++ ascii '}' :: rest) = ascii '}' :: rest := by
    rw [dropBlanks_append member.blank_behind, dropBlanks_cons _ hblank]
  refine readChoice_objectText h hmembers hspells ?_ hclosing
  rw [Padded.text, List.append_assoc, List.append_assoc, hblanks.eq_of_blank member.blank_ahead]
  exact htakes _ hends

end Choices

end VirtualTouchpad.Json
