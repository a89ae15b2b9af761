/-
# Written objects are read back

A record is read member by member into a draft.  `Fills` says that some members,
in their order, turn one draft into another; it is all that a particular record
has to show, and `takes_record` does the reading.  A choice is a text alone or
an object with one key.
-/
import VirtualTouchpad.Proofs.Json.Texts

namespace VirtualTouchpad.Json

variable {α δ : Type}

/-! ## Members -/

/-- The text of the members after the first. -/
def memberTail (members : List (String × Bytes)) : Bytes :=
  members.flatMap fun member => ascii ',' :: writeMember member

theorem joinCommas_cons (part : Bytes) (parts : List Bytes) :
    joinCommas (part :: parts) = part ++ parts.flatMap (ascii ',' :: ·) := by
  induction parts generalizing part with
  | nil => simp [joinCommas]
  | cons next parts ih =>
    rw [joinCommas, ih, List.flatMap_cons, List.cons_append]
    exact List.cons_ne_nil next parts

theorem writeObject_cons (member : String × Bytes) (members : List (String × Bytes)) :
    writeObject (member :: members) =
      ascii '{' :: (writeMember member ++ (memberTail members ++ [ascii '}'])) := by
  rw [writeObject, List.map_cons, joinCommas_cons, List.flatMap_map, List.append_assoc, memberTail]

/-- A member up to its value. -/
theorem writeMember_append (name : String) (text rest : Bytes) :
    writeMember (name, text) ++ rest =
      ascii '"' :: ((bytesOf name).flatMap escapeByte ++ ascii '"' :: ascii ':' :: (text ++ rest)) := by
  simp [writeMember, writeText]

theorem dropColon_colon (rest : Bytes) : dropColon (ascii ':' :: rest) = .ok rest := by
  have hblank : isBlankByte (ascii ':') = false := by decide
  simp [dropColon, hblank]

theorem nextKey_first (rest : Bytes) : nextKey true (ascii '"' :: rest) = .ok (.entry rest) := by
  have hblank : isBlankByte (ascii '"') = false := by decide
  have hbrace : ascii '"' ≠ ascii '}' := by decide
  simp [nextKey, hblank, hbrace]

theorem nextKey_comma (rest : Bytes) :
    nextKey false (ascii ',' :: ascii '"' :: rest) = .ok (.entry rest) := by
  have hblanks : isBlankByte (ascii ',') = false ∧ isBlankByte (ascii '"') = false := by decide
  have hbrace : ascii ',' ≠ ascii '}' := by decide
  simp [nextKey, hblanks, hbrace]

theorem nextKey_close (first : Bool) (rest : Bytes) :
    nextKey first (ascii '}' :: rest) = .ok (.closed rest) := by
  have hblank : isBlankByte (ascii '}') = false := by decide
  simp [nextKey, hblank]

/-! ## Records -/

/-- Members turn a draft into another: each names a field that the draft lacks, and the field's
reader takes the member's text. -/
inductive Fills (fields : List (RecordField δ)) : δ → List (String × Bytes) → δ → Prop
  | nil (draft : δ) : Fills fields draft [] draft
  | cons {draft next final : δ} {name : String} {text : Bytes}
      {members : List (String × Bytes)} (field : RecordField δ)
      (found : fields.find? (·.name == name) = some field)
      (lacking : field.taken draft = false)
      (taken : Takes (field.read draft) text next)
      (others : Fills fields next members final) :
      Fills fields draft ((name, text) :: members) final

/-- What follows a member ends a number. -/
theorem endsNumber_memberTail (members : List (String × Bytes)) {rest : Bytes}
    (hrest : EndsNumber rest) : EndsNumber (memberTail members ++ rest) := by
  cases members with
  | nil => exact hrest
  | cons member members => exact endsNumber_cons _ (by decide)

theorem endsNumber_brace (rest : Bytes) : EndsNumber (ascii '}' :: rest) :=
  endsNumber_cons rest (by decide)

section Members

variable {fields : List (RecordField δ)} {draft next final : δ} {members : List (String × Bytes)}

/-- One step reads one member. -/
theorem readMembers_member {name : String} {text rest input : Bytes} {field : RecordField δ}
    {first : Bool} (steps : Nat)
    (hnext : nextKey first input = .ok (.entry
      ((bytesOf name).flatMap escapeByte ++ ascii '"' :: ascii ':' :: (text ++ rest))))
    (hfound : fields.find? (·.name == name) = some field) (hlacking : field.taken draft = false)
    (htaken : Takes (field.read draft) text next) (hrest : EndsNumber rest) :
    readMembers fields (steps + 1) first draft input = readMembers fields steps false next rest := by
  simp only [readMembers, hnext, textLiteral_written, hfound, hlacking, dropColon_colon,
    htaken rest hrest, bind, Except.bind]
  rfl

/-- Members after the first are read one step each. -/
theorem readMembers_memberTail (h : Fills fields draft members final) (steps : Nat) {rest : Bytes}
    (hrest : EndsNumber rest) :
    readMembers fields (members.length + steps) false draft (memberTail members ++ rest) =
      readMembers fields steps false final rest := by
  induction h with
  | nil draft => simp [memberTail]
  | @cons draft next final name text members field found lacking taken others ih =>
    have hsteps : ((name, text) :: members).length + steps = members.length + steps + 1 := by
      rw [List.length_cons]
      omega
    have htail : memberTail ((name, text) :: members) ++ rest =
        ascii ',' :: (writeMember (name, text) ++ (memberTail members ++ rest)) := by
      simp [memberTail]
    rw [hsteps, htail, writeMember_append, readMembers_member _ (nextKey_comma _) found lacking
      taken (endsNumber_memberTail members hrest), ih]

theorem length_le_memberTail (members : List (String × Bytes)) :
    members.length ≤ (memberTail members).length := by
  induction members with
  | nil => exact Nat.le_refl 0
  | cons member members ih =>
    simp only [memberTail, List.flatMap_cons, List.length_cons, List.length_append] at ih ⊢
    omega

/-- The reader of an object takes enough steps for its members and one more. -/
theorem exists_steps (member : String × Bytes) (members : List (String × Bytes)) (rest : Bytes) :
    ∃ steps, (writeMember member ++ (memberTail members ++ ascii '}' :: rest)).length + 1 =
      members.length + (steps + 1) + 1 := by
  have hlength := length_le_memberTail members
  refine ⟨(writeMember member).length + (memberTail members).length - members.length +
    rest.length, ?_⟩
  simp only [List.length_append, List.length_cons]
  omega

end Members

theorem writeObject_append (member : String × Bytes) (members : List (String × Bytes))
    (rest : Bytes) : writeObject (member :: members) ++ rest =
      ascii '{' :: (writeMember member ++ (memberTail members ++ ascii '}' :: rest)) := by
  simp [writeObject_cons]

/-- Reading a record from an object is reading its members. -/
theorem read_brace (shape : RecordShape δ α) (input : Bytes) :
    shape.read (ascii '{' :: input) =
      (readMembers shape.fields (input.length + 1) true shape.blank input).bind
        fun (draft, rest) => (shape.finish draft).map fun value => (value, rest) := by
  have hblank : isBlankByte (ascii '{') = false := by decide
  have hlist : ascii '{' ≠ ascii '[' := by decide
  simp only [RecordShape.read, dropBlanks_cons _ hblank, if_neg hlist, if_true]
  cases readMembers shape.fields (input.length + 1) true shape.blank input with
  | error fault => rfl
  | ok read => cases h : shape.finish read.1 <;> simp [bind, Except.bind, Except.map, h]

/-- A written record is read back. -/
theorem takes_record {shape : RecordShape δ α} {draft : δ} {member : String × Bytes}
    {members : List (String × Bytes)} {value : α}
    (h : Fills shape.fields shape.blank (member :: members) draft)
    (hfinish : shape.finish draft = .ok value) :
    Takes shape.read (writeObject (member :: members)) value := by
  intro rest _
  cases h with
  | @cons _ next _ name text _ field found lacking taken others =>
    have hends := endsNumber_brace rest
    obtain ⟨steps, hsteps⟩ := exists_steps (name, text) members rest
    rw [writeObject_append, read_brace, hsteps, writeMember_append,
      readMembers_member _ (nextKey_first _) found lacking taken
        (endsNumber_memberTail members hends), readMembers_memberTail others _ hends]
    simp only [readMembers, nextKey_close, hfinish, bind, Except.bind, Except.map]

/-- A field whose value is kept takes what its reader takes. -/
theorem takes_keep {name : String} {kept : δ → Option α} {read : Reader α} {store : δ → α → δ}
    {draft : δ} {text : Bytes} {value : α} (h : Takes read text value) :
    Takes ((RecordField.keep name kept read store).read draft) text (store draft value) := by
  intro rest hrest
  simp only [RecordField.keep, h rest hrest, Except.map]

/-! ## Choices -/

section Choices

variable {variants : List (Variant α)} {name : String} {value : α}

theorem readVariant_writeText {variant : Variant α}
    (h : variants.find? (·.name == name) = some variant) (rest : Bytes) :
    readVariant variants (writeText name ++ rest) = .ok (variant, rest) := by
  simp only [readVariant, readText_writeText, h, bind, Except.bind]

/-- The name of an alternative that has nothing more to it. -/
theorem takes_plain (h : variants.find? (·.name == name) = some (.plain name value)) :
    Takes (readChoice variants) (writeText name) value := by
  intro rest _
  have hblank : isBlankByte (ascii '"') = false := by decide
  have hread := readVariant_writeText h rest
  rw [writeText, List.cons_append] at hread ⊢
  simp only [readChoice, dropBlanks_cons _ hblank, if_true, hread, Variant.alone, bind, Except.bind]

/-- Reading a choice from an object is reading its record and the closing brace. -/
theorem readChoice_object {read : Reader α}
    (h : variants.find? (·.name == name) = some (.record name read)) (text rest : Bytes) :
    readChoice variants (writeObject [(name, text)] ++ rest) =
      (read (text ++ ascii '}' :: rest)).bind fun (value, rest) =>
        match dropBlanks rest with
        | [] => .error (.ended .object)
        | c :: after => if c = ascii '}' then .ok (value, after) else .error .expectedValue := by
  have hblanks : isBlankByte (ascii '"') = false ∧ isBlankByte (ascii '{') = false := by decide
  have hbrace : ascii '{' ≠ ascii '"' := by decide
  have hread := readVariant_writeText h (ascii ':' :: (text ++ ascii '}' :: rest))
  have hopen : openKey (writeText name ++ ascii ':' :: (text ++ ascii '}' :: rest)) =
      .ok (writeText name ++ ascii ':' :: (text ++ ascii '}' :: rest)) := by
    simp [openKey, writeText, hblanks]
  have hobject : writeObject [(name, text)] ++ rest =
      ascii '{' :: (writeText name ++ ascii ':' :: (text ++ ascii '}' :: rest)) := by
    simp [writeObject, joinCommas, writeMember]
  rw [hobject]
  cases hbody : read (text ++ ascii '}' :: rest) with
  | error fault =>
    simp [readChoice, hblanks.2, hbrace, hopen, hread, dropColon_colon, Variant.body, hbody, bind,
      Except.bind]
  | ok body =>
    cases hafter : dropBlanks body.2 <;>
      simp [readChoice, hblanks.2, hbrace, hopen, hread, dropColon_colon, Variant.body, hbody,
        hafter, bind, Except.bind]

/-- The name of an alternative with its record. -/
theorem takes_variant {read : Reader α} {text : Bytes}
    (h : variants.find? (·.name == name) = some (.record name read)) (htext : Takes read text value) :
    Takes (readChoice variants) (writeObject [(name, text)]) value := by
  intro rest _
  have hblank : isBlankByte (ascii '}') = false := by decide
  rw [readChoice_object h, htext _ (endsNumber_brace rest)]
  simp only [Except.bind, dropBlanks_cons _ hblank, if_true]

end Choices

/-! ## Printable objects -/

theorem printable_joinCommas {parts : List Bytes} (h : ∀ part ∈ parts, Printable part) :
    Printable (joinCommas parts) := by
  induction parts using joinCommas.induct with
  | case1 => exact printable_nil
  | case2 part => exact h part List.mem_cons_self
  | case3 part parts hparts ih =>
    obtain ⟨hpart, hothers⟩ := List.forall_mem_cons.1 h
    rw [joinCommas.eq_3 _ _ hparts]
    exact hpart.append (.cons (by decide) (ih hothers))

/-- An object of printable members is printable. -/
theorem printable_writeObject {members : List (String × Bytes)}
    (h : ∀ member ∈ members, Printable member.2) : Printable (writeObject members) := by
  refine .cons (by decide) ((printable_joinCommas ?_).append (.cons (by decide) printable_nil))
  intro part hpart
  obtain ⟨member, hmember, rfl⟩ := List.mem_map.1 hpart
  exact (printable_writeText member.1).append (.cons (by decide) (h member hmember))

end VirtualTouchpad.Json
