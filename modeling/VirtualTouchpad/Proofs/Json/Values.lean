/-
# What is written is a value

A text that was written for one reader is also a value of its own: texts and
numbers are, `null` is, and an object is if its members are.  A value can be
read without knowing what was meant by it.
-/
import VirtualTouchpad.Proofs.Json.Records
import VirtualTouchpad.Proofs.Json.Spellings
import VirtualTouchpad.Json.Value

namespace VirtualTouchpad.Json

namespace Value

/-! ## Values without parts -/

theorem takes_text (depth : Nat) (text : String) :
    Takes (readNested (depth + 1)) (writeText text) (.text text) := by
  intro rest _
  have hblank : isBlankByte (ascii '"') = false := by decide
  have hothers : ascii '"' ≠ ascii 'n' ∧ ascii '"' ≠ ascii 't' ∧ ascii '"' ≠ ascii 'f' ∧
      ¬ (ascii '"' = ascii '-' ∨ isDigitByte (ascii '"') = true) := by decide
  obtain ⟨hn, ht, hf, hdigit⟩ := hothers
  have hread := textLiteral_written text rest
  rw [writeText, List.cons_append, List.append_assoc, List.singleton_append]
  simp only [readNested, dropBlanks_cons _ hblank, if_neg hn, if_neg ht, if_neg hf, if_neg hdigit,
    if_true, hread, Except.map]

theorem takes_null (depth : Nat) : Takes (readNested (depth + 1)) (bytesOf "null") .null := by
  intro rest _
  have hblank : isBlankByte (ascii 'n') = false := by decide
  have hword : bytesOf "null" = ascii 'n' :: bytesOf "ull" := by decide
  have hfinish := finishWord_append (bytesOf "ull") rest
  rw [hword, List.cons_append]
  simp only [readNested, dropBlanks_cons _ hblank, if_true, hfinish, Except.map]

theorem takes_numeral (depth : Nat) {n : Numeral} {number : Number} (h : n.WellFormed)
    (hvalue : n.value = .ok number) : Takes (readNested (depth + 1)) n.text (.number number) := by
  intro rest hrest
  have hread := readNumber_text h hvalue hrest
  obtain ⟨b, tail, htext, hstart, hblank⟩ := exists_text_start h
  have hletter : b ≠ ascii 'n' ∧ b ≠ ascii 't' ∧ b ≠ ascii 'f' := by
    refine ⟨?_, ?_, ?_⟩ <;>
      rintro rfl <;>
      revert hstart <;>
      decide
  rw [htext, List.cons_append] at hread ⊢
  simp only [readNested, dropBlanks_cons _ hblank, if_neg hletter.1, if_neg hletter.2.1,
    if_neg hletter.2.2, if_pos hstart, hread, Except.map]

theorem takes_writeNat (depth : Nat) {n : Nat} (hn : n < UInt64.size) :
    Takes (readNested (depth + 1)) (writeNat n) (.number (.whole n)) := by
  rw [writeNat_eq]
  exact takes_numeral depth (wellFormed_wholeNumeral n) (value_wholeNumeral hn)

/-- A float is a number or `null`. -/
theorem takes_writeSingle (depth : Nat) (x : Single) :
    ∃ value, Takes (readNested (depth + 1)) (writeSingle x) value := by
  by_cases hx : x.IsFinite
  · rw [writeSingle_eq hx]
    exact ⟨_, takes_numeral depth (wellFormed_singleNumeral x) (value_singleNumeral hx)⟩
  · rw [writeSingle_of_not_isFinite hx]
    exact ⟨_, takes_null depth⟩

/-! ## Objects -/

/-- Members that are read as other members. -/
def MembersRead (read : Reader Value) : List (String × Bytes) → List (String × Value) → Prop :=
  List.Forall₂ fun member pair => member.1 = pair.1 ∧ Takes read member.2 pair.2

section Members

variable {read : Reader Value} {members : List (String × Bytes)} {pairs : List (String × Value)}

/-- One step reads one member. -/
theorem readPairs_member {name : String} {text rest input : Bytes} {value : Value} {first : Bool}
    (steps : Nat) (done : List (String × Value))
    (hnext : nextKey first input = .ok (.entry
      ((bytesOf name).flatMap escapeByte ++ ascii '"' :: ascii ':' :: (text ++ rest))))
    (htaken : Takes read text value) (hrest : EndsNumber rest) :
    readPairs read (steps + 1) first done input =
      readPairs read steps false ((name, value) :: done) rest := by
  simp only [readPairs, hnext, textLiteral_written, dropColon_colon, htaken rest hrest, bind,
    Except.bind]

/-- The members after the first are read one step each, and the closing brace in one more. -/
theorem readPairs_memberTail (h : MembersRead read members pairs) (steps : Nat)
    (done : List (String × Value)) (rest : Bytes) :
    readPairs read (members.length + (steps + 1)) false done
      (memberTail members ++ ascii '}' :: rest) = .ok (done.reverse ++ pairs, rest) := by
  induction h generalizing done with
  | nil =>
    simp only [memberTail, List.flatMap_nil, List.nil_append, readPairs, nextKey_close, List.append_nil, bind, Except.bind]
  | @cons member pair members pairs hmember hothers ih =>
    obtain ⟨name, text⟩ := member
    obtain ⟨_, value⟩ := pair
    obtain ⟨rfl, htaken⟩ := hmember
    have hsteps : ((name, text) :: members).length + (steps + 1) =
        members.length + (steps + 1) + 1 := by
      rw [List.length_cons]
      omega
    have htail : memberTail ((name, text) :: members) ++ ascii '}' :: rest =
        ascii ',' :: (writeMember (name, text) ++ (memberTail members ++ ascii '}' :: rest)) := by
      simp [memberTail]
    rw [hsteps, htail, writeMember_append, readPairs_member _ _ (nextKey_comma _) htaken
      (endsNumber_memberTail members (endsNumber_brace rest)), ih]
    simp

end Members

/-- Reading an object is reading its members, one level deeper. -/
theorem readNested_brace {depth : Nat} (hdepth : depth ≠ 0) (input : Bytes) :
    readNested (depth + 1) (ascii '{' :: input) =
      (readPairs (readNested depth) (input.length + 1) true [] input).map
        fun (pairs, rest) => (.object pairs, rest) := by
  have hblank : isBlankByte (ascii '{') = false := by decide
  have hothers : ascii '{' ≠ ascii 'n' ∧ ascii '{' ≠ ascii 't' ∧ ascii '{' ≠ ascii 'f' ∧
      ¬ (ascii '{' = ascii '-' ∨ isDigitByte (ascii '{') = true) ∧ ascii '{' ≠ ascii '"' ∧
      ascii '{' ≠ ascii '[' := by decide
  obtain ⟨hn, ht, hf, hdigit, hquote, hlist⟩ := hothers
  simp only [readNested, dropBlanks_cons _ hblank, if_neg hn, if_neg ht, if_neg hf, if_neg hdigit,
    if_neg hquote, if_neg hlist, if_true, if_neg hdepth]
  rfl

/-- A written object is read as the object of its members. -/
theorem takes_object {depth : Nat} {member : String × Bytes} {members : List (String × Bytes)}
    {pairs : List (String × Value)}
    (h : MembersRead (readNested (depth + 1)) (member :: members) pairs) :
    Takes (readNested (depth + 2)) (writeObject (member :: members)) (.object pairs) := by
  intro rest _
  cases h with
  | @cons _ pair _ pairs hmember hothers =>
    obtain ⟨name, text⟩ := member
    obtain ⟨_, value⟩ := pair
    obtain ⟨rfl, htaken⟩ := hmember
    obtain ⟨steps, hsteps⟩ := exists_steps (name, text) members rest
    rw [writeObject_append, readNested_brace (Nat.succ_ne_zero depth), hsteps, writeMember_append,
      readPairs_member _ _ (nextKey_first _) htaken
        (endsNumber_memberTail members (endsNumber_brace rest)), readPairs_memberTail hothers]
    rfl

/-- An object is a value if its members are. -/
theorem exists_takes_object {depth : Nat} {member : String × Bytes}
    {members : List (String × Bytes)}
    (h : ∀ m ∈ member :: members, ∃ value, Takes (readNested (depth + 1)) m.2 value) :
    ∃ value, Takes (readNested (depth + 2)) (writeObject (member :: members)) value := by
  have hread : ∀ ms : List (String × Bytes),
      (∀ m ∈ ms, ∃ value, Takes (readNested (depth + 1)) m.2 value) →
      ∃ pairs, MembersRead (readNested (depth + 1)) ms pairs := by
    intro ms hms
    induction ms with
    | nil => exact ⟨[], .nil⟩
    | cons m ms ih =>
      obtain ⟨⟨value, hvalue⟩, hothers⟩ := List.forall_mem_cons.1 hms
      obtain ⟨pairs, hpairs⟩ := ih hothers
      exact ⟨(m.1, value) :: pairs, .cons ⟨rfl, hvalue⟩ hpairs⟩
  obtain ⟨pairs, hpairs⟩ := hread _ h
  exact ⟨_, takes_object hpairs⟩

end Value

end VirtualTouchpad.Json
