/-
# Written objects that are refused

A reader that refuses a part refuses the whole, with the fault of the part: a
record if the members before it are taken (`refuses_record`), and a choice
(`refuses_variant`).
-/
import VirtualTouchpad.Proofs.Json.Records

namespace VirtualTouchpad.Json

variable {α δ : Type}

/-- A reader refuses a text with a fault, whatever comes after it. -/
def Refuses (read : Reader α) (text : Bytes) (fault : Fault) : Prop :=
  ∀ rest, EndsNumber rest → read (text ++ rest) = .error fault

variable {text : Bytes} {fault : Fault} {name : String}

/-- A field whose value is kept refuses what its reader refuses. -/
theorem refuses_keep {kept : δ → Option α} {read : Reader α} {store : δ → α → δ} {draft : δ}
    (h : Refuses read text fault) :
    Refuses ((RecordField.keep name kept read store).read draft) text fault := by
  intro rest hrest
  simp only [RecordField.keep, h rest hrest, Except.map]

/-- The reading of the members ends at one that is refused. -/
theorem readMembers_refused {fields : List (RecordField δ)} {field : RecordField δ} {draft : δ}
    {rest input : Bytes} {first : Bool} (steps : Nat)
    (hnext : nextKey first input = .ok (.entry
      ((bytesOf name).flatMap escapeByte ++ ascii '"' :: ascii ':' :: (text ++ rest))))
    (hfound : fields.find? (·.name == name) = some field) (hlacking : field.taken draft = false)
    (hrefused : Refuses (field.read draft) text fault) (hrest : EndsNumber rest) :
    readMembers fields (steps + 1) first draft input = .error fault := by
  simp only [readMembers, hnext, textLiteral_written, hfound, hlacking, dropColon_colon,
    hrefused rest hrest, bind, Except.bind]
  rfl

/-- A record is refused at the first member that is. -/
theorem refuses_record {shape : RecordShape δ α} {draft : δ} {field : RecordField δ}
    {before : List (String × Bytes)} (after : List (String × Bytes))
    (h : Fills shape.fields shape.blank before draft)
    (hfound : shape.fields.find? (·.name == name) = some field)
    (hlacking : field.taken draft = false) (hrefused : Refuses (field.read draft) text fault) :
    Refuses shape.read (writeObject (before ++ (name, text) :: after)) fault := by
  intro rest _
  have hends := endsNumber_memberTail after (endsNumber_brace rest)
  cases h with
  | nil =>
    rw [List.nil_append, writeObject_append, read_brace, writeMember_append,
      readMembers_refused _ (nextKey_first _) hfound hlacking hrefused hends]
    rfl
  | @cons _ next _ first firstText members firstField found lacking taken others =>
    have htail : memberTail (members ++ (name, text) :: after) ++ ascii '}' :: rest =
        memberTail members ++ (ascii ',' :: (writeMember (name, text) ++
          (memberTail after ++ ascii '}' :: rest))) := by
      simp [memberTail]
    have hcomma : EndsNumber (ascii ',' :: (writeMember (name, text) ++
        (memberTail after ++ ascii '}' :: rest))) := endsNumber_cons _ (by decide)
    obtain ⟨steps, hsteps⟩ := exists_steps (first, firstText) (members ++ (name, text) :: after) rest
    have hmore : (members ++ (name, text) :: after).length + (steps + 1) =
        members.length + ((after.length + steps + 1) + 1) := by
      simp only [List.length_append, List.length_cons]
      omega
    rw [List.cons_append, writeObject_append, read_brace, hsteps, hmore, htail,
      writeMember_append, readMembers_member _ (nextKey_first _) found lacking taken
        (endsNumber_memberTail members hcomma), readMembers_memberTail others _ hcomma,
      writeMember_append, readMembers_refused _ (nextKey_comma _) hfound hlacking hrefused hends]
    rfl

/-- A choice is refused if the record of the alternative is. -/
theorem refuses_variant {variants : List (Variant α)} {read : Reader α}
    (h : variants.find? (·.name == name) = some (.record name read))
    (hrefused : Refuses read text fault) :
    Refuses (readChoice variants) (writeObject [(name, text)]) fault := by
  intro rest _
  rw [readChoice_object h, hrefused _ (endsNumber_brace rest)]
  rfl

/-- A whole text that a reader refuses is refused, with a newline or without. -/
theorem readAll_of_refuses {read : Reader α} (h : Refuses read text fault) {blanks : Bytes}
    (hblanks : EndsNumber blanks) : readAll read (text ++ blanks) = .error fault := by
  simp only [readAll, h blanks hblanks, bind, Except.bind]

end VirtualTouchpad.Json
