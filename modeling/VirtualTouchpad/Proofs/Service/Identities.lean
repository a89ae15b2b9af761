/-
# Replies carry the identity of their lines

A line is read in two ways.  If it is a message, the reply has the message's
identity.  If not, it is read once more as a value of any shape, and the reply has
the identity that the value gives itself, if it does.

The two readings agree: whenever the value gives itself an identity, the reply has
it, also if the line is a message (`identity_of_reply`).  They read the members of
an object in step, since all readers of a member stop at the same byte.
-/
import VirtualTouchpad.Proofs.Control.Fields
import VirtualTouchpad.Proofs.Json.Values
import VirtualTouchpad.Proofs.Service.Stream

namespace VirtualTouchpad

/-! ## What a value says of itself -/

namespace Json.Value

/-- A value is an object, and the value of its last member with a key is a text. -/
def LastText (value : Value) (key text : String) : Prop :=
  ∃ before after, value = .object (before ++ (key, .text text) :: after) ∧
    ∀ member ∈ after, member.1 ≠ key

theorem lastText_iff {value : Value} {key text : String} :
    value.LastText key text ↔ (value.member? key).bind text? = some text := by
  cases value with
  | object members =>
    simp only [LastText, member?, object.injEq, Option.bind_eq_some_iff, Option.map_eq_some_iff,
      List.find?_eq_some_iff_append]
    constructor
    · rintro ⟨before, after, rfl, hafter⟩
      refine ⟨.text text, ⟨(key, .text text), ⟨by simp, after.reverse, before.reverse, by simp, ?_⟩,
        rfl⟩, rfl⟩
      simpa using hafter
    · rintro ⟨_, ⟨⟨name, found⟩, ⟨hname, after, before, hmembers, hafter⟩, rfl⟩, htext⟩
      obtain rfl : name = key := by simpa using hname
      obtain rfl : found = .text text := by cases found <;> simp_all [text?]
      refine ⟨before.reverse, after.reverse, ?_, by simpa using hafter⟩
      rw [← List.reverse_reverse members, hmembers]
      simp
  | null | boolean | number | text | list => simp [LastText, member?]

theorem readNested_dropBlanks (depth : Nat) (input : Bytes) :
    readNested depth (dropBlanks input) = readNested depth input := by
  cases depth with
  | zero => rfl
  | succ depth => simp only [readNested, dropBlanks_dropBlanks]

/-- What starts like a list is one. -/
theorem eq_list_of_readNested {depth : Nat} {inside rest : Bytes} {value : Value}
    (h : readNested depth (ascii '[' :: inside) = .ok (value, rest)) :
    ∃ items, value = .list items := by
  cases depth with
  | zero => cases h
  | succ depth =>
    have hblank : isBlankByte (ascii '[') = false := by decide
    have hothers : ascii '[' ≠ ascii 'n' ∧ ascii '[' ≠ ascii 't' ∧ ascii '[' ≠ ascii 'f' ∧
        ¬ (ascii '[' = ascii '-' ∨ isDigitByte (ascii '[') = true) ∧ ascii '[' ≠ ascii '"' := by
      decide
    obtain ⟨hn, ht, hf, hdigit, hquote⟩ := hothers
    simp only [readNested, dropBlanks_cons _ hblank, if_neg hn, if_neg ht, if_neg hf,
      if_neg hdigit, if_neg hquote, if_true] at h
    split_ifs at h
    obtain ⟨⟨items, after⟩, -, heq⟩ := bind_eq_ok.1 h
    cases heq
    exact ⟨items, rfl⟩

end Json.Value

/-! ## Both readings of a message -/

namespace Control

open Json

variable {input rest : Bytes}

/-- A draft of a message has the only identity among the members that were read so far. -/
def MessageDraft.Knows (draft : MessageDraft) (pairs : List (String × Value)) : Prop :=
  ∀ value, ("id", value) ∈ pairs → ∃ id, draft.id = some id ∧ value = .text id

namespace MessageDraft

variable {draft final : MessageDraft} {pairs : List (String × Value)} {name : String}

/-- A member of another name says nothing of the identity. -/
theorem Knows.other (h : draft.Knows pairs) (hname : name ≠ "id") (hid : final.id = draft.id)
    (value : Value) : final.Knows ((name, value) :: pairs) := by
  intro found hmem
  rcases List.mem_cons.1 hmem with heq | hmem
  · exact absurd (congrArg Prod.fst heq).symm hname
  · rw [hid]
    exact h found hmem

/-- The first identity is the only one. -/
theorem Knows.identity (h : draft.Knows pairs) (hlacking : draft.id = none) {id : String}
    (hid : final.id = some id) : final.Knows (("id", .text id) :: pairs) := by
  intro found hmem
  rcases List.mem_cons.1 hmem with heq | hmem
  · exact ⟨id, hid, congrArg Prod.snd heq⟩
  · obtain ⟨_, hsome, -⟩ := h found hmem
    rw [hlacking] at hsome
    cases hsome

end MessageDraft

/-- A text is a text, whoever reads it. -/
theorem eq_text_of_readText {expected text : String} {depth : Nat} {value : Value} {otherRest : Bytes}
    (htext : readText expected input = .ok (text, rest))
    (hvalue : Value.readNested depth input = .ok (value, otherRest)) : value = .text text := by
  obtain _ | depth := depth
  · cases hvalue
  unfold readText at htext
  split at htext
  · cases htext
  · next b mid hblanks =>
    split_ifs at htext with hquote
    subst hquote
    have hothers : ascii '"' ≠ ascii 'n' ∧ ascii '"' ≠ ascii 't' ∧ ascii '"' ≠ ascii 'f' ∧
        ¬ (ascii '"' = ascii '-' ∨ isDigitByte (ascii '"') = true) := by decide
    obtain ⟨hn, ht, hf, hdigit⟩ := hothers
    simp only [Value.readNested, hblanks, if_neg hn, if_neg ht, if_neg hf, if_neg hdigit, if_true,
      htext, Except.map, Except.ok.injEq, Prod.mk.injEq] at hvalue
    exact hvalue.1.symm

/-- A member that a draft takes gives it the identity that the member has as a value. -/
theorem knows_of_takesMember {draft next : MessageDraft} {pairs : List (String × Value)} {name : String}
    {start after otherAfter : Bytes} {value : Value} {depth : Nat} (h : draft.Knows pairs)
    (htakes : TakesMember Message.shape.fields draft name start next after)
    (hvalue : Value.readNested depth start = .ok (value, otherAfter)) :
    next.Knows ((name, value) :: pairs) := by
  unfold TakesMember at htakes
  rw [find?_fields] at htakes
  by_cases hid : name = "id"
  · subst hid
    simp only [if_true] at htakes
    obtain ⟨htaken, hstored⟩ := htakes
    obtain ⟨⟨id, _⟩, htext, heq⟩ := map_eq_ok.1 hstored
    cases heq
    obtain rfl := eq_text_of_readText htext hvalue
    have hlacking : draft.id = none := by simpa [idField, RecordField.keep] using htaken
    exact h.identity hlacking rfl
  · rw [if_neg hid] at htakes
    by_cases hcommand : name = "command"
    · simp only [if_pos hcommand] at htakes
      obtain ⟨_, -, heq⟩ := map_eq_ok.1 htakes.2
      cases heq
      exact h.other hid rfl value
    · simp only [if_neg hcommand] at htakes
      obtain rfl := htakes.1
      exact h.other hid rfl value

/-- **The two readings go in step**: they read the same members, and what the draft has as the
identity is what the value has. -/
theorem knows_of_readMembers {steps more depth : Nat} {first : Bool} {draft final : MessageDraft}
    {pairs members : List (String × Value)} {otherRest : Bytes} (h : draft.Knows pairs)
    (hdraft : readMembers Message.shape.fields steps first draft input = .ok (final, rest))
    (hpairs : Value.readPairs (Value.readNested depth) more first pairs input
      = .ok (members, otherRest)) : final.Knows members := by
  induction steps generalizing more first draft pairs input with
  | zero => cases hdraft
  | succ steps ih =>
    obtain _ | more := more
    · cases hpairs
    rcases readMembers_eq_ok hdraft with
      ⟨hclosed, rfl⟩ | ⟨name, start, next, after, hmember, htakes, hdraft⟩
    · rcases Value.readPairs_eq_ok hpairs with ⟨-, rfl⟩ | ⟨_, _, _, _, hmember, -⟩
      · intro value hmem
        exact h value (List.mem_reverse.1 hmem)
      · exact absurd hclosed hmember.not_closed
    · rcases Value.readPairs_eq_ok hpairs with
        ⟨hclosed, -⟩ | ⟨_, _, value, sameAfter, hsame, hvalue, hpairs⟩
      · exact absurd hclosed hmember.not_closed
      · obtain ⟨rfl, rfl⟩ := hmember.eq hsame
        obtain rfl : after = sameAfter :=
          (htakes.spans fieldsSpan_message).eq_rest (Value.spanning_readNested depth hvalue)
        exact ih (knows_of_takesMember h htakes hvalue) hdraft hpairs

/-- The identity of a message is the one of its draft. -/
theorem id_of_finish {draft : MessageDraft} {message : Message} {id : String}
    (h : Message.shape.finish draft = .ok message) (hid : draft.id = some id) :
    message.id = id := by
  obtain ⟨_, hrequired, h⟩ := bind_eq_ok.1 h
  obtain ⟨command, -, h⟩ := bind_eq_ok.1 h
  cases h
  rw [hid] at hrequired
  cases hrequired
  rfl

/-- **The identity of a message** is the one that its line gives itself as a value. -/
theorem eq_id_of_lastText {line : Bytes} {message : Message} {value : Value} {text : String}
    (hmessage : Message.parse line = .ok message) (hvalue : Value.parse line = .ok value)
    (hlast : value.LastText "id" text) : text = message.id := by
  obtain ⟨before, after, rfl, -⟩ := hlast
  obtain ⟨rest, hread⟩ := exists_rest_of_readAll hmessage
  obtain ⟨otherRest, hreadValue⟩ := exists_rest_of_readAll hvalue
  rw [← Value.readNested_dropBlanks] at hreadValue
  unfold RecordShape.read at hread
  split at hread
  · cases hread
  · next b inside hblanks =>
    rw [hblanks] at hreadValue
    split_ifs at hread with hlist hobject
    · subst hlist
      obtain ⟨items, hitems⟩ := Value.eq_list_of_readNested hreadValue
      cases hitems
    · subst hobject
      obtain ⟨⟨draft, _⟩, hdraft, hread⟩ := bind_eq_ok.1 hread
      obtain ⟨_, hfinish, heq⟩ := bind_eq_ok.1 hread
      cases heq
      rw [Value.readNested_brace (by decide)] at hreadValue
      obtain ⟨⟨members, _⟩, hmembers, heq⟩ := map_eq_ok.1 hreadValue
      cases heq
      have hblank : Message.shape.blank.Knows [] := fun _ hmem => absurd hmem List.not_mem_nil
      have hknows := knows_of_readMembers hblank hdraft hmembers
      obtain ⟨id, hid, htext⟩ := hknows (.text text) (by simp)
      cases htext
      exact (id_of_finish hfinish hid).symm

end Control

namespace Service

open Control
open Json (Bytes Fault Value readAll_of_takes writeObject writeText)

/-- The identity that a line claims is the text of its last member with that key. -/
theorem claimedId_eq {line : Bytes} {value : Value} {text : String}
    (hvalue : Value.parse line = .ok value) (hlast : value.LastText "id" text) :
    claimedId line = text := by
  rw [claimedId, hvalue]
  simp only [Value.lastText_iff.1 hlast, Option.getD_some]

/-- Any other line claims none. -/
theorem claimedId_eq_empty {line : Bytes}
    (h : ¬ ∃ value text, Value.parse line = .ok value ∧ value.LastText "id" text) :
    claimedId line = "" := by
  rw [claimedId]
  cases hvalue : Value.parse line with
  | error fault => rfl
  | ok value =>
    cases hid : (value.member? "id").bind Value.text? with
    | none => simp [hid]
    | some text => exact absurd ⟨value, text, hvalue, Value.lastText_iff.2 hid⟩ h

/-- **A reply carries the identity of its line**: the message's if the line is one, and the line's
own wherever it gives itself one, whether or not it is a message.  A refused line without an identity
gets an empty one. -/
theorem identity_of_reply (rig : Rig) (line : Bytes) :
    (∀ message, Message.parse line = .ok message → (answer rig line).2.id = message.id) ∧
    (∀ value text, Value.parse line = .ok value → value.LastText "id" text →
      (answer rig line).2.id = text) ∧
    (∀ fault, Message.parse line = .error fault →
      (¬ ∃ value text, Value.parse line = .ok value ∧ value.LastText "id" text) →
      (answer rig line).2.id = "") := by
  refine ⟨fun message hmessage => ?_, fun value text hvalue hlast => ?_, fun fault hfault hnone => ?_⟩
  · rw [answer_message hmessage]
  · cases hmessage : Message.parse line with
    | ok message =>
      rw [answer_message hmessage]
      exact (eq_id_of_lastText hmessage hvalue hlast).symm
    | error fault =>
      rw [answer_fault hmessage]
      exact claimedId_eq hvalue hlast
  · rw [answer_fault hfault]
    exact claimedId_eq_empty hnone

/-- A line with an unknown command and two identities is answered with the second. -/
theorem identity_of_reply_repeated :
    let rig := Rig.new .standard (.recorders []) ⟨[], .new []⟩
    let line := writeObject [("id", writeText "a"), ("command", writeText "Nope"),
      ("id", writeText "b")] ++ [newline]
    (answer rig line).2.id = "b" := by
  intro rig line
  have hvalue : Value.parse line = .ok (.object [("id", .text "a"), ("command", .text "Nope"),
      ("id", .text "b")]) := by
    refine readAll_of_takes (Value.takes_object ?_) (by decide)
    exact .cons ⟨rfl, Value.takes_text 126 "a"⟩ (.cons ⟨rfl, Value.takes_text 126 "Nope"⟩
      (.cons ⟨rfl, Value.takes_text 126 "b"⟩ .nil))
  have hlast : (Value.object [("id", .text "a"), ("command", .text "Nope"),
      ("id", .text "b")]).LastText "id" "b" :=
    ⟨[("id", .text "a"), ("command", .text "Nope")], [], rfl, by simp⟩
  exact (identity_of_reply rig line).2.1 _ "b" hvalue hlast

end Service

end VirtualTouchpad
