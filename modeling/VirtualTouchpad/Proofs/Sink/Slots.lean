/-
# Contacts and their slots

A device sink puts an event for a slot into a frame only if the slot is not the one that
it put into a frame last.  The device hears of a slot only if it takes that part of the
frame.  So the events of a contact may go to another slot than the one that the call
behind them names, after a frame that was not taken whole.

`Device.contactsNamed_iff` says exactly when they do not: every contact that is read was
taken in one piece, and the slot that the device heard of last is the one that it was
asked for last, heard or not.  The reason is the invariant `Device.Asked`: the slot that
a call names is always the one that was asked for last.

A device sink opens one device in its life (`Device.lifecycle_operateAll`), so the bytes
that were taken in all its calls are those of its device.
-/
import VirtualTouchpad.Proofs.Input.Reading
import VirtualTouchpad.Proofs.Sink.Lifecycle

namespace VirtualTouchpad

/-! ## Events with the calls behind them -/

/-- An event with the slot that the call behind it names. -/
structure Named where
  event : InputEvent
  named : Option Int32
  deriving DecidableEq, Repr

/-- An event that is offered to a device, and how many of its bytes the device takes. -/
structure Offered extends Named where
  taken : Nat
  deriving DecidableEq, Repr

/-- The bytes of an event that the device takes. -/
def Offered.bytes (o : Offered) : List UInt8 := o.event.bytes.take o.taken

/-- Events offered in order to a device that takes some number of bytes. -/
def offer : Nat → List Named → List Offered
  | _, [] => []
  | count, e :: events => ⟨e, min count 24⟩ :: offer (count - 24) events

theorem map_toNamed_offer (count : Nat) (events : List Named) :
    (offer count events).map (·.toNamed) = events := by
  induction events generalizing count with
  | nil => rfl
  | cons e events ih => rw [offer, List.map_cons, ih]

theorem map_event_offer (count : Nat) (events : List Named) :
    (offer count events).map (·.event) = events.map (·.event) := by
  have hnamed := congrArg (List.map (·.event)) (map_toNamed_offer count events)
  rw [List.map_map] at hnamed
  exact hnamed

/-- The bytes that are taken are the first ones. -/
theorem bytes_offer (count : Nat) (events : List Named) :
    (offer count events).flatMap (·.bytes)
      = (events.flatMap (·.event.bytes)).take count := by
  induction events generalizing count with
  | nil => simp [offer]
  | cons e events ih =>
    have hhead : Offered.bytes ⟨e, min count 24⟩ = e.event.bytes.take count := by
      rw [Offered.bytes, ← e.event.length_bytes, ← List.take_eq_take_min]
    rw [offer, List.flatMap_cons, List.flatMap_cons, ih, hhead, List.take_append,
      e.event.length_bytes]

/-! ## What is seen of them -/

/-- An event as it is read from what a device took. -/
structure Seen where
  event : InputEvent
  /-- The slot that the call behind the event names.  There is no call behind an event that is read
  from pieces of others. -/
  named : Option Int32
  /-- The slot that the device was asked for last. -/
  asked : Int32
  deriving DecidableEq, Repr

/-- What is read from what a device takes, after some bytes of an event that is not whole. -/
def seen (left : List UInt8) (asked : Int32) : List Offered → List Seen
  | [] => []
  | o :: offers =>
    let bytes := left ++ o.bytes
    if bytes.length < 24 then seen bytes (o.event.select asked) offers
    else
      ⟨InputEvent.ofBytes (bytes.take 24), if left = [] then o.named else none, asked⟩
        :: seen (bytes.drop 24) (o.event.select asked) offers

theorem Offered.length_bytes_le (o : Offered) : o.bytes.length ≤ 24 := by
  rw [Offered.bytes, List.length_take, o.event.length_bytes]
  exact Nat.min_le_right _ _

/-- Where enough bytes for an event are taken, all of it is. -/
theorem Offered.bytes_of_le {o : Offered} (h : 24 ≤ o.bytes.length) :
    o.bytes = o.event.bytes := by
  rw [Offered.bytes, List.length_take, o.event.length_bytes] at h
  apply List.take_of_length_le
  rw [o.event.length_bytes]
  omega

/-- An event that is taken whole is seen as it was offered. -/
theorem seen_of_le {o : Offered} (h : 24 ≤ o.bytes.length) (asked : Int32)
    (offers : List Offered) :
    seen [] asked (o :: offers)
      = ⟨o.event, o.named, asked⟩ :: seen [] (o.event.select asked) offers := by
  have hlength := o.event.length_bytes
  rw [seen, List.nil_append, Offered.bytes_of_le h, if_neg (by omega), if_pos rfl,
    List.take_of_length_le (by omega), List.drop_of_length_le (by omega), InputEvent.ofBytes_bytes]

/-- **What is seen is what the bytes say.** -/
theorem decode_bytes {left : List UInt8} (hleft : left.length < 24) (asked : Int32)
    (offers : List Offered) :
    decode (left ++ offers.flatMap (·.bytes)) = (seen left asked offers).map (·.event) := by
  induction offers generalizing left asked with
  | nil =>
    rw [List.flatMap_nil, List.append_nil, decode_of_lt hleft]
    rfl
  | cons o offers ih =>
    rw [List.flatMap_cons, ← List.append_assoc, seen]
    split
    · next hshort => exact ih hshort _
    · next hlong =>
      -- Fewer than 24 bytes were left over, and no more than 24 are added: one event is read.
      have hblock : ((left ++ o.bytes).take 24).length = 24 := by
        rw [List.length_take]
        omega
      have hrest : ((left ++ o.bytes).drop 24).length < 24 := by
        have hbytes := o.length_bytes_le
        rw [List.length_drop, List.length_append]
        omega
      rw [List.map_cons, ← ih hrest]
      conv => lhs; rw [← List.take_append_drop 24 (left ++ o.bytes)]
      rw [List.append_assoc, decode_append hblock]

/-- The contacts that are seen, with the slots that the calls behind them name. -/
def namedContacts (seen : List Seen) : List (Option Int32 × InputEvent) :=
  (seen.filter (·.event.isContact)).map fun s => (s.named, s.event)

/-- Every contact that a reader finds in some bytes goes to the slot that the call behind it
names. -/
def ContactsNamed (bytes : List UInt8) (seen : List Seen) : Prop :=
  (readContacts bytes).map (fun c => (some c.1, c.2)) = namedContacts seen

instance (bytes : List UInt8) (seen : List Seen) : Decidable (ContactsNamed bytes seen) :=
  inferInstanceAs (Decidable (_ = _))

/-- Every contact that is seen has a call behind it, and is seen while the slot is selected that
the device was asked for last. -/
def InPlace (slot : Int32) : List Seen → Prop
  | [] => True
  | s :: rest =>
    (s.event.isContact → s.named.isSome ∧ slot = s.asked) ∧ InPlace (s.event.select slot) rest

/-- Where calls name the slot that was asked for last, contacts go to the slots that the calls name
exactly if they are in place. -/
theorem contacts_eq_iff (slot : Int32) {seen : List Seen}
    (h : ∀ s ∈ seen, s.event.isContact → s.named = none ∨ s.named = some s.asked) :
    (contacts slot (seen.map (·.event))).map (fun c => (some c.1, c.2)) = namedContacts seen
      ↔ InPlace slot seen := by
  induction seen generalizing slot with
  | nil => simp [contacts, namedContacts, InPlace]
  | cons s rest ih =>
    have hrest := ih (s.event.select slot) fun s' hmem => h s' (List.mem_cons_of_mem _ hmem)
    rw [List.map_cons, contacts, InPlace, ← hrest]
    by_cases hcontact : s.event.isContact
    · have hhead : some slot = s.named ↔ s.named.isSome ∧ slot = s.asked := by
        rcases h s List.mem_cons_self hcontact with hnone | hsome
        · simp [hnone]
        · simp [hsome]
      simp [hcontact, namedContacts, hhead]
    · simp [hcontact, namedContacts]

/-! ## Slots that are asked for -/

/-- Every contact belongs to a call that names the slot that is asked for last. -/
def NamedAsAsked (asked : Int32) : List Named → Prop
  | [] => True
  | e :: events =>
    (e.event.isContact → e.named = some asked) ∧ NamedAsAsked (e.event.select asked) events

theorem namedAsAsked_append {asked : Int32} {events later : List Named} :
    NamedAsAsked asked (events ++ later)
      ↔ NamedAsAsked asked events
        ∧ NamedAsAsked (selected asked (events.map (·.event))) later := by
  induction events generalizing asked with
  | nil => simp [NamedAsAsked, selected]
  | cons e events ih =>
    rw [List.cons_append, NamedAsAsked, ih, NamedAsAsked, and_assoc]
    rfl

/-- A contact that is seen is made of pieces, or the call behind it names the slot that was asked
for last. -/
theorem named_of_mem_seen {left : List UInt8} {asked : Int32} {offers : List Offered}
    (h : NamedAsAsked asked (offers.map (·.toNamed))) :
    ∀ s ∈ seen left asked offers, s.event.isContact → s.named = none ∨ s.named = some s.asked := by
  induction offers generalizing left asked with
  | nil => simp [seen]
  | cons o offers ih =>
    intro s hmem hcontact
    -- Only an event that is taken whole, with nothing left over before it, has a call behind it.
    by_cases hwhole : left = [] ∧ 24 ≤ o.bytes.length
    · obtain ⟨rfl, hbytes⟩ := hwhole
      rw [seen_of_le hbytes] at hmem
      rcases List.mem_cons.mp hmem with rfl | hmem
      · right
        exact h.1 hcontact
      · exact ih h.2 s hmem hcontact
    · rw [seen] at hmem
      split at hmem
      · exact ih h.2 s hmem hcontact
      · next hlong =>
        rcases List.mem_cons.mp hmem with rfl | hmem
        · left
          refine if_neg fun hleft => hwhole ⟨hleft, ?_⟩
          rw [hleft, List.nil_append] at hlong
          omega
        · exact ih h.2 s hmem hcontact

/-- Where everything is taken, every contact is in place. -/
theorem inPlace_of_taken {asked : Int32} {offers : List Offered}
    (h : NamedAsAsked asked (offers.map (·.toNamed))) (htaken : ∀ o ∈ offers, o.taken = 24) :
    InPlace asked (seen [] asked offers) := by
  induction offers generalizing asked with
  | nil => trivial
  | cons o offers ih =>
    have hbytes : 24 ≤ o.bytes.length := by
      rw [Offered.bytes, List.length_take, o.event.length_bytes, htaken o List.mem_cons_self]
      decide
    rw [seen_of_le hbytes, InPlace]
    refine ⟨fun hcontact => ⟨?_, rfl⟩, ih h.2 fun o' hmem => htaken o' (List.mem_cons_of_mem _ hmem)⟩
    have hnamed : o.named = some asked := h.1 hcontact
    rw [hnamed]
    rfl

/-- **The reason**: what is offered names the slots that are asked for, so the contacts go to the
slots that the calls name exactly if they are in place. -/
theorem contactsNamed_offers {offers : List Offered}
    (h : NamedAsAsked 0 (offers.map (·.toNamed))) :
    ContactsNamed (offers.flatMap (·.bytes)) (seen [] 0 offers) ↔ InPlace 0 (seen [] 0 offers) := by
  have hdecode : decode (offers.flatMap (·.bytes)) = (seen [] 0 offers).map (·.event) :=
    @decode_bytes [] (by decide) 0 offers
  rw [ContactsNamed, readContacts, hdecode]
  exact contacts_eq_iff 0 (named_of_mem_seen h)

/-! ## What a device sink offers -/

/-- The slot that the call of an operation names. -/
def Operation.slot? : Operation → Option Int32
  | .call c => c.slot?
  | _ => none

namespace Device

/-- What is offered to the host's device in an operation; the events of the frame are pending. -/
def offered (d : Device) (host : Host) (pending : List Named) : Operation → List Offered
  | .call .synReport =>
    if d.stage = .ready then
      offer (acceptedBytes ((d.synReport host).1.events.drop host.events.length)).length
        (pending ++ [⟨InputEvent.synReport, none⟩])
    else []
  | _ => []

/-- The events of the frame after an operation. -/
def pendingAfter (before after : Device) (pending : List Named) (operation : Operation) :
    List Named :=
  if after.frame = [] then []
  else pending ++ (after.frame.drop before.frame.length).map (⟨·, operation.slot?⟩)

/-- What is offered to the host's device in operations in order. -/
def offers (d : Device) (host : Host) (pending : List Named) : List Operation → List Offered
  | [] => []
  | operation :: operations =>
    let after := d.operate host operation
    d.offered host pending operation
      ++ after.2.offers after.1 (pendingAfter d after.2 pending operation) operations

/-- A device sink that was asked for a slot last, with the events of its frame. -/
structure Asked (asked : Int32) (d : Device) (pending : List Named) : Prop where
  frame : pending.map (·.event) = d.frame
  named : NamedAsAsked asked pending
  /-- The slot that the device sink keeps is the one that it will have asked for then. -/
  kept : ∀ slot, d.slot = some slot → selected asked d.frame = slot

theorem asked_new (path : String) : Asked 0 (new path) [] where
  frame := rfl
  named := trivial
  kept := fun _ h => nomatch h

end Device

/-- Events that are no contacts and select no slot. -/
theorem namedAsAsked_of_ne {events : List InputEvent}
    (h : ∀ e ∈ events, e.eventType ≠ EventType.abs) (named : Option Int32) (asked : Int32) :
    NamedAsAsked asked (events.map (⟨·, named⟩)) ∧ selected asked events = asked := by
  induction events with
  | nil => exact ⟨trivial, rfl⟩
  | cons e events ih =>
    have hne := h e List.mem_cons_self
    obtain ⟨hnamed, hselected⟩ := ih fun e' hmem => h e' (List.mem_cons_of_mem _ hmem)
    rw [List.map_cons, NamedAsAsked, selected, List.foldl_cons, InputEvent.select_of_ne hne]
    refine ⟨⟨fun hcontact => ?_, hnamed⟩, hselected⟩
    rw [InputEvent.isContact_of_ne hne] at hcontact
    exact absurd hcontact Bool.false_ne_true

/-- The events of a contact, for a call that names the slot that is asked for last. -/
theorem namedAsAsked_of_isContact {events : List InputEvent}
    (h : ∀ e ∈ events, e.isContact) (asked : Int32) :
    NamedAsAsked asked (events.map (⟨·, some asked⟩)) ∧ selected asked events = asked := by
  induction events with
  | nil => exact ⟨trivial, rfl⟩
  | cons e events ih =>
    have hcontact := h e List.mem_cons_self
    obtain ⟨hnamed, hselected⟩ := ih fun e' hmem => h e' (List.mem_cons_of_mem _ hmem)
    rw [List.map_cons, NamedAsAsked, selected, List.foldl_cons,
      InputEvent.select_of_isContact hcontact]
    exact ⟨⟨fun _ => rfl, hnamed⟩, hselected⟩

namespace Call

/-- The events of a contact, after the one that asks for its slot unless it was asked for last. -/
theorem namedAsAsked_selecting {events : List InputEvent} (h : ∀ e ∈ events, e.isContact)
    {current : Option Int32} {asked : Int32} (hcurrent : ∀ slot, current = some slot → asked = slot)
    (slot : Int32) :
    NamedAsAsked asked ((selecting current slot ++ events).map (⟨·, some slot⟩))
      ∧ selected asked (selecting current slot ++ events) = slot := by
  obtain ⟨hnamed, hselected⟩ := namedAsAsked_of_isContact h slot
  unfold selecting
  by_cases hslot : current = some slot
  · rw [if_pos hslot, List.nil_append, hcurrent slot hslot]
    exact ⟨hnamed, hselected⟩
  · rw [if_neg hslot]
    refine ⟨⟨fun hcontact => ?_, hnamed⟩, hselected⟩
    exact absurd (InputEvent.isSlot_of_isContact hcontact) (by simp [InputEvent.isSlot])

/-- **One call**: its events name the slot that is asked for last, which is the one after the
call. -/
theorem namedAsAsked_events (call : Call) {current : Option Int32} {asked : Int32}
    (h : ∀ slot, current = some slot → asked = slot) :
    NamedAsAsked asked ((call.events current).map (⟨·, call.slot?⟩))
      ∧ ∀ slot, call.slotAfter current = some slot
        → selected asked (call.events current) = slot := by
  have hother : (∀ e ∈ call.events current, e.eventType ≠ EventType.abs) → call.slot? = none →
      NamedAsAsked asked ((call.events current).map (⟨·, call.slot?⟩))
        ∧ ∀ slot, call.slotAfter current = some slot
          → selected asked (call.events current) = slot := by
    intro hne hslot
    obtain ⟨hnamed, hselected⟩ := namedAsAsked_of_ne hne call.slot? asked
    refine ⟨hnamed, fun slot hafter => ?_⟩
    rw [slotAfter, hslot] at hafter
    rw [hselected]
    exact h slot hafter
  cases call with
  | contact slot trackingId x y =>
    have hcontact : ∀ e ∈ [(⟨EventType.abs, AbsAxis.trackingId, trackingId⟩ : InputEvent),
        ⟨EventType.abs, AbsAxis.positionX, x⟩, ⟨EventType.abs, AbsAxis.positionY, y⟩],
        e.isContact := by
      simp [InputEvent.isContact]
    obtain ⟨hnamed, hselected⟩ := namedAsAsked_selecting hcontact h slot
    refine ⟨hnamed, fun after hafter => ?_⟩
    rw [← Option.some.inj hafter]
    exact hselected
  | lift slot =>
    have hcontact : ∀ e ∈ [(⟨EventType.abs, AbsAxis.trackingId, -1⟩ : InputEvent)],
        e.isContact := by
      simp [InputEvent.isContact]
    obtain ⟨hnamed, hselected⟩ := namedAsAsked_selecting hcontact h slot
    refine ⟨hnamed, fun after hafter => ?_⟩
    rw [← Option.some.inj hafter]
    exact hselected
  | key | rel => exact hother (by simp [events, EventType.key, EventType.rel, EventType.abs]) rfl
  | _ => exact hother (by simp [events]) rfl

/-- A call that names a slot has no code that could be too great. -/
theorem slot?_of_not_inRange {call : Call} (h : ¬ call.InRange) : call.slot? = none := by
  cases call with
  | contact | lift => exact absurd trivial h
  | _ => rfl

end Call

/-! ## Every run -/

namespace Device

variable {asked : Int32} {d : Device} {pending : List Named}

/-- The pending events while the frame does not get shorter. -/
theorem pendingAfter_append {after : Device} (h : pending.map (·.event) = d.frame)
    {events : List InputEvent} (hframe : after.frame = d.frame ++ events) (operation : Operation) :
    pendingAfter d after pending operation
      = pending ++ events.map (⟨·, operation.slot?⟩) := by
  unfold pendingAfter
  split
  · next hnil =>
    rw [hframe] at hnil
    obtain ⟨hbefore, rfl⟩ := List.append_eq_nil_iff.mp hnil
    rw [hbefore] at h
    rw [List.map_eq_nil_iff.mp h]
    rfl
  · rw [hframe, List.drop_left]

namespace Asked

/-- Events are put into the frame that name the slot asked for last. -/
theorem grow {after : Device} (h : Asked asked d pending) {events : List InputEvent}
    (hframe : after.frame = d.frame ++ events) (operation : Operation)
    (hnamed : NamedAsAsked (selected asked d.frame) (events.map (⟨·, operation.slot?⟩)))
    (hkept : ∀ slot, after.slot = some slot → selected (selected asked d.frame) events = slot) :
    Asked asked after (pendingAfter d after pending operation) := by
  rw [pendingAfter_append h.frame hframe operation]
  refine ⟨?_, ?_, ?_⟩
  · rw [List.map_append, h.frame, hframe, List.map_map]
    congr 1
    exact List.map_id _
  · rw [namedAsAsked_append, h.frame]
    exact ⟨h.named, hnamed⟩
  · intro slot hslot
    rw [hframe, selected_append]
    exact hkept slot hslot

/-- Nothing is put into the frame, and the slot stays. -/
theorem same (after : Device) (h : Asked asked d pending) (hframe : after.frame = d.frame)
    (hslot : after.slot = d.slot) (operation : Operation) :
    Asked asked after (pendingAfter d after pending operation) := by
  have hnone : after.frame = d.frame ++ [] := by rw [hframe, List.append_nil]
  refine h.grow hnone operation trivial fun slot hafter => ?_
  exact h.kept slot (hslot ▸ hafter)

/-- The frame is empty and no slot is kept. -/
theorem empty {after : Device} (hframe : after.frame = []) (hslot : after.slot = none)
    (operation : Operation) : Asked asked after (pendingAfter d after pending operation) := by
  rw [pendingAfter, if_pos hframe]
  refine ⟨hframe.symm, trivial, fun slot hafter => ?_⟩
  rw [hslot] at hafter
  cases hafter

theorem quiet {after : Device} (h : Asked asked d pending) {call : Call}
    (hquietly : Quietly call d after) :
    Asked asked after (pendingAfter d after pending (.call call)) := by
  obtain ⟨hnamed, hslot⟩ := call.namedAsAsked_events h.kept
  by_cases hin : d.stage = .ready ∧ call.InRange
  · have hframe := hquietly.frame
    have hkept := hquietly.slot
    rw [queued, if_pos hin] at hframe
    rw [if_pos hin.1] at hkept
    exact h.grow hframe (.call call) hnamed fun slot hafter => hslot slot (hkept ▸ hafter)
  · have hframe := hquietly.frame
    rw [queued, if_neg hin, List.append_nil] at hframe
    refine h.same after hframe ?_ (.call call)
    rw [hquietly.slot]
    split
    · next hready =>
      have hrange : ¬ call.InRange := fun hrange => hin ⟨hready, hrange⟩
      rw [Call.slotAfter, Call.slot?_of_not_inRange hrange]
      rfl
    · rfl

end Asked

/-- An operation of a device sink that was asked for a slot last: what is offered names the slot
that is asked for last, and the host's device takes no more. -/
structure Offering (asked : Int32) (d : Device) (host : Host) (pending : List Named)
    (operation : Operation) : Prop where
  taken : ∃ new, (d.operate host operation).1 = host.recordAll new
    ∧ acceptedBytes new = (d.offered host pending operation).flatMap (·.bytes)
  named : NamedAsAsked asked ((d.offered host pending operation).map (·.toNamed))
  asked : Asked (selected asked ((d.offered host pending operation).map (·.event)))
    (d.operate host operation).2
    (pendingAfter d (d.operate host operation).2 pending operation)

/-- An operation that offers nothing. -/
theorem Offering.nothing {host : Host} {operation : Operation} (new : List KernelEvent)
    (hoffered : d.offered host pending operation = [])
    (hhost : (d.operate host operation).1 = host.recordAll new)
    (hnew : ∀ event ∈ new, event.isWrite = false)
    (hasked : Asked asked (d.operate host operation).2
      (pendingAfter d (d.operate host operation).2 pending operation)) :
    Offering asked d host pending operation where
  taken := ⟨new, hhost, by rw [hoffered, acceptedBytes_of_not_write hnew]; rfl⟩
  named := by rw [hoffered]; trivial
  asked := by rw [hoffered]; exact hasked

namespace Asked

theorem configureEnd (h : Asked asked d pending) (host : Host) :
    Offering asked d host pending (.call .configureEnd) := by
  have hspec : ∃ new, (d.configureEnd host).1 = host.recordAll new
      ∧ (∀ event ∈ new, event.isWrite = false)
      ∧ (d.configureEnd host).2.frame = d.frame ∧ (d.configureEnd host).2.slot = d.slot := by
    unfold Device.configureEnd
    split
    · exact ⟨[], by simp, by simp, rfl, rfl⟩
    split
    · exact ⟨[], by simp, by simp, rfl, rfl⟩
    obtain ⟨new, hhost, -, hnew⟩ := d.make_spec host
    match hmake : d.make host with
    | (made, .ok n) =>
      rw [hmake] at hhost
      exact ⟨new, hhost, hnew, rfl, rfl⟩
    | (made, .error e) =>
      rw [hmake] at hhost
      exact ⟨new, hhost, hnew, rfl, rfl⟩
  obtain ⟨new, hhost, hnew, hframe, hslot⟩ := hspec
  exact .nothing new rfl hhost hnew (h.same _ hframe hslot (.call .configureEnd))

/-- The frame is offered with its end, and taken up to some point. -/
theorem ended (h : Asked asked d pending) (hready : d.stage = .ready) {host : Host}
    {new : List KernelEvent} (hhost : (d.synReport host).1 = host.recordAll new)
    (hfirst : acceptedBytes new <+: d.payload) (hframe : (d.synReport host).2.frame = [])
    (hslot : (d.synReport host).2.slot = d.slot) :
    Offering asked d host pending (.call .synReport) := by
  have hnew : (d.synReport host).1.events.drop host.events.length = new := by
    rw [hhost, Host.events_recordAll, List.drop_left]
  have hoffered : d.offered host pending (.call .synReport)
      = offer (acceptedBytes new).length (pending ++ [⟨InputEvent.synReport, none⟩]) := by
    rw [offered, if_pos hready, hnew]
  have hsyn : InputEvent.synReport.eventType ≠ EventType.abs := by decide
  have hframes : (pending ++ [(⟨InputEvent.synReport, none⟩ : Named)]).map (·.event)
      = d.frame ++ [InputEvent.synReport] := by
    rw [List.map_append, h.frame]
    rfl
  have hselected : selected asked (d.frame ++ [InputEvent.synReport]) = selected asked d.frame := by
    rw [selected_append]
    exact InputEvent.select_of_ne hsyn _
  -- The end of the frame is no contact and selects no slot.
  refine ⟨⟨new, hhost, ?_⟩, ?_, ?_⟩
  · rw [hoffered, bytes_offer, ← List.flatMap_map, hframes]
    exact List.prefix_iff_eq_take.mp hfirst
  · rw [hoffered, map_toNamed_offer, namedAsAsked_append]
    refine ⟨h.named, fun hcontact => ?_, trivial⟩
    exact absurd hcontact (by decide)
  · have hevents : (d.offered host pending (.call .synReport)).map (·.event)
        = d.frame ++ [InputEvent.synReport] := by
      rw [hoffered, map_event_offer, hframes]
    rw [hevents, hselected]
    show Asked (selected asked d.frame) (d.synReport host).2
      (pendingAfter d (d.synReport host).2 pending (.call .synReport))
    rw [pendingAfter, if_pos hframe]
    refine ⟨hframe.symm, trivial, fun slot hafter => ?_⟩
    rw [hframe]
    exact h.kept slot (hslot ▸ hafter)

theorem synReport (h : Asked asked d pending) (host : Host) :
    Offering asked d host pending (.call .synReport) := by
  by_cases hready : d.stage = .ready
  · cases hnode : d.node with
    | none =>
      have hrefused : d.synReport host = (host, { d with frame := [] }.latch .sequencing) := by
        simp [Device.synReport, hready, hnode]
      have hhost : (d.synReport host).1 = host.recordAll [] := by
        rw [hrefused, Host.recordAll_nil]
      refine h.ended hready hhost List.nil_prefix ?_ ?_
      · rw [hrefused]
        rfl
      · rw [hrefused]
        rfl
    | some n =>
      obtain ⟨writes, hhost, -, hfirst⟩ := host.write_spec n d.payload
      refine h.ended hready ?_ hfirst ?_ ?_
      · rw [synReport_eq hready hnode]
        exact hhost
      · rw [synReport_eq hready hnode]
      · rw [synReport_eq hready hnode]
  · have hrefused : d.operate host (.call .synReport) = (host, d.latch .sequencing) := by
      simp [Device.operate, receive, Device.synReport, hready]
    refine .nothing [] (if_neg hready) ?_ (by simp) ?_
    · rw [hrefused, Host.recordAll_nil]
    · rw [hrefused]
      show Asked asked (d.latch .sequencing)
        (pendingAfter d (d.latch .sequencing) pending (.call .synReport))
      exact h.same (d.latch .sequencing) rfl rfl _

theorem close (host : Host) {operation : Operation}
    (hoperate : d.operate host operation = d.close host)
    (hoffered : d.offered host pending operation = []) :
    Offering asked d host pending operation := by
  obtain ⟨new, hhost, hnew⟩ := d.close_spec host
  refine .nothing new hoffered ?_ (fun event hmem => (hnew event hmem).1) ?_
  · rw [hoperate, hhost]
  · rw [hoperate]
    exact empty rfl rfl operation

/-- **One step** offers events that name the slot asked for last. -/
theorem operate (h : Asked asked d pending) (host : Host) (operation : Operation) :
    Offering asked d host pending operation := by
  cases operation with
  | reset =>
    refine .nothing [] rfl (Host.recordAll_nil host).symm (by simp) ?_
    exact h.same d.resetStatus rfl rfl .reset
  | drop => exact close host rfl rfl
  | call call =>
    by_cases hquiet : call.IsQuiet
    · obtain ⟨hhost, hquietly⟩ := d.quiet_receive host hquiet
      have hoffered : d.offered host pending (.call call) = [] := by
        cases call with
        | synReport => exact absurd rfl hquiet.2.1
        | _ => rfl
      refine .nothing [] hoffered ?_ (by simp) (h.quiet hquietly)
      rw [Host.recordAll_nil]
      exact hhost
    · cases call with
      | configureEnd => exact h.configureEnd host
      | synReport => exact h.synReport host
      | close => exact close host rfl rfl
      | _ => exact absurd ⟨by simp, by simp, by simp⟩ hquiet

/-- **Every run** does, and the host's device takes no other bytes. -/
theorem operateAll (h : Asked asked d pending) (host : Host) (operations : List Operation) :
    NamedAsAsked asked ((d.offers host pending operations).map (·.toNamed))
      ∧ ∃ new, (d.operateAll host operations).1 = host.recordAll new
        ∧ acceptedBytes new = (d.offers host pending operations).flatMap (·.bytes) := by
  induction operations generalizing asked d pending host with
  | nil => exact ⟨trivial, [], by simp [Device.operateAll], rfl⟩
  | cons operation operations ih =>
    obtain ⟨⟨first, hfirst, htaken⟩, hnamed, hasked⟩ := h.operate host operation
    obtain ⟨hrest, new, hnew, hlater⟩ := ih hasked (d.operate host operation).1
    rw [offers]
    refine ⟨?_, first ++ new, ?_, ?_⟩
    · rw [List.map_append, namedAsAsked_append, List.map_map]
      exact ⟨hnamed, hrest⟩
    · rw [Device.operateAll, hnew, hfirst, Host.recordAll_recordAll]
    · rw [acceptedBytes_append, htaken, hlater, List.flatMap_append]

end Asked

/-! ## Contacts and the slots of their calls -/

/-- What is seen of a new device sink that is used in some way. -/
def seenOf (path : String) (host : Host) (operations : List Operation) : List Seen :=
  seen [] 0 ((new path).offers host [] operations)

/-- **When contacts go to the slots that their calls name**, however a device sink is used and
whatever goes wrong: exactly if every contact is seen whole, after the slot event that was asked
for last. -/
theorem contactsNamed_iff (path : String) (faults : List KernelFault) (files : Files)
    (operations : List Operation) :
    ContactsNamed
        (acceptedBytes ((new path).operateAll ⟨faults, [], files⟩ operations).1.events)
        (seenOf path ⟨faults, [], files⟩ operations)
      ↔ InPlace 0 (seenOf path ⟨faults, [], files⟩ operations) := by
  obtain ⟨hnamed, events, hhost, htaken⟩ :=
    (asked_new path).operateAll ⟨faults, [], files⟩ operations
  rw [hhost, Host.events_recordAll, List.nil_append, htaken]
  exact contactsNamed_offers hnamed

/-- As long as everything that is offered is taken, contacts go to the slots that their calls
name. -/
theorem contactsNamed_of_taken (path : String) (faults : List KernelFault) (files : Files)
    (operations : List Operation)
    (h : ∀ o ∈ (new path).offers ⟨faults, [], files⟩ [] operations, o.taken = 24) :
    ContactsNamed
      (acceptedBytes ((new path).operateAll ⟨faults, [], files⟩ operations).1.events)
      (seenOf path ⟨faults, [], files⟩ operations) := by
  obtain ⟨hnamed, events, hhost, htaken⟩ :=
    (asked_new path).operateAll ⟨faults, [], files⟩ operations
  rw [hhost, Host.events_recordAll, List.nil_append, htaken]
  exact (contactsNamed_offers hnamed).mpr (inPlace_of_taken hnamed h)

/-- A frame that is lost takes its slot event with it: the next contact of that slot goes to
slot 0. -/
theorem not_contactsNamed_lost_frame :
    ¬ ContactsNamed
        (acceptedBytes ((new "/dev/uinput").operateAll ⟨[⟨"write", 1, .fails 5⟩], [], .empty⟩
          [.call (.configureBegin ⟨"pad", 3, 0, 0, 0⟩),
            .call (.configureMultiTouch 0 0 100 100), .call (.configureSlots 2),
            .call .configureEnd, .call (.contact 1 7 10 20), .call .synReport,
            .call (.contact 1 7 11 21), .call .synReport]).1.events)
        (seenOf "/dev/uinput" ⟨[⟨"write", 1, .fails 5⟩], [], .empty⟩
          [.call (.configureBegin ⟨"pad", 3, 0, 0, 0⟩),
            .call (.configureMultiTouch 0 0 100 100), .call (.configureSlots 2),
            .call .configureEnd, .call (.contact 1 7 10 20), .call .synReport,
            .call (.contact 1 7 11 21), .call .synReport]) := by
  decide +kernel

end Device

end VirtualTouchpad
