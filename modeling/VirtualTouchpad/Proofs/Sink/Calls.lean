/-
# What calls do to devices

Most calls ask nothing of the host: they declare something, put events into the
frame, or are refused.  What such a call leaves as it was, and which events it puts
into the frame, is said here once for all of them (`quiet_receive`).
-/
import VirtualTouchpad.Proofs.Host.Writes
import VirtualTouchpad.Proofs.Sink.Effect
import VirtualTouchpad.Proofs.Sink.Refusals

namespace VirtualTouchpad

namespace Call

/-- Whether a call asks nothing of the host. -/
def IsQuiet (call : Call) : Prop := call ≠ .configureEnd ∧ call ≠ .synReport ∧ call ≠ .close

/-- The slot that the events of a call belong to. -/
def slot? : Call → Option Int32
  | .contact slot .. | .lift slot => some slot
  | _ => none

/-- The slot that is the current one after a call. -/
def slotAfter (current : Option Int32) (call : Call) : Option Int32 := call.slot? <|> current

/-- The event that makes a slot the current one, unless it is. -/
def selecting (current : Option Int32) (slot : Int32) : List InputEvent :=
  if current = some slot then [] else [⟨EventType.abs, AbsAxis.slot, slot⟩]

/-- The events of a call while a slot is the current one. -/
def events (current : Option Int32) : Call → List InputEvent
  | .key code state => [⟨EventType.key, code, state.value⟩]
  | .rel axis delta => [⟨EventType.rel, axis, delta⟩]
  | .contact slot trackingId x y =>
    selecting current slot ++
      [⟨EventType.abs, AbsAxis.trackingId, trackingId⟩, ⟨EventType.abs, AbsAxis.positionX, x⟩,
        ⟨EventType.abs, AbsAxis.positionY, y⟩]
  | .lift slot => selecting current slot ++ [⟨EventType.abs, AbsAxis.trackingId, -1⟩]
  | _ => []

/-- Whether the codes of a call are small enough for an event. -/
def InRange : Call → Prop
  | .key code _ => code ≤ KeyCode.greatest
  | .rel axis _ => axis ≤ RelAxis.greatest
  | _ => True

instance (call : Call) : Decidable call.InRange :=
  match call with
  | .key code _ => inferInstanceAs (Decidable (code ≤ KeyCode.greatest))
  | .rel axis _ => inferInstanceAs (Decidable (axis ≤ RelAxis.greatest))
  | .configureBegin _ | .configureProperty _ | .configureKey _ | .configureRel _
  | .configureMultiTouch .. | .configureSlots _ | .configureEnd | .contact .. | .lift _
  | .synReport | .close => .isTrue trivial

/-- Whether a call reports something. -/
def IsReport : Call → Prop
  | .key .. | .rel .. | .contact .. | .lift _ => True
  | _ => False

/-- Whether a call is fit for a device that is ready: an end of a frame, or a report with a code in
range. -/
def IsSample (call : Call) : Prop := call = .synReport ∨ call.IsReport ∧ call.InRange

end Call

namespace Device

/-! ## What is kept -/

/-- The device before and after something that changes no more than its declaration and status. -/
structure Kept (before after : Device) : Prop where
  path : after.path = before.path
  stage : after.stage = before.stage
  node : after.node = before.node
  frame : after.frame = before.frame
  slot : after.slot = before.slot

theorem kept_latch (d : Device) (error : SinkError) : Kept d (d.latch error) :=
  ⟨rfl, rfl, rfl, rfl, rfl⟩

theorem Kept.trans {d e f : Device} (h : Kept d e) (h' : Kept e f) : Kept d f where
  path := h'.path.trans h.path
  stage := h'.stage.trans h.stage
  node := h'.node.trans h.node
  frame := h'.frame.trans h.frame
  slot := h'.slot.trans h.slot

/-- A declaration with a code, in a stage for it, changes no more than the declaration. -/
theorem kept_declare (d : Device) (code greatest : UInt16) (error : UInt16 → SinkError)
    (declare : Declaration → Declaration) :
    Kept d (d.during .configuring fun d => d.withCode code greatest error fun d =>
      { d with declaration := declare d.declaration }) := by
  unfold during withCode
  split
  · split
    · exact kept_latch d _
    · exact ⟨rfl, rfl, rfl, rfl, rfl⟩
  · exact kept_latch d _

theorem kept_configureAbs (d : Device) (axis : UInt16) (least greatest : Int32) :
    Kept d (d.configureAbs axis least greatest) :=
  kept_declare d axis AbsAxis.greatest .absRange fun declaration =>
    { declaration with
      absAxes := Declaration.setRange declaration.absAxes axis ⟨least, greatest⟩ }

/-- In a stage for it, and with a code in range, a declaration is made. -/
theorem declare_eq {d : Device} (hstage : d.stage = .configuring) {code greatest : UInt16}
    (hcode : code ≤ greatest) (error : UInt16 → SinkError)
    (declare : Declaration → Declaration) :
    (d.during .configuring fun d => d.withCode code greatest error fun d =>
      { d with declaration := declare d.declaration })
      = { d with declaration := declare d.declaration } := by
  rw [during_of_stage hstage, withCode, if_neg (UInt16.not_lt.mpr hcode)]

/-- An absolute axis in range is declared. -/
theorem configureAbs_eq {d : Device} (hstage : d.stage = .configuring) {axis : UInt16}
    (haxis : axis ≤ AbsAxis.greatest) (least greatest : Int32) :
    d.configureAbs axis least greatest
      = { d with declaration :=
          { d.declaration with
            absAxes := Declaration.setRange d.declaration.absAxes axis ⟨least, greatest⟩ } } :=
  declare_eq hstage haxis .absRange fun declaration =>
    { declaration with absAxes := Declaration.setRange declaration.absAxes axis ⟨least, greatest⟩ }

/-! ## Reports -/

/-- The device with the events of a call in its frame. -/
def report (d : Device) (call : Call) : Device :=
  { d with frame := d.frame ++ call.events d.slot, slot := call.slotAfter d.slot }

theorem selectSlot_eq (d : Device) (slot : Int32) :
    d.selectSlot slot
      = { d with frame := d.frame ++ Call.selecting d.slot slot, slot := some slot } := by
  obtain ⟨path, stage, declaration, node, frame, current, status⟩ := d
  simp only [selectSlot, Call.selecting]
  by_cases h : current = some slot
  · simp [h]
  · simp [h, queue]

/-- A report to a device that is ready, with a code in range, puts its events into the frame. -/
theorem receive_report {d : Device} {call : Call} (hready : d.stage = .ready)
    (hreport : call.IsReport) (hrange : call.InRange) (host : Host) :
    d.receive host call = (host, d.report call) := by
  cases call with
  | key code state =>
    have hcode : ¬ KeyCode.greatest < code := UInt16.not_lt.mpr hrange
    simp [receive, sendKey, during_of_stage hready, withCode, hcode, queue, report, Call.events,
      Call.slotAfter, Call.slot?]
  | rel axis delta =>
    have haxis : ¬ RelAxis.greatest < axis := UInt16.not_lt.mpr hrange
    simp [receive, sendRel, during_of_stage hready, withCode, haxis, queue, report, Call.events,
      Call.slotAfter, Call.slot?]
  | contact slot trackingId x y =>
    simp [receive, sendContact, during_of_stage hready, selectSlot_eq, queue, report, Call.events,
      Call.slotAfter, Call.slot?]
  | lift slot =>
    simp [receive, sendLift, during_of_stage hready, selectSlot_eq, queue, report, Call.events,
      Call.slotAfter, Call.slot?]
  | _ => exact hreport.elim

theorem stage?_of_isReport {call : Call} (h : call.IsReport) : call.stage? = some .ready := by
  cases call <;> first | rfl | exact h.elim

/-- Any other report is refused. -/
theorem receive_refused {d : Device} {call : Call} (hreport : call.IsReport)
    (h : ¬ (d.stage = .ready ∧ call.InRange)) (host : Host) :
    ∃ error, d.receive host call = (host, d.latch error) := by
  have hown := stage?_of_isReport hreport
  by_cases hready : d.stage = .ready
  · have hrange : ¬ call.InRange := fun hin => h ⟨hready, hin⟩
    have hfault : ∃ error, call.fault? = some error := by
      cases call with
      | key code state => exact ⟨.keyRange code, if_pos (UInt16.not_le.mp hrange)⟩
      | rel axis delta => exact ⟨.relRange axis, if_pos (UInt16.not_le.mp hrange)⟩
      | contact | lift => exact absurd trivial hrange
      | _ => exact hreport.elim
    obtain ⟨error, hfault⟩ := hfault
    exact ⟨error, receive_of_fault (hready ▸ hown) hfault host⟩
  · exact ⟨.sequencing, receive_of_stage_ne hown hready host⟩

/-! ## Quiet calls -/

/-- The events that a call puts into the frame. -/
def queued (d : Device) (call : Call) : List InputEvent :=
  if d.stage = .ready ∧ call.InRange then call.events d.slot else []

/-- The device before and after a call that asks nothing of the host. -/
structure Quietly (call : Call) (before after : Device) : Prop where
  path : after.path = before.path
  node : after.node = before.node
  stage : after.stage = before.stage ∨ before.stage = .new ∧ after.stage = .configuring
  frame : after.frame = before.frame ++ before.queued call
  slot : after.slot = if before.stage = .ready then call.slotAfter before.slot else before.slot

theorem Kept.quietly {before after : Device} (h : Kept before after) {call : Call}
    (hevents : before.queued call = []) (hslot : call.slot? = none ∨ before.stage ≠ .ready) :
    Quietly call before after where
  path := h.path
  node := h.node
  stage := Or.inl h.stage
  frame := by rw [h.frame, hevents, List.append_nil]
  slot := by
    rw [h.slot]
    rcases hslot with hslot | hslot
    · simp [Call.slotAfter, hslot]
    · simp [hslot]

/-- **Quiet calls** ask nothing of the host, and put their events into the frame. -/
theorem quiet_receive (d : Device) (host : Host) {call : Call} (h : call.IsQuiet) :
    (d.receive host call).1 = host ∧ Quietly call d (d.receive host call).2 := by
  have hnothing : ∀ call : Call, (∀ slot, call.events slot = []) → d.queued call = [] := by
    intro call hevents
    simp [queued, hevents]
  by_cases hreport : call.IsReport
  · by_cases hin : d.stage = .ready ∧ call.InRange
    · rw [receive_report hin.1 hreport hin.2]
      exact ⟨rfl, rfl, rfl, Or.inl rfl, by simp [report, queued, hin], by simp [report, hin.1]⟩
    · obtain ⟨error, hrefused⟩ := receive_refused hreport hin host
      rw [hrefused]
      refine ⟨rfl, (kept_latch d error).quietly (if_neg hin) ?_⟩
      by_cases hready : d.stage = .ready
      · left
        cases call with
        | contact | lift => exact absurd ⟨hready, trivial⟩ hin
        | _ => rfl
      · exact Or.inr hready
  cases call with
  | configureEnd => exact absurd rfl h.1
  | synReport => exact absurd rfl h.2.1
  | close => exact absurd rfl h.2.2
  | key | rel | contact | lift => exact absurd trivial hreport
  | configureBegin identity =>
    refine ⟨rfl, ?_⟩
    show Quietly _ d (d.configureBegin identity)
    unfold configureBegin
    by_cases hnew : d.stage = .new
    · rw [during_of_stage hnew]
      simp only
      split
      · exact (kept_latch d _).quietly (hnothing _ fun _ => rfl) (Or.inl rfl)
      · refine ⟨rfl, rfl, Or.inr ⟨hnew, rfl⟩, ?_, ?_⟩
        · rw [hnothing _ fun _ => rfl, List.append_nil]
        · simp [hnew]
    · rw [during_of_ne hnew]
      exact (kept_latch d _).quietly (hnothing _ fun _ => rfl) (Or.inl rfl)
  | configureProperty property =>
    exact ⟨rfl, (kept_declare d property InputProperty.greatest .propertyRange fun declaration =>
      { declaration with
        properties := Declaration.insertNew declaration.properties property }).quietly
          (hnothing _ fun _ => rfl) (Or.inl rfl)⟩
  | configureKey code =>
    exact ⟨rfl, (kept_declare d code KeyCode.greatest .keyRange fun declaration =>
      { declaration with keys := Declaration.insertNew declaration.keys code }).quietly
        (hnothing _ fun _ => rfl) (Or.inl rfl)⟩
  | configureRel axis =>
    exact ⟨rfl, (kept_declare d axis RelAxis.greatest .relRange fun declaration =>
      { declaration with relAxes := Declaration.insertNew declaration.relAxes axis }).quietly
        (hnothing _ fun _ => rfl) (Or.inl rfl)⟩
  | configureMultiTouch x0 y0 x1 y1 =>
    exact ⟨rfl, ((kept_configureAbs d _ _ _).trans (kept_configureAbs _ _ _ _)).quietly
      (hnothing _ fun _ => rfl) (Or.inl rfl)⟩
  | configureSlots slots =>
    exact ⟨rfl, ((kept_configureAbs d _ _ _).trans (kept_configureAbs _ _ _ _)).quietly
      (hnothing _ fun _ => rfl) (Or.inl rfl)⟩

end Device

/-! ## Frames -/

namespace Device

/-- The bytes of the frame with its end. -/
def payload (d : Device) : List UInt8 :=
  (d.frame ++ [InputEvent.synReport]).flatMap InputEvent.bytes

theorem payload_ne_nil (d : Device) : d.payload ≠ [] := by
  intro hnil
  have hlength := congrArg List.length hnil
  rw [payload, List.flatMap_append, List.length_append] at hlength
  simp [InputEvent.length_bytes] at hlength

/-- A device of the host is written to; the frame is empty then, and a failure is kept. -/
theorem synReport_eq {d : Device} {n : Nat} (hstage : d.stage = .ready) (hnode : d.node = some n)
    (host : Host) :
    d.synReport host
      = ((host.write n d.payload).1,
        { d with
          frame := []
          status := d.status <|> (host.write n d.payload).2.map (.io "write uinput frame") }) := by
  obtain ⟨path, stage, declaration, node, frame, slot, status⟩ := d
  simp only at hstage hnode
  subst hstage hnode
  simp only [synReport, payload, ne_eq, not_true, if_false]
  match host.write n ((frame ++ [InputEvent.synReport]).flatMap InputEvent.bytes) with
  | (after, none) => cases status <;> rfl
  | (after, some e) => rfl

/-- The events that an operation puts into the frame. -/
def queuedBy (d : Device) : Operation → List InputEvent
  | .call call => d.queued call
  | .reset | .drop => []

theorem queuedBy_of_not_report {d : Device} {operation : Operation}
    (h : ∀ call, operation = .call call → ¬ call.IsReport) : d.queuedBy operation = [] := by
  cases operation with
  | reset | drop => rfl
  | call call =>
    have hreport := h call rfl
    show d.queued call = []
    unfold queued
    split
    · cases call <;> first | rfl | exact absurd trivial hreport
    · rfl

theorem frame_configureEnd (d : Device) (host : Host) :
    (d.configureEnd host).2.frame = d.frame := by
  unfold configureEnd
  split
  · rfl
  · split
    · rfl
    · split <;> rfl

theorem frame_synReport (d : Device) (host : Host) : (d.synReport host).2.frame <:+ d.frame := by
  unfold synReport
  split
  · exact List.suffix_refl _
  · simp only
    split
    · exact List.nil_suffix
    · split <;> exact List.nil_suffix

/-- **The frame** grows by the events that an operation puts into it, unless it is emptied. -/
theorem frame_operate_suffix (d : Device) (host : Host) (operation : Operation) :
    (d.operate host operation).2.frame <:+ d.frame ++ d.queuedBy operation := by
  cases operation with
  | reset =>
    show d.frame <:+ d.frame ++ []
    exact ⟨[], (List.append_nil d.frame).symm⟩
  | drop => exact List.nil_suffix
  | call call =>
    show (d.receive host call).2.frame <:+ d.frame ++ d.queued call
    by_cases hquiet : call.IsQuiet
    · exact (d.quiet_receive host hquiet).2.frame ▸ List.suffix_refl _
    · have hnone : ∀ slot, call.events slot = [] := by
        intro slot
        cases call <;> first | rfl | exact absurd ⟨by simp, by simp, by simp⟩ hquiet
      have hqueued : d.queued call = [] := by simp [queued, hnone]
      rw [hqueued, List.append_nil]
      cases call with
      | configureEnd => exact d.frame_configureEnd host ▸ List.suffix_refl _
      | synReport => exact d.frame_synReport host
      | close => exact List.nil_suffix
      | _ => exact absurd ⟨by simp, by simp, by simp⟩ hquiet

/-- Closing a device opens none, and writes nothing. -/
theorem close_spec (d : Device) (host : Host) :
    ∃ new, (d.close host).1 = host.recordAll new
      ∧ ∀ event ∈ new, event.isWrite = false ∧ event.isOpening = false := by
  unfold close
  cases d.node with
  | none => exact ⟨[], by simp, by simp⟩
  | some n =>
    refine ⟨[.requested n .destroyDevice (host.nextFailure? Request.destroyDevice.name), .closed n],
      ?_, by simp [KernelEvent.isWrite, KernelEvent.isOpening]⟩
    simp only [Host.close, Host.request, Host.record_eq, Host.recordAll_recordAll]
    rfl

/-- **What an operation asks of the host**: nothing, to make the declared device, to take the frame,
or to destroy the device. -/
theorem host_operate (d : Device) (host : Host) (operation : Operation) :
    (d.operate host operation).1 = host
    ∨ d.stage = .configuring ∧ (d.operate host operation).1 = (d.make host).1
    ∨ operation = .call .synReport ∧ (∃ n, d.node = some n
      ∧ (d.operate host operation).1 = (host.write n d.payload).1)
    ∨ (d.operate host operation).1 = (d.close host).1 := by
  cases operation with
  | reset => exact Or.inl rfl
  | drop => exact Or.inr (Or.inr (Or.inr rfl))
  | call call =>
    by_cases hquiet : call.IsQuiet
    · exact Or.inl (d.quiet_receive host hquiet).1
    cases call with
    | close => exact Or.inr (Or.inr (Or.inr rfl))
    | configureEnd =>
      show (d.configureEnd host).1 = host
        ∨ _ ∧ (d.configureEnd host).1 = (d.make host).1 ∨ _
      unfold configureEnd
      split
      · exact Or.inl rfl
      next hstage =>
      split
      · exact Or.inl rfl
      · refine Or.inr (Or.inl ⟨Classical.byContradiction hstage, ?_⟩)
        split <;> next hmake => rw [hmake]
    | synReport =>
      by_cases hready : d.stage = .ready
      · cases hnode : d.node with
        | none => exact Or.inl (by simp [operate, receive, synReport, hready, hnode])
        | some n =>
          refine Or.inr (Or.inr (Or.inl ⟨rfl, n, rfl, ?_⟩))
          exact congrArg Prod.fst (synReport_eq hready hnode host)
      · exact Or.inl (by simp [operate, receive, synReport, hready])
    | _ => exact absurd ⟨by simp, by simp, by simp⟩ hquiet

end Device

/-! ## Calls in order -/

namespace Device

/-- Makes calls on a device in order. -/
def receiveAll (d : Device) (host : Host) : List Call → Host × Device
  | [] => (host, d)
  | call :: calls => (d.receive host call).2.receiveAll (d.receive host call).1 calls

theorem receiveAll_append (d : Device) (host : Host) (calls later : List Call) :
    d.receiveAll host (calls ++ later)
      = (d.receiveAll host calls).2.receiveAll (d.receiveAll host calls).1 later := by
  induction calls generalizing d host with
  | nil => rfl
  | cons call calls ih => exact ih _ _

end Device

namespace Recorder

/-- Makes calls on a recorder in order. -/
def receiveAll (r : Recorder) (calls : List Call) : Recorder := calls.foldl receive r

/-- A recorder without failure writes its calls down and does nothing else. -/
theorem receiveAll_eq {r : Recorder} (h : r.failure = none) (calls : List Call) :
    r.receiveAll calls = { r with calls := r.calls ++ calls } := by
  induction calls generalizing r with
  | nil => simp [receiveAll]
  | cons call calls ih =>
    have hone : r.receive call = { r with calls := r.calls ++ [call] } := by
      simp [receive, h]
    show (r.receive call).receiveAll calls = _
    rw [ih (by rw [hone]; exact h), hone]
    simp

end Recorder

namespace Rack

variable {rack : Rack} {id : SinkId}

/-- Making calls on a device of a rack. -/
theorem sendAll_device {d : Device} (h : rack.sinks[id]? = some (.device d)) (calls : List Call) :
    rack.sendAll id calls
      = ⟨rack.sinks.set id (.device (d.receiveAll rack.host calls).2),
          (d.receiveAll rack.host calls).1⟩ := by
  obtain ⟨hlt, hget⟩ := List.getElem?_eq_some_iff.mp h
  induction calls generalizing rack d with
  | nil => simp [sendAll, Device.receiveAll, ← hget]
  | cons call calls ih =>
    have hone : rack.send id call
        = ⟨rack.sinks.set id (.device (d.receive rack.host call).2), (d.receive rack.host call).1⟩ :=
      update_of_getElem? h _
    have hthere : (rack.send id call).sinks[id]? = some (.device (d.receive rack.host call).2) := by
      rw [hone]
      exact List.getElem?_set_self hlt
    obtain ⟨hlt', hget'⟩ := List.getElem?_eq_some_iff.mp hthere
    show (rack.send id call).sendAll id calls = _
    rw [ih hthere hlt' hget', hone]
    simp [Device.receiveAll]

/-- Making calls on a recorder of a rack. -/
theorem sendAll_recorder {r : Recorder} (h : rack.sinks[id]? = some (.recorder r))
    (calls : List Call) :
    rack.sendAll id calls = ⟨rack.sinks.set id (.recorder (r.receiveAll calls)), rack.host⟩ := by
  obtain ⟨hlt, hget⟩ := List.getElem?_eq_some_iff.mp h
  induction calls generalizing rack r with
  | nil => simp [sendAll, Recorder.receiveAll, ← hget]
  | cons call calls ih =>
    have hone : rack.send id call
        = ⟨rack.sinks.set id (.recorder (r.receive call)), rack.host⟩ := update_of_getElem? h _
    have hthere : (rack.send id call).sinks[id]? = some (.recorder (r.receive call)) := by
      rw [hone]
      exact List.getElem?_set_self hlt
    obtain ⟨hlt', hget'⟩ := List.getElem?_eq_some_iff.mp hthere
    show (rack.send id call).sendAll id calls = _
    rw [ih hthere hlt' hget', hone]
    simp [Recorder.receiveAll]

/-- Driving a device makes the calls on it, and gives its status. -/
theorem drive_device {d : Device} (h : rack.sinks[id]? = some (.device d)) (calls : List Call) :
    rack.drive id calls
      = (⟨rack.sinks.set id (.device (d.resetStatus.receiveAll rack.host calls).2),
          (d.resetStatus.receiveAll rack.host calls).1⟩,
        (d.resetStatus.receiveAll rack.host calls).2.status) := by
  have hlt := (List.getElem?_eq_some_iff.mp h).1
  have hreset : rack.resetStatus id = ⟨rack.sinks.set id (.device d.resetStatus), rack.host⟩ :=
    update_of_getElem? h _
  have hthere : (rack.resetStatus id).sinks[id]? = some (.device d.resetStatus) := by
    rw [hreset]
    exact List.getElem?_set_self hlt
  unfold drive
  rw [sendAll_device hthere, hreset]
  simp [Rack.status, Sink.status, hlt]

/-- Driving a recorder makes the calls on it, and gives its status. -/
theorem drive_recorder {r : Recorder} (h : rack.sinks[id]? = some (.recorder r))
    (calls : List Call) :
    rack.drive id calls
      = (⟨rack.sinks.set id (.recorder (r.resetStatus.receiveAll calls)), rack.host⟩,
        (r.resetStatus.receiveAll calls).status) := by
  have hlt := (List.getElem?_eq_some_iff.mp h).1
  have hreset : rack.resetStatus id
      = ⟨rack.sinks.set id (.recorder r.resetStatus), rack.host⟩ := update_of_getElem? h _
  have hthere : (rack.resetStatus id).sinks[id]? = some (.recorder r.resetStatus) := by
    rw [hreset]
    exact List.getElem?_set_self hlt
  unfold drive
  rw [sendAll_recorder hthere, hreset]
  simp [Rack.status, Sink.status, hlt]

end Rack

end VirtualTouchpad
