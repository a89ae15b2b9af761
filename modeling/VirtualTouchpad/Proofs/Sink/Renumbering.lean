/-
# Sinks that go on

A rack whose host has a history does what a new rack would do, as long as its host meets
no more faults.  The sinks of the new rack come after those that there were, and their
devices are numbered on (`Rack.atop`).

* `Device.receive_atop`: a call on a device is the same with and without a history;
* `Rack.performAll_atop`, `Rack.drive_atop`: so is whatever is done to the sinks of a rack.
-/
import VirtualTouchpad.Proofs.Host.Renumbering
import VirtualTouchpad.Proofs.Sink.Offers

namespace VirtualTouchpad

namespace Device

/-- The device with its device of the host counted on from a number. -/
def renumber (first : Nat) (d : Device) : Device := { d with node := d.node.map (first + ·) }

/-! ## Calls that ask nothing of the host -/

section Quiet

variable (first : Nat)

theorem during_renumber (d : Device) (stage : Stage) {act : Device → Device}
    (hact : ∀ d : Device, act (d.renumber first) = (act d).renumber first) :
    (d.renumber first).during stage act = (d.during stage act).renumber first := by
  unfold during
  show (if d.stage = stage then _ else _) = _
  split
  · exact hact d
  · rfl

theorem withCode_renumber (d : Device) (code greatest : UInt16) (error : UInt16 → SinkError)
    {act : Device → Device} (hact : act (d.renumber first) = (act d).renumber first) :
    (d.renumber first).withCode code greatest error act
      = (d.withCode code greatest error act).renumber first := by
  unfold withCode
  split
  · rfl
  · exact hact

theorem selectSlot_renumber (d : Device) (slot : Int32) :
    (d.renumber first).selectSlot slot = (d.selectSlot slot).renumber first := by
  rw [selectSlot_eq, selectSlot_eq]
  rfl

theorem configureBegin_renumber (d : Device) (identity : DeviceIdentity) :
    (d.renumber first).configureBegin identity = (d.configureBegin identity).renumber first := by
  apply during_renumber
  intro d
  simp only
  split <;> rfl

theorem declare_renumber (d : Device) (code greatest : UInt16) (error : UInt16 → SinkError)
    (declare : Declaration → Declaration) :
    ((d.renumber first).during .configuring fun d => d.withCode code greatest error fun d =>
        { d with declaration := declare d.declaration })
      = (d.during .configuring fun d => d.withCode code greatest error fun d =>
        { d with declaration := declare d.declaration }).renumber first := by
  apply during_renumber
  intro d
  apply withCode_renumber
  rfl

theorem configureAbs_renumber (d : Device) (axis : UInt16) (least greatest : Int32) :
    (d.renumber first).configureAbs axis least greatest
      = (d.configureAbs axis least greatest).renumber first :=
  declare_renumber first d axis AbsAxis.greatest .absRange fun declaration =>
    { declaration with
      absAxes := Declaration.setRange declaration.absAxes axis ⟨least, greatest⟩ }

theorem sendCode_renumber (d : Device) (code greatest : UInt16) (error : UInt16 → SinkError)
    (eventType : UInt16) (value : Int32) :
    ((d.renumber first).during .ready fun d => d.withCode code greatest error fun d =>
        d.queue eventType code value)
      = (d.during .ready fun d => d.withCode code greatest error fun d =>
        d.queue eventType code value).renumber first := by
  apply during_renumber
  intro d
  apply withCode_renumber
  rfl

theorem sendContact_renumber (d : Device) (slot trackingId x y : Int32) :
    (d.renumber first).sendContact slot trackingId x y
      = (d.sendContact slot trackingId x y).renumber first := by
  apply during_renumber
  intro d
  simp only [selectSlot_renumber]
  rfl

theorem sendLift_renumber (d : Device) (slot : Int32) :
    (d.renumber first).sendLift slot = (d.sendLift slot).renumber first := by
  apply during_renumber
  intro d
  simp only [selectSlot_renumber]
  rfl

/-- **Quiet calls** do not depend on the number of the device, nor on the host. -/
theorem receive_renumber (d : Device) {call : Call} (h : call.IsQuiet) (host other : Host) :
    ((d.renumber first).receive host call).2 = (d.receive other call).2.renumber first := by
  cases call with
  | configureEnd => exact absurd rfl h.1
  | synReport => exact absurd rfl h.2.1
  | close => exact absurd rfl h.2.2
  | configureBegin identity => exact configureBegin_renumber first d identity
  | configureProperty property =>
    exact declare_renumber first d property InputProperty.greatest .propertyRange fun declaration =>
      { declaration with
        properties := Declaration.insertNew declaration.properties property }
  | configureKey code =>
    exact declare_renumber first d code KeyCode.greatest .keyRange fun declaration =>
      { declaration with keys := Declaration.insertNew declaration.keys code }
  | configureRel axis =>
    exact declare_renumber first d axis RelAxis.greatest .relRange fun declaration =>
      { declaration with relAxes := Declaration.insertNew declaration.relAxes axis }
  | configureMultiTouch | configureSlots =>
    simp only [receive, configureAbs_renumber]
  | key code state =>
    exact sendCode_renumber first d code KeyCode.greatest .keyRange EventType.key state.value
  | rel axis delta =>
    exact sendCode_renumber first d axis RelAxis.greatest .relRange EventType.rel delta
  | contact slot trackingId x y => exact sendContact_renumber first d slot trackingId x y
  | lift slot => exact sendLift_renumber first d slot

end Quiet

/-! ## Making devices -/

/-- Making a device opens the node first. -/
theorem grows_make (d : Device) (host : Host) {identity : DeviceIdentity}
    (hidentity : d.declaration.identity = some identity) :
    Host.Grows (host.openNode d.path).1 (d.make host).1 := by
  simp only [make, hidentity]
  rcases host.openNode d.path with ⟨opened, error | n | _⟩
  · exact Host.Grows.refl opened
  · simp only
    obtain hall | ⟨before, r, after, code, -, hfail⟩ :=
      opened.requestAll_spec n (d.declaration.requests identity)
    · rw [hall]
      exact ⟨_, rfl⟩
    · rw [hfail]
      exact ⟨_, Host.recordAll_recordAll opened _ [.closed n]⟩
  · exact Host.Grows.refl opened

/-- A device that is opened is made, unless a request meets a fault. -/
theorem make_of_faultless {d : Device} {host opened : Host} {n : Nat} {identity : DeviceIdentity}
    (hidentity : d.declaration.identity = some identity)
    (hopen : host.openNode d.path = (opened, .ok (.device n)))
    (hfaultless : opened.FaultlessTo (d.make host).1) :
    d.make host
      = ((opened.requestAll n (d.declaration.requests identity)).1, .ok n) := by
  simp only [make, hidentity, hopen] at hfaultless ⊢
  obtain hall | ⟨before, r, after, code, -, hfail⟩ :=
    opened.requestAll_spec n (d.declaration.requests identity)
  · rw [hall]
  · rw [hfail] at hfaultless
    simp only [Host.close, Host.record_eq, Host.recordAll_recordAll,
      Host.faultlessTo_recordAll] at hfaultless
    have hbad := hfaultless (.requested n r (some code)) (by simp)
    cases hbad

/-- Without an error before, the end of a declaration makes the device. -/
theorem configureEnd_eq {d : Device} (hstage : d.stage = .configuring) (hstatus : d.status = none)
    (host : Host) :
    d.configureEnd host
      = ((d.make host).1,
        match (d.make host).2 with
        | .ok n => { d with stage := .ready, node := some n }
        | .error e => { d with stage := .closed }.latch e) := by
  simp only [configureEnd, hstage, hstatus, ne_eq, not_true, if_false, Option.isSome_none,
    Bool.false_eq_true]
  rcases d.make host with ⟨after, error | n⟩ <;> rfl

section History

variable {base new : Host} (h : new.Beside base)

include h

/-- **Making** the declared device after a history. -/
theorem make_atop (d : Device)
    (hfaultless : (new.atop base).FaultlessTo (d.make (new.atop base)).1) :
    d.make (new.atop base)
      = ((d.make new).1.atop base, (d.make new).2.map (base.nextDevice + ·)) := by
  rcases hidentity : d.declaration.identity with _ | identity
  · simp only [make, hidentity]
    rfl
  obtain ⟨hopens, hmakes⟩ := hfaultless.split (Host.grows_openNode _ _) (d.grows_make _ hidentity)
  have hopen := Host.openNode_atop h hopens
  have hbeside := h.grows (Host.grows_openNode new d.path)
  rw [hopen] at hmakes
  rcases hnew : new.openNode d.path with ⟨opened, error | n | _⟩
  · rw [hnew] at hopen
    simp only [make, hidentity, hnew, hopen]
    rfl
  · rw [hnew] at hopen hbeside hmakes
    have hmade := make_of_faultless hidentity hopen hmakes
    rw [hmade] at hmakes ⊢
    obtain ⟨hrequests, hnone⟩ := Host.requestAll_atop hbeside hmakes
    rw [hrequests]
    simp only [make, hidentity, hnew, Host.requestAll_of_no_faults hbeside.faults]
    rfl
  · rw [hnew] at hopen
    simp only [make, hidentity, hnew, hopen]
    rfl

/-! ## Calls after a history -/

theorem configureEnd_atop (d : Device)
    (hfaultless : (new.atop base).FaultlessTo
      ((d.renumber base.nextDevice).configureEnd (new.atop base)).1) :
    (d.renumber base.nextDevice).configureEnd (new.atop base)
      = ((d.configureEnd new).1.atop base, (d.configureEnd new).2.renumber base.nextDevice) := by
  by_cases hstage : d.stage = .configuring
  · rcases hstatus : d.status with _ | error
    · have heq := configureEnd_eq (d := d.renumber base.nextDevice) hstage hstatus (new.atop base)
      -- What is made does not depend on the number that the device had before.
      have hmakes : (d.renumber base.nextDevice).make (new.atop base) = d.make (new.atop base) :=
        rfl
      rw [heq, hmakes] at hfaultless
      rw [heq, hmakes, make_atop h d hfaultless, configureEnd_eq hstage hstatus]
      rcases d.make new with ⟨host, error | n⟩ <;> rfl
    · simp [configureEnd, renumber, hstage, hstatus]
  · simp [configureEnd, renumber, hstage, latch]

theorem synReport_atop (d : Device)
    (hfaultless : (new.atop base).FaultlessTo
      ((d.renumber base.nextDevice).synReport (new.atop base)).1) :
    (d.renumber base.nextDevice).synReport (new.atop base)
      = ((d.synReport new).1.atop base, (d.synReport new).2.renumber base.nextDevice) := by
  by_cases hready : d.stage = .ready
  · rcases hnode : d.node with _ | n
    · simp [synReport, renumber, hready, hnode, latch]
    · have hsame : (d.renumber base.nextDevice).node = some (base.nextDevice + n) :=
        congrArg (Option.map (base.nextDevice + ·)) hnode
      rw [synReport_eq (d := d.renumber base.nextDevice) hready hsame] at hfaultless ⊢
      rw [synReport_eq hready hnode]
      rw [Host.write_atop h (payload_ne_nil _) hfaultless]
      rfl
  · simp [synReport, renumber, hready, latch]

theorem close_atop (d : Device)
    (hfaultless : (new.atop base).FaultlessTo
      ((d.renumber base.nextDevice).close (new.atop base)).1) :
    (d.renumber base.nextDevice).close (new.atop base)
      = ((d.close new).1.atop base, (d.close new).2.renumber base.nextDevice) := by
  rcases hnode : d.node with _ | n
  · simp only [close, renumber, hnode]
    rfl
  · simp only [close, renumber, hnode, Option.map_some] at hfaultless ⊢
    have hrequest : (new.atop base).FaultlessTo
        ((new.atop base).request (base.nextDevice + n) .destroyDevice).1 :=
      (hfaultless.split ⟨_, rfl⟩ ⟨_, rfl⟩).1
    rw [Host.request_atop h hrequest, Host.close_atop]
    rfl

/-- **A call** on a device after a history. -/
theorem receive_atop (d : Device) (call : Call)
    (hfaultless : (new.atop base).FaultlessTo
      ((d.renumber base.nextDevice).receive (new.atop base) call).1) :
    (d.renumber base.nextDevice).receive (new.atop base) call
      = ((d.receive new call).1.atop base, (d.receive new call).2.renumber base.nextDevice) := by
  by_cases hquiet : call.IsQuiet
  · apply Prod.ext
    · rw [(quiet_receive _ _ hquiet).1, (quiet_receive _ _ hquiet).1]
    · exact receive_renumber _ d hquiet _ _
  · cases call with
    | configureEnd => exact configureEnd_atop h d hfaultless
    | synReport => exact synReport_atop h d hfaultless
    | close => exact close_atop h d hfaultless
    | _ => exact absurd ⟨by simp, by simp, by simp⟩ hquiet

end History

end Device

/-! ## Sinks -/

namespace Sink

/-- The sink with its device of the host counted on from a number. -/
def renumber (first : Nat) : Sink → Sink
  | .recorder r => .recorder r
  | .device d => .device (d.renumber first)

@[simp] theorem status_renumber (first : Nat) (sink : Sink) :
    (sink.renumber first).status = sink.status := by
  cases sink <;> rfl

/-- A description does not tell the number of the device. -/
@[simp] theorem describe_renumber (first : Nat) (sink : Sink) :
    (sink.renumber first).describe = sink.describe := by
  cases sink <;> rfl

/-- **An operation** on a sink after a history. -/
theorem operate_atop {base new : Host} (h : new.Beside base) (sink : Sink)
    (operation : Operation)
    (hfaultless : (new.atop base).FaultlessTo
      (operate (new.atop base) (sink.renumber base.nextDevice) operation).1) :
    operate (new.atop base) (sink.renumber base.nextDevice) operation
      = ((operate new sink operation).1.atop base,
        (operate new sink operation).2.renumber base.nextDevice) := by
  rcases sink with r | d
  · simp only [renumber, operate_recorder]
  · simp only [renumber, operate_device] at hfaultless ⊢
    rcases operation with _ | call | _
    · rfl
    · have hcall := d.receive_atop h call hfaultless
      simp only [Device.operate, hcall]
    · have hdrop := d.close_atop h hfaultless
      simp only [Device.operate, hdrop]

end Sink

/-! ## Racks -/

/-- The effect with its sink counted on from a number. -/
def Effect.shift (first : SinkId) : Effect → Effect
  | .added sink => .added sink
  | .done id operation => .done (first + id) operation

/-- Whether an effect puts no sink into the rack but those that have no device yet. -/
def Effect.IsFresh : Effect → Prop
  | .added sink => ∀ first, sink.renumber first = sink
  | .done .. => True

theorem shift_driving (first id : SinkId) (calls : List Call) :
    (driving id calls).map (·.shift first) = driving (first + id) calls := by
  simp only [driving, List.map_cons, List.map_map]
  rfl

theorem isFresh_of_mem_driving {id : SinkId} {calls : List Call} {effect : Effect}
    (h : effect ∈ driving id calls) : effect.IsFresh := by
  rcases effect with sink | ⟨other, operation⟩
  · simp [driving] at h
  · trivial

namespace Rack

/-- An effect only adds to the calls on the host. -/
theorem grows_perform (rack : Rack) (effect : Effect) :
    Host.Grows rack.host (rack.perform effect).host := by
  obtain ⟨new, hhost, -⟩ := rack.perform_records effect
  exact ⟨new, hhost⟩

theorem grows_performAll (rack : Rack) (effects : List Effect) :
    Host.Grows rack.host (rack.performAll effects).host := by
  induction effects generalizing rack with
  | nil => exact Host.Grows.refl _
  | cons effect effects ih => exact (rack.grows_perform effect).trans (ih _)

/-- A rack with the sinks of a new one after its own, and what was done to them on top of its
history. -/
def atop (new base : Rack) : Rack where
  sinks := base.sinks ++ new.sinks.map (·.renumber base.host.nextDevice)
  host := new.host.atop base.host

variable {base new : Rack}

theorem getElem?_sinks_atop (new base : Rack) (id : SinkId) :
    (new.atop base).sinks[base.sinks.length + id]?
      = new.sinks[id]?.map (·.renumber base.host.nextDevice) := by
  rw [atop, List.getElem?_append_right (Nat.le_add_right _ _), Nat.add_sub_cancel_left,
    List.getElem?_map]

@[simp] theorem status_atop (new base : Rack) (id : SinkId) :
    (new.atop base).status (base.sinks.length + id) = new.status id := by
  rw [status, status, getElem?_sinks_atop]
  cases new.sinks[id]? <;> simp

@[simp] theorem describe_atop (new base : Rack) (id : SinkId) :
    (new.atop base).describe (base.sinks.length + id) = new.describe id := by
  rw [describe, describe, getElem?_sinks_atop]
  cases new.sinks[id]? <;> simp

/-- Something is done to a sink that is the same with and without a history. -/
theorem update_atop {id : SinkId} {act : Host → Sink → Host × Sink}
    (hact : ∀ sink, new.sinks[id]? = some sink →
      act (new.host.atop base.host) (sink.renumber base.host.nextDevice)
        = ((act new.host sink).1.atop base.host,
          (act new.host sink).2.renumber base.host.nextDevice)) :
    (new.atop base).update (base.sinks.length + id) act = (new.update id act).atop base := by
  have hthere := getElem?_sinks_atop new base id
  rcases hsink : new.sinks[id]? with _ | sink
  · rw [hsink, Option.map_none] at hthere
    rw [update_of_length_le (List.getElem?_eq_none_iff.mp hthere),
      update_of_length_le (List.getElem?_eq_none_iff.mp hsink)]
  · rw [hsink, Option.map_some] at hthere
    have hhost : (new.atop base).host = new.host.atop base.host := rfl
    rw [update_of_getElem? hthere, update_of_getElem? hsink, hhost, hact sink hsink]
    simp only [atop, List.map_set, List.set_append_right _ _ (Nat.le_add_right _ _),
      Nat.add_sub_cancel_left]

/-- Recorders have no devices, so nothing of what is done to them changes. -/
theorem updateRecorder_atop (new base : Rack) (id : SinkId) (act : Recorder → Recorder) :
    (new.atop base).updateRecorder (base.sinks.length + id) act
      = (new.updateRecorder id act).atop base := by
  apply update_atop
  rintro (r | d) -
  · rfl
  · rfl

/-- **An effect** after a history. -/
theorem perform_atop (h : new.host.Beside base.host) {effect : Effect}
    (hfresh : effect.IsFresh)
    (hfaultless : (new.atop base).host.FaultlessTo
      ((new.atop base).perform (effect.shift base.sinks.length)).host) :
    (new.atop base).perform (effect.shift base.sinks.length) = (new.perform effect).atop base := by
  rcases effect with sink | ⟨id, operation⟩
  · have hsame := hfresh base.host.nextDevice
    simp [Effect.shift, perform, add, atop, hsame]
  · simp only [Effect.shift, perform] at hfaultless ⊢
    apply update_atop
    intro sink hsink
    have hthere := getElem?_sinks_atop new base id
    rw [hsink, Option.map_some] at hthere
    rw [update_of_getElem? hthere] at hfaultless
    exact sink.operate_atop h operation hfaultless

/-- **All effects** after a history. -/
theorem performAll_atop (h : new.host.Beside base.host) {effects : List Effect}
    (hfresh : ∀ effect ∈ effects, effect.IsFresh)
    (hfaultless : (new.atop base).host.FaultlessTo
      ((new.atop base).performAll (effects.map (·.shift base.sinks.length))).host) :
    (new.atop base).performAll (effects.map (·.shift base.sinks.length))
      = (new.performAll effects).atop base := by
  induction effects generalizing new with
  | nil => rfl
  | cons effect effects ih =>
    rw [List.map_cons, performAll_cons] at hfaultless ⊢
    obtain ⟨hone, hrest⟩ := hfaultless.split (grows_perform _ _) (grows_performAll _ _)
    have hstep := perform_atop h (hfresh effect List.mem_cons_self) hone
    rw [hstep] at hrest ⊢
    apply ih
    · exact h.grows (grows_perform new effect)
    · intro later hmem
      exact hfresh later (List.mem_cons_of_mem _ hmem)
    · exact hrest

/-- **Driving** a sink after a history. -/
theorem drive_atop (h : new.host.Beside base.host) (id : SinkId) (calls : List Call)
    (hfaultless : (new.atop base).host.FaultlessTo
      ((new.atop base).drive (base.sinks.length + id) calls).1.host) :
    (new.atop base).drive (base.sinks.length + id) calls
      = ((new.drive id calls).1.atop base, (new.drive id calls).2) := by
  have hstatus : ∀ (rack : Rack) (id : SinkId),
      (rack.drive id calls).2 = (rack.drive id calls).1.status id := fun _ _ => rfl
  have hdriven : ((new.atop base).drive (base.sinks.length + id) calls).1
      = (new.drive id calls).1.atop base := by
    rw [drive_fst, ← shift_driving] at hfaultless ⊢
    rw [drive_fst]
    exact performAll_atop h (fun effect => isFresh_of_mem_driving) hfaultless
  apply Prod.ext
  · exact hdriven
  · rw [hstatus, hstatus, hdriven, status_atop]

end Rack

end VirtualTouchpad
