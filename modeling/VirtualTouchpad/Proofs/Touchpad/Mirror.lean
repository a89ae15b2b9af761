/-
# Devices and recorders side by side

The same calls are made on a rig of recorders that never fail and on a rig of devices
on a host without faults.  Both rigs remember the same and give the same outcomes, and
each device has written the payloads for the calls of the recorder with its number
(`Simulates.act`, and for whole runs `devices_mirror_recorders`).
-/
import VirtualTouchpad.Proofs.Sink.Mirror
import VirtualTouchpad.Proofs.Touchpad.Holding

namespace VirtualTouchpad

/-! ## Frames of samples -/

theorem isSample_touchFrame {pad : Pad} {position : Int32 × Int32} {call : Call}
    (h : call ∈ pad.touchFrame position) : call.IsSample := by
  have hcalls : ∀ call ∈ [Call.contact touchSlot touchTracking position.1 position.2,
      .key KeyCode.touch .press, .key KeyCode.touch .release, .lift touchSlot, .synReport],
      call.IsSample := by
    intro call hmem
    simp only [List.mem_cons, List.not_mem_nil, or_false] at hmem
    rcases hmem with rfl | rfl | rfl | rfl | rfl
    · exact Or.inr ⟨trivial, trivial⟩
    · exact Or.inr ⟨trivial, by decide⟩
    · exact Or.inr ⟨trivial, by decide⟩
    · exact Or.inr ⟨trivial, trivial⟩
    · exact Or.inl rfl
  apply hcalls
  simp only [Pad.touchFrame] at h
  cases hcontact : pad.contact with
  | hovering | continuing =>
    simp only [hcontact] at h
    split at h
    · cases h
    · simp at h
      rcases h with rfl | rfl <;> simp
  | starting | ending =>
    simp only [hcontact] at h
    simp at h
    rcases h with rfl | rfl | rfl <;> simp

theorem isSample_buttonFrame {pad : Pad} {buttons : UInt32} {call : Call}
    (h : call ∈ pad.buttonFrame buttons) : call.IsSample := by
  unfold Pad.buttonFrame at h
  split at h
  · simp only [List.mem_cons, List.not_mem_nil, or_false] at h
    rcases h with rfl | rfl
    · exact Or.inr ⟨trivial, (by decide : KeyCode.back ≤ KeyCode.greatest)⟩
    · exact Or.inl rfl
  · cases h

theorem isSample_scrollFrame {x y : Int32} {call : Call} (h : call ∈ scrollFrame x y) :
    call.IsSample := by
  have hcall : call = .rel RelAxis.horizontalWheel x ∨ call = .rel RelAxis.wheel y
      ∨ call = .synReport := by
    by_cases hx : x = 0 <;> by_cases hy : y = 0 <;> simp [scrollFrame, hx, hy] at h
    · exact Or.inr h
    · exact h.elim Or.inl fun hsyn => Or.inr (Or.inr hsyn)
    · exact h
  rcases hcall with rfl | rfl | rfl
  · exact Or.inr ⟨trivial, (by decide : RelAxis.horizontalWheel ≤ RelAxis.greatest)⟩
  · exact Or.inr ⟨trivial, (by decide : RelAxis.wheel ≤ RelAxis.greatest)⟩
  · exact Or.inl rfl

/-- A device is configured by a beginning, declarations with codes in range, and an end. -/
theorem bracket_eq (config : Config) (name : String) :
    ∃ declarations, Rig.bracket config name
        = .configureBegin ⟨name, virtualBus, 0, 0, 1⟩ :: (declarations ++ [.configureEnd])
      ∧ ∀ call ∈ declarations, call.IsDeclaration := by
  refine ⟨[.configureProperty InputProperty.direct,
    .configureMultiTouch 0 0 (config.width - 1) (config.height - 1),
    .configureSlots config.slots, .configureKey KeyCode.touch, .configureKey KeyCode.back,
    .configureRel RelAxis.horizontalWheel, .configureRel RelAxis.wheel], rfl, ?_⟩
  intro call hmem
  simp only [List.mem_cons, List.not_mem_nil, or_false] at hmem
  rcases hmem with rfl | rfl | rfl | rfl | rfl | rfl | rfl
  · exact (by decide : InputProperty.direct ≤ InputProperty.greatest)
  · trivial
  · trivial
  · exact (by decide : KeyCode.touch ≤ KeyCode.greatest)
  · exact (by decide : KeyCode.back ≤ KeyCode.greatest)
  · exact (by decide : RelAxis.horizontalWheel ≤ RelAxis.greatest)
  · exact (by decide : RelAxis.wheel ≤ RelAxis.greatest)

/-- A device with a name that fits is made by the calls that configure it. -/
theorem receiveAll_bracket {host : Host} (hfree : host.faults = []) {path : String}
    (hdevice : Host.isDevicePath path = true) (hnul : '\x00' ∉ path.toList) (config : Config)
    {name : String} (hname : name.utf8ByteSize < nameFieldSize) :
    ∃ new d, (Device.new path).receiveAll host (Rig.bracket config name)
        = (host.recordAll new, d)
      ∧ d.Alive host.nextDevice .start
      ∧ (∀ n, payloadsOn n new = []) ∧ new.countP (·.isOpening) = 1 := by
  obtain ⟨begun, hbegin, hbegun⟩ :=
    @Device.configuring_begin path host ⟨name, virtualBus, 0, 0, 1⟩ hname
  obtain ⟨declarations, hsplit, hdeclarations⟩ := bracket_eq config name
  -- Beginning, declaring and ending the declaration, one after the other.
  obtain ⟨declared, hdeclare, hdeclared⟩ := hbegun.receiveAll host hdeclarations
  obtain ⟨requests, made, hend, halive⟩ := hdeclared.configureEnd hfree hdevice hnul
  refine ⟨.opened host.nextDevice path :: Host.granted host.nextDevice requests, made, ?_, halive,
    ?_, ?_⟩
  · rw [hsplit, Device.receiveAll, hbegin, Device.receiveAll_append, hdeclare]
    exact hend
  · intro n
    simp [payloadsOn, KernelEvent.payloadOn?, Host.granted]
  · simp [Host.granted, KernelEvent.isOpening, List.countP_map, Function.comp_def]

namespace Rig

/-! ## Rigs side by side -/

/-- A rig of recorders that never fail, and a rig of devices that mirrors it. -/
structure Simulates (path : String) (recording devising : Rig) : Prop where
  config : devising.config = recording.config
  pads : devising.pads = recording.pads
  named : ∀ id, id < recording.pads.length →
    (recording.config.deviceName id).utf8ByteSize < nameFieldSize
  racks : Rack.Mirrors recording.rack devising.rack
  /-- The devices of sinks that touchpads hold are there. -/
  held : ∀ (id : Nat) (pad : Pad) ownership sink, recording.pads[id]? = some pad →
    pad.sink = some (ownership, sink) → Rack.AliveAt recording.rack devising.rack sink
  recorders : ∃ failures, recording.factory = .recorders failures
    ∧ ∀ failure ∈ failures, failure = none
  devices : devising.factory = .devices path

/-- Nothing is lent, and touchpads are attached only while none of them holds a sink. -/
def Plain (rig : Rig) : Action → Prop
  | .lend .. => False
  | .attach => ∀ id, rig.sinkAt? id = none
  | _ => True

/-- What is the same and goes on in the same way on both rigs. -/
def Agree (path : String) (recorded devised : Rig × Outcome) : Prop :=
  Simulates path recorded.1 devised.1 ∧ devised.2 = recorded.2

namespace Simulates

variable {path : String} {recording devising : Rig}

/-- Both rigs remember the same of a touchpad, which holds no new sink. -/
theorem setPad (h : Simulates path recording devising) (id : Nat) {pad : Pad}
    (hpad : ∀ ownership sink, pad.sink = some (ownership, sink) →
      Rack.AliveAt recording.rack devising.rack sink) :
    Simulates path (recording.setPad id pad) (devising.setPad id pad) where
  config := h.config
  pads := by rw [Rig.setPad, Rig.setPad, h.pads]
  named := by
    intro i hi
    rw [Rig.setPad, List.length_set] at hi
    exact h.named i hi
  racks := h.racks
  held := by
    intro i other ownership sink hother hsink
    rw [Rig.setPad, List.getElem?_set] at hother
    split at hother
    · split at hother
      · obtain rfl := Option.some.inj hother
        exact hpad ownership sink hsink
      · cases hother
    · exact h.held i other ownership sink hother hsink
  recorders := h.recorders
  devices := h.devices

/-- A frame is sent to both sinks of a touchpad. -/
theorem sendFrame (h : Simulates path recording devising) (id : Nat) {pad : Pad}
    {ownership : Ownership} {sink : SinkId} (hsink : pad.sink = some (ownership, sink))
    (halive : Rack.AliveAt recording.rack devising.rack sink) {frame : List Call}
    (hframe : ∀ call ∈ frame, call.IsSample) :
    Agree path (recording.sendFrame id pad sink frame) (devising.sendFrame id pad sink frame) := by
  obtain ⟨hracks, hrecorded, hdevised, hkept⟩ := h.racks.drive halive hframe
  have hdriven : Simulates path { recording with rack := (recording.rack.drive sink frame).1 }
      { devising with rack := (devising.rack.drive sink frame).1 } :=
    ⟨h.config, h.pads, h.named, hracks,
      fun i other o s hother hs => hkept s (h.held i other o s hother hs), h.recorders, h.devices⟩
  refine ⟨hdriven.setPad id fun o s hs => ?_, ?_⟩
  · obtain ⟨-, rfl⟩ := Prod.ext_iff.mp (Option.some.inj (hsink.symm.trans hs))
    exact hkept sink halive
  · simp only [Rig.sendFrame, hrecorded, hdevised]

theorem touch (h : Simulates path recording devising) (id : Nat) (x y pressure : Single) :
    Agree path (recording.touch id x y pressure) (devising.touch id x y pressure) := by
  unfold Rig.touch
  rw [h.pads, h.config]
  cases hpad : recording.pads[id]? with
  | none => exact ⟨h, rfl⟩
  | some pad =>
    simp only
    cases checkRange "x" x Single.isPosition "[0, 1)" with
    | error e => exact ⟨h, rfl⟩
    | ok =>
      cases checkRange "y" y Single.isPosition "[0, 1)" with
      | error e => exact ⟨h, rfl⟩
      | ok =>
        simp only
        rcases hsink : pad.sink with _ | ⟨ownership, sink⟩
        · exact ⟨h.setPad id fun o s hs => (by cases hs), rfl⟩
        · exact h.sendFrame id rfl (h.held id pad ownership sink hpad hsink)
            fun call hmem => isSample_touchFrame hmem

theorem buttonState (h : Simulates path recording devising) (id : Nat) (buttons : UInt32) :
    Agree path (recording.buttonState id buttons) (devising.buttonState id buttons) := by
  unfold Rig.buttonState
  rw [h.pads]
  cases hpad : recording.pads[id]? with
  | none => exact ⟨h, rfl⟩
  | some pad =>
    simp only
    split
    · exact ⟨h, rfl⟩
    · split
      · exact ⟨h, rfl⟩
      · rcases hsink : pad.sink with _ | ⟨ownership, sink⟩
        · exact ⟨h, rfl⟩
        · exact h.sendFrame id rfl (h.held id pad ownership sink hpad hsink)
            fun call hmem => isSample_buttonFrame hmem

theorem scroll (h : Simulates path recording devising) (id : Nat) (x y : Single) :
    Agree path (recording.scroll id x y) (devising.scroll id x y) := by
  unfold Rig.scroll
  rw [h.pads]
  cases hpad : recording.pads[id]? with
  | none => exact ⟨h, rfl⟩
  | some pad =>
    simp only
    cases checkRange "x" x Single.isScrollAmount "[-1, 1]" with
    | error e => exact ⟨h, rfl⟩
    | ok =>
      cases checkRange "y" y Single.isScrollAmount "[-1, 1]" with
      | error e => exact ⟨h, rfl⟩
      | ok =>
        simp only
        rcases hsink : pad.sink with _ | ⟨ownership, sink⟩
        · exact ⟨h, rfl⟩
        · exact h.sendFrame id hsink (h.held id pad ownership sink hpad hsink)
            fun call hmem => isSample_scrollFrame hmem

/-- A touchpad without a sink gets one of its own, which is configured. -/
theorem attachOne_of_none {rig : Rig} {id : Nat} {pad : Pad} (hpad : rig.pads[id]? = some pad)
    (hnone : pad.sink = none) :
    rig.attachOne id
      = ({ rig with
            factory := rig.factory.make.1
            rack := ((rig.rack.add rig.factory.make.2).1.drive rig.rack.sinks.length
              (bracket rig.config (rig.config.deviceName id))).1 }.setPad id
          { pad with sink := some (.owned, rig.rack.sinks.length) },
        ((rig.rack.add rig.factory.make.2).1.drive rig.rack.sinks.length
          (bracket rig.config (rig.config.deviceName id))).2) := by
  simp only [Rig.attachOne, hpad, ensureSink, hnone, Rig.setPad, Rack.add]

/-- A touchpad without a sink gets one of its own on both sides, and both are configured. -/
theorem attachOne (h : Simulates path recording devising)
    (hdevice : Host.isDevicePath path = true) (hnul : '\x00' ∉ path.toList) {id : Nat} {pad : Pad}
    (hpad : recording.pads[id]? = some pad) (hnone : pad.sink = none) :
    Simulates path (recording.attachOne id).1 (devising.attachOne id).1
      ∧ (recording.attachOne id).2 = none ∧ (devising.attachOne id).2 = none := by
  obtain ⟨failures, hfailures, hnever⟩ := h.recorders
  have hfailure : failures.head?.join = none := by
    cases failures with
    | nil => rfl
    | cons failure failures => rw [hnever failure List.mem_cons_self]; rfl
  have hname := h.named id (List.getElem?_eq_some_iff.mp hpad).1
  obtain ⟨new, d, hmade, halive, hpayloads, hopened⟩ :=
    receiveAll_bracket h.racks.faults hdevice hnul recording.config hname
  have hlength : devising.rack.sinks.length = recording.rack.sinks.length := h.racks.length
  have hrecorded : recording.attachOne id
      = ({ recording with
            factory := .recorders failures.tail
            rack := ⟨recording.rack.sinks ++ [Sink.recorder
              ⟨bracket recording.config (recording.config.deviceName id), none, none⟩],
              recording.rack.host⟩ }.setPad id
          { pad with sink := some (.owned, recording.rack.sinks.length) }, none) := by
    have hthere : (recording.rack.add (.recorder (.new none))).1.sinks[recording.rack.sinks.length]?
        = some (.recorder (.new none)) := by simp [Rack.add]
    have hcalls := @Recorder.receiveAll_eq (.new none) rfl
      (bracket recording.config (recording.config.deviceName id))
    rw [attachOne_of_none hpad hnone, hfailures, Factory.make, hfailure, Rack.drive_recorder hthere,
      Recorder.resetStatus]
    simp only [Recorder.new] at hcalls ⊢
    rw [hcalls]
    simp [Rack.add]
  have hdevised : devising.attachOne id
      = ({ devising with
            rack := ⟨devising.rack.sinks ++ [Sink.device d],
              devising.rack.host.recordAll new⟩ }.setPad id
          { pad with sink := some (.owned, recording.rack.sinks.length) }, none) := by
    have hthere : (devising.rack.add (.device (.new path))).1.sinks[devising.rack.sinks.length]?
        = some (.device (.new path)) := by simp [Rack.add]
    have hpad' : devising.pads[id]? = some pad := h.pads ▸ hpad
    rw [attachOne_of_none hpad' hnone, h.devices, Factory.make, Rack.drive_device hthere, h.config,
      Device.resetStatus]
    simp only [Rack.add]
    rw [show ({ Device.new path with status := none } : Device) = .new path from rfl, hmade]
    simp [halive.status, hlength]
  -- The device has the number of its sink, since each sink before has one device.
  rw [h.racks.numbered, hlength] at halive
  obtain ⟨hracks, hnew, hkept⟩ := h.racks.extend
    ⟨bracket recording.config (recording.config.deviceName id), none, none⟩ recording.rack.host
    rfl halive rfl hpayloads hopened
  rw [hrecorded, hdevised]
  refine ⟨Simulates.setPad ?_ id ?_, rfl, rfl⟩
  · exact ⟨h.config, h.pads, h.named, hracks,
      fun i other o s hother hs => hkept s (h.held i other o s hother hs),
      ⟨failures.tail, rfl, fun failure hmem => hnever failure (List.mem_of_mem_tail hmem)⟩, h.devices⟩
  · intro o s hs
    obtain ⟨-, rfl⟩ := Prod.ext_iff.mp (Option.some.inj hs)
    exact hnew

/-- Touchpads without sinks get theirs in order. -/
theorem attachEach (h : Simulates path recording devising)
    (hdevice : Host.isDevicePath path = true) (hnul : '\x00' ∉ path.toList) {ids : List Nat}
    (hnodup : ids.Nodup)
    (hnone : ∀ id ∈ ids, ∃ pad, recording.pads[id]? = some pad ∧ pad.sink = none) :
    Simulates path (recording.attachEach ids).1 (devising.attachEach ids).1
      ∧ (recording.attachEach ids).2 = none ∧ (devising.attachEach ids).2 = none := by
  induction ids generalizing recording devising with
  | nil => exact ⟨h, rfl, rfl⟩
  | cons id ids ih =>
    obtain ⟨hnotin, hrest⟩ := List.nodup_cons.mp hnodup
    obtain ⟨pad, hpad, hsink⟩ := hnone id List.mem_cons_self
    obtain ⟨hone, hrecorded, hdevised⟩ := h.attachOne hdevice hnul hpad hsink
    have hlater : ∀ later ∈ ids, ∃ pad,
        (recording.attachOne id).1.pads[later]? = some pad ∧ pad.sink = none := by
      intro later hmem
      obtain ⟨other, hother, hnothing⟩ := hnone later (List.mem_cons_of_mem _ hmem)
      have hne : id ≠ later := fun heq => hnotin (heq ▸ hmem)
      refine ⟨other, ?_, hnothing⟩
      rw [attachOne_of_none hpad hsink, Rig.setPad, List.getElem?_set_ne hne, hother]
    obtain ⟨hall, hrecorded', hdevised'⟩ := ih hone hrest hlater
    exact ⟨hall, by simp [Rig.attachEach, hrecorded, hrecorded'],
      by simp [Rig.attachEach, hdevised, hdevised']⟩

theorem attach (h : Simulates path recording devising)
    (hdevice : Host.isDevicePath path = true) (hnul : '\x00' ∉ path.toList)
    (hnone : ∀ id, recording.sinkAt? id = none) : Agree path recording.attach devising.attach := by
  have hpads : ∀ id ∈ List.range recording.pads.length,
      ∃ pad, recording.pads[id]? = some pad ∧ pad.sink = none := by
    intro id hmem
    have hpad := List.getElem?_eq_getElem (List.mem_range.mp hmem)
    refine ⟨_, hpad, ?_⟩
    have hsink := hnone id
    rw [sinkAt?, hpad] at hsink
    simpa using hsink
  obtain ⟨hall, hrecorded, hdevised⟩ := h.attachEach hdevice hnul List.nodup_range hpads
  rw [Agree, Rig.attach, Rig.attach, h.pads]
  exact ⟨hall, by simp only [hrecorded, hdevised]⟩

/-- Sinks are given back on both sides. -/
theorem release {recorders devices : Rack} (h : Rack.Mirrors recorders devices) (pad : Pad) :
    Rack.Mirrors (Rig.release recorders pad) (Rig.release devices pad) := by
  unfold Rig.release dropOwned
  rcases pad.sink with _ | ⟨_ | _, sink⟩
  · exact h
  · exact (h.close sink).drop sink
  · exact h.close sink

theorem reset (h : Simulates path recording devising) :
    Simulates path recording.reset devising.reset where
  config := h.config
  pads := by rw [Rig.reset, Rig.reset, h.pads]
  named := by
    intro id hid
    rw [Rig.reset, List.length_map] at hid
    exact h.named id hid
  racks := by
    have hall : ∀ (pads : List Pad) (recorders devices : Rack), Rack.Mirrors recorders devices →
        Rack.Mirrors (pads.foldl Rig.release recorders) (pads.foldl Rig.release devices) := by
      intro pads
      induction pads with
      | nil => intro _ _ hracks; exact hracks
      | cons pad pads ih => intro _ _ hracks; exact ih _ _ (release hracks pad)
    rw [Rig.reset, Rig.reset, h.pads]
    exact hall _ _ _ h.racks
  held := by
    intro id pad ownership sink hpad hsink
    rw [Rig.reset, List.getElem?_map] at hpad
    obtain ⟨_, -, rfl⟩ := Option.map_eq_some_iff.mp hpad
    cases hsink
  recorders := h.recorders
  devices := h.devices

/-- **One step**: both rigs do the same. -/
theorem act (h : Simulates path recording devising) (hdevice : Host.isDevicePath path = true)
    (hnul : '\x00' ∉ path.toList) {action : Action} (hplain : recording.Plain action) :
    Agree path (recording.act action) (devising.act action) := by
  cases action with
  | attach => exact h.attach hdevice hnul hplain
  | detach => exact ⟨h.reset, rfl⟩
  | reset => exact ⟨h.reset, rfl⟩
  | touch id x y pressure => exact h.touch id x y pressure
  | buttons id mask => exact h.buttonState id mask
  | scroll id x y => exact h.scroll id x y
  | lend => exact hplain.elim

/-- **A whole run**: both rigs do the same all along. -/
theorem run (h : Simulates path recording devising) (hdevice : Host.isDevicePath path = true)
    (hnul : '\x00' ∉ path.toList) {actions : List Action} (hplain : recording.Keeps Plain actions) :
    Simulates path (recording.run actions).1 (devising.run actions).1
      ∧ (devising.run actions).2 = (recording.run actions).2 := by
  induction actions generalizing recording devising with
  | nil => exact ⟨h, rfl⟩
  | cons action actions ih =>
    obtain ⟨hstep, houtcome⟩ := h.act hdevice hnul hplain.1
    obtain ⟨hrest, houtcomes⟩ := ih hstep hplain.2
    exact ⟨hrest, by rw [run_cons_snd, run_cons_snd, houtcome, houtcomes]⟩

end Simulates

/-- New rigs do not differ yet. -/
theorem simulates_new {config : Config} {failures : List (Option SinkError)} (path : String)
    (host : Host) (files : Files) (hfailures : ∀ failure ∈ failures, failure = none)
    (hnames : ∀ id, id < config.devices.toNat →
      (config.deviceName id).utf8ByteSize < nameFieldSize) :
    Simulates path (new config (.recorders failures) ⟨[], host⟩)
      (new config (.devices path) ⟨[], ⟨[], [], files⟩⟩) where
  config := rfl
  pads := rfl
  named := by
    intro id hid
    rw [new, List.length_replicate] at hid
    exact hnames id hid
  racks := Rack.mirrors_nil host files
  held := by
    intro id pad ownership sink hpad hsink
    rw [new, List.getElem?_replicate] at hpad
    split at hpad
    · obtain rfl := Option.some.inj hpad
      cases hsink
    · cases hpad
  recorders := ⟨failures, rfl, hfailures⟩
  devices := rfl

/-- **Devices mirror recorders.**  The same calls on both give the same outcomes and leave the
touchpads with the same memory after each of them, and each device has written just the payloads
for the calls of its recorder, one for each end of a frame. -/
theorem devices_mirror_recorders (config : Config) {failures : List (Option SinkError)}
    (path : String) (host : Host) (files : Files) {actions : List Action}
    (hfailures : ∀ failure ∈ failures, failure = none)
    (hdevice : Host.isDevicePath path = true) (hnul : '\x00' ∉ path.toList)
    (hnames : ∀ id, id < config.devices.toNat → (config.deviceName id).utf8ByteSize ≤ 79)
    (hplain : (new config (.recorders failures) ⟨[], host⟩).Keeps Plain actions) (k : Nat) :
    let recorded := (new config (.recorders failures) ⟨[], host⟩).run (actions.take k)
    let devised := (new config (.devices path) ⟨[], ⟨[], [], files⟩⟩).run (actions.take k)
    devised.2 = recorded.2
      ∧ devised.1.pads = recorded.1.pads
      ∧ (∀ id sink, recorded.1.sinkAt? id = some sink →
        ∃ d, devised.1.rack.sinks[sink]? = some (.device d) ∧ d.node = some sink)
      ∧ ∀ sink, sink < recorded.1.rack.sinks.length →
        ∃ r, recorded.1.rack.sinks[sink]? = some (.recorder r)
          ∧ payloadsOn sink devised.1.rack.host.events = payloads r.calls
          ∧ (payloads r.calls).length = r.calls.count .synReport := by
  intro recorded devised
  have htake : (new config (.recorders failures) ⟨[], host⟩).Keeps Plain (actions.take k) := by
    rw [← List.take_append_drop k actions] at hplain
    exact ((keeps_append _ _ _ _).mp hplain).1
  have hnew := simulates_new path host files hfailures
    fun id hid => Nat.lt_succ_of_le (hnames id hid)
  obtain ⟨hsimulates, houtcomes⟩ := hnew.run hdevice hnul htake
  refine ⟨houtcomes, hsimulates.pads, ?_, ?_⟩
  · intro id sink hsink
    obtain ⟨pad, ownership, hpad, hheld⟩ := sinkAt?_eq_some_iff.mp hsink
    obtain ⟨r, d, -, hd, halive⟩ := hsimulates.held id pad ownership sink hpad hheld
    exact ⟨d, hd, halive.node⟩
  · intro sink hlt
    obtain ⟨r, d, hr, -, htwins⟩ := hsimulates.racks.sinks sink hlt
    exact ⟨r, hr, htwins.payloads, length_payloads r.calls⟩

/-- A tap between attaching and detaching, up to the release. -/
theorem devices_mirror_recorders_tap :
    let actions := [Action.attach, .touch 0 .zero .zero .one, .touch 0 .zero .zero .zero, .detach]
    let recorded := (new .standard (.recorders []) ⟨[], .new []⟩).run (actions.take 3)
    let devised := (new .standard (.devices "/dev/uinput") ⟨[], [], [], .empty⟩).run (actions.take 3)
    devised.2 = recorded.2
      ∧ ∃ r, recorded.1.rack.sinks[0]? = some (.recorder r)
        ∧ payloadsOn 0 devised.1.rack.host.events = payloads r.calls
        ∧ (payloads r.calls).length = r.calls.count .synReport := by
  intro actions recorded devised
  have hnames : ∀ id, id < Config.standard.devices.toNat →
      (Config.standard.deviceName id).utf8ByteSize ≤ 79 := by decide +kernel
  have hplain : (new .standard (.recorders []) ⟨[], .new []⟩).Keeps Plain actions :=
    ⟨fun id => sinkAt?_new _ _ _ id, trivial, trivial, trivial, trivial⟩
  have hmade : 0 < recorded.1.rack.sinks.length := by
    have hlength : 0 < ((new .standard (.recorders []) ⟨[], .new []⟩).run
        [.attach, .touch 0 .zero .zero .one, .touch 0 .zero .zero .zero]).1.rack.sinks.length := by
      decide +kernel
    exact hlength
  obtain ⟨houtcomes, -, -, hpayloads⟩ := devices_mirror_recorders .standard "/dev/uinput" (.new [])
    .empty (by simp) (by decide +kernel) (by decide) hnames hplain 3
  simp only [recorded, devised]
  exact ⟨houtcomes, hpayloads 0 hmade⟩

end Rig

end VirtualTouchpad
