/-
# Devices that mirror recorders

Two racks side by side: one of recorders that never fail, and one of devices on a
host without faults.  They mirror each other when each device has written just the
payloads for the calls of the recorder with its number.

* `Mirrors.drive`, `Mirrors.close`, `Mirrors.drop`: racks that mirror each other go on to do so
  when the same is done to both;
* `Mirrors.configure`: so they do when a sink is added and configured.
-/
import VirtualTouchpad.Proofs.Sink.Declarations
import VirtualTouchpad.Proofs.Sink.Frames
import VirtualTouchpad.Proofs.Sink.Lifecycle

namespace VirtualTouchpad

/-! ## Configuring a device -/

namespace Device

/-- A device that is being declared, without an error so far. -/
structure Configuring (path : String) (d : Device) : Prop where
  located : d.path = path
  stage : d.stage = .configuring
  named : d.declaration.identity.isSome
  node : d.node = none
  frame : d.frame = []
  slot : d.slot = none
  status : d.status = none

/-- A device whose name fits begins to be declared. -/
theorem configuring_begin (path : String) (host : Host) {identity : DeviceIdentity}
    (h : identity.name.utf8ByteSize < nameFieldSize) :
    ∃ d, (new path).receive host (.configureBegin identity) = (host, d) ∧ d.Configuring path :=
  ⟨_, receive_configureBegin path host h, rfl, rfl, rfl, rfl, rfl, rfl, rfl⟩

end Device

/-- Whether a call declares something with a code in range. -/
def Call.IsDeclaration : Call → Prop
  | .configureProperty property => property ≤ InputProperty.greatest
  | .configureKey code => code ≤ KeyCode.greatest
  | .configureRel axis => axis ≤ RelAxis.greatest
  | .configureMultiTouch .. | .configureSlots _ => True
  | _ => False

/-- A call with its code in range is one that declares something, and nothing is wrong with it. -/
theorem Call.IsDeclaration.declares {call : Call} (h : call.IsDeclaration) :
    call.Declares ∧ call.fault? = none := by
  cases call with
  | configureProperty | configureKey | configureRel =>
    exact ⟨trivial, if_neg (UInt16.not_lt.mpr h)⟩
  | configureMultiTouch | configureSlots => exact ⟨trivial, rfl⟩
  | _ => exact h.elim

namespace Device.Configuring

variable {path : String} {d : Device}

/-- A declaration that changes no more than the lists of it. -/
theorem declared (h : d.Configuring path) {declaration : Declaration}
    (hidentity : declaration.identity = d.declaration.identity) :
    { d with declaration := declaration }.Configuring path :=
  ⟨h.located, h.stage, hidentity ▸ h.named, h.node, h.frame, h.slot, h.status⟩

theorem receive (h : d.Configuring path) (host : Host) {call : Call} (hcall : call.IsDeclaration) :
    ∃ e, d.receive host call = (host, e) ∧ e.Configuring path := by
  obtain ⟨hdeclares, hfault⟩ := hcall.declares
  exact ⟨_, receive_declaring h.stage host hdeclares hfault, h.declared rfl⟩

theorem receiveAll (h : d.Configuring path) (host : Host) {calls : List Call}
    (hcalls : ∀ call ∈ calls, call.IsDeclaration) :
    ∃ e, d.receiveAll host calls = (host, e) ∧ e.Configuring path := by
  induction calls generalizing d with
  | nil => exact ⟨d, rfl, h⟩
  | cons call calls ih =>
    obtain ⟨e, hone, hnext⟩ := h.receive host (hcalls call List.mem_cons_self)
    rw [Device.receiveAll, hone]
    exact ih hnext fun later hmem => hcalls later (List.mem_cons_of_mem _ hmem)

/-- Without faults the declared device is made, with the next number. -/
theorem configureEnd (h : d.Configuring path) {host : Host} (hfree : host.faults = [])
    (hdevice : Host.isDevicePath path = true) (hnul : '\x00' ∉ path.toList) :
    ∃ requests e, d.receive host .configureEnd
        = (host.recordAll (.opened host.nextDevice path
            :: Host.granted host.nextDevice requests), e)
      ∧ e.Alive host.nextDevice .start := by
  obtain ⟨identity, hidentity⟩ := Option.isSome_iff_exists.mp h.named
  have hpath := h.located
  subst hpath
  refine ⟨d.declaration.requests identity,
    { d with stage := .ready, node := some host.nextDevice }, ?_, ?_⟩
  · exact configureEnd_of_no_faults h.stage h.status hidentity hfree hdevice hnul
  · exact ⟨rfl, rfl, h.status, h.slot, h.frame⟩

end Device.Configuring

/-! ## Racks side by side -/

/-- What is written to one device is not written to another, and opens none. -/
theorem payloadsOn_of_writesTo {n : Nat} {new : List KernelEvent}
    (h : ∀ event ∈ new, event.WritesTo n) :
    (∀ other, other ≠ n → payloadsOn other new = []) ∧ new.countP (·.isOpening) = 0 := by
  constructor
  · intro other hne
    refine List.filterMap_eq_nil_iff.mpr fun event hmem => ?_
    obtain ⟨bytes, outcome, rfl⟩ := h event hmem
    exact if_neg (Ne.symm hne)
  · refine List.countP_eq_zero.mpr fun event hmem => ?_
    obtain ⟨bytes, outcome, rfl⟩ := h event hmem
    simp [KernelEvent.isOpening]

/-- A recorder and the device with its number, which has written the payloads for its calls. -/
structure Twins (host : Host) (id : SinkId) (r : Recorder) (d : Device) : Prop where
  unfailing : r.failure = none
  payloads : payloadsOn id host.events = payloads r.calls
  living : d.Alive id (Encoder.start.steps r.calls) ∨ d.Over

namespace Rack

/-- A rack of recorders and one of devices that has written the payloads for their calls. -/
structure Mirrors (recording devising : Rack) : Prop where
  faults : devising.host.faults = []
  length : devising.sinks.length = recording.sinks.length
  numbered : devising.host.nextDevice = devising.sinks.length
  unused : ∀ n, devising.sinks.length ≤ n → payloadsOn n devising.host.events = []
  sinks : ∀ id, id < recording.sinks.length → ∃ r d, recording.sinks[id]? = some (.recorder r)
    ∧ devising.sinks[id]? = some (.device d) ∧ Twins devising.host id r d

/-- A sink whose device is there. -/
def AliveAt (recording devising : Rack) (id : SinkId) : Prop :=
  ∃ r d, recording.sinks[id]? = some (.recorder r) ∧ devising.sinks[id]? = some (.device d)
    ∧ d.Alive id (Encoder.start.steps r.calls)

theorem mirrors_nil (host : Host) (files : Files) :
    Mirrors ⟨[], host⟩ ⟨[], ⟨[], [], files⟩⟩ where
  faults := rfl
  length := rfl
  numbered := rfl
  unused := fun _ _ => rfl
  sinks := fun _ hlt => absurd hlt (Nat.not_lt_zero _)

namespace Mirrors

variable {recording devising : Rack} {id : SinkId}

/-- Something is done to a recorder and to its device, and no other device is asked for. -/
theorem replace (h : Mirrors recording devising) {r : Recorder} {d : Device} {host : Host}
    {new : List KernelEvent} (htwins : Twins (devising.host.recordAll new) id r d)
    (hothers : ∀ n, n ≠ id → payloadsOn n new = [])
    (hopened : new.countP (·.isOpening) = 0) (hlt : id < recording.sinks.length) :
    Mirrors ⟨recording.sinks.set id (.recorder r), host⟩
      ⟨devising.sinks.set id (.device d), devising.host.recordAll new⟩ where
  faults := h.faults
  length := by simp [h.length]
  numbered := by
    have hnumbered := h.numbered
    simp only [Host.nextDevice, Host.events_recordAll, List.countP_append, List.length_set] at *
    omega
  unused := by
    intro n hn
    rw [List.length_set] at hn
    have hne : n ≠ id := fun heq => absurd (h.length ▸ heq ▸ hn) (Nat.not_le.mpr hlt)
    rw [Host.events_recordAll, payloadsOn_append, h.unused n hn, hothers n hne]
    rfl
  sinks := by
    intro other hother
    rw [List.length_set] at hother
    by_cases hid : id = other
    · subst hid
      exact ⟨r, d, List.getElem?_set_self hlt, List.getElem?_set_self (h.length ▸ hlt), htwins⟩
    · obtain ⟨r', d', hr, hd, htwins'⟩ := h.sinks other hother
      refine ⟨r', d', by rw [List.getElem?_set_ne hid, hr], by rw [List.getElem?_set_ne hid, hd],
        htwins'.unfailing, ?_, htwins'.living⟩
      rw [Host.events_recordAll, payloadsOn_append, hothers other (Ne.symm hid), List.append_nil]
      exact htwins'.payloads

/-- **Driving** a sink whose device is there: both racks do so without an error. -/
theorem drive (h : Mirrors recording devising) (halive : AliveAt recording devising id)
    {calls : List Call} (hcalls : ∀ call ∈ calls, call.IsSample) :
    Mirrors (recording.drive id calls).1 (devising.drive id calls).1
      ∧ (recording.drive id calls).2 = none ∧ (devising.drive id calls).2 = none
      ∧ ∀ other, AliveAt recording devising other →
        AliveAt (recording.drive id calls).1 (devising.drive id calls).1 other := by
  obtain ⟨r, d, hr, hd, hready⟩ := halive
  have hlt : id < recording.sinks.length := (List.getElem?_eq_some_iff.mp hr).1
  obtain ⟨r', d', hr', hd', htwins⟩ := h.sinks id hlt
  obtain rfl : r = r' := Sink.recorder.inj (Option.some.inj (hr.symm.trans hr'))
  have hreset : d.resetStatus.Alive id (Encoder.start.steps r.calls) :=
    ⟨hready.stage, hready.node, rfl, hready.slot, hready.frame⟩
  obtain ⟨new, hhost, hnext, hwritten, hwrites⟩ := hreset.receiveAll h.faults hcalls
  obtain ⟨hothers, hopened⟩ := payloadsOn_of_writesTo hwrites
  have hr₂ : r.resetStatus.receiveAll calls = ⟨r.calls ++ calls, none, r.failure⟩ :=
    @Recorder.receiveAll_eq r.resetStatus htwins.unfailing calls
  rw [drive_recorder hr, drive_device hd, hr₂]
  -- The encoder goes on from the calls that the recorder had before.
  rw [← Encoder.steps_append] at hnext hwritten
  refine ⟨?_, rfl, hnext.status, ?_⟩
  · simp only [hhost]
    refine h.replace ⟨htwins.unfailing, ?_, Or.inl hnext⟩ hothers hopened hlt
    rw [Host.events_recordAll, payloadsOn_append, htwins.payloads]
    exact hwritten.symm
  · intro other hother
    by_cases hid : id = other
    · subst hid
      exact ⟨_, _, List.getElem?_set_self hlt, List.getElem?_set_self (h.length ▸ hlt), hnext⟩
    · obtain ⟨r'', d'', hr'', hd'', halive''⟩ := hother
      exact ⟨r'', d'', by rw [List.getElem?_set_ne hid, hr''],
        by rw [List.getElem?_set_ne hid, hd''], halive''⟩

/-- A device is closed, and its recorder gets nothing that would be written. -/
theorem shut (h : Mirrors recording devising) {r r' : Recorder}
    (hr : recording.sinks[id]? = some (.recorder r)) (d : Device)
    (hfailure : r'.failure = r.failure) (hsame : payloads r'.calls = payloads r.calls) :
    Mirrors ⟨recording.sinks.set id (.recorder r'), recording.host⟩
      ⟨devising.sinks.set id (.device (d.close devising.host).2), (d.close devising.host).1⟩ := by
  have hlt : id < recording.sinks.length := (List.getElem?_eq_some_iff.mp hr).1
  obtain ⟨r₁, d₁, hr₁, hd₁, htwins⟩ := h.sinks id hlt
  obtain rfl : r = r₁ := Sink.recorder.inj (Option.some.inj (hr.symm.trans hr₁))
  obtain ⟨new, hhost, hnew⟩ := d.close_spec devising.host
  have hpayloads := payloadsOn_of_not_write fun event hmem => (hnew event hmem).1
  have hopened : new.countP (·.isOpening) = 0 :=
    List.countP_eq_zero.mpr fun event hmem => by simp [(hnew event hmem).2]
  rw [hhost]
  refine h.replace ⟨hfailure.trans htwins.unfailing, ?_, Or.inr (d.over_close _)⟩
    (fun n _ => hpayloads n) hopened hlt
  rw [Host.events_recordAll, payloadsOn_append, hpayloads, List.append_nil, htwins.payloads, hsame]

/-- **Closing** a sink. -/
theorem close (h : Mirrors recording devising) (id : SinkId) :
    Mirrors (recording.send id .close) (devising.send id .close) := by
  by_cases hlt : id < recording.sinks.length
  · obtain ⟨r, d, hr, hd, -⟩ := h.sinks id hlt
    have hsame : payloads (r.calls ++ [.close]) = payloads r.calls := by
      rw [payloads, payloads, Encoder.steps_append]
      rfl
    have hshut := @shut _ _ _ h r (r.receive .close) hr d rfl hsame
    simpa [send, update, hr, hd, Sink.receive, Device.receive] using hshut
  · have hge := Nat.not_lt.mp hlt
    rw [send, send, update_of_length_le hge, update_of_length_le (h.length ▸ hge)]
    exact h

/-- **Dropping** a sink. -/
theorem drop (h : Mirrors recording devising) (id : SinkId) :
    Mirrors (recording.drop id) (devising.drop id) := by
  by_cases hlt : id < recording.sinks.length
  · obtain ⟨r, d, hr, hd, -⟩ := h.sinks id hlt
    simpa [Rack.drop, update, hr, hd, Sink.drop] using h.shut hr d rfl rfl
  · have hge := Nat.not_lt.mp hlt
    rw [Rack.drop, Rack.drop, update_of_length_le hge, update_of_length_le (h.length ▸ hge)]
    exact h

/-- A device is made beside a new recorder. -/
theorem extend (h : Mirrors recording devising) (r : Recorder) {d : Device} (host : Host)
    {new : List KernelEvent} (hfailure : r.failure = none)
    (halive : d.Alive recording.sinks.length (Encoder.start.steps r.calls))
    (hpayloads : payloads r.calls = []) (hnew : ∀ n, payloadsOn n new = [])
    (hopened : new.countP (·.isOpening) = 1) :
    Mirrors ⟨recording.sinks ++ [.recorder r], host⟩
        ⟨devising.sinks ++ [.device d], devising.host.recordAll new⟩
      ∧ AliveAt ⟨recording.sinks ++ [.recorder r], host⟩
        ⟨devising.sinks ++ [.device d], devising.host.recordAll new⟩ recording.sinks.length
      ∧ ∀ other, AliveAt recording devising other →
        AliveAt ⟨recording.sinks ++ [.recorder r], host⟩
          ⟨devising.sinks ++ [.device d], devising.host.recordAll new⟩ other := by
  have hfirst : (recording.sinks ++ [Sink.recorder r])[recording.sinks.length]?
      = some (.recorder r) := by simp
  have hsecond : (devising.sinks ++ [Sink.device d])[recording.sinks.length]?
      = some (.device d) := by simp [← h.length]
  refine ⟨?_, ⟨r, d, hfirst, hsecond, halive⟩, ?_⟩
  · constructor
    case faults => exact h.faults
    case length => simp [h.length]
    case numbered =>
      have hnumbered := h.numbered
      simp only [Host.nextDevice, Host.events_recordAll, List.countP_append, List.length_append,
        List.length_singleton] at *
      omega
    case unused =>
      intro n hn
      rw [List.length_append] at hn
      rw [Host.events_recordAll, payloadsOn_append, h.unused n (Nat.le_of_succ_le hn), hnew n]
      rfl
    case sinks =>
      intro id hid
      rw [List.length_append, List.length_singleton] at hid
      -- An old sink has written nothing new, and nothing was written for the new one before.
      by_cases hlt : id < recording.sinks.length
      · obtain ⟨r', d', hr, hd, htwins⟩ := h.sinks id hlt
        have hlt' : id < devising.sinks.length := h.length ▸ hlt
        refine ⟨r', d', by rw [List.getElem?_append_left hlt, hr],
          by rw [List.getElem?_append_left hlt', hd], htwins.unfailing, ?_, htwins.living⟩
        rw [Host.events_recordAll, payloadsOn_append, hnew, List.append_nil]
        exact htwins.payloads
      · obtain rfl : id = recording.sinks.length := by omega
        refine ⟨r, d, hfirst, hsecond, hfailure, ?_, Or.inl halive⟩
        rw [Host.events_recordAll, payloadsOn_append, h.unused _ (Nat.le_of_eq h.length), hnew,
          hpayloads]
        rfl
  · rintro other ⟨r', d', hr, hd, halive'⟩
    have hlt : other < recording.sinks.length := (List.getElem?_eq_some_iff.mp hr).1
    have hlt' : other < devising.sinks.length := (List.getElem?_eq_some_iff.mp hd).1
    exact ⟨r', d', by rw [List.getElem?_append_left hlt, hr],
      by rw [List.getElem?_append_left hlt', hd], halive'⟩

end Mirrors

end Rack

end VirtualTouchpad
