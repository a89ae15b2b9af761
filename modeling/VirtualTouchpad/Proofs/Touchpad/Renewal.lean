/-
# Detaching as a new start

A rig of devices that is taken down is as good as new: whatever is done to it then gives
what it gives on a new rig, as long as its host meets no more faults.  Nothing is left of
what was done before but the numbers of sinks and devices, which go on.

* `Move`: what happens to a rig in use and to those who lend it sinks;
* `moves_atop`: moves are the same on top of another rack;
* `attachEach_eq_none_iff`: when touchpads without sinks can be attached;
* `detach_erases_history`: both, after any history and a detach.
-/
import VirtualTouchpad.Proofs.Touchpad.Mirror
import VirtualTouchpad.Proofs.Touchpad.Renumbering

namespace VirtualTouchpad

/-! ## Moves -/

/-- A sink that nobody has used. -/
inductive FreshSink where
  | recorder (failure : Option SinkError)
  | device (path : String)
  deriving DecidableEq, Repr

/-- The sink itself. -/
def FreshSink.sink : FreshSink → Sink
  | .recorder failure => .recorder (.new failure)
  | .device path => .device (.new path)

/-- A fresh sink has no device yet. -/
theorem FreshSink.renumber_sink (fresh : FreshSink) (first : Nat) :
    fresh.sink.renumber first = fresh.sink := by
  cases fresh <;> rfl

/-- Something that happens to a rig in use.  It names sinks by their numbers, counted from some
first one. -/
inductive Move where
  | call (action : Action)
  /-- A recorder is told what its calls meet from now on. -/
  | order (sink : SinkId) (failure : Option SinkError)
  /-- Somebody makes a sink that can be lent; it gets the next number. -/
  | supply (fresh : FreshSink)
  deriving DecidableEq, Repr

namespace Rig

/-- The rig after a move whose sinks are counted from a first one, and the outcome of a call. -/
def move (first : SinkId) (rig : Rig) : Move → Rig × List Outcome
  | .call action =>
    let (rig, outcome) := rig.act (action.shift first)
    (rig, [outcome])
  | .order sink failure => (rig.step (.order (first + sink) failure), [])
  | .supply fresh => ({ rig with rack := (rig.rack.add fresh.sink).1 }, [])

/-- The rig after moves in order, and the outcomes of the calls among them. -/
def moves (first : SinkId) (rig : Rig) : List Move → Rig × List Outcome
  | [] => (rig, [])
  | move :: later =>
    let (rig, outcome) := rig.move first move
    let (rig, outcomes) := rig.moves first later
    (rig, outcome ++ outcomes)

/-! ### What moves leave as it was -/

/-- A rig of devices at a path, with a configuration and on a host with some files. -/
structure MadeFor (config : Config) (path : String) (files : Files) (rig : Rig) : Prop where
  configured : rig.config = config.clamped
  makes : rig.factory = .devices path
  touchpads : rig.pads.length = config.devices.toNat
  stored : rig.rack.host.files = files

theorem madeFor_new (config : Config) (path : String) (rack : Rack) :
    (new config (.devices path) rack).MadeFor config path rack.host.files where
  configured := rfl
  makes := rfl
  touchpads := List.length_replicate
  stored := rfl

theorem grows_act (rig : Rig) (action : Action) :
    rig.rack.host.Grows (rig.act action).1.rack.host := by
  rw [rack_act]
  exact Rack.grows_performAll _ _

theorem factory_move {rig : Rig} {path : String} (h : rig.factory = .devices path)
    (first : SinkId) (move : Move) : (rig.move first move).1.factory = .devices path := by
  cases move with
  | call action => exact factory_act h _
  | supply | order => exact h

/-- Whatever happens to a rig, its host only gets more calls. -/
theorem grows_move (rig : Rig) (first : SinkId) (move : Move) :
    rig.rack.host.Grows (rig.move first move).1.rack.host := by
  cases move with
  | call action => exact rig.grows_act _
  | supply fresh => exact Host.Grows.refl _
  | order sink failure =>
    show rig.rack.host.Grows (rig.rack.updateRecorder (first + sink) _).host
    unfold Rack.updateRecorder Rack.update
    rcases rig.rack.sinks[first + sink]? with _ | _ | _
    · exact Host.Grows.refl _
    · exact Host.Grows.refl _
    · exact Host.Grows.refl _

theorem grows_moves (rig : Rig) (first : SinkId) (moves : List Move) :
    rig.rack.host.Grows (rig.moves first moves).1.rack.host := by
  induction moves generalizing rig with
  | nil => exact Host.Grows.refl _
  | cons move moves ih => exact (rig.grows_move first move).trans (ih _)

section MadeFor

variable {config : Config} {path : String} {files : Files} {rig : Rig}
  (h : rig.MadeFor config path files)

include h

theorem MadeFor.stored_of_grows {after : Host} (hgrows : rig.rack.host.Grows after) :
    after.files = files := by
  obtain ⟨new, rfl⟩ := hgrows
  exact h.stored

theorem MadeFor.act (action : Action) : (rig.act action).1.MadeFor config path files where
  configured := (config_act rig action).trans h.configured
  makes := factory_act h.makes action
  touchpads := (length_pads_act rig action).trans h.touchpads
  stored := h.stored_of_grows (rig.grows_act action)

theorem MadeFor.move (first : SinkId) (move : Move) :
    (rig.move first move).1.MadeFor config path files := by
  cases move with
  | call action => exact h.act _
  | supply fresh => exact ⟨h.configured, h.makes, h.touchpads, h.stored⟩
  | order sink failure =>
    exact ⟨h.configured, h.makes, h.touchpads, h.stored_of_grows (rig.grows_move first _)⟩

theorem MadeFor.moves (first : SinkId) (moves : List Move) :
    (rig.moves first moves).1.MadeFor config path files := by
  induction moves generalizing rig with
  | nil => exact h
  | cons move moves ih => exact ih (h.move first move)

/-- **A rig that is taken down** is a new one on top of its own rack. -/
theorem MadeFor.detach : rig.detach.1
    = (new config (.devices path) ⟨[], ⟨[], [], files⟩⟩).atop rig.detach.1.rack := by
  have hpads : rig.detach.1.pads = List.replicate config.devices.toNat .initial := by
    show rig.pads.map (fun _ => Pad.initial) = _
    rw [List.map_const', h.touchpads]
  have hnone : (List.replicate config.devices.toNat Pad.initial).map
      (·.shift rig.detach.1.rack.sinks.length) = List.replicate config.devices.toNat .initial := by
    rw [List.map_replicate]
    rfl
  have hrack : (⟨[], ⟨[], [], files⟩⟩ : Rack).atop rig.detach.1.rack = rig.detach.1.rack := by
    simp [Rack.atop, Host.atop]
  have hconfig : rig.detach.1.config = config.clamped := h.configured
  have hfactory : rig.detach.1.factory = .devices path := h.makes
  simp only [atop, new, hnone, hrack]
  rw [← hpads, ← hconfig, ← hfactory]

end MadeFor

/-! ## Moves on top of another rack -/

section History

variable {base : Rack} {rig : Rig} {path : String}

theorem move_atop (h : rig.rack.host.Beside base.host) (hmakes : rig.factory = .devices path)
    (move : Move)
    (hfaultless : (rig.atop base).rack.host.FaultlessTo
      ((rig.atop base).move base.sinks.length move).1.rack.host) :
    (rig.atop base).move base.sinks.length move
      = ((rig.move 0 move).1.atop base, (rig.move 0 move).2) := by
  cases move with
  | call action =>
    have hact := act_atop h hmakes action hfaultless
    have hsame : action.shift 0 = action := by
      cases action <;> simp [Action.shift]
    simp only [Rig.move, hact, hsame]
  | supply fresh =>
    have hfresh := fresh.renumber_sink base.host.nextDevice
    simp [Rig.move, atop, Rack.add, Rack.atop, hfresh]
  | order sink failure =>
    have hrecorder := rig.rack.updateRecorder_atop base sink fun r => { r with failure := failure }
    have hrack : (rig.atop base).rack = rig.rack.atop base := rfl
    simp only [Rig.move, step, Nat.zero_add, hrack, hrecorder]
    rfl

/-- **Moves** on top of another rack, as long as the host meets no fault. -/
theorem moves_atop (h : rig.rack.host.Beside base.host) (hmakes : rig.factory = .devices path)
    (moves : List Move)
    (hfaultless : (rig.atop base).rack.host.FaultlessTo
      ((rig.atop base).moves base.sinks.length moves).1.rack.host) :
    (rig.atop base).moves base.sinks.length moves
      = ((rig.moves 0 moves).1.atop base, (rig.moves 0 moves).2) := by
  induction moves generalizing rig with
  | nil => rfl
  | cons move moves ih =>
    obtain ⟨hone, hrest⟩ := hfaultless.split (grows_move (rig.atop base) _ move)
      (grows_moves _ _ moves)
    have hfirst := move_atop h hmakes move hone
    have hthen : ((rig.atop base).move base.sinks.length move).1 = (rig.move 0 move).1.atop base :=
      congrArg Prod.fst hfirst
    have hcons : ((rig.atop base).moves base.sinks.length (move :: moves)).1
        = (((rig.atop base).move base.sinks.length move).1.moves base.sinks.length moves).1 := rfl
    rw [hcons, hthen] at hrest
    have hlater := ih (h.grows (grows_move rig 0 move)) (factory_move hmakes 0 move) hrest
    simp only [Rig.moves, hfirst, hlater]

end History

/-! ## Attaching anew -/

/-- A device that keeps an error from before its declaration refuses all of the declaration. -/
theorem receiveAll_of_refused {d : Device} (hnew : d.stage = .new) (hstatus : d.status.isSome)
    (host : Host) {calls : List Call}
    (hcalls : ∀ call ∈ calls, call.IsDeclaration ∨ call = .configureEnd) :
    d.receiveAll host calls = (host, d) := by
  have hlatch : ∀ error, d.latch error = d := by
    intro error
    obtain ⟨kept, hkept⟩ := Option.isSome_iff_exists.mp hstatus
    obtain ⟨path, stage, declaration, node, frame, slot, status⟩ := d
    simp only at hkept
    rw [hkept, Device.latch]
    rfl
  have hduring : ∀ act, d.during .configuring act = d := by
    intro act
    rw [Device.during_of_ne (by rw [hnew]; decide), hlatch]
  have hone : ∀ call : Call, call.IsDeclaration ∨ call = .configureEnd →
      d.receive host call = (host, d) := by
    rintro call (hcall | rfl)
    · cases call with
      | configureProperty | configureKey | configureRel => exact congrArg (Prod.mk host) (hduring _)
      | configureMultiTouch | configureSlots =>
        simp only [Device.receive, Device.configureAbs, hduring]
      | _ => exact hcall.elim
    · simp [Device.receive, Device.configureEnd, hnew, hlatch]
  induction calls with
  | nil => rfl
  | cons call calls ih =>
    rw [Device.receiveAll, hone call (hcalls call List.mem_cons_self)]
    exact ih fun later hmem => hcalls later (List.mem_cons_of_mem _ hmem)

/-- A name that does not fit is refused, and then nothing is made. -/
theorem receiveAll_bracket_of_long (path : String) (host : Host) (config : Config) {name : String}
    (hname : nameFieldSize ≤ name.utf8ByteSize) :
    (Device.new path).receiveAll host (bracket config name)
      = (host, (Device.new path).latch (.nameTooLong name.utf8ByteSize)) := by
  have hbegin : (Device.new path).receive host (.configureBegin ⟨name, virtualBus, 0, 0, 1⟩)
      = (host, (Device.new path).latch (.nameTooLong name.utf8ByteSize)) := by
    refine congrArg (Prod.mk host) ?_
    show (if nameFieldSize ≤ name.utf8ByteSize then _ else _) = _
    rw [if_pos hname]
  obtain ⟨declarations, hsplit, hdeclarations⟩ := bracket_eq config name
  rw [hsplit, Device.receiveAll, hbegin]
  apply receiveAll_of_refused
  · rfl
  · rfl
  · intro call hmem
    rcases List.mem_append.mp hmem with hmem | hmem
    · exact Or.inl (hdeclarations call hmem)
    · exact Or.inr (List.mem_singleton.mp hmem)

section Attaching

variable {path : String} (hdevice : Host.isDevicePath path = true) (hnul : '\x00' ∉ path.toList)

include hdevice hnul

/-- **Attaching one touchpad** that has no sink goes well just when its name fits. -/
theorem attachOne_eq_none_iff {rig : Rig} (hmakes : rig.factory = .devices path)
    (hfree : rig.rack.host.faults = []) {id : Nat} {pad : Pad} (hpad : rig.pads[id]? = some pad)
    (hnone : pad.sink = none) :
    (rig.attachOne id).2 = none ↔ (rig.config.deviceName id).utf8ByteSize < nameFieldSize := by
  have hthere : (rig.rack.add (.device (.new path))).1.sinks[rig.rack.sinks.length]?
      = some (.device (.new path)) := by simp [Rack.add]
  have hreset : (Device.new path).resetStatus = .new path := rfl
  have hhost : (rig.rack.add (.device (.new path))).1.host = rig.rack.host := rfl
  rw [Simulates.attachOne_of_none hpad hnone, hmakes, Factory.make, Rack.drive_device hthere,
    hreset, hhost]
  simp only
  by_cases hname : (rig.config.deviceName id).utf8ByteSize < nameFieldSize
  · obtain ⟨new, d, hmade, halive, -⟩ :=
      receiveAll_bracket hfree hdevice hnul rig.config hname
    rw [hmade]
    exact iff_of_true halive.status hname
  · rw [receiveAll_bracket_of_long _ _ _ (Nat.not_lt.mp hname)]
    exact iff_of_false (by simp [Device.latch, Device.new]) hname

/-- **Attaching touchpads** that have no sinks goes well just when all their names fit. -/
theorem attachEach_eq_none_iff {rig : Rig} (hmakes : rig.factory = .devices path)
    (hfree : rig.rack.host.faults = []) {ids : List Nat} (hnodup : ids.Nodup)
    (hnone : ∀ id ∈ ids, ∃ pad, rig.pads[id]? = some pad ∧ pad.sink = none) :
    (rig.attachEach ids).2 = none
      ↔ ∀ id ∈ ids, (rig.config.deviceName id).utf8ByteSize < nameFieldSize := by
  induction ids generalizing rig with
  | nil => simp [attachEach]
  | cons id ids ih =>
    obtain ⟨hnot, hnodup⟩ := List.nodup_cons.mp hnodup
    obtain ⟨pad, hpad, hsink⟩ := hnone id List.mem_cons_self
    have hone := attachOne_eq_none_iff hdevice hnul hmakes hfree hpad hsink
    -- The first touchpad gets its sink, and those that follow are as they were.
    have hfirst := attachOne_fst hpad
    have hconfig : (rig.attachOne id).1.config = rig.config := by
      rw [hfirst]
      rfl
    have hfree' : (rig.attachOne id).1.rack.host.faults = [] := by
      obtain ⟨new, hhost⟩ := rig.grows_attachOne id
      rw [hhost]
      exact hfree
    have hnone' : ∀ i ∈ ids, ∃ pad, (rig.attachOne id).1.pads[i]? = some pad ∧ pad.sink = none := by
      intro i hmem
      have hne : id ≠ i := by
        rintro rfl
        exact hnot hmem
      obtain ⟨other, hother, hfreed⟩ := hnone i (List.mem_cons_of_mem _ hmem)
      refine ⟨other, ?_, hfreed⟩
      rw [hfirst, setPad]
      exact (List.getElem?_set_ne hne).trans hother
    have hrest := ih (factory_attachOne_of make_devices hmakes id) hfree' hnodup hnone'
    rw [hconfig] at hrest
    show ((rig.attachOne id).2 <|> ((rig.attachOne id).1.attachEach ids).2) = none ↔ _
    rw [List.forall_mem_cons, ← hone, ← hrest]
    rcases (rig.attachOne id).2 with _ | error
    · simp
    · simp

/-- **A new rig** is attached just when all names fit. -/
theorem attach_new_iff (config : Config) (files : Files) :
    (new config (.devices path) ⟨[], ⟨[], [], files⟩⟩).attach.2 = .ok ()
      ↔ ∀ id, id < config.devices.toNat → (config.deviceName id).utf8ByteSize ≤ 79 := by
  have hpads : (new config (.devices path) ⟨[], ⟨[], [], files⟩⟩).pads
      = List.replicate config.devices.toNat .initial := rfl
  have hmakes : (new config (.devices path) ⟨[], ⟨[], [], files⟩⟩).factory = .devices path := rfl
  have hnone : ∀ id ∈ List.range config.devices.toNat, ∃ pad,
      (new config (.devices path) ⟨[], ⟨[], [], files⟩⟩).pads[id]? = some pad
        ∧ pad.sink = none := by
    intro id hmem
    refine ⟨.initial, ?_, rfl⟩
    rw [hpads, List.getElem?_replicate, if_pos (List.mem_range.mp hmem)]
  have hall := attachEach_eq_none_iff hdevice hnul hmakes rfl List.nodup_range hnone
  have houtcome : ∀ status, outcome status = .ok () ↔ status = none := by
    intro status
    cases status <;> simp [outcome]
  simp only [attach, hpads, List.length_replicate, houtcome, hall, List.mem_range]
  constructor
  · intro h id hid
    exact Nat.le_of_lt_succ (h id hid)
  · intro h id hid
    exact Nat.lt_succ_of_le (h id hid)

end Attaching

/-! ## Detaching -/

/-- **After a detach** a rig does what a new one would do, as long as its host meets no fault. -/
theorem MadeFor.moves_detach {config : Config} {path : String} {files : Files} {rig : Rig}
    (h : rig.MadeFor config path files) (later : List Move)
    (hfaultless : rig.detach.1.rack.host.FaultlessTo
      (rig.detach.1.moves rig.detach.1.rack.sinks.length later).1.rack.host) :
    rig.detach.1.moves rig.detach.1.rack.sinks.length later
      = (((new config (.devices path) ⟨[], ⟨[], [], files⟩⟩).moves 0 later).1.atop
          rig.detach.1.rack,
        ((new config (.devices path) ⟨[], ⟨[], [], files⟩⟩).moves 0 later).2) := by
  have hbeside : (⟨[], [], files⟩ : Host).Beside rig.detach.1.rack.host :=
    ⟨rfl, (h.act .detach).stored.symm⟩
  have hmoves := @moves_atop rig.detach.1.rack (new config (.devices path) ⟨[], ⟨[], [], files⟩⟩)
    path hbeside rfl later
  rw [← h.detach] at hmoves
  exact hmoves hfaultless

/-- **Detaching erases history.**  Whatever happened to a rig of devices, and whatever faults its
host met: once the rig is taken down, all moves after that give what they give on a new rig, as
long as the host meets no more faults.  Outcomes, snapshots and descriptions are the same, and the
calls on the host but for the numbers of devices, which go on from those that there were.  And it
can be attached just when the names of all devices fit in 79 bytes. -/
theorem detach_erases_history (config : Config) (path : String) (rack : Rack)
    (history : List Move) :
    let detached := ((new config (.devices path) rack).moves 0 history).1.detach.1
    let fresh := new config (.devices path) ⟨[], ⟨[], [], rack.host.files⟩⟩
    (∀ later : List Move,
      let resumed := detached.moves detached.rack.sinks.length later
      let begun := fresh.moves 0 later
      detached.rack.host.FaultlessTo resumed.1.rack.host →
        resumed.2 = begun.2
        ∧ resumed.1.pads.map Pad.snapshot = begun.1.pads.map Pad.snapshot
        ∧ resumed.1.describe = begun.1.describe
        ∧ detached.rack.host.since resumed.1.rack.host
          = begun.1.rack.host.events.map (·.renumber detached.rack.host.nextDevice))
    ∧ (Host.isDevicePath path = true → '\x00' ∉ path.toList →
        detached.rack.host.FaultlessTo detached.attach.1.rack.host →
        (detached.attach.2 = .ok ()
          ↔ ∀ id, id < config.devices.toNat → (config.deviceName id).utf8ByteSize ≤ 79)) := by
  intro detached fresh
  have hmade := (madeFor_new config path rack).moves 0 history
  constructor
  · intro later resumed begun hfaultless
    have hmoves : resumed = (begun.1.atop detached.rack, begun.2) :=
      hmade.moves_detach later hfaultless
    rw [hmoves]
    refine ⟨rfl, ?_, describe_atop begun.1 detached.rack, ?_⟩
    · show (begun.1.pads.map _).map Pad.snapshot = _
      rw [List.map_map]
      refine List.map_congr_left fun pad _ => ?_
      exact Pad.snapshot_shift _ pad
    · exact Host.since_recordAll _ _
  · intro hdevice hnul hfaultless
    have hmoves := hmade.moves_detach [.call .attach] hfaultless
    have houtcomes := congrArg Prod.snd hmoves
    rw [← attach_new_iff hdevice hnul config rack.host.files]
    have hsame : detached.attach.2 = fresh.attach.2 := (List.cons.inj houtcomes).1
    rw [hsame]

/-- The device of the first touchpad could not be made, the other touchpad was lent a recorder that
fails, and both were in use. -/
theorem detach_erases_history_after_fault :
    let history := [Move.call .attach, .supply (.recorder (some .sequencing)), .call (.lend 1 2),
      .call (.touch 0 .zero .zero .one), .call (.buttons 1 8)]
    let later := [Move.call .attach, .supply (.device "/dev/null"),
      .call (.touch 0 .zero .zero .one), .call (.lend 1 2), .call (.buttons 1 8)]
    let rack : Rack := ⟨[], .new [⟨"UI_DEV_CREATE", 1, .fails 28⟩]⟩
    let before := (new .standard (.devices "/dev/uinput") rack).moves 0 history
    let detached := before.1.detach.1
    let resumed := detached.moves detached.rack.sinks.length later
    let fresh := new .standard (.devices "/dev/uinput") ⟨[], ⟨[], [], rack.host.files⟩⟩
    let begun := fresh.moves 0 later
    before.2.head? = some (.error (.sink (.io "UI_DEV_CREATE" (.os 28))))
      ∧ resumed.2 = begun.2
      ∧ detached.rack.host.since resumed.1.rack.host
        = begun.1.rack.host.events.map (·.renumber detached.rack.host.nextDevice)
      ∧ detached.attach.2 = .ok () := by
  intro history later rack
  have hnames : ∀ id, id < Config.standard.devices.toNat →
      (Config.standard.deviceName id).utf8ByteSize ≤ 79 := by decide +kernel
  obtain ⟨hlater, hagain⟩ := detach_erases_history .standard "/dev/uinput" rack history
  obtain ⟨houtcomes, -, -, hcalls⟩ := hlater later (by decide +kernel)
  have hattach := (hagain (by decide +kernel) (by decide) (by decide +kernel)).mpr hnames
  exact ⟨by decide +kernel, houtcomes, hcalls, hattach⟩

end Rig

end VirtualTouchpad
