/-
# Attaching again

Touchpads whose devices are ready are attached once more.  Each call of a configuration is
out of sequence then, which is the outcome, and each device keeps that error until it is
driven again.  Nobody looks at it before: what is done to a rig goes by no kept error
(`heedless_act`, and for whole runs `heedless_run`).  So the rig goes on as if it had not
been attached again (`attach_again`).
-/
import VirtualTouchpad.Proofs.Sink.Unlatched
import VirtualTouchpad.Proofs.Touchpad.History

namespace VirtualTouchpad

/-- The stage of a device. -/
def Sink.stage? : Sink → Option Stage
  | .recorder _ => none
  | .device d => some d.stage

namespace Rig

/-- The rig without the errors that its sinks keep. -/
def unlatched (rig : Rig) : Rig := { rig with rack := rig.rack.unlatched }

@[simp] theorem unlatched_unlatched (rig : Rig) : rig.unlatched.unlatched = rig.unlatched := by
  simp [unlatched]

@[simp] theorem config_unlatched (rig : Rig) : rig.unlatched.config = rig.config := rfl

@[simp] theorem pads_unlatched (rig : Rig) : rig.unlatched.pads = rig.pads := rfl

/-- Something done to rigs that goes by no kept error. -/
def Heedless {α : Type} (act : Rig → Rig × α) : Prop :=
  ∀ rig, (act rig.unlatched).2 = (act rig).2
    ∧ (act rig.unlatched).1.unlatched = (act rig).1.unlatched

/-- It is the same for rigs that differ in nothing but kept errors. -/
theorem Heedless.congr {α : Type} {act : Rig → Rig × α} (h : Heedless act) {rig other : Rig}
    (hsame : rig.unlatched = other.unlatched) :
    (act rig).2 = (act other).2 ∧ (act rig).1.unlatched = (act other).1.unlatched := by
  obtain ⟨hresult, hrig⟩ := h rig
  obtain ⟨hresult', hrig'⟩ := h other
  rw [← hresult, ← hrig, hsame]
  exact ⟨hresult', hrig'⟩

/-! ## Samples -/

theorem heedless_sendFrame (id : Nat) (pad : Pad) (sink : SinkId) (frame : List Call) :
    Heedless (·.sendFrame id pad sink frame) := by
  intro rig
  obtain ⟨hstatus, hrack⟩ := rig.rack.unlatched_drive sink frame
  exact ⟨congrArg outcome hstatus, by simp [sendFrame, setPad, unlatched, hrack]⟩

theorem heedless_touch (id : Nat) (x y pressure : Single) :
    Heedless (·.touch id x y pressure) := by
  intro rig
  unfold touch
  simp only [pads_unlatched, config_unlatched]
  cases rig.pads[id]? with
  | none => simp
  | some pad =>
    cases checkRange "x" x Single.isPosition "[0, 1)" with
    | error e => simp
    | ok =>
      cases checkRange "y" y Single.isPosition "[0, 1)" with
      | error e => simp
      | ok =>
        simp only
        cases pad.sink with
        | none => simp [setPad, unlatched]
        | some held => exact heedless_sendFrame id _ held.2 _ rig

theorem heedless_buttonState (id : Nat) (buttons : UInt32) :
    Heedless (·.buttonState id buttons) := by
  intro rig
  unfold buttonState
  simp only [pads_unlatched]
  cases rig.pads[id]? with
  | none => simp
  | some pad =>
    by_cases hsame : pad.buttons = buttons
    · simp [hsame]
    · by_cases hsupported : buttons &&& ~~~supportedButtons = 0
      · simp only [hsame, hsupported, if_false, ne_eq, not_true]
        cases pad.sink with
        | none => simp
        | some held => exact heedless_sendFrame id _ held.2 _ rig
      · simp [hsame, hsupported]

theorem heedless_scroll (id : Nat) (x y : Single) : Heedless (·.scroll id x y) := by
  intro rig
  unfold scroll
  simp only [pads_unlatched]
  cases rig.pads[id]? with
  | none => simp
  | some pad =>
    cases checkRange "x" x Single.isScrollAmount "[-1, 1]" with
    | error e => simp
    | ok =>
      cases checkRange "y" y Single.isScrollAmount "[-1, 1]" with
      | error e => simp
      | ok =>
        simp only
        cases pad.sink with
        | none => simp
        | some held => exact heedless_sendFrame id _ held.2 _ rig

/-! ## Sinks -/

theorem unlatched_dropOwned (rack : Rack) (pad : Pad) :
    (dropOwned rack.unlatched pad).unlatched = (dropOwned rack pad).unlatched := by
  unfold dropOwned
  rcases pad.sink with _ | ⟨_ | _, sink⟩
  · simp
  · exact rack.unlatched_drop sink
  · simp

theorem unlatched_release (rack : Rack) (pad : Pad) :
    (release rack.unlatched pad).unlatched = (release rack pad).unlatched := by
  unfold release
  cases pad.sink with
  | none => simp
  | some held =>
    show (dropOwned (rack.unlatched.send held.2 .close) pad).unlatched
      = (dropOwned (rack.send held.2 .close) pad).unlatched
    rw [← unlatched_dropOwned, rack.unlatched_close, unlatched_dropOwned]

theorem unlatched_releases (rack : Rack) (pads : List Pad) :
    (pads.foldl release rack.unlatched).unlatched = (pads.foldl release rack).unlatched := by
  induction pads generalizing rack with
  | nil => simp
  | cons pad pads ih =>
    show (pads.foldl release (release rack.unlatched pad)).unlatched
      = (pads.foldl release (release rack pad)).unlatched
    rw [← ih, unlatched_release, ih]

theorem heedless_reset : Heedless fun rig => (rig.reset, (.ok () : Outcome)) := by
  intro rig
  simp [reset, unlatched, unlatched_releases]

theorem heedless_lend (id : Nat) (sink : SinkId) : Heedless (·.lend id sink) := by
  intro rig
  unfold lend
  simp only [pads_unlatched]
  cases rig.pads[id]? with
  | none => simp
  | some pad => simp [setPad, unlatched, unlatched_dropOwned]

theorem heedless_ensureSink (id : Nat) (pad : Pad) : Heedless (·.ensureSink id pad) := by
  intro rig
  unfold ensureSink
  cases pad.sink with
  | none => simp [setPad, unlatched, Rack.unlatched, Rack.add, Function.comp_def]
  | some held => simp

/-- Driving a sink with calls that the configuration gives. -/
theorem heedless_drive (sink : SinkId) (calls : Config → List Call) : Heedless fun rig =>
    ({ rig with rack := (rig.rack.drive sink (calls rig.config)).1 },
      (rig.rack.drive sink (calls rig.config)).2) := by
  intro rig
  obtain ⟨hstatus, hrack⟩ := rig.rack.unlatched_drive sink (calls rig.config)
  exact ⟨hstatus, by simp [unlatched, hrack]⟩

theorem heedless_attachOne (id : Nat) : Heedless (·.attachOne id) := by
  intro rig
  cases hpad : rig.pads[id]? with
  | none => simp [attachOne, hpad]
  | some pad =>
    obtain ⟨hsink, hrig⟩ := heedless_ensureSink id pad rig
    have hdrive := (heedless_drive (rig.ensureSink id pad).2
      fun config => bracket config (config.deviceName id)).congr hrig
    simpa only [attachOne, pads_unlatched, hpad, hsink] using hdrive

theorem heedless_attachEach (ids : List Nat) : Heedless (·.attachEach ids) := by
  induction ids with
  | nil =>
    intro rig
    simp [attachEach]
  | cons id ids ih =>
    intro rig
    obtain ⟨hfirst, hone⟩ := heedless_attachOne id rig
    -- From here on the two rigs differ in nothing but kept errors.
    obtain ⟨hlater, hrest⟩ := ih.congr hone
    refine ⟨?_, hrest⟩
    simp only [attachEach, hfirst, hlater]

/-- **An action** goes by no kept error. -/
theorem heedless_act (action : Action) : Heedless (·.act action) := by
  cases action with
  | attach =>
    intro rig
    obtain ⟨herror, hrig⟩ := heedless_attachEach (List.range rig.pads.length) rig
    exact ⟨congrArg outcome herror, hrig⟩
  | detach | reset => exact heedless_reset
  | touch id x y pressure => exact heedless_touch id x y pressure
  | buttons id mask => exact heedless_buttonState id mask
  | scroll id x y => exact heedless_scroll id x y
  | lend id sink => exact heedless_lend id sink

/-- **A run** goes by no error that is kept at its start. -/
theorem heedless_run (actions : List Action) : Heedless (·.run actions) := by
  induction actions with
  | nil =>
    intro rig
    simp [run]
  | cons action actions ih =>
    intro rig
    obtain ⟨hfirst, hone⟩ := heedless_act action rig
    obtain ⟨hlater, hrest⟩ := ih.congr hone
    refine ⟨?_, hrest⟩
    simp only [run_cons_snd, hfirst, hlater]

/-! ## Devices that are ready -/

/-- The stage of the device that a touchpad holds. -/
def stageAt? (rig : Rig) (id : Nat) : Option Stage :=
  ((rig.sinkAt? id).bind (rig.rack.sinks[·]?)).bind Sink.stage?

theorem stageAt?_unlatched (rig : Rig) (id : Nat) :
    rig.unlatched.stageAt? id = rig.stageAt? id := by
  show ((rig.sinkAt? id).bind (rig.rack.unlatched.sinks[·]?)).bind Sink.stage? = rig.stageAt? id
  have hstage : ∀ sink : Option Sink, (sink.map Sink.resetStatus).bind Sink.stage?
      = sink.bind Sink.stage? := by
    rintro (_ | _ | _) <;> rfl
  simp only [stageAt?, Rack.getElem?_unlatched, Option.bind_assoc, hstage]

theorem bracket_ne_nil (config : Config) (name : String) : bracket config name ≠ [] :=
  List.cons_ne_nil _ _

theorem isConfiguring_of_bracket (config : Config) (name : String) :
    ∀ call ∈ bracket config name, call.IsConfiguring := by
  intro call hmem
  simp only [bracket, List.mem_cons, List.not_mem_nil, or_false] at hmem
  rcases hmem with rfl | rfl | rfl | rfl | rfl | rfl | rfl | rfl | rfl
  all_goals exact trivial

/-- Attaching a touchpad whose device is ready is out of sequence, and changes nothing but the error
that the device keeps. -/
theorem attachOne_of_ready {rig : Rig} {id : Nat} (hready : rig.stageAt? id = some .ready) :
    (rig.attachOne id).2 = some .sequencing
      ∧ (rig.attachOne id).1.unlatched = rig.unlatched := by
  obtain ⟨held, hheld, hstage⟩ := Option.bind_eq_some_iff.mp hready
  obtain ⟨sink, hsinkAt, hsink⟩ := Option.bind_eq_some_iff.mp hheld
  obtain ⟨pad, ownership, hpad, hpadSink⟩ := sinkAt?_eq_some_iff.mp hsinkAt
  cases held with
  | recorder r => cases hstage
  | device d =>
    have hdevice : d.stage = .ready := Option.some.inj hstage
    obtain ⟨hstatus, hrack⟩ := Rack.drive_configuring hsink hdevice (bracket_ne_nil _ _)
      (isConfiguring_of_bracket rig.config (rig.config.deviceName id))
    simp only [attachOne, ensureSink, hpad, hpadSink]
    exact ⟨hstatus, by simp [unlatched, hrack]⟩

/-- Attaching touchpads whose devices are ready, one after the other. -/
theorem attachEach_of_ready {rig : Rig} {ids : List Nat}
    (hready : ∀ id ∈ ids, rig.stageAt? id = some .ready) :
    (rig.attachEach ids).2 = (if ids = [] then none else some .sequencing)
      ∧ (rig.attachEach ids).1.unlatched = rig.unlatched := by
  induction ids generalizing rig with
  | nil => exact ⟨rfl, rfl⟩
  | cons id ids ih =>
    obtain ⟨herror, hrig⟩ := attachOne_of_ready (hready id List.mem_cons_self)
    have hlater : ∀ later ∈ ids, (rig.attachOne id).1.stageAt? later = some .ready := by
      intro later hmem
      rw [← stageAt?_unlatched, hrig, stageAt?_unlatched]
      exact hready later (List.mem_cons_of_mem _ hmem)
    refine ⟨?_, (ih hlater).2.trans hrig⟩
    simp [attachEach, herror]

/-- **Attaching again** does no harm.  If every touchpad of a rig has a device that is ready, then
attaching them all is out of sequence, asks nothing of the host, and whatever is done later has the
same outcomes, leaves the same touchpads and asks the same of the host as without. -/
theorem attach_again {rig : Rig} (hsome : rig.pads ≠ [])
    (hready : ∀ id, id < rig.pads.length → rig.stageAt? id = some .ready) :
    let again := rig.act .attach
    again.2 = .error (.sink .sequencing)
      ∧ again.1.rack.host = rig.rack.host
      ∧ ∀ later : List Action,
        (again.1.run later).2 = (rig.run later).2
          ∧ (again.1.run later).1.pads = (rig.run later).1.pads
          ∧ (again.1.run later).1.rack.host = (rig.run later).1.rack.host := by
  intro again
  have hids : ∀ id ∈ List.range rig.pads.length, rig.stageAt? id = some .ready :=
    fun id hmem => hready id (List.mem_range.mp hmem)
  have hne : List.range rig.pads.length ≠ [] := by simpa using hsome
  obtain ⟨herror, hsame⟩ := attachEach_of_ready hids
  rw [if_neg hne] at herror
  refine ⟨congrArg outcome herror, ?_, fun later => ?_⟩
  · exact congrArg (·.rack.host) hsame
  · obtain ⟨houtcomes, hafter⟩ := (heedless_run later).congr hsame
    exact ⟨houtcomes, congrArg (·.pads) hafter, congrArg (·.rack.host) hafter⟩

/-- Two devices are made, and the second frame will not be written.  Attaching them again tells of no
more than the calls out of sequence, and the next two samples fare as they would have. -/
theorem attach_again_faulty :
    let host := Host.new [⟨"write", 2, .fails 5⟩]
    let rig := ((new .standard (.devices "/dev/uinput") ⟨[], host⟩).run
      [.attach, .touch 0 .zero .zero .one]).1
    let later := [Action.touch 0 .zero .zero .zero, .buttons 1 backButton]
    (rig.act .attach).2 = .error (.sink .sequencing)
      ∧ ((rig.act .attach).1.run later).2
        = [.error (.sink (.io "write uinput frame" (.os 5))), .ok ()] := by
  intro host rig later
  have hsome : rig.pads ≠ [] := by decide +kernel
  have hready : ∀ id, id < rig.pads.length → rig.stageAt? id = some .ready := by decide +kernel
  obtain ⟨herror, -, hlater⟩ := attach_again hsome hready
  exact ⟨herror, (hlater later).1.trans (by decide +kernel)⟩

end Rig

end VirtualTouchpad
