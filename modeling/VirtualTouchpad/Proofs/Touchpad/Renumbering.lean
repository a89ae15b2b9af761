/-
# Rigs that go on

A rig on top of another rack does what it would do on its own, as long as the host meets
no faults there: its touchpads remember the same, and its sinks and devices are counted
on from those that there were (`Rig.atop`).

* `act_atop`: an action is the same on top of another rack;
* `describe_atop`, `snapshot_shift`: nobody sees from which number on things are counted.
-/
import VirtualTouchpad.Proofs.Sink.Renumbering
import VirtualTouchpad.Proofs.Touchpad.History
import VirtualTouchpad.Proofs.Touchpad.Lifecycle

namespace VirtualTouchpad

namespace Pad

/-- The touchpad with its sink counted on from a number. -/
def shift (first : SinkId) (pad : Pad) : Pad :=
  { pad with sink := pad.sink.map fun held => (held.1, first + held.2) }

/-- What is seen of a touchpad does not tell the number of its sink. -/
@[simp] theorem snapshot_shift (first : SinkId) (pad : Pad) :
    (pad.shift first).snapshot = pad.snapshot := by
  unfold snapshot shift
  cases pad.sink <;> rfl

theorem releasing_shift (first : SinkId) (pad : Pad) :
    (pad.shift first).releasing = pad.releasing.map (·.shift first) := by
  unfold releasing dropping shift
  rcases pad.sink with _ | ⟨_ | _, sink⟩ <;> rfl

theorem dropping_shift (first : SinkId) (pad : Pad) :
    (pad.shift first).dropping = pad.dropping.map (·.shift first) := by
  unfold dropping shift
  rcases pad.sink with _ | ⟨_ | _, sink⟩ <;> rfl

theorem isFresh_of_mem_dropping {pad : Pad} {effect : Effect} (h : effect ∈ pad.dropping) :
    effect.IsFresh := by
  unfold dropping at h
  split at h
  · rw [List.mem_singleton.mp h]
    trivial
  · cases h

theorem isFresh_of_mem_releasing {pad : Pad} {effect : Effect} (h : effect ∈ pad.releasing) :
    effect.IsFresh := by
  unfold releasing at h
  split at h
  · cases h
  · rcases List.mem_cons.mp h with rfl | h
    · trivial
    · exact isFresh_of_mem_dropping h

end Pad

/-- The action with its sink counted on from a number. -/
def Action.shift (first : SinkId) : Action → Action
  | .lend id sink => .lend id (first + sink)
  | action => action

namespace Rig

/-- A rig with its sinks after those of another rack, and what was done to them on top of that
rack's history. -/
def atop (rig : Rig) (base : Rack) : Rig :=
  { rig with
    pads := rig.pads.map (·.shift base.sinks.length)
    rack := rig.rack.atop base }

variable {base : Rack} {rig : Rig}

theorem getElem?_pads_atop (rig : Rig) (base : Rack) (id : Nat) :
    (rig.atop base).pads[id]? = rig.pads[id]?.map (·.shift base.sinks.length) :=
  List.getElem?_map

theorem setPad_atop (rig : Rig) (base : Rack) (id : Nat) (pad : Pad) :
    (rig.setPad id pad).atop base = (rig.atop base).setPad id (pad.shift base.sinks.length) := by
  simp only [setPad, atop, List.map_set]

section

variable (h : rig.rack.host.Beside base.host)

include h

/-! ## Samples -/

theorem sendFrame_atop (id : Nat) (pad : Pad) (sink : SinkId) (frame : List Call)
    (hfaultless : (rig.atop base).rack.host.FaultlessTo
      ((rig.atop base).sendFrame id (pad.shift base.sinks.length) (base.sinks.length + sink)
        frame).1.rack.host) :
    (rig.atop base).sendFrame id (pad.shift base.sinks.length) (base.sinks.length + sink) frame
      = ((rig.sendFrame id pad sink frame).1.atop base, (rig.sendFrame id pad sink frame).2) := by
  have hdrive := Rack.drive_atop h sink frame hfaultless
  have hrack : (rig.atop base).rack = rig.rack.atop base := rfl
  simp only [sendFrame, hrack, hdrive]
  rw [setPad_atop]
  rfl

theorem touch_atop (id : Nat) (x y pressure : Single)
    (hfaultless : (rig.atop base).rack.host.FaultlessTo
      ((rig.atop base).touch id x y pressure).1.rack.host) :
    (rig.atop base).touch id x y pressure
      = ((rig.touch id x y pressure).1.atop base, (rig.touch id x y pressure).2) := by
  revert hfaultless
  unfold touch
  rw [getElem?_pads_atop]
  rcases rig.pads[id]? with _ | ⟨held, last, contact, mask⟩
  · intro _
    rfl
  simp only [Option.map_some]
  rcases checkRange "x" x Single.isPosition "[0, 1)" with error | _
  · intro _
    rfl
  rcases checkRange "y" y Single.isPosition "[0, 1)" with error | _
  · intro _
    rfl
  let position := (x.coordinate rig.config.width, y.coordinate rig.config.height)
  let change := contact.next pressure.isPositive
  rcases held with _ | ⟨ownership, sink⟩
  · intro _
    exact Prod.ext (setPad_atop rig base id ⟨none, last, change, mask⟩).symm rfl
  · intro hfaultless
    exact sendFrame_atop h id ⟨some (ownership, sink), some position, change, mask⟩ sink _
      hfaultless

theorem buttonState_atop (id : Nat) (buttons : UInt32)
    (hfaultless : (rig.atop base).rack.host.FaultlessTo
      ((rig.atop base).buttonState id buttons).1.rack.host) :
    (rig.atop base).buttonState id buttons
      = ((rig.buttonState id buttons).1.atop base, (rig.buttonState id buttons).2) := by
  revert hfaultless
  unfold buttonState
  rw [getElem?_pads_atop]
  rcases rig.pads[id]? with _ | ⟨held, last, contact, mask⟩
  · intro _
    rfl
  have hmask : (Pad.shift base.sinks.length ⟨held, last, contact, mask⟩).buttons = mask := rfl
  simp only [Option.map_some, hmask]
  split
  · intro _
    rfl
  split
  · intro _
    rfl
  rcases held with _ | ⟨ownership, sink⟩
  · intro _
    rfl
  · intro hfaultless
    exact sendFrame_atop h id ⟨some (ownership, sink), last, contact, buttons⟩ sink _ hfaultless

theorem scroll_atop (id : Nat) (x y : Single)
    (hfaultless : (rig.atop base).rack.host.FaultlessTo
      ((rig.atop base).scroll id x y).1.rack.host) :
    (rig.atop base).scroll id x y
      = ((rig.scroll id x y).1.atop base, (rig.scroll id x y).2) := by
  revert hfaultless
  unfold scroll
  rw [getElem?_pads_atop]
  rcases rig.pads[id]? with _ | ⟨held, last, contact, mask⟩
  · intro _
    rfl
  simp only [Option.map_some]
  rcases checkRange "x" x Single.isScrollAmount "[-1, 1]" with error | _
  · intro _
    rfl
  rcases checkRange "y" y Single.isScrollAmount "[-1, 1]" with error | _
  · intro _
    rfl
  rcases held with _ | ⟨ownership, sink⟩
  · intro _
    rfl
  · intro hfaultless
    exact sendFrame_atop h id ⟨some (ownership, sink), last, contact, mask⟩ sink _ hfaultless

/-! ## Giving sinks and taking them back -/

theorem lend_atop (id : Nat) (sink : SinkId)
    (hfaultless : (rig.atop base).rack.host.FaultlessTo
      ((rig.atop base).lend id (base.sinks.length + sink)).1.rack.host) :
    (rig.atop base).lend id (base.sinks.length + sink)
      = ((rig.lend id sink).1.atop base, (rig.lend id sink).2) := by
  revert hfaultless
  unfold lend
  rw [getElem?_pads_atop]
  rcases rig.pads[id]? with _ | pad
  · intro _
    rfl
  simp only [Option.map_some, dropOwned_eq, Pad.dropping_shift]
  intro hfaultless
  have hdrop := Rack.performAll_atop h (fun effect => Pad.isFresh_of_mem_dropping) hfaultless
  have hrack : (rig.atop base).rack = rig.rack.atop base := rfl
  rw [hrack, hdrop, setPad_atop]
  rfl

theorem reset_atop
    (hfaultless : (rig.atop base).rack.host.FaultlessTo (rig.atop base).reset.rack.host) :
    (rig.atop base).reset = rig.reset.atop base := by
  have hreleasing : (rig.atop base).pads.flatMap Pad.releasing
      = (rig.pads.flatMap Pad.releasing).map (·.shift base.sinks.length) := by
    rw [atop, List.flatMap_map, List.map_flatMap]
    congr 1
    funext pad
    exact Pad.releasing_shift base.sinks.length pad
  have hfresh : ∀ effect ∈ rig.pads.flatMap Pad.releasing, effect.IsFresh := by
    intro effect hmem
    obtain ⟨pad, -, hin⟩ := List.mem_flatMap.mp hmem
    exact Pad.isFresh_of_mem_releasing hin
  have hrack : (rig.atop base).rack = rig.rack.atop base := rfl
  unfold reset at hfaultless ⊢
  simp only [releases_eq, hreleasing, hrack] at hfaultless ⊢
  rw [Rack.performAll_atop h hfresh hfaultless]
  simp only [atop, List.map_map]
  rfl

/-! ## Attaching -/

omit h in
/-- A new sink asks nothing of the host. -/
theorem host_ensureSink (rig : Rig) (id : Nat) (pad : Pad) :
    (rig.ensureSink id pad).1.rack.host = rig.rack.host
      ∧ (rig.ensureSink id pad).1.config = rig.config := by
  unfold ensureSink
  rcases pad.sink with _ | ⟨ownership, sink⟩
  · exact ⟨rfl, rfl⟩
  · exact ⟨rfl, rfl⟩

omit h in
/-- A touchpad without a sink gets a new device in either rack, which has no number yet. -/
theorem ensureSink_atop {path : String} (hfactory : rig.factory = .devices path) (base : Rack)
    (id : Nat) (pad : Pad) :
    (rig.atop base).ensureSink id (pad.shift base.sinks.length)
      = ((rig.ensureSink id pad).1.atop base, base.sinks.length + (rig.ensureSink id pad).2) := by
  obtain ⟨_ | ⟨ownership, sink⟩, last, contact, mask⟩ := pad
  · have hmake : rig.factory.make = (.devices path, .device (.new path)) := by
      rw [hfactory, Factory.make]
    have hadd : (rig.rack.atop base).add (.device (.new path))
        = ((rig.rack.add (.device (.new path))).1.atop base,
          base.sinks.length + (rig.rack.add (.device (.new path))).2) := by
      simp [Rack.add, Rack.atop, Sink.renumber, Device.renumber, Device.new]
    have hrack : (rig.atop base).rack = rig.rack.atop base := rfl
    have hmake' : (rig.atop base).factory.make = (.devices path, .device (.new path)) := hmake
    simp only [ensureSink, Pad.shift, Option.map_none, hmake, hmake', hrack, hadd, setPad_atop]
    rfl
  · rfl

theorem attachOne_atop {path : String} (hfactory : rig.factory = .devices path) (id : Nat)
    (hfaultless : (rig.atop base).rack.host.FaultlessTo
      ((rig.atop base).attachOne id).1.rack.host) :
    (rig.atop base).attachOne id = ((rig.attachOne id).1.atop base, (rig.attachOne id).2) := by
  have hpads := getElem?_pads_atop rig base id
  rcases hpad : rig.pads[id]? with _ | pad
  · rw [hpad, Option.map_none] at hpads
    simp only [attachOne, hpad, hpads]
  · rw [hpad, Option.map_some] at hpads
    obtain ⟨hhost, hconfig⟩ := host_ensureSink rig id pad
    have hbeside : (rig.ensureSink id pad).1.rack.host.Beside base.host := hhost ▸ h
    have hstart : (rig.atop base).rack.host
        = ((rig.ensureSink id pad).1.rack.atop base).host := by
      show rig.rack.host.atop base.host = (rig.ensureSink id pad).1.rack.host.atop base.host
      rw [hhost]
    simp only [attachOne, hpad, hpads, ensureSink_atop hfactory] at hfaultless ⊢
    rw [hstart] at hfaultless
    have hdrive := Rack.drive_atop hbeside _ _ hfaultless
    have hrack : ((rig.ensureSink id pad).1.atop base).rack
        = (rig.ensureSink id pad).1.rack.atop base := rfl
    rw [hrack, hdrive]
    simp only [atop]

omit h in
theorem grows_attachEach (rig : Rig) (ids : List Nat) :
    rig.rack.host.Grows (rig.attachEach ids).1.rack.host := by
  rw [rack_attachEach]
  exact Rack.grows_performAll _ _

omit h in
theorem grows_attachOne (rig : Rig) (id : Nat) :
    rig.rack.host.Grows (rig.attachOne id).1.rack.host :=
  grows_attachEach rig [id]

theorem attachEach_atop {path : String} (hfactory : rig.factory = .devices path) (ids : List Nat)
    (hfaultless : (rig.atop base).rack.host.FaultlessTo
      ((rig.atop base).attachEach ids).1.rack.host) :
    (rig.atop base).attachEach ids
      = ((rig.attachEach ids).1.atop base, (rig.attachEach ids).2) := by
  induction ids generalizing rig with
  | nil => rfl
  | cons id ids ih =>
    obtain ⟨hone, hrest⟩ := hfaultless.split (grows_attachOne (rig.atop base) id)
      (grows_attachEach ((rig.atop base).attachOne id).1 ids)
    have hfirst := attachOne_atop h hfactory id hone
    have hthen : ((rig.atop base).attachOne id).1 = (rig.attachOne id).1.atop base :=
      congrArg Prod.fst hfirst
    have hcons : ((rig.atop base).attachEach (id :: ids)).1
        = (((rig.atop base).attachOne id).1.attachEach ids).1 := rfl
    rw [hcons, hthen] at hrest
    have hlater := ih (h.grows (grows_attachOne rig id))
      (factory_attachOne_of make_devices hfactory id) hrest
    simp only [attachEach, hfirst, hlater]

/-! ## Actions -/

/-- **An action** on top of another rack, as long as the host meets no fault. -/
theorem act_atop {path : String} (hfactory : rig.factory = .devices path) (action : Action)
    (hfaultless : (rig.atop base).rack.host.FaultlessTo
      ((rig.atop base).act (action.shift base.sinks.length)).1.rack.host) :
    (rig.atop base).act (action.shift base.sinks.length)
      = ((rig.act action).1.atop base, (rig.act action).2) := by
  cases action with
  | attach =>
    have hlength : (rig.atop base).pads.length = rig.pads.length := List.length_map _
    have hattach := attachEach_atop h hfactory (List.range rig.pads.length)
      (hlength ▸ hfaultless)
    show (rig.atop base).attach = (rig.attach.1.atop base, rig.attach.2)
    simp only [attach, hlength, hattach]
  | detach | reset => exact Prod.ext (reset_atop h hfaultless) rfl
  | touch id x y pressure => exact touch_atop h id x y pressure hfaultless
  | buttons id mask => exact buttonState_atop h id mask hfaultless
  | scroll id x y => exact scroll_atop h id x y hfaultless
  | lend id sink => exact lend_atop h id sink hfaultless

end

/-! ## What is seen -/

/-- A description does not tell from which number on things are counted. -/
theorem describe_atop (rig : Rig) (base : Rack) : (rig.atop base).describe = rig.describe := by
  have hpad : ∀ (pad : Pad) (id : Nat),
      describePad (rig.rack.atop base) id (pad.shift base.sinks.length)
        = describePad rig.rack id pad := by
    rintro ⟨_ | ⟨ownership, sink⟩, last, contact, mask⟩ id
    · unfold describePad Pad.shift
      simp only [Option.map_none]
    · unfold describePad Pad.shift
      simp only [Option.map_some, Rack.describe_atop]
  simp only [describe, atop, List.zipIdx_map, List.map_map]
  refine congrArg String.join (List.map_congr_left ?_)
  rintro ⟨pad, id⟩ -
  exact hpad pad id

end Rig

end VirtualTouchpad
