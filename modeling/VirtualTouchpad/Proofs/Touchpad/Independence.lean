/-
# Touchpads on their own

Samples for one touchpad are no matter of the others.  As long as sinks are recorders that
touchpads do not share, a touchpad fares the same whether the samples for the others are
made or not (`Alike.run`), so only its own samples in their own order count for it
(`only_own_samples`).

The two rigs that are compared agree on the touchpad and on its sink.  A sample for another
touchpad keeps that (`Alike.skip`), and so does one for the touchpad itself that both rigs
take (`Alike.own`), with the same outcome.
-/
import VirtualTouchpad.Proofs.Touchpad.Frames

namespace VirtualTouchpad

/-! ## Driving a recorder -/

/-- What becomes of a recorder that is driven, and the status that it gives, is a matter of the
recorder alone. -/
theorem Rack.drive_congr {rack other : Rack} {sink : SinkId}
    (hsame : rack.sinks[sink]? = other.sinks[sink]?)
    (hrecorder : ∀ d, rack.sinks[sink]? ≠ some (.device d)) (calls : List Call) :
    (rack.drive sink calls).2 = (other.drive sink calls).2
      ∧ (rack.drive sink calls).1.sinks[sink]? = (other.drive sink calls).1.sinks[sink]? := by
  cases hsink : rack.sinks[sink]? with
  | none =>
    -- Nothing is done to a sink that is not there.
    have hkept : ∀ rack : Rack, rack.sinks[sink]? = none →
        (rack.drive sink calls).1 = rack ∧ (rack.drive sink calls).2 = none := by
      intro rack hnone
      have hrack : (rack.drive sink calls).1 = rack := by
        rw [drive_fst]
        exact performAll_absent (List.getElem?_eq_none_iff.mp hnone) fun _ => target?_of_mem_driving
      refine ⟨hrack, ?_⟩
      show (rack.drive sink calls).1.status sink = none
      rw [hrack, status, hnone]
      rfl
    obtain ⟨hfst, hsnd⟩ := hkept rack hsink
    obtain ⟨hfst', hsnd'⟩ := hkept other (hsame ▸ hsink)
    exact ⟨by rw [hsnd, hsnd'], by rw [hfst, hfst', hsame]⟩
  | some held =>
    cases held with
    | device d => exact absurd hsink (hrecorder d)
    | recorder r =>
      have hother : other.sinks[sink]? = some (.recorder r) := hsame ▸ hsink
      rw [drive_recorder hsink, drive_recorder hother]
      have hlt := (List.getElem?_eq_some_iff.mp hsink).1
      have hlt' := (List.getElem?_eq_some_iff.mp hother).1
      exact ⟨rfl, by rw [List.getElem?_set_self hlt, List.getElem?_set_self hlt']⟩

/-- Driving a sink leaves the others as they are. -/
theorem Rack.getElem?_drive_of_ne {sink driven : SinkId} (h : driven ≠ sink) (rack : Rack)
    (calls : List Call) : (rack.drive driven calls).1.sinks[sink]? = rack.sinks[sink]? := by
  have hall : ∀ (calls : List Call) (rack : Rack),
      (rack.sendAll driven calls).sinks[sink]? = rack.sinks[sink]? := by
    intro calls
    induction calls with
    | nil => intro rack; rfl
    | cons call calls ih =>
      intro rack
      exact (ih (rack.send driven call)).trans (getElem?_update_of_ne h rack _)
  exact (hall calls _).trans (getElem?_update_of_ne h rack _)

/-! ## Samples for one touchpad -/

/-- The actions among some that name a touchpad. -/
def actionsFor (id : Nat) (actions : List Action) : List Action :=
  actions.filter (·.addressee? = some id)

theorem actionsFor_cons_self {id : Nat} {action : Action} (h : action.addressee? = some id)
    (actions : List Action) :
    actionsFor id (action :: actions) = action :: actionsFor id actions := by
  simp [actionsFor, h]

theorem actionsFor_cons_of_ne {id : Nat} {action : Action} (h : action.addressee? ≠ some id)
    (actions : List Action) : actionsFor id (action :: actions) = actionsFor id actions := by
  simp [actionsFor, h]

/-- A sample names a touchpad. -/
theorem Action.IsSampling.addressee {action : Action} (h : action.IsSampling) :
    ∃ id, action.addressee? = some id := by
  cases action with
  | attach | detach | reset | lend => exact h.elim
  | touch id | buttons id | scroll id => exact ⟨id, rfl⟩

/-- What a touchpad remembers of a sample does not depend on the sinks that there are. -/
theorem Pad.after_sampling {action : Action} (h : action.IsSampling) (pad : Pad) (config : Config)
    (fresh other : SinkId) (id : Nat) :
    pad.after config fresh id action = pad.after config other id action := by
  cases action with
  | attach | detach | reset | lend => exact h.elim
  | touch | buttons | scroll => rfl

namespace Rig

/-- What came of the actions of a run that name a touchpad. -/
def outcomesFor (rig : Rig) (id : Nat) (actions : List Action) : List Outcome :=
  ((actions.zip (rig.run actions).2).filter (·.1.addressee? = some id)).map (·.2)

theorem outcomesFor_cons_self {id : Nat} {action : Action} (h : action.addressee? = some id)
    (rig : Rig) (actions : List Action) : rig.outcomesFor id (action :: actions)
      = (rig.act action).2 :: (rig.act action).1.outcomesFor id actions := by
  simp [outcomesFor, run_cons_snd, h]

theorem outcomesFor_cons_of_ne {id : Nat} {action : Action} (h : action.addressee? ≠ some id)
    (rig : Rig) (actions : List Action) : rig.outcomesFor id (action :: actions)
      = (rig.act action).1.outcomesFor id actions := by
  simp [outcomesFor, run_cons_snd, h]

/-- A run of actions that all name one touchpad. -/
theorem outcomesFor_of_all {id : Nat} {actions : List Action}
    (h : ∀ action ∈ actions, action.addressee? = some id) (rig : Rig) :
    rig.outcomesFor id actions = (rig.run actions).2 := by
  induction actions generalizing rig with
  | nil => rfl
  | cons action actions ih =>
    rw [outcomesFor_cons_self (h action List.mem_cons_self), run_cons_snd,
      ih fun later hmem => h later (List.mem_cons_of_mem _ hmem)]

/-- Samples take no sink away and give none. -/
theorem sinkAt?_sampling (rig : Rig) {action : Action} (h : action.IsSampling) (id : Nat) :
    (rig.act action).1.sinkAt? id = rig.sinkAt? id := by
  rw [sinkAt?_act]
  cases action with
  | attach | detach | reset | lend => exact h.elim
  | touch | buttons | scroll => rfl

theorem sinkAt?_run_sampling (rig : Rig) {actions : List Action}
    (h : ∀ action ∈ actions, action.IsSampling) (id : Nat) :
    (rig.run actions).1.sinkAt? id = rig.sinkAt? id := by
  induction actions generalizing rig with
  | nil => rfl
  | cons action actions ih =>
    rw [run_cons_fst, ih _ fun later hmem => h later (List.mem_cons_of_mem _ hmem),
      sinkAt?_sampling rig (h action List.mem_cons_self)]

/-- The rack after a sample: the sink of the touchpad that it names was driven, or nothing was
done to any sink. -/
theorem rack_sampling (rig : Rig) {action : Action} (h : action.IsSampling) :
    (rig.act action).1.rack = rig.rack
      ∨ ∃ id sink frame, action.addressee? = some id ∧ rig.sinkAt? id = some sink
        ∧ (rig.act action).1.rack = (rig.rack.drive sink frame).1 := by
  rw [rack_act]
  rcases effects_sampling rig h with hnone | ⟨id, sink, frame, hid, hsink, -, heffects⟩
  · exact Or.inl (by rw [hnone]; rfl)
  · exact Or.inr ⟨id, sink, frame, hid, hsink, by rw [heffects, Rack.drive_fst]⟩

/-! ## Rigs that are alike for a touchpad -/

/-- Two rigs that a touchpad cannot tell apart: it is the same in both, and so is its sink, which
is a recorder and in the first rig nobody else's. -/
structure Alike (id : Nat) (rig other : Rig) : Prop where
  config : rig.config = other.config
  pad : rig.pads[id]? = other.pads[id]?
  sink : ∀ sink, rig.sinkAt? id = some sink → rig.rack.sinks[sink]? = other.rack.sinks[sink]?
  recorder : ∀ sink d, rig.sinkAt? id = some sink → rig.rack.sinks[sink]? ≠ some (.device d)
  alone : ∀ i sink, rig.sinkAt? id = some sink → rig.sinkAt? i = some sink → i = id

namespace Alike

variable {id : Nat} {rig other : Rig} {action : Action}

/-- **A sample for another touchpad** changes nothing for this one. -/
theorem skip (h : Alike id rig other) (hsampling : action.IsSampling)
    (hother : action.addressee? ≠ some id) : Alike id (rig.act action).1 other := by
  have hsinks : ∀ i, (rig.act action).1.sinkAt? i = rig.sinkAt? i :=
    sinkAt?_sampling rig hsampling
  have hkept : ∀ sink, rig.sinkAt? id = some sink →
      (rig.act action).1.rack.sinks[sink]? = rig.rack.sinks[sink]? := by
    intro sink hsink
    rcases rack_sampling rig hsampling with hrack | ⟨i, driven, frame, hi, hdriven, hrack⟩
    · rw [hrack]
    · rw [hrack]
      refine Rack.getElem?_drive_of_ne (fun heq => hother ?_) _ _
      rw [hi, h.alone i sink hsink (heq ▸ hdriven)]
  obtain ⟨i, hi⟩ := hsampling.addressee
  have hne : i ≠ id := fun heq => hother (heq ▸ hi)
  constructor
  · rw [config_act, h.config]
  · rw [getElem?_pads_act, ← h.pad]
    cases rig.pads[id]? with
    | none => rfl
    | some pad => rw [Option.map_some, Pad.after_of_addressee hi hne]
  · intro sink hsink
    rw [hsinks] at hsink
    rw [hkept sink hsink, h.sink sink hsink]
  · intro sink d hsink
    rw [hsinks] at hsink
    rw [hkept sink hsink]
    exact h.recorder sink d hsink
  · intro j sink hsink hj
    rw [hsinks] at hsink hj
    exact h.alone j sink hsink hj

/-- Both rigs give the same outcome of a frame for the touchpad's sink. -/
theorem outcome_sendFrame (h : Alike id rig other) {sink : SinkId}
    (hsink : rig.sinkAt? id = some sink) (pad : Pad) (frame : List Call) :
    (rig.sendFrame id pad sink frame).2 = (other.sendFrame id pad sink frame).2 :=
  congrArg outcome
    (Rack.drive_congr (h.sink sink hsink) (fun d => h.recorder sink d hsink) frame).1

/-- Both rigs give the same outcome of a sample for the touchpad. -/
theorem outcome_act (h : Alike id rig other) (hsampling : action.IsSampling)
    (hself : action.addressee? = some id) : (rig.act action).2 = (other.act action).2 := by
  cases hpad : rig.pads[id]? with
  | none =>
    rw [(act_of_addressee_none hself hpad).1, (act_of_addressee_none hself (h.pad ▸ hpad)).1]
  | some pad =>
    have hpad' : other.pads[id]? = some pad := h.pad ▸ hpad
    have hsend : ∀ ownership sink, pad.sink = some (ownership, sink) → ∀ new frame,
        (rig.sendFrame id new sink frame).2 = (other.sendFrame id new sink frame).2 :=
      fun ownership sink hsink => h.outcome_sendFrame
        (sinkAt?_eq_some_iff.mpr ⟨pad, ownership, hpad, hsink⟩)
    cases action with
    | attach | detach | reset | lend => exact hsampling.elim
    | touch i x y pressure =>
      obtain rfl : i = id := Option.some.inj hself
      simp only [act, touch, hpad, hpad', h.config]
      split
      · rfl
      · rfl
      · split
        · rfl
        · next ownership sink hsink => exact hsend ownership sink hsink _ _
    | buttons i mask =>
      obtain rfl : i = id := Option.some.inj hself
      simp only [act, buttonState, hpad, hpad']
      split
      · rfl
      · split
        · rfl
        · split
          · rfl
          · next ownership sink hsink => exact hsend ownership sink hsink _ _
    | scroll i x y =>
      obtain rfl : i = id := Option.some.inj hself
      simp only [act, scroll, hpad, hpad']
      split
      · rfl
      · rfl
      · split
        · rfl
        · next ownership sink hsink => exact hsend ownership sink hsink _ _

/-- A sample for the touchpad does the same to the sinks of both rigs. -/
theorem effects_eq (h : Alike id rig other) (hsampling : action.IsSampling)
    (hself : action.addressee? = some id) : rig.effects action = other.effects action := by
  cases action with
  | attach | detach | reset | lend => exact hsampling.elim
  | touch i x y pressure | buttons i mask | scroll i x y =>
    obtain rfl : i = id := Option.some.inj hself
    rw [effects, effects, sampling, sampling, h.pad, h.config]

/-- **A sample for the touchpad** that both rigs take leaves them alike. -/
theorem own (h : Alike id rig other) (hsampling : action.IsSampling)
    (hself : action.addressee? = some id) : Alike id (rig.act action).1 (other.act action).1 := by
  have hsinks : ∀ i, (rig.act action).1.sinkAt? i = rig.sinkAt? i :=
    sinkAt?_sampling rig hsampling
  -- The sink that is driven, if any, is the one of the touchpad.
  have hdriven : ∀ sink, rig.sinkAt? id = some sink →
      (rig.act action).1.rack.sinks[sink]? = (other.act action).1.rack.sinks[sink]?
        ∧ ∀ d, (rig.act action).1.rack.sinks[sink]? ≠ some (.device d) := by
    intro sink hsink
    have hsame := h.sink sink hsink
    have hrecorder : ∀ d, rig.rack.sinks[sink]? ≠ some (.device d) :=
      fun d => h.recorder sink d hsink
    rw [rack_act, rack_act, ← h.effects_eq hsampling hself]
    rcases effects_sampling rig hsampling with hnone | ⟨i, held, frame, hi, hheld, -, heffects⟩
    · rw [hnone]
      exact ⟨hsame, hrecorder⟩
    · obtain rfl : id = i := Option.some.inj (hself.symm.trans hi)
      obtain rfl : sink = held := Option.some.inj (hsink.symm.trans hheld)
      rw [heffects, ← Rack.drive_fst, ← Rack.drive_fst]
      refine ⟨(Rack.drive_congr hsame hrecorder frame).2, fun d => ?_⟩
      cases hthere : rig.rack.sinks[sink]? with
      | none =>
        rw [Rack.drive_fst, Rack.performAll_absent (List.getElem?_eq_none_iff.mp hthere)
          fun _ => Rack.target?_of_mem_driving, hthere]
        simp
      | some held =>
        cases held with
        | device d => exact absurd hthere (hrecorder d)
        | recorder r =>
          rw [Rack.drive_recorder hthere,
            List.getElem?_set_self (List.getElem?_eq_some_iff.mp hthere).1]
          simp
  constructor
  · rw [config_act, config_act, h.config]
  · rw [getElem?_pads_act, getElem?_pads_act, h.pad, h.config]
    congr 1
    funext pad
    exact Pad.after_sampling hsampling pad _ _ _ id
  · intro sink hsink
    rw [hsinks] at hsink
    exact (hdriven sink hsink).1
  · intro sink d hsink
    rw [hsinks] at hsink
    exact (hdriven sink hsink).2 d
  · intro i sink hsink hi
    rw [hsinks] at hsink hi
    exact h.alone i sink hsink hi

/-- **A run of samples** against the same run without the samples for other touchpads. -/
theorem run (h : Alike id rig other) {actions : List Action}
    (hsampling : ∀ action ∈ actions, action.IsSampling) :
    rig.outcomesFor id actions = (other.run (actionsFor id actions)).2
      ∧ Alike id (rig.run actions).1 (other.run (actionsFor id actions)).1 := by
  induction actions generalizing rig other with
  | nil => exact ⟨rfl, h⟩
  | cons action actions ih =>
    have hone := hsampling action List.mem_cons_self
    have hlater : ∀ later ∈ actions, later.IsSampling :=
      fun later hmem => hsampling later (List.mem_cons_of_mem _ hmem)
    rw [run_cons_fst]
    by_cases hself : action.addressee? = some id
    · obtain ⟨houtcomes, halike⟩ := ih (h.own hone hself) hlater
      rw [outcomesFor_cons_self hself, actionsFor_cons_self hself, run_cons_fst, run_cons_snd,
        houtcomes, h.outcome_act hone hself]
      exact ⟨rfl, halike⟩
    · rw [outcomesFor_cons_of_ne hself, actionsFor_cons_of_ne hself]
      exact ih (h.skip hone hself) hlater

end Alike

/-! ## Interleavings -/

/-- Two runs of a rig are the same to a touchpad: the outcomes of its actions are, what it
remembers is, and so is its sink with all that it has written down. -/
structure SameFor (rig : Rig) (id : Nat) (actions others : List Action) : Prop where
  outcomes : rig.outcomesFor id actions = rig.outcomesFor id others
  pad : (rig.run actions).1.pads[id]? = (rig.run others).1.pads[id]?
  sink : ∀ sink, rig.sinkAt? id = some sink →
    (rig.run actions).1.rack.sinks[sink]? = (rig.run others).1.rack.sinks[sink]?

/-- A touchpad cannot tell a rig of unshared recorders from itself. -/
theorem alike_self {rig : Rig} (hrecorders : ∀ sink ∈ rig.rack.sinks, ∃ r, sink = .recorder r)
    (hunshared : ∀ i j sink, rig.sinkAt? i = some sink → rig.sinkAt? j = some sink → i = j)
    (id : Nat) : Alike id rig rig where
  config := rfl
  pad := rfl
  sink := fun _ _ => rfl
  recorder := by
    intro sink d _ hdevice
    obtain ⟨r, hr⟩ := hrecorders _ (List.mem_of_getElem? hdevice)
    cases hr
  alone := fun i sink hid hi => hunshared i id sink hi hid

/-- **Touchpads do not interfere**: from a rig with recorders that touchpads do not share, a run of
samples is the same to a touchpad as the run of just the samples that name it.  So runs with the
same samples for each touchpad in the same order are the same to all touchpads. -/
theorem only_own_samples {rig : Rig} (hrecorders : ∀ sink ∈ rig.rack.sinks, ∃ r, sink = .recorder r)
    (hunshared : ∀ i j sink, rig.sinkAt? i = some sink → rig.sinkAt? j = some sink → i = j)
    {actions : List Action} (hsampling : ∀ action ∈ actions, action.IsSampling) :
    (∀ id, rig.SameFor id actions (actionsFor id actions))
      ∧ ∀ others : List Action, (∀ action ∈ others, action.IsSampling) →
          (∀ id, actionsFor id others = actionsFor id actions) →
          ∀ id, rig.SameFor id actions others := by
  have hown : ∀ (actions : List Action), (∀ action ∈ actions, action.IsSampling) →
      ∀ id, rig.SameFor id actions (actionsFor id actions) := by
    intro actions hsampling id
    obtain ⟨houtcomes, hafter⟩ := (alike_self hrecorders hunshared id).run hsampling
    refine ⟨?_, hafter.pad, fun sink hsink => hafter.sink sink ?_⟩
    · rw [houtcomes, outcomesFor_of_all]
      intro action hmem
      simpa using (List.mem_filter.mp hmem).2
    · rw [sinkAt?_run_sampling rig hsampling, hsink]
  refine ⟨hown actions hsampling, fun others hothers hsame id => ?_⟩
  have hfirst := hown actions hsampling id
  have hsecond := hsame id ▸ hown others hothers id
  exact ⟨hfirst.outcomes.trans hsecond.outcomes.symm, hfirst.pad.trans hsecond.pad.symm,
    fun sink hsink => (hfirst.sink sink hsink).trans (hsecond.sink sink hsink).symm⟩

/-- Two attached touchpads, the second with a sink that fails: a tap on the first one between and
before samples for the second and for a touchpad that there is not. -/
theorem only_own_samples_tap :
    let rig := ((new .standard (.recorders [none, some .sequencing]) ⟨[], .new []⟩).run [.attach]).1
    let actions := [Action.touch 0 .zero .zero .one, .touch 1 .zero .zero .one, .scroll 7 .one .one,
      .touch 0 .zero .zero .zero, .buttons 1 1]
    let others := [Action.scroll 7 .one .one, .touch 0 .zero .zero .one, .touch 0 .zero .zero .zero,
      .touch 1 .zero .zero .one, .buttons 1 1]
    (∀ action ∈ actions, action.IsSampling) ∧ rig.SameFor 0 actions (actionsFor 0 actions)
      ∧ rig.SameFor 1 actions others := by
  intro rig actions others
  have hrecorders : ∀ sink ∈ rig.rack.sinks, ∃ r, sink = .recorder r := by
    have hall : rig.rack.sinks.all (·.recorder?.isSome) = true := by decide +kernel
    intro sink hmem
    have hsome := List.all_eq_true.mp hall sink hmem
    cases sink with
    | recorder r => exact ⟨r, rfl⟩
    | device d => cases hsome
  have horderly : (new .standard (.recorders [none, some .sequencing]) ⟨[], .new []⟩).Keeps Orderly
      [.attach] := ⟨trivial, trivial⟩
  have hunshared := ((tidy_new _ _ _).run horderly).unshared
  have hsampling : ∀ action ∈ actions, action.IsSampling := by
    simp [actions, Action.IsSampling]
  have hothers : ∀ action ∈ others, action.IsSampling := by
    simp [others, Action.IsSampling]
  have hsame : ∀ id, actionsFor id others = actionsFor id actions := by
    intro id
    by_cases hzero : id = 0
    · exact hzero ▸ rfl
    by_cases hone : id = 1
    · exact hone ▸ rfl
    simp [actionsFor, actions, others, Action.addressee?, List.filter_cons, Ne.symm hzero,
      Ne.symm hone]
  obtain ⟨hown, hinterleaved⟩ := only_own_samples hrecorders hunshared hsampling
  exact ⟨hsampling, hown 0, hinterleaved others hothers hsame 1⟩

end Rig

end VirtualTouchpad
