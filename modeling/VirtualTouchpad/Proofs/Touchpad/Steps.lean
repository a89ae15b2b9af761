/-
# Rigs in use

Between two calls on a rig, whoever has a handle on a recorder can tell it what to fail
with.  So a rig in use goes through steps: each is a call or such an order.  Devices
need no orders, since the faults of their host can come at any time.

Orders are given to sinks, and touchpads do not notice them: what touchpads remember
(`getElem?_pads_step`) and which sinks they hold (`Tidy.steps`) depends on the calls
alone.
-/
import VirtualTouchpad.Proofs.Touchpad.Holding

namespace VirtualTouchpad

/-- Something that happens to a rig in use. -/
inductive Step where
  | call (action : Action)
  /-- A recorder is told what its calls meet from now on. -/
  | order (sink : SinkId) (failure : Option SinkError)
  deriving DecidableEq, Repr

/-- The call that a step is. -/
def Step.action? : Step → Option Action
  | .call action => some action
  | .order .. => none

/-- The calls among some steps. -/
def actionsOf (steps : List Step) : List Action := steps.filterMap (·.action?)

@[simp] theorem actionsOf_append (steps later : List Step) :
    actionsOf (steps ++ later) = actionsOf steps ++ actionsOf later :=
  List.filterMap_append

namespace Rig

/-- The rig after a step. -/
def step (rig : Rig) : Step → Rig
  | .call action => (rig.act action).1
  | .order sink failure =>
    { rig with rack := rig.rack.updateRecorder sink fun r => { r with failure := failure } }

/-- The rig after steps in order. -/
def steps (rig : Rig) (steps : List Step) : Rig := steps.foldl step rig

theorem steps_append (rig : Rig) (steps later : List Step) :
    rig.steps (steps ++ later) = (rig.steps steps).steps later :=
  List.foldl_append

theorem steps_cons (rig : Rig) (step : Step) (steps : List Step) :
    rig.steps (step :: steps) = (rig.step step).steps steps := rfl

/-- A run is steps that are all calls. -/
theorem steps_map_call (rig : Rig) (actions : List Action) :
    rig.steps (actions.map .call) = (rig.run actions).1 := by
  induction actions generalizing rig with
  | nil => rfl
  | cons action actions ih => exact ih (rig.act action).1

/-! ## Touchpads -/

/-- Orders leave the touchpads alone. -/
theorem pads_order (rig : Rig) (sink : SinkId) (failure : Option SinkError) :
    (rig.step (.order sink failure)).pads = rig.pads := rfl

theorem config_steps (rig : Rig) (steps : List Step) : (rig.steps steps).config = rig.config := by
  induction steps generalizing rig with
  | nil => rfl
  | cons step steps ih =>
    rw [steps_cons, ih]
    cases step with
    | call action => exact config_act rig action
    | order sink failure => rfl

theorem config_run (rig : Rig) (actions : List Action) :
    (rig.run actions).1.config = rig.config := by
  rw [← steps_map_call, config_steps]

/-- Only calls change what a touchpad remembers. -/
theorem getElem?_pads_step (rig : Rig) (step : Step) (i : Nat) :
    (rig.step step).pads[i]? = rig.pads[i]?.map fun pad =>
      (step.action?.map (pad.after rig.config (rig.freshSink i) i)).getD pad := by
  cases step with
  | call action => exact getElem?_pads_act rig action i
  | order sink failure =>
    rw [pads_order]
    simp [Step.action?]

theorem length_pads_steps (rig : Rig) (steps : List Step) :
    (rig.steps steps).pads.length = rig.pads.length := by
  induction steps generalizing rig with
  | nil => rfl
  | cons step steps ih =>
    rw [steps_cons, ih]
    cases step with
    | call action => exact length_pads_act rig action
    | order sink failure => rfl

/-! ## Held sinks -/

/-- Whether each call among some steps keeps a rule about the state that it is made in. -/
def Heeds (rule : Rig → Action → Prop) (rig : Rig) : List Step → Prop
  | [] => True
  | .call action :: steps => rule rig action ∧ Heeds rule (rig.step (.call action)) steps
  | .order sink failure :: steps => Heeds rule (rig.step (.order sink failure)) steps

theorem heeds_append (rule : Rig → Action → Prop) (rig : Rig) (steps later : List Step) :
    rig.Heeds rule (steps ++ later)
      ↔ rig.Heeds rule steps ∧ (rig.steps steps).Heeds rule later := by
  induction steps generalizing rig with
  | nil => simp [Heeds, Rig.steps]
  | cons step steps ih =>
    cases step with
    | call action => simp [Heeds, ih, steps_cons, and_assoc]
    | order sink failure => simp [Heeds, ih, steps_cons]

theorem Tidy.order {rig : Rig} (h : rig.Tidy) (sink : SinkId) (failure : Option SinkError) :
    (rig.step (.order sink failure)).Tidy where
  lt := fun id held hheld => by
    have hlt := h.lt id held hheld
    rwa [← Rack.length_sinks_update rig.rack sink] at hlt
  unshared := h.unshared

/-- A touchpad keeps its sink until it is taken down, as long as sinks are lent in order. -/
theorem sinkAt?_steps {rig : Rig} {id : Nat} {sink : SinkId} (hsink : rig.sinkAt? id = some sink)
    {steps : List Step} (hkept : ∀ action ∈ actionsOf steps, action ≠ .detach ∧ action ≠ .reset)
    (horderly : rig.Heeds Orderly steps) : (rig.steps steps).sinkAt? id = some sink := by
  induction steps generalizing rig with
  | nil => exact hsink
  | cons step steps ih =>
    cases step with
    | order other failure => exact ih hsink hkept horderly
    | call action =>
      exact ih (sinkAt?_kept hsink (hkept action List.mem_cons_self) horderly.1)
        (fun later hmem => hkept later (List.mem_cons_of_mem _ hmem)) horderly.2

/-- **Steps with orderly calls keep a rig tidy.** -/
theorem Tidy.steps {rig : Rig} (h : rig.Tidy) {steps : List Step}
    (horderly : rig.Heeds Orderly steps) : (rig.steps steps).Tidy := by
  induction steps generalizing rig with
  | nil => exact h
  | cons step steps ih =>
    cases step with
    | call action => exact ih (h.act horderly.1) horderly.2
    | order sink failure => exact ih (h.order sink failure) horderly

end Rig

end VirtualTouchpad
