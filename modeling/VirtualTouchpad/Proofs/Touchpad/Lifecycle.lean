/-
# The life of a rig's devices

A rig makes a device sink for each touchpad that is attached without one, and the
touchpad owns it.  Whatever is done to the rig, each sink that it made is owned by a
touchpad or closed for good (`Guarded.act`), so nothing is left open once all
touchpads are taken down or dropped.

`lifecycle_of_sinks` puts that together with the life of a single sink.
-/
import VirtualTouchpad.Proofs.Sink.Lifecycle
import VirtualTouchpad.Proofs.Touchpad.Holding

namespace VirtualTouchpad

namespace Rig

/-! ## New sinks -/

/-- The sinks that attaching makes are numbered from the end of the rack, without a gap. -/
theorem exists_freshSink {rig : Rig} {n : Nat} (hn : n ≤ rig.pads.length) {sink : SinkId}
    (hge : rig.rack.sinks.length ≤ sink) (hlt : sink < rig.freshSink n) :
    ∃ id pad, rig.pads[id]? = some pad ∧ pad.sink = none ∧ rig.freshSink id = sink := by
  induction n with
  | zero => exact absurd hlt (Nat.not_lt.mpr hge)
  | succ n ih =>
    -- The sink is made for one of the first touchpads, or for the one that comes after them.
    by_cases hbefore : sink < rig.freshSink n
    · exact ih (Nat.le_of_succ_le hn) hbefore
    · have hpad : rig.pads[n]? = some rig.pads[n] := List.getElem?_eq_getElem hn
      have hfresh : rig.freshSink (n + 1)
          = rig.freshSink n + if rig.pads[n].sink.isNone then 1 else 0 := by
        rw [freshSink, freshSink, List.take_add_one, hpad, List.countP_append]
        simp [Nat.add_assoc]
      cases hsink : rig.pads[n].sink with
      | some held =>
        rw [hfresh, hsink] at hlt
        exact absurd hlt hbefore
      | none =>
        rw [hfresh, hsink] at hlt
        refine ⟨n, rig.pads[n], hpad, hsink, ?_⟩
        exact Nat.le_antisymm (Nat.not_lt.mp hbefore) (Nat.le_of_lt_succ hlt)

theorem added_not_mem_driving (sink : Sink) (id : SinkId) (calls : List Call) :
    .added sink ∉ driving id calls := by
  simp [driving]

section Factories

variable {P : Factory → Prop} (hmake : ∀ factory, P factory → P factory.make.1)

include hmake

/-- What making keeps of a factory is kept by attaching. -/
theorem factory_attachOne_of {rig : Rig} (h : P rig.factory) (id : Nat) :
    P (rig.attachOne id).1.factory := by
  cases hpad : rig.pads[id]? with
  | none => rwa [(attachOne_fst_of_none hpad).1]
  | some pad =>
    rw [attachOne_fst hpad]
    simp only [setPad]
    split
    · exact hmake _ h
    · exact h

/-- A sink that attaching makes comes from the factory at that time. -/
theorem made_of_added {rig : Rig} (h : P rig.factory) {ids : List Nat} {sink : Sink}
    (hadded : .added sink ∈ rig.attachingEach ids) :
    ∃ factory, P factory ∧ sink = factory.make.2 := by
  induction ids generalizing rig with
  | nil => cases hadded
  | cons id ids ih =>
    rcases List.mem_append.mp hadded with hone | hrest
    · unfold attachingOne at hone
      split at hone
      · cases hone
      · simp only at hone
        split at hone
        · exact absurd hone (added_not_mem_driving _ _ _)
        · rcases List.mem_cons.mp hone with heq | hdriving
          · exact ⟨rig.factory, h, Effect.added.inj heq⟩
          · exact absurd hdriving (added_not_mem_driving _ _ _)
    · exact ih (factory_attachOne_of hmake h id) hrest

end Factories

/-- A factory of devices stays one. -/
theorem make_devices {path : String} (factory : Factory) (h : factory = .devices path) :
    factory.make.1 = .devices path := by
  rw [h]
  rfl

theorem factory_attachEach {rig : Rig} {path : String} (h : rig.factory = .devices path)
    (ids : List Nat) : (rig.attachEach ids).1.factory = .devices path := by
  induction ids generalizing rig with
  | nil => exact h
  | cons id ids ih => exact ih (factory_attachOne_of make_devices h id)

theorem factory_act {rig : Rig} {path : String} (h : rig.factory = .devices path)
    (action : Action) : (rig.act action).1.factory = .devices path := by
  rcases act_cases rig action with
    rfl | (rfl | rfl) | ⟨id, -, -, hact, -⟩ | ⟨id, pad, -, -, hact⟩
  · exact factory_attachEach h _
  · exact h
  · exact h
  · rw [hact, h]
  · rw [hact 0]
    exact h

/-- A rig of devices makes new devices. -/
theorem added_attachingEach {rig : Rig} {path : String} (h : rig.factory = .devices path)
    {ids : List Nat} {sink : Sink} (hadded : .added sink ∈ rig.attachingEach ids) :
    sink = .device (.new path) := by
  obtain ⟨factory, rfl, rfl⟩ := made_of_added make_devices h hadded
  rfl

/-- Only attaching makes sinks. -/
theorem added_not_mem_effects (rig : Rig) {action : Action} (h : action ≠ .attach) (sink : Sink) :
    .added sink ∉ rig.effects action := by
  have hdropping : ∀ pad : Pad, .added sink ∉ pad.dropping := by
    intro pad
    unfold Pad.dropping
    split <;> simp
  have hsampling : ∀ id sample, .added sink ∉ rig.sampling id sample := by
    intro id sample
    unfold sampling
    split
    · simp
    · split
      · exact added_not_mem_driving _ _ _
      · simp
  cases action with
  | attach => exact absurd rfl h
  | touch | buttons | scroll => exact hsampling _ _
  | lend id s =>
    simp only [effects]
    cases rig.pads[id]? with
    | none => simp
    | some pad => exact hdropping pad
  | detach | reset =>
    intro hmem
    obtain ⟨pad, -, hin⟩ := List.mem_flatMap.mp hmem
    unfold Pad.releasing at hin
    split at hin
    · cases hin
    · exact absurd ((List.mem_cons.mp hin).resolve_left (by simp)) (hdropping pad)

theorem added_effects {rig : Rig} {path : String} (h : rig.factory = .devices path)
    {action : Action} {sink : Sink} (hadded : .added sink ∈ rig.effects action) :
    sink = .device (.new path) := by
  by_cases hattach : action = .attach
  · subst hattach
    exact added_attachingEach h hadded
  · exact absurd hadded (added_not_mem_effects rig hattach sink)

theorem added_trace {rig : Rig} {path : String} (h : rig.factory = .devices path)
    {actions : List Action} {sink : Sink} (hadded : .added sink ∈ rig.trace actions) :
    sink = .device (.new path) := by
  induction actions generalizing rig with
  | nil => cases hadded
  | cons action actions ih =>
    rcases List.mem_append.mp hadded with hone | hrest
    · exact added_effects h hone
    · exact ih (factory_act h action) hrest

end Rig

/-- Without new ones there are as many sinks as before. -/
theorem Rack.length_performAll_of_not_mem {effects : List Effect}
    (h : ∀ sink, .added sink ∉ effects) (rack : Rack) :
    (rack.performAll effects).sinks.length = rack.sinks.length := by
  induction effects generalizing rack with
  | nil => rfl
  | cons effect effects ih =>
    rw [performAll_cons, ih fun sink hmem => h sink (List.mem_cons_of_mem _ hmem)]
    cases effect with
    | added sink => exact absurd List.mem_cons_self (h sink)
    | done id operation => exact length_sinks_update rack id _

namespace Rig

/-! ## Guarded sinks -/

/-- A touchpad owns a sink. -/
def Owns (rig : Rig) (sink : SinkId) : Prop :=
  ∃ (id : Nat) (pad : Pad), rig.pads[id]? = some pad ∧ pad.sink = some (.owned, sink)

/-- Each sink from a number on is a device sink, and a touchpad owns it or it is closed for good. -/
structure Guarded (first : SinkId) (path : String) (rig : Rig) : Prop where
  factory : rig.factory = .devices path
  device : ∀ sink, first ≤ sink → sink < rig.rack.sinks.length →
    ∃ events, rig.rack.HasAlong path sink events
  guarded : ∀ sink, first ≤ sink → sink < rig.rack.sinks.length →
    rig.Owns sink ∨ rig.rack.HasOver sink

/-- A new rig has made no sink yet. -/
theorem guarded_new (config : Config) (path : String) (rack : Rack) :
    (new config (.devices path) rack).Guarded rack.sinks.length path where
  factory := rfl
  device := fun _ hge hlt => absurd hlt (Nat.not_lt.mpr hge)
  guarded := fun _ hge hlt => absurd hlt (Nat.not_lt.mpr hge)

/-- A touchpad keeps the sink that it owns, or the sink is dropped. -/
theorem owned_after {rig : Rig} {id : Nat} {pad : Pad} {sink : SinkId}
    (hpad : rig.pads[id]? = some pad) (hsink : pad.sink = some (.owned, sink)) (action : Action) :
    (pad.after rig.config (rig.freshSink id) id action).sink = some (.owned, sink)
      ∨ .done sink .drop ∈ rig.effects action := by
  have hdropping : .done sink .drop ∈ pad.dropping := by simp [Pad.dropping, hsink]
  cases action with
  | attach => left; simp [Pad.after, hsink]
  | detach | reset =>
    right
    refine List.mem_flatMap.mpr ⟨pad, List.mem_of_getElem? hpad, ?_⟩
    simp [Pad.releasing, hsink, hdropping]
  | touch | buttons =>
    left
    simp only [Pad.after]
    split <;> exact hsink
  | scroll => exact Or.inl hsink
  | lend i s =>
    by_cases hi : i = id
    · right
      simpa [effects, hi, hpad] using hdropping
    · left
      simpa [Pad.after, hi] using hsink

/-- **One step**: whatever is done to a rig, each sink that it made is owned or closed for good. -/
theorem Guarded.act {first : SinkId} {path : String} {rig : Rig} (h : rig.Guarded first path)
    (action : Action) : (rig.act action).1.Guarded first path := by
  -- A sink that was not there before is made by attaching, for a touchpad that then owns it.
  have hnew : ∀ sink, rig.rack.sinks.length ≤ sink →
      sink < (rig.act action).1.rack.sinks.length →
      (∃ events, (rig.act action).1.rack.HasAlong path sink events)
        ∧ (rig.act action).1.Owns sink := by
    intro sink hge hlt
    have hattach : action = .attach := by
      apply Classical.byContradiction
      intro hne
      rw [rack_act, Rack.length_performAll_of_not_mem (added_not_mem_effects rig hne)] at hlt
      exact absurd hge (Nat.not_le.mpr hlt)
    constructor
    · rw [rack_act] at hlt ⊢
      rcases Rack.along_performAll hge fun made hmade => added_effects h.factory hmade with
        ⟨habsent, -⟩ | halong
      · exact absurd habsent (Nat.not_le.mpr hlt)
      · exact ⟨_, halong⟩
    · subst hattach
      rw [length_sinks_attach] at hlt
      obtain ⟨id, pad, hpad, hnone, hfresh⟩ := exists_freshSink (Nat.le_refl _) hge hlt
      refine ⟨id, pad.after rig.config (rig.freshSink id) id .attach, ?_, ?_⟩
      · rw [getElem?_pads_act, hpad, Option.map_some]
      · simp [Pad.after, hnone, hfresh]
  constructor
  case factory => exact factory_act h.factory action
  case device =>
    intro sink hfirst hlt
    by_cases hold : sink < rig.rack.sinks.length
    · obtain ⟨events, halong⟩ := h.device sink hfirst hold
      rw [rack_act]
      exact ⟨_, halong.performAll _⟩
    · exact (hnew sink (Nat.not_lt.mp hold) hlt).1
  case guarded =>
    intro sink hfirst hlt
    by_cases hold : sink < rig.rack.sinks.length
    · rw [rack_act]
      rcases h.guarded sink hfirst hold with ⟨id, pad, hpad, hsink⟩ | hover
      · obtain ⟨events, halong⟩ := h.device sink hfirst hold
        rcases owned_after hpad hsink action with hkept | hdrop
        · left
          refine ⟨id, _, ?_, hkept⟩
          rw [getElem?_pads_act, hpad, Option.map_some]
        · exact Or.inr (halong.over hdrop)
      · exact Or.inr (hover.performAll _)
    · exact Or.inl (hnew sink (Nat.not_lt.mp hold) hlt).2

/-- **A whole run**. -/
theorem Guarded.run {first : SinkId} {path : String} {rig : Rig} (h : rig.Guarded first path)
    (actions : List Action) : (rig.run actions).1.Guarded first path := by
  induction actions generalizing rig with
  | nil => exact h
  | cons action actions ih => exact ih (h.act action)

/-! ## Taking down -/

/-- The effects of ending a rig: its touchpads drop the sinks that they own. -/
def finishing (rig : Rig) : List Effect := rig.pads.flatMap Pad.dropping

/-- Ending a rig has just these effects. -/
theorem finish_eq (rig : Rig) : rig.finish = rig.rack.performAll rig.finishing := by
  have hpads : ∀ (pads : List Pad) (rack : Rack),
      pads.foldl dropOwned rack = rack.performAll (pads.flatMap Pad.dropping) := by
    intro pads
    induction pads with
    | nil => intro rack; rfl
    | cons pad pads ih =>
      intro rack
      rw [List.foldl_cons, ih, List.flatMap_cons, Rack.performAll_append, dropOwned_eq]
  exact hpads rig.pads rig.rack

/-- Effects that drop all owned sinks close the sinks that a rig made for good. -/
theorem Guarded.over {first : SinkId} {path : String} {rig : Rig} (h : rig.Guarded first path)
    {effects : List Effect} (hdropped : ∀ sink, rig.Owns sink → .done sink .drop ∈ effects)
    {sink : SinkId} (hfirst : first ≤ sink) (hlt : sink < rig.rack.sinks.length) :
    (rig.rack.performAll effects).HasOver sink := by
  obtain ⟨events, halong⟩ := h.device sink hfirst hlt
  rcases h.guarded sink hfirst hlt with howned | hover
  · exact halong.over (hdropped sink howned)
  · exact hover.performAll effects

/-- The life of a sink that a rig made, when after a run all owned sinks are dropped. -/
theorem lifecycle_of_dropped (config : Config) (path : String) (rack : Rack)
    (actions : List Action) {effects : List Effect}
    (hdropped : ∀ sink, ((new config (.devices path) rack).run actions).1.Owns sink →
      .done sink .drop ∈ effects)
    (hadded : ∀ sink, .added sink ∉ effects) {id : SinkId} (hid : rack.sinks.length ≤ id) :
    Lifecycle path
      (rack.eventsOf id ((new config (.devices path) rack).trace actions ++ effects)) := by
  have hguarded := (guarded_new config path rack).run actions
  have hmade : ∀ sink, .added sink ∈ (new config (.devices path) rack).trace actions ++ effects →
      sink = .device (.new path) := by
    intro sink hmem
    rcases List.mem_append.mp hmem with hmem | hmem
    · exact added_trace rfl hmem
    · exact absurd hmem (hadded sink)
  rcases Rack.along_performAll hid hmade with ⟨-, hnone⟩ | halong
  · -- No sink of that number was made.
    rw [hnone]
    exact Life.unopened.lifecycle
  · refine halong.lifecycle ?_
    obtain ⟨d, hd, -⟩ := halong
    have hlt := (List.getElem?_eq_some_iff.mp hd).1
    have hrack : rack.performAll ((new config (.devices path) rack).trace actions)
        = ((new config (.devices path) rack).run actions).1.rack :=
      (rack_run (new config (.devices path) rack) actions).symm
    rw [Rack.performAll_append, hrack] at hlt ⊢
    rw [Rack.length_performAll_of_not_mem hadded] at hlt
    exact hguarded.over hdropped hid hlt

theorem drop_mem_of_owns {rig : Rig} {sink : SinkId} (h : rig.Owns sink) :
    .done sink .drop ∈ rig.pads.flatMap Pad.releasing ∧ .done sink .drop ∈ rig.finishing := by
  obtain ⟨id, pad, hpad, hsink⟩ := h
  have hmem := List.mem_of_getElem? hpad
  constructor
  · exact List.mem_flatMap.mpr ⟨pad, hmem, by simp [Pad.releasing, Pad.dropping, hsink]⟩
  · exact List.mem_flatMap.mpr ⟨pad, hmem, by simp [Pad.dropping, hsink]⟩

/-- **Every device has a whole life.**  This is so for a device sink that is used in any way and
then dropped, and for each sink that a rig of devices made, once the rig is taken down, reset or
dropped. -/
theorem lifecycle_of_sinks :
    (∀ (path : String) (faults : List KernelFault) (files : Files) (operations : List Operation),
      Lifecycle path
        ((Device.new path).operateAll ⟨faults, [], files⟩ (operations ++ [.drop])).1.events)
    ∧ ∀ (config : Config) (path : String) (rack : Rack) (actions : List Action) (k : Nat),
      Lifecycle path (rack.eventsOf (rack.sinks.length + k)
        ((new config (.devices path) rack).trace (actions ++ [.detach])))
      ∧ Lifecycle path (rack.eventsOf (rack.sinks.length + k)
        ((new config (.devices path) rack).trace (actions ++ [.reset])))
      ∧ Lifecycle path (rack.eventsOf (rack.sinks.length + k)
        ((new config (.devices path) rack).trace actions
          ++ ((new config (.devices path) rack).run actions).1.finishing)) := by
  refine ⟨Device.lifecycle_operateAll, fun config path rack actions k => ?_⟩
  have hid := Nat.le_add_right rack.sinks.length k
  have hdown : ∀ last ∈ [Action.detach, .reset], Lifecycle path
      (rack.eventsOf (rack.sinks.length + k)
        ((new config (.devices path) rack).trace (actions ++ [last]))) := by
    intro last hlast
    have heffects : ∀ rig : Rig, rig.trace [last] = rig.pads.flatMap Pad.releasing := by
      intro rig
      simp only [List.mem_cons, List.not_mem_nil, or_false] at hlast
      rcases hlast with rfl | rfl <;> exact List.append_nil _
    rw [trace_append, heffects]
    refine lifecycle_of_dropped config path rack actions ?_ ?_ hid
    · exact fun sink howns => (drop_mem_of_owns howns).1
    · exact fun sink => added_not_mem_effects _ (by decide : Action.detach ≠ .attach) sink
  refine ⟨hdown _ (by simp), hdown _ (by simp), ?_⟩
  refine lifecycle_of_dropped config path rack actions ?_ ?_ hid
  · exact fun sink howns => (drop_mem_of_owns howns).2
  · intro sink hmem
    obtain ⟨pad, -, hin⟩ := List.mem_flatMap.mp hmem
    unfold Pad.dropping at hin
    split at hin
    · simp at hin
    · cases hin

end Rig

end VirtualTouchpad
