/-
# One frame for each sample

A sample is a whole frame for the sink of the touchpad that it names, or nothing, and it is
nothing for all other sinks (`framed_sampling`).  All other actions send no reports and end
no frame (`unreported_effects`).

So a sink that only a rig gives reports has an empty frame before and after each action,
whatever became of its writes, whoever holds it, and whether it is closed (`clearAt_act`);
and each write on its device offers the encoding of a single sample.
-/
import VirtualTouchpad.Proofs.Sink.Offers
import VirtualTouchpad.Proofs.Touchpad.Lifecycle
import VirtualTouchpad.Proofs.Touchpad.Mirror
import VirtualTouchpad.Proofs.Touchpad.Steps

namespace VirtualTouchpad

/-! ## Frames of samples -/

/-- Reports that are fit for a device are a whole frame with one end after them. -/
theorem framed_concat {reports : List Call} (hsome : reports ≠ [])
    (hreports : ∀ call ∈ reports, call.IsReport)
    (hsamples : ∀ call ∈ reports ++ [.synReport], call.IsSample) :
    Framed (reports ++ [.synReport]) := by
  refine Or.inr ⟨reports, hsome, fun call hmem => ⟨hreports call hmem, ?_⟩, rfl⟩
  rcases hsamples call (List.mem_append_left _ hmem) with rfl | ⟨-, hrange⟩
  · exact (hreports _ hmem).elim
  · exact hrange

theorem framed_touchFrame (pad : Pad) (position : Int32 × Int32) :
    Framed (pad.touchFrame position) := by
  have hsamples : ∀ call ∈ pad.touchFrame position, call.IsSample :=
    fun call => isSample_touchFrame
  let moved := Call.contact touchSlot touchTracking position.1 position.2
  simp only [Pad.touchFrame] at hsamples ⊢
  cases hcontact : pad.contact with
  | hovering | continuing =>
    simp only [hcontact] at hsamples ⊢
    split
    · exact Or.inl rfl
    · next hmoved =>
      rw [if_neg hmoved] at hsamples
      have hreports : ∀ call ∈ [moved], call.IsReport := by simp [moved, Call.IsReport]
      exact framed_concat (by simp) hreports hsamples
  | starting =>
    simp only [hcontact] at hsamples ⊢
    have hreports : ∀ call ∈ [moved, .key KeyCode.touch .press], call.IsReport := by
      simp [moved, Call.IsReport]
    exact framed_concat (by simp) hreports hsamples
  | ending =>
    simp only [hcontact] at hsamples ⊢
    have hreports : ∀ call ∈ [Call.key KeyCode.touch .release, .lift touchSlot],
        call.IsReport := by simp [Call.IsReport]
    exact framed_concat (by simp) hreports hsamples

theorem framed_buttonFrame (pad : Pad) (mask : UInt32) : Framed (pad.buttonFrame mask) := by
  have hsamples : ∀ call ∈ pad.buttonFrame mask, call.IsSample := fun call => isSample_buttonFrame
  unfold Pad.buttonFrame at hsamples ⊢
  split
  · next hchanged =>
    rw [if_pos hchanged] at hsamples
    have hreports : ∀ call ∈ [Call.key KeyCode.back (.ofBool (mask &&& backButton ≠ 0))],
        call.IsReport := by simp [Call.IsReport]
    exact framed_concat (by simp) hreports hsamples
  · exact Or.inl rfl

theorem framed_scrollFrame (x y : Int32) : Framed (scrollFrame x y) := by
  have hsamples : ∀ call ∈ scrollFrame x y, call.IsSample := fun call => isSample_scrollFrame
  have hreports : ∀ call ∈ (if x = 0 then [] else [Call.rel RelAxis.horizontalWheel x])
      ++ (if y = 0 then [] else [Call.rel RelAxis.wheel y]), call.IsReport := by
    by_cases hx : x = 0 <;> by_cases hy : y = 0 <;> simp [hx, hy, Call.IsReport]
  rw [scrollFrame] at hsamples ⊢
  by_cases hnone : (if x = 0 then [] else [Call.rel RelAxis.horizontalWheel x])
      ++ (if y = 0 then [] else [Call.rel RelAxis.wheel y]) = []
  · rw [if_pos hnone]
    exact Or.inl rfl
  · rw [if_neg hnone] at hsamples ⊢
    exact framed_concat hnone hreports hsamples

/-- What a touchpad makes of a sample is a whole frame. -/
theorem framed_frame? {pad : Pad} {config : Config} {action : Action} {frame : List Call}
    (h : pad.frame? config action = some frame) : Framed frame := by
  cases action with
  | attach | detach | reset | lend => cases h
  | touch id x y pressure =>
    simp only [Pad.frame?] at h
    split at h
    · exact Option.some.inj h ▸ framed_touchFrame _ _
    · cases h
  | buttons id mask =>
    simp only [Pad.frame?] at h
    split at h
    · exact Option.some.inj h ▸ framed_buttonFrame _ _
    · cases h
  | scroll id x y =>
    simp only [Pad.frame?] at h
    split at h
    · exact Option.some.inj h ▸ framed_scrollFrame _ _
    · cases h

/-- Whether an action is a sample for a touchpad. -/
def Action.IsSampling : Action → Prop
  | .touch .. | .buttons .. | .scroll .. => True
  | _ => False

namespace Rig

/-! ## What sinks get -/

/-- **A sample** drives the sink of the touchpad that it names, with a whole frame, or does nothing
to any sink. -/
theorem effects_sampling (rig : Rig) {action : Action} (h : action.IsSampling) :
    rig.effects action = []
      ∨ ∃ id sink frame, action.addressee? = some id ∧ rig.sinkAt? id = some sink ∧ Framed frame
        ∧ rig.effects action = driving sink frame := by
  have hsampling : ∀ id sample, rig.sampling id sample = []
      ∨ ∃ sink frame, rig.sinkAt? id = some sink ∧ Framed frame
        ∧ rig.sampling id sample = driving sink frame := by
    intro id sample
    unfold sampling
    split
    · exact Or.inl rfl
    · next pad hpad =>
      split
      · next ownership sink frame hsink hframe =>
        exact Or.inr ⟨sink, frame, sinkAt?_eq_some_iff.mpr ⟨pad, ownership, hpad, hsink⟩,
          framed_frame? hframe, rfl⟩
      · exact Or.inl rfl
  cases action with
  | attach | detach | reset | lend => exact h.elim
  | touch id x y pressure =>
    exact (hsampling id _).imp_right fun ⟨sink, frame, h⟩ => ⟨id, sink, frame, rfl, h⟩
  | buttons id mask =>
    exact (hsampling id _).imp_right fun ⟨sink, frame, h⟩ => ⟨id, sink, frame, rfl, h⟩
  | scroll id x y =>
    exact (hsampling id _).imp_right fun ⟨sink, frame, h⟩ => ⟨id, sink, frame, rfl, h⟩

/-- What a sink gets from a sample is a whole frame, and nothing unless the touchpad that the sample
names holds the sink. -/
theorem framed_sampling (rig : Rig) {action : Action} (h : action.IsSampling) (sink : SinkId) :
    Framed (received sink (rig.effects action))
      ∧ (received sink (rig.effects action) ≠ [] →
          ∃ id, action.addressee? = some id ∧ rig.sinkAt? id = some sink) := by
  rcases effects_sampling rig h with hnone | ⟨id, held, frame, hid, hheld, hframed, heffects⟩
  · rw [hnone]
    exact ⟨Or.inl rfl, fun hsome => absurd rfl hsome⟩
  · rw [heffects]
    by_cases hsame : held = sink
    · subst hsame
      rw [received_driving_self]
      exact ⟨hframed, fun _ => ⟨id, hid, hheld⟩⟩
    · rw [received_driving_of_ne hsame]
      exact ⟨Or.inl rfl, fun hsome => absurd rfl hsome⟩

/-- A sink that is given back is closed, and gets no other call. -/
theorem received_releasing {pad : Pad} {sink : SinkId} {call : Call}
    (h : call ∈ received sink pad.releasing) : call = .close := by
  unfold Pad.releasing at h
  split at h
  · cases h
  · obtain ⟨effect, heffect, hcall⟩ := List.mem_filterMap.mp h
    rcases List.mem_cons.mp heffect with rfl | hdropping
    · simp only [Effect.callOn?] at hcall
      split at hcall
      · exact (Option.some.inj hcall).symm
      · cases hcall
    · have hmem : call ∈ received sink pad.dropping :=
        List.mem_filterMap.mpr ⟨effect, hdropping, hcall⟩
      rw [received_dropping] at hmem
      cases hmem

/-- **All other actions** send no sink a report or the end of a frame. -/
theorem unreported_effects (rig : Rig) {action : Action} (h : ¬ action.IsSampling) (sink : SinkId) :
    ∀ call ∈ received sink (rig.effects action), ¬ call.IsReport ∧ call ≠ .synReport := by
  cases action with
  | touch | buttons | scroll => exact absurd trivial h
  | attach =>
    intro call hmem
    obtain ⟨name, hname⟩ := mem_received_attachingEach hmem
    simp only [bracket, List.mem_cons, List.not_mem_nil, or_false] at hname
    rcases hname with rfl | rfl | rfl | rfl | rfl | rfl | rfl | rfl | rfl <;>
      exact ⟨id, by simp⟩
  | lend id s =>
    rw [effects]
    cases rig.pads[id]? with
    | none => simp
    | some pad =>
      rw [Option.map_some, Option.getD_some, received_dropping]
      simp
  | detach | reset =>
    intro call hmem
    obtain ⟨effect, heffect, hcall⟩ := List.mem_filterMap.mp hmem
    obtain ⟨pad, -, hreleasing⟩ := List.mem_flatMap.mp heffect
    rw [received_releasing (List.mem_filterMap.mpr ⟨effect, hreleasing, hcall⟩)]
    exact ⟨id, by simp⟩

/-! ## Clear sinks -/

/-- A factory makes clear sinks. -/
theorem isClear_make (factory : Factory) : factory.make.2.IsClear := by
  cases factory with
  | recorders failures => trivial
  | devices path => rfl

/-- An action that is no sample spares the frames of all sinks. -/
theorem spares_effects (rig : Rig) {action : Action} (h : ¬ action.IsSampling) (sink : SinkId) :
    ∀ effect ∈ rig.effects action, effect.Spares sink := by
  intro effect hmem
  cases effect with
  | added made =>
    by_cases hattach : action = .attach
    · subst hattach
      obtain ⟨factory, -, rfl⟩ := made_of_added (fun _ (_ : True) => trivial) trivial hmem
      exact isClear_make factory
    · exact absurd hmem (added_not_mem_effects rig hattach made)
  | done other operation =>
    cases operation with
    | reset | drop => trivial
    | call call =>
      rintro rfl
      have hreceived : call ∈ received other (rig.effects action) :=
        List.mem_filterMap.mpr ⟨_, hmem, if_pos rfl⟩
      exact (unreported_effects rig h other call hreceived).1

/-- **One action**: a clear sink stays clear, and is offered the encoding of a sample's frame, or
nothing. -/
theorem clearAt_act {rig : Rig} {sink : SinkId} (h : rig.rack.ClearAt sink) (action : Action) :
    (rig.act action).1.rack.ClearAt sink
      ∧ ((∀ event ∈ rig.rack.eventsOf sink (rig.effects action), event.isWrite = false)
        ∨ ∃ d n bytes, rig.rack.sinks[sink]? = some (.device d) ∧ d.node = some n
          ∧ action.IsSampling ∧ encoding d.slot (received sink (rig.effects action)) = [bytes]
          ∧ rig.rack.eventsOf sink (rig.effects action) ≠ []
          ∧ Offers n bytes (rig.rack.eventsOf sink (rig.effects action))) := by
  rw [rack_act]
  by_cases hsampling : action.IsSampling
  · rcases effects_sampling rig hsampling with hnone | ⟨id, held, frame, -, -, hframed, heffects⟩
    · rw [hnone]
      exact ⟨h, Or.inl (by simp [Rack.eventsOf])⟩
    · rw [heffects]
      by_cases hsame : held = sink
      · subst hsame
        rw [received_driving_self]
        obtain ⟨hclear, hoffered⟩ := h.whole_frame hframed
        refine ⟨hclear, hoffered.imp_right ?_⟩
        rintro ⟨d, n, bytes, hd, hnode, hoffers⟩
        exact ⟨d, n, bytes, hd, hnode, hsampling, hoffers⟩
      · -- Another sink is driven.
        have htarget : ∀ effect ∈ driving held frame, effect.target? = some held :=
          fun effect => Rack.target?_of_mem_driving
        refine ⟨h.performAll fun effect hmem => ?_, Or.inl (Rack.not_write_eventsOf fun hmem => ?_)⟩
        · exact Effect.spares_of_target (htarget effect hmem) hsame
        · exact hsame (Option.some.inj (htarget _ hmem)).symm
  · refine ⟨h.performAll (spares_effects rig hsampling sink), Or.inl ?_⟩
    refine Rack.not_write_eventsOf fun hmem => ?_
    have hreceived : .synReport ∈ received sink (rig.effects action) :=
      List.mem_filterMap.mpr ⟨_, hmem, if_pos rfl⟩
    exact (unreported_effects rig hsampling sink _ hreceived).2 rfl

/-- An order to a recorder leaves sinks as clear as they were. -/
theorem clearAt_order {rig : Rig} {sink : SinkId} (h : rig.rack.ClearAt sink) (other : SinkId)
    (failure : Option SinkError) : (rig.step (.order other failure)).rack.ClearAt sink := by
  intro held hheld
  by_cases hsame : other = sink
  · subst hsame
    cases hsink : rig.rack.sinks[other]? with
    | none =>
      have hlength : rig.rack.sinks.length ≤ other := List.getElem?_eq_none_iff.mp hsink
      rw [step, Rack.updateRecorder, Rack.update_of_length_le hlength] at hheld
      exact h held hheld
    | some before =>
      have hlt := (List.getElem?_eq_some_iff.mp hsink).1
      rw [step, Rack.updateRecorder, Rack.update_of_getElem? hsink, List.getElem?_set_self hlt]
        at hheld
      obtain rfl := Option.some.inj hheld
      cases before with
      | recorder r => trivial
      | device d => exact h _ hsink
  · rw [step, Rack.updateRecorder, Rack.getElem?_update_of_ne hsame] at hheld
    exact h held hheld

/-- **Any steps** leave a clear sink clear. -/
theorem clearAt_steps {rig : Rig} {sink : SinkId} (h : rig.rack.ClearAt sink) (steps : List Step) :
    (rig.steps steps).rack.ClearAt sink := by
  induction steps generalizing rig with
  | nil => exact h
  | cons step steps ih =>
    cases step with
    | call action => exact ih (clearAt_act h action).1
    | order other failure => exact ih (clearAt_order h other failure)

/-- **One frame for each sample**: whatever the state of a rig, a sample is a whole frame, or
nothing, for the sink of the touchpad that it names, and nothing for all other sinks; other
actions send no reports and end no frame.  So a sink that starts with an empty frame has an empty
one before and after each action, and is offered no more than the encodings of single samples. -/
theorem one_frame_each :
    (∀ (rig : Rig) (action : Action) (sink : SinkId),
      (rig.act action).1.rack = rig.rack.performAll (rig.effects action)
        ∧ (action.IsSampling → Framed (received sink (rig.effects action))
            ∧ (received sink (rig.effects action) ≠ [] →
              ∃ id, action.addressee? = some id ∧ rig.sinkAt? id = some sink))
        ∧ (¬ action.IsSampling → ∀ call ∈ received sink (rig.effects action),
            ¬ call.IsReport ∧ call ≠ .synReport))
    ∧ ∀ (config : Config) (factory : Factory) (rack : Rack) (steps : List Step) (action : Action)
        (sink : SinkId), rack.ClearAt sink →
      let rig := (new config factory rack).steps steps
      let events := rig.rack.eventsOf sink (rig.effects action)
      rig.rack.ClearAt sink ∧ (rig.act action).1.rack.ClearAt sink
        ∧ ((∀ event ∈ events, event.isWrite = false)
          ∨ ∃ d n bytes, rig.rack.sinks[sink]? = some (.device d) ∧ d.node = some n
            ∧ action.IsSampling ∧ encoding d.slot (received sink (rig.effects action)) = [bytes]
            ∧ events ≠ [] ∧ Offers n bytes events) := by
  refine ⟨fun rig action sink => ?_, fun config factory rack steps action sink hclear => ?_⟩
  · exact ⟨rack_act rig action, fun h => framed_sampling rig h sink,
      fun h => unreported_effects rig h sink⟩
  · have hbefore : ((new config factory rack).steps steps).rack.ClearAt sink :=
      clearAt_steps hclear steps
    obtain ⟨hafter, hoffered⟩ := clearAt_act hbefore action
    exact ⟨hbefore, hafter, hoffered⟩

/-- A lent device whose first write fails: its frame is empty again, and the next sample is offered
by itself. -/
theorem one_frame_each_lent :
    let rack : Rack := ⟨[.device (.new "/dev/uinput")], .new [⟨"write", 1, .fails 5⟩]⟩
    let steps := [Step.call (.lend 0 0), .call .attach, .call (.touch 0 .zero .zero .one)]
    let lift := Action.touch 0 .zero .zero .zero
    ((new .standard (.recorders []) rack).steps steps).rack.ClearAt 0
      ∧ Framed (received 0 (((new .standard (.recorders []) rack).steps steps).effects lift))
      ∧ ∃ n bytes, Offers n bytes
          (((new .standard (.recorders []) rack).steps steps).rack.eventsOf 0
            (((new .standard (.recorders []) rack).steps steps).effects lift)) := by
  intro rack steps lift
  have hclear : rack.ClearAt 0 := by
    intro sink hsink
    obtain rfl : Sink.device (.new "/dev/uinput") = sink := Option.some.inj hsink
    rfl
  have hwritten : (((new .standard (.recorders []) rack).steps steps).rack.eventsOf 0
      (((new .standard (.recorders []) rack).steps steps).effects lift)).any (·.isWrite)
        = true := by
    decide +kernel
  have hsampling : lift.IsSampling := trivial
  -- What the values are has been seen, and is not to be computed again.
  clear_value rack steps lift
  obtain ⟨heach, hclears⟩ := one_frame_each
  obtain ⟨-, hframed, -⟩ := heach ((new .standard (.recorders []) rack).steps steps) lift 0
  obtain ⟨hbefore, -, hnone | ⟨d, n, bytes, -, -, -, -, -, hoffers⟩⟩ :=
    hclears .standard (.recorders []) rack steps lift 0 hclear
  · obtain ⟨event, hmem, hwrite⟩ := List.any_eq_true.mp hwritten
    exact absurd hwrite (by simp [hnone event hmem])
  · exact ⟨hbefore, (hframed hsampling).1, n, bytes, hoffers⟩

end Rig

end VirtualTouchpad
