/-
# Where the host saw the last contact

A touchpad records the spot of every sample that it makes with a sink, and leaves a spot
out of a frame if it is the one on record.  The frame that ends a contact has no spot at
all, so the host goes on to see the contact where it was last pressed.

* `getLast?_reported_of_endedAt`: after a contact that ended elsewhere, the last spot that
  was reported is that of the contact;
* `reported_cases`: in any other case it is the spot on record, unless the first samples
  with the sink end a contact that was made without it;
* `lastSpot_of_ok`: both, for the calls that the sink of a touchpad gets.
-/
import Mathlib.Data.List.Induction
import VirtualTouchpad.Proofs.Touchpad.Contacts
import VirtualTouchpad.Proofs.Touchpad.History

namespace VirtualTouchpad

/-- The spot that a call reports a contact at. -/
def Call.spot? : Call → Option (Int32 × Int32)
  | .contact _ _ x y => some (x, y)
  | _ => none

/-- The spots that calls report contacts at. -/
def spots (calls : List Call) : List (Int32 × Int32) := calls.filterMap (·.spot?)

@[simp] theorem spots_append (calls later : List Call) :
    spots (calls ++ later) = spots calls ++ spots later :=
  List.filterMap_append

/-! ## Reported samples -/

/-- Whether a sample is left without a spot, by what is remembered: it ends a contact, or it
neither begins one nor moves. -/
def Sample.IsMute (pressed : Bool) (recorded : Option (Int32 × Int32)) (sample : Sample) : Prop :=
  pressed = true ∧ sample.pressed = false
    ∨ pressed = sample.pressed ∧ recorded = some sample.position

instance (pressed : Bool) (recorded : Option (Int32 × Int32)) (sample : Sample) :
    Decidable (sample.IsMute pressed recorded) :=
  inferInstanceAs (Decidable (_ ∨ _))

/-- The spots that are reported when samples follow each other. -/
def reported : Bool → Option (Int32 × Int32) → List Sample → List (Int32 × Int32)
  | _, _, [] => []
  | pressed, recorded, sample :: samples =>
    (if sample.IsMute pressed recorded then [] else [sample.position])
      ++ reported sample.pressed (some sample.position) samples

theorem reported_append (pressed : Bool) (recorded : Option (Int32 × Int32))
    (samples later : List Sample) :
    reported pressed recorded (samples ++ later)
      = reported pressed recorded samples
        ++ reported ((samples.getLast?.map (·.pressed)).getD pressed)
            (samples.getLast?.map (·.position) <|> recorded) later := by
  induction samples generalizing pressed recorded with
  | nil => simp [reported]
  | cons sample samples ih =>
    rw [List.cons_append, reported, reported, ih, List.append_assoc, List.getLast?_cons]
    cases samples.getLast? <;> rfl

/-- One sample more: it is reported unless it is mute after what the others leave on record. -/
theorem reported_concat (pressed : Bool) (recorded : Option (Int32 × Int32))
    (samples : List Sample) (sample : Sample) :
    reported pressed recorded (samples ++ [sample])
      = reported pressed recorded samples
        ++ if sample.IsMute ((samples.getLast?.map (·.pressed)).getD pressed)
            (samples.getLast?.map (·.position) <|> recorded) then [] else [sample.position] := by
  rw [reported_append, reported, reported, List.append_nil]

/-- With nothing on record at the start, what is remembered of a spot is the last sample. -/
theorem getLast?_of_recorded {pressed : Bool} {samples : List Sample} {sample : Sample}
    (hpressed : (samples.getLast?.map (·.pressed)).getD pressed = sample.pressed)
    (hrecorded : (samples.getLast?.map (·.position) <|> none) = some sample.position) :
    samples.getLast? = some sample := by
  cases hlast : samples.getLast? with
  | none => simp [hlast] at hrecorded
  | some last =>
    rw [hlast] at hpressed hrecorded
    obtain ⟨pressed, position⟩ := last
    cases sample
    simp_all

/-- A contact ended elsewhere: after a contact at the spot, all samples lie at one other spot, and
none of them is a contact. -/
def EndedAt (spot : Int32 × Int32) (samples : List Sample) : Prop :=
  ∃ earlier here n, spot ≠ here
    ∧ samples = earlier ++ ⟨true, spot⟩ :: List.replicate (n + 1) ⟨false, here⟩

/-- The last sample after a contact that ended is none. -/
theorem EndedAt.pressed_getLast? {spot : Int32 × Int32} {samples : List Sample}
    (h : EndedAt spot samples) : samples.getLast?.map (·.pressed) = some false := by
  obtain ⟨earlier, here, n, -, rfl⟩ := h
  simp [List.getLast?_cons, List.getLast?_replicate]

/-- Repeating the last sample does not make a contact end anew. -/
theorem EndedAt.concat {spot : Int32 × Int32} {samples : List Sample} {last : Sample}
    (h : EndedAt spot samples) (hlast : samples.getLast? = some last) :
    EndedAt spot (samples ++ [last]) := by
  obtain ⟨earlier, here, n, hne, rfl⟩ := h
  obtain rfl : (⟨false, here⟩ : Sample) = last := by
    simpa [List.getLast?_cons, List.getLast?_replicate] using hlast
  refine ⟨earlier, here, n + 1, hne, ?_⟩
  rw [List.append_assoc, List.cons_append, ← List.replicate_succ']

/-- While a contact lasts, its spot is the last one reported. -/
theorem getLast?_reported_of_pressed (pressed : Bool) {samples : List Sample}
    {spot : Int32 × Int32} (h : samples.getLast? = some ⟨true, spot⟩) :
    (reported pressed none samples).getLast? = some spot := by
  induction samples using List.reverseRecOn with
  | nil => cases h
  | append_singleton samples sample ih =>
    obtain rfl : sample = ⟨true, spot⟩ := by simpa using h
    rw [reported_concat]
    split
    · next hmute =>
      -- The sample before was a contact at the same spot.
      have hlast : samples.getLast? = some ⟨true, spot⟩ := by
        rcases hmute with ⟨-, hended⟩ | ⟨hpressed, hrecorded⟩
        · cases hended
        · exact getLast?_of_recorded hpressed hrecorded
      rw [List.append_nil, ih hlast]
    · rw [List.getLast?_concat]

/-- Samples at the recorded spot without contact report nothing. -/
theorem reported_replicate (n : Nat) (here : Int32 × Int32) :
    reported false (some here) (List.replicate n ⟨false, here⟩) = [] := by
  induction n with
  | zero => rfl
  | succ n ih => simp [List.replicate_succ, reported, Sample.IsMute, ih]

/-- After a contact that ended elsewhere, the last spot reported is that of the contact. -/
theorem getLast?_reported_of_endedAt (pressed : Bool) {samples : List Sample}
    {spot : Int32 × Int32} (h : EndedAt spot samples) :
    (reported pressed none samples).getLast? = some spot := by
  obtain ⟨earlier, here, n, -, rfl⟩ := h
  have hcontact : (earlier ++ [Sample.mk true spot]).getLast? = some ⟨true, spot⟩ :=
    List.getLast?_concat
  have hsplit : earlier ++ ⟨true, spot⟩ :: List.replicate (n + 1) ⟨false, here⟩
      = (earlier ++ [Sample.mk true spot]) ++ ⟨false, here⟩ :: List.replicate n ⟨false, here⟩ := by
    rw [List.replicate_succ, List.append_assoc, List.singleton_append]
  have hend : (Sample.mk false here).IsMute true (some spot) := Or.inl ⟨rfl, rfl⟩
  have hnothing : reported true (some spot) (⟨false, here⟩ :: List.replicate n ⟨false, here⟩)
      = [] := by
    rw [reported, if_pos hend, reported_replicate, List.append_nil]
  rw [hsplit, reported_append, hcontact]
  change (_ ++ reported true (some spot) _).getLast? = _
  rw [hnothing, List.append_nil]
  exact getLast?_reported_of_pressed pressed hcontact

/-- **The last spot reported** is that of the last sample, unless a contact ended elsewhere, or all
samples lie at one spot without contact after a contact that has no spot on record. -/
theorem reported_cases (pressed : Bool) {samples : List Sample} {last : Sample}
    (h : samples.getLast? = some last) :
    (reported pressed none samples).getLast? = some last.position
      ∨ (∃ spot, EndedAt spot samples)
      ∨ (pressed = true ∧ ∀ sample ∈ samples, sample = ⟨false, last.position⟩) := by
  induction samples using List.reverseRecOn generalizing last with
  | nil => cases h
  | append_singleton samples sample ih =>
    obtain rfl : sample = last := by simpa using h
    rw [reported_concat]
    split
    · next hmute =>
      rw [List.append_nil]
      rcases hmute with ⟨hpressed, hended⟩ | ⟨hpressed, hrecorded⟩
      · -- The sample ends a contact: one of these samples, or one that was there before.
        obtain ⟨touching, here⟩ := sample
        obtain rfl : touching = false := hended
        cases hlast : samples.getLast? with
        | none =>
          obtain rfl := List.getLast?_eq_none_iff.mp hlast
          exact Or.inr (Or.inr ⟨hpressed, fun s hs => List.mem_singleton.mp hs⟩)
        | some contact =>
          obtain ⟨touched, spot⟩ := contact
          obtain rfl : touched = true := by simpa [hlast] using hpressed
          by_cases hsame : spot = here
          · exact Or.inl (hsame ▸ getLast?_reported_of_pressed pressed hlast)
          · obtain ⟨earlier, rfl⟩ := List.getLast?_eq_some_iff.mp hlast
            exact Or.inr (Or.inl ⟨spot, earlier, here, 0, hsame, by simp⟩)
      · -- The sample repeats the one before.
        have hlast := getLast?_of_recorded hpressed hrecorded
        rcases ih hlast with hreported | ⟨spot, hended⟩ | ⟨hstart, hall⟩
        · exact Or.inl hreported
        · exact Or.inr (Or.inl ⟨spot, hended.concat hlast⟩)
        · refine Or.inr (Or.inr ⟨hstart, fun s hs => ?_⟩)
          rcases List.mem_append.mp hs with hs | hs
          · exact hall s hs
          · rw [List.mem_singleton.mp hs]
            exact hall sample (List.mem_of_getLast? hlast)
    · rw [List.getLast?_concat]
      exact Or.inl rfl

/-! ## Frames -/

theorem spot?_of_bracket (config : Config) (name : String) :
    ∀ call ∈ Rig.bracket config name, call.spot? = none := by
  simp [Rig.bracket, Call.spot?]

/-- The frame of a touch has the spot of the sample, unless that is mute. -/
theorem spots_touchFrame (pad : Pad) (sample : Sample) :
    spots ({ pad with contact := pad.contact.next sample.pressed }.touchFrame sample.position)
      = reported pad.contact.isPressed pad.position [sample] := by
  obtain ⟨sink, recorded, contact, buttons⟩ := pad
  obtain ⟨pressed, here⟩ := sample
  cases contact <;> cases pressed <;>
    simp [Contact.next, Contact.isPressed, Pad.touchFrame, reported, Sample.IsMute, spots,
      Call.spot?]
  all_goals split <;> rfl

/-- What a touchpad makes of an action has the spot of the sample that it makes of it, if any. -/
theorem spots_frame? (pad : Pad) (config : Config) {action : Action} {id : Nat}
    (h : action.addressee? = some id) :
    spots ((pad.frame? config action).getD [])
      = reported pad.contact.isPressed pad.position (action.touchOn? config id).toList := by
  cases action with
  | attach | detach | reset => cases h
  | lend => rfl
  | buttons i mask =>
    simp only [Pad.frame?, Pad.buttonFrame, Action.touchOn?]
    split
    · rw [Option.getD_some]
      split <;> rfl
    · rfl
  | scroll i x y =>
    simp only [Pad.frame?, scrollFrame, Action.touchOn?]
    split
    · rw [Option.getD_some]
      by_cases hx : x.detents = 0 <;> by_cases hy : y.detents = 0 <;>
        simp [hx, hy, spots, Call.spot?, reported]
    · rfl
  | touch i x y pressure =>
    obtain rfl : i = id := Option.some.inj h
    simp only [Pad.frame?, Action.touchOn?, true_and]
    split
    · exact spots_touchFrame pad ⟨_, _, _⟩
    · rfl

namespace Rig

/-- **One step**: unless it is taken away, the sink of a touchpad gets the spots that are reported
for the sample that the touchpad makes of the action. -/
theorem spots_effects {rig : Rig} (h : rig.Tidy) {id : Nat} {sink : SinkId}
    (hsink : rig.sinkAt? id = some sink) {pad : Pad} (hpad : rig.pads[id]? = some pad)
    {action : Action} (hkept : action ≠ .detach ∧ action ≠ .reset) :
    spots (received sink (rig.effects action))
      = reported pad.contact.isPressed pad.position
          (action.touchOn? rig.config id).toList := by
  rw [spots, filterMap_received_effects spot?_of_bracket h hsink hpad hkept]
  split
  · next haddressee => exact spots_frame? pad rig.config haddressee
  · next hother => rw [Action.touchOn?_of_addressee hother]; rfl

/-- **A whole run**: as long as a touchpad keeps its sink, that gets the spots that are reported
for the touchpad's samples, from what the touchpad remembers at the start. -/
theorem spots_trace {rig : Rig} (h : rig.Tidy) {id : Nat} {sink : SinkId}
    (hsink : rig.sinkAt? id = some sink) {pad : Pad} (hpad : rig.pads[id]? = some pad)
    {actions : List Action} (hkept : ∀ action ∈ actions, action ≠ .detach ∧ action ≠ .reset)
    (horderly : rig.Keeps Orderly actions) :
    spots (received sink (rig.trace actions))
      = reported pad.contact.isPressed pad.position
          (actions.filterMap (Action.touchOn? rig.config id)) := by
  induction actions generalizing rig pad with
  | nil => rfl
  | cons action actions ih =>
    have hhead := hkept action List.mem_cons_self
    have hlater := ih (h.act horderly.1) (sinkAt?_kept hsink hhead horderly.1)
      (pad_act hpad action) (fun later hmem => hkept later (List.mem_cons_of_mem _ hmem)) horderly.2
    have hdown : action.isDown = false := Action.isDown_eq_false_iff.mpr hhead
    have hheld : pad.sink.isSome := isSome_sink_of_sinkAt? hsink hpad
    -- What is reported of the rest goes on from what the touchpad remembers after this action.
    rw [config_act, Pad.contact_after pad _ _ _ hdown, Pad.position_after pad _ _ _ hdown,
      if_pos hheld] at hlater
    rw [trace, received_append, spots_append, spots_effects h hsink hpad hhead, hlater,
      List.filterMap_cons]
    cases hsample : action.touchOn? rig.config id with
    | none => rfl
    | some sample =>
      simp only [Option.map_some, Option.getD_some, Option.toList_some, Contact.isPressed_next]
      exact (reported_append pad.contact.isPressed pad.position [sample] _).symm

/-! ## The last spot -/

theorem inside_of_checkRange {axis range : String} {value : Single} {inside : Single → Bool}
    (h : checkRange axis value inside range = .ok ()) : inside value = true := by
  unfold checkRange at h
  split at h
  · assumption
  · cases h

/-- A touch that is accepted lies on the surface, and its touchpad has a sink. -/
theorem accepted_touch {rig : Rig} {id : Nat} {x y pressure : Single}
    (hok : (rig.act (.touch id x y pressure)).2 = .ok ()) :
    ∃ pad, rig.pads[id]? = some pad ∧ pad.sink.isSome ∧ x.isPosition ∧ y.isPosition := by
  simp only [act, touch] at hok
  split at hok
  · cases hok
  · next pad hpad =>
    split at hok
    · cases hok
    · cases hok
    · next hx hy =>
      split at hok
      · cases hok
      · next hsink =>
        exact ⟨pad, hpad, by rw [hsink]; rfl, inside_of_checkRange hx, inside_of_checkRange hy⟩

/-- What the sink of a touchpad gets since the touchpad has it: the spots that are reported for the
touchpad's samples, with no spot on record at the start. -/
theorem spots_tenure (config : Config) (factory : Factory) (rack : Rack) {before : List Action}
    {gain : Action} {during : List Action} {id : Nat} {sink : SinkId}
    (horderly : (new config factory rack).Keeps Orderly (before ++ gain :: during))
    (htenure : ((new config factory rack).run before).1.Tenure id sink gain during) :
    spots (received sink (((new config factory rack).run before).1.trace (gain :: during)))
      = reported (pressedAfter id before) none
          (during.filterMap (Action.touchOn? config.clamped id)) := by
  obtain ⟨hbefore, hgain, hduring⟩ := (keeps_append _ _ _ _).mp horderly
  have htidy := (tidy_new config factory rack).run hbefore
  have hgains := attach_or_lend htenure.without htenure.gained
  obtain ⟨pad, ownership, hpad, -⟩ := sinkAt?_eq_some_iff.mp htenure.gained
  have htracked : ∃ old, ((new config factory rack).run before).1.pads[id]? = some old
      ∧ pad.tracked = (old.contact, none, 0) := by
    have hnone := htenure.without
    rw [← steps_map_call] at hnone hpad ⊢
    exact forgotten_of_gain hnone hgains hpad
  obtain ⟨old, hold, htracked⟩ := htracked
  obtain ⟨hcontact, hposition⟩ : pad.contact = old.contact ∧ pad.position = none :=
    ⟨congrArg (·.1) htracked, congrArg (·.2.1) htracked⟩
  have hspots := spots_trace (htidy.act hgain) htenure.gained hpad htenure.kept hduring
  rw [hcontact, isPressed_run_new hold, hposition, config_act, config_run] at hspots
  rw [trace, received_append, spots_append, hspots, spots,
    filterMap_received_gain spot?_of_bracket _ _ hgains, List.nil_append]
  rfl

/-- **The host has the spot of every accepted touch**, unless the touch leaves a contact ended
elsewhere: then it has the spot of the contact.  Nothing is said of a sink that a touchpad gets
during a contact and that has only got the end of the contact, and hovering at its spot. -/
theorem lastSpot_of_ok (config : Config) (factory : Factory) (rack : Rack)
    {before : List Action} {gain : Action} {during : List Action} {id : Nat} {sink : SinkId}
    {x y pressure : Single}
    (horderly : (new config factory rack).Keeps Orderly (before ++ gain :: during))
    (htenure : ((new config factory rack).run before).1.Tenure id sink gain during)
    (hok : (((new config factory rack).run (before ++ gain :: during)).1.act
      (.touch id x y pressure)).2 = .ok ()) :
    let actions := during ++ [.touch id x y pressure]
    let here := (x.coordinate config.clamped.width, y.coordinate config.clamped.height)
    let samples := actions.filterMap (Action.touchOn? config.clamped id)
    let last := (spots (received sink
      (((new config factory rack).run before).1.trace (gain :: actions)))).getLast?
    ((new config factory rack).run (before ++ gain :: actions)).1.pads[id]?.bind Pad.position
        = some here
      ∧ (∀ spot, EndedAt spot samples → last = some spot)
      ∧ ((¬ ∃ spot, EndedAt spot samples) →
          ¬ (pressedAfter id before = true ∧ ∀ sample ∈ samples, sample = ⟨false, here⟩) →
          last = some here) := by
  intro actions here samples last
  have hsplit : before ++ gain :: actions
      = (before ++ gain :: during) ++ [.touch id x y pressure] := by simp [actions]
  obtain ⟨pad, hpad, hsink, hx, hy⟩ := accepted_touch hok
  have hlast : samples.getLast? = some ⟨pressure.isPositive, here⟩ := by
    simp [samples, actions, here, Action.touchOn?, hx, hy]
  have hspots : last = (reported (pressedAfter id before) none samples).getLast? := by
    refine congrArg List.getLast? (spots_tenure config factory rack ?_
      (htenure.concat ⟨by simp, by simp⟩))
    rw [hsplit, keeps_append]
    exact ⟨horderly, trivial, trivial⟩
  refine ⟨?_, fun spot hended => ?_, fun hended hbegun => ?_⟩
  · rw [hsplit, run_append_fst, run_cons_fst]
    have hconfig : ((new config factory rack).run (before ++ gain :: during)).1.config
        = config.clamped := config_run _ _
    show (Rig.act _ _).1.pads[id]?.bind Pad.position = _
    rw [pad_act hpad, hconfig]
    simp [Pad.after, hx, hy, hsink, here]
  · rw [hspots]
    exact getLast?_reported_of_endedAt _ hended
  · rw [hspots]
    rcases reported_cases (pressedAfter id before) hlast with h | h | h
    · exact h
    · exact absurd h hended
    · exact absurd h hbegun

/-- A contact that moves: the host has the spot that it moved to. -/
theorem lastSpot_of_ok_move :
    let half : Single := ⟨0x3F000000⟩
    let during := [Action.touch 0 .zero .zero .one]
    (spots (received 0 (((new .standard (.recorders []) ⟨[], .new []⟩).run []).1.trace
        (.attach :: (during ++ [.touch 0 half .zero .one]))))).getLast?
      = some (half.coordinate Config.standard.width, 0) := by
  intro half during
  have horderly : (new .standard (.recorders []) ⟨[], .new []⟩).Keeps Orderly
      ([] ++ .attach :: during) := ⟨trivial, trivial, trivial⟩
  have htenure : ((new .standard (.recorders []) ⟨[], .new []⟩).run []).1.Tenure 0 0 .attach
      during := ⟨by decide, by decide +kernel, by decide +kernel⟩
  have hok : (((new .standard (.recorders []) ⟨[], .new []⟩).run ([] ++ .attach :: during)).1.act
      (.touch 0 half .zero .one)).2 = .ok () := by decide +kernel
  obtain ⟨-, -, hsent⟩ := lastSpot_of_ok .standard (.recorders []) ⟨[], .new []⟩ horderly
    htenure hok
  refine (hsent ?_ (by decide +kernel)).trans (by decide +kernel)
  rintro ⟨spot, hended⟩
  exact absurd hended.pressed_getLast? (by decide +kernel)

/-- A contact that ends elsewhere: what is on record is a spot that the host does not have. -/
theorem not_lastSpot_lifted_elsewhere :
    let half : Single := ⟨0x3F000000⟩
    let rig := new .standard (.recorders []) ⟨[], .new []⟩
    let during := [Action.touch 0 .zero .zero .one]
    let lift := Action.touch 0 half half .zero
    rig.Keeps Orderly ([] ++ .attach :: during)
      ∧ (rig.run []).1.Tenure 0 0 .attach during
      ∧ ((rig.run ([] ++ .attach :: during)).1.act lift).2 = .ok ()
      ∧ (spots (received 0 ((rig.run []).1.trace (.attach :: (during ++ [lift]))))).getLast?
        ≠ (rig.run (.attach :: (during ++ [lift]))).1.pads[0]?.bind Pad.position := by
  intro half rig during lift
  refine ⟨⟨trivial, trivial, trivial⟩, ⟨by decide, by decide +kernel, by decide +kernel⟩, ?_, ?_⟩
  · decide +kernel
  · decide +kernel

end Rig

end VirtualTouchpad
