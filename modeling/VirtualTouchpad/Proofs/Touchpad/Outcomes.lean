/-
# What comes of samples

Samples are refused for their arguments first (`Rig.argumentFault?`), and then nothing is
changed.  A mask of buttons that is on record is accepted as it is.  Anything else needs a
sink, and then the outcome is the status of the sink after the frame.

* `outcome_act`: the outcome of a sample in any state whose buttons on record are supported;
* `act_buttons_iff`: the masks that are accepted without a call are those on record;
* `outcome_of_sample`: all of it, for the states that a new rig can get into;
* `refused_since_detach`: no sample but the empty mask gets past a detach.

The masks on record count: whether a mask repeats is asked before it is looked at, so an
unsupported one would be accepted if it were on record.  It never is.
-/
import Mathlib.Data.Nat.Bitwise
import VirtualTouchpad.Proofs.Numeric.Ranges
import VirtualTouchpad.Proofs.Touchpad.Frames
import VirtualTouchpad.Proofs.Touchpad.History

namespace VirtualTouchpad

/-! ## Masks -/

/-- There is one button, so the supported masks are two. -/
theorem supported_iff {mask : UInt32} :
    mask &&& ~~~supportedButtons = 0 ↔ mask = 0 ∨ mask = backButton := by
  constructor
  · intro h
    have hand : mask &&& backButton = mask := by
      have hsplit : mask.toBitVec &&& backButton.toBitVec
          ||| mask.toBitVec &&& ~~~backButton.toBitVec = mask.toBitVec := by
        rw [← BitVec.and_or_distrib_left, BitVec.or_not_self]
        exact BitVec.and_allOnes
      have hnone : mask.toBitVec &&& ~~~backButton.toBitVec = 0#32 := congrArg UInt32.toBitVec h
      rw [hnone, BitVec.or_zero] at hsplit
      exact UInt32.toBitVec_inj.mp hsplit
    have hvalue : (mask &&& backButton).toNat = (mask.toNat.testBit 3).toNat * 8 := by
      rw [UInt32.toNat_and]
      exact Nat.and_two_pow mask.toNat 3
    rw [hand] at hvalue
    cases hbit : mask.toNat.testBit 3 with
    | false => exact Or.inl (UInt32.toNat_inj.mp (by rw [hvalue, hbit]; rfl))
    | true => exact Or.inr (UInt32.toNat_inj.mp (by rw [hvalue, hbit]; rfl))
  · rintro (rfl | rfl)
    · rfl
    · rfl

/-- Another supported mask than the one on record makes a frame. -/
theorem buttonFrame_ne_nil {pad : Pad} {mask : UInt32}
    (hpad : pad.buttons &&& ~~~supportedButtons = 0) (hmask : mask &&& ~~~supportedButtons = 0)
    (hne : pad.buttons ≠ mask) : pad.buttonFrame mask ≠ [] := by
  have hchanged : (pad.buttons ^^^ mask) &&& backButton ≠ 0 := by
    rcases supported_iff.mp hpad with hpad | hpad <;> rcases supported_iff.mp hmask with hmask | hmask
    · exact absurd (hpad.trans hmask.symm) hne
    · rw [hpad, hmask]
      decide
    · rw [hpad, hmask]
      decide
    · exact absurd (hpad.trans hmask.symm) hne
  rw [Pad.buttonFrame, if_pos hchanged]
  exact List.cons_ne_nil _ _

namespace Rig

/-! ## Faults of arguments -/

/-- What is wrong with the arguments of an action: the first of a touchpad that there is not, an
axis out of its range, and a mask with other buttons than the supported ones. -/
def argumentFault? (rig : Rig) : Action → Option TouchpadFailure
  | .touch id x y _ =>
    if rig.pads.length ≤ id then some (.noSuchTouchpad id)
    else if ¬ x.InUnit then some (.outOfRange "x" x "[0, 1)")
    else if ¬ y.InUnit then some (.outOfRange "y" y "[0, 1)")
    else none
  | .buttons id mask =>
    if rig.pads.length ≤ id then some (.noSuchTouchpad id)
    else if mask &&& ~~~supportedButtons ≠ 0 then some (.unsupportedButtons mask)
    else none
  | .scroll id x y =>
    if rig.pads.length ≤ id then some (.noSuchTouchpad id)
    else if ¬ x.InSpan then some (.outOfRange "x" x "[-1, 1]")
    else if ¬ y.InSpan then some (.outOfRange "y" y "[-1, 1]")
    else none
  | .lend id _ => if rig.pads.length ≤ id then some (.noSuchTouchpad id) else none
  | .attach | .detach | .reset => none

/-- Whether an action is a mask of buttons that is on record. -/
def repeats (rig : Rig) : Action → Bool
  | .buttons id mask => rig.pads[id]?.map Pad.buttons = some mask
  | _ => false

/-- Whether the buttons on record are supported ones. -/
def Supported (rig : Rig) : Prop := ∀ pad ∈ rig.pads, pad.buttons &&& ~~~supportedButtons = 0

/-- So they are in the states that a new rig can get into. -/
theorem supported_steps (config : Config) (factory : Factory) (rack : Rack) (steps : List Step) :
    ((new config factory rack).steps steps).Supported := by
  intro pad hmem
  obtain ⟨i, hi⟩ := List.mem_iff_getElem?.mp hmem
  have hbuttons : pad.buttons
      = (Snapshot.ofHistory config.clamped i (sinceDown (actionsOf steps))).buttons :=
    congrArg Snapshot.buttons (snapshot_steps hi)
  rw [hbuttons]
  exact Snapshot.supported_buttons_ofHistory _ _ _

/-! ## Outcomes -/

/-- What comes of a sample whose arguments have no fault, by its touchpad, its sink and the rack
after it. -/
def outcomeAt (rig : Rig) (after : Rack) (id : Nat) (sample : Action) : Outcome :=
  if rig.repeats sample then .ok ()
  else
    match rig.sinkAt? id with
    | none => .error (.notAttached id)
    | some sink => outcome (after.status sink)

/-- A frame comes to the status of its sink after it. -/
theorem sendFrame_snd (rig : Rig) (id : Nat) (pad : Pad) (sink : SinkId) (frame : List Call) :
    (rig.sendFrame id pad sink frame).2
      = outcome ((rig.sendFrame id pad sink frame).1.rack.status sink) := rfl

section Outcome

variable {rig : Rig} {id : Nat}

theorem outcome_touch (x y pressure : Single) :
    (rig.touch id x y pressure).2
      = match rig.argumentFault? (.touch id x y pressure) with
        | some fault => .error fault
        | none =>
          rig.outcomeAt (rig.touch id x y pressure).1.rack id (.touch id x y pressure) := by
  cases hpad : rig.pads[id]? with
  | none =>
    have hout : rig.pads.length ≤ id := List.getElem?_eq_none_iff.mp hpad
    simp [touch, argumentFault?, hout]
  | some pad =>
    have hin : ¬ rig.pads.length ≤ id := Nat.not_le.mpr (List.getElem?_eq_some_iff.mp hpad).1
    simp only [argumentFault?, if_neg hin, ← Single.isPosition_iff]
    by_cases hx : x.isPosition = true
    · by_cases hy : y.isPosition = true
      · cases hsink : pad.sink with
        | none => simp [touch, checkRange, outcomeAt, repeats, sinkAt?, hpad, hx, hy, hsink]
        | some held =>
          simp [touch, checkRange, outcomeAt, repeats, sinkAt?, hpad, hx, hy, hsink, sendFrame_snd]
      · simp [touch, checkRange, hpad, hx, hy]
    · simp [touch, checkRange, hpad, hx]

theorem outcome_scroll (x y : Single) :
    (rig.scroll id x y).2
      = match rig.argumentFault? (.scroll id x y) with
        | some fault => .error fault
        | none => rig.outcomeAt (rig.scroll id x y).1.rack id (.scroll id x y) := by
  cases hpad : rig.pads[id]? with
  | none =>
    have hout : rig.pads.length ≤ id := List.getElem?_eq_none_iff.mp hpad
    simp [scroll, argumentFault?, hout]
  | some pad =>
    have hin : ¬ rig.pads.length ≤ id := Nat.not_le.mpr (List.getElem?_eq_some_iff.mp hpad).1
    simp only [argumentFault?, if_neg hin, ← Single.isScrollAmount_iff]
    by_cases hx : x.isScrollAmount = true
    · by_cases hy : y.isScrollAmount = true
      · cases hsink : pad.sink with
        | none => simp [scroll, checkRange, outcomeAt, repeats, sinkAt?, hpad, hx, hy, hsink]
        | some held =>
          simp [scroll, checkRange, outcomeAt, repeats, sinkAt?, hpad, hx, hy, hsink, sendFrame_snd]
      · simp [scroll, checkRange, hpad, hx, hy]
    · simp [scroll, checkRange, hpad, hx]

theorem outcome_buttonState (hsupported : rig.Supported) (mask : UInt32) :
    (rig.buttonState id mask).2
      = match rig.argumentFault? (.buttons id mask) with
        | some fault => .error fault
        | none => rig.outcomeAt (rig.buttonState id mask).1.rack id (.buttons id mask) := by
  cases hpad : rig.pads[id]? with
  | none =>
    have hout : rig.pads.length ≤ id := List.getElem?_eq_none_iff.mp hpad
    simp [buttonState, argumentFault?, hout]
  | some pad =>
    have hin : ¬ rig.pads.length ≤ id := Nat.not_le.mpr (List.getElem?_eq_some_iff.mp hpad).1
    have hpads := hsupported pad (List.mem_of_getElem? hpad)
    simp only [argumentFault?, if_neg hin]
    by_cases hmask : mask &&& ~~~supportedButtons = 0
    · by_cases hsame : pad.buttons = mask
      · simp [buttonState, outcomeAt, repeats, hpad, hmask, hsame]
      · cases hsink : pad.sink with
        | none => simp [buttonState, outcomeAt, repeats, sinkAt?, hpad, hmask, hsame, hsink]
        | some held =>
          simp [buttonState, outcomeAt, repeats, sinkAt?, hpad, hmask, hsame, hsink, sendFrame_snd]
    · -- The mask on record is a supported one, and so is no repetition.
      have hne : pad.buttons ≠ mask := fun heq => hmask (heq ▸ hpads)
      simp [buttonState, hpad, hmask, hne]

/-- **The outcome of a sample**: the fault of its arguments, or else what its touchpad and its sink
make of it. -/
theorem outcome_act (hsupported : rig.Supported) {sample : Action} (hsampling : sample.IsSampling)
    (hid : sample.addressee? = some id) :
    (rig.act sample).2
      = match rig.argumentFault? sample with
        | some fault => .error fault
        | none => rig.outcomeAt (rig.act sample).1.rack id sample := by
  cases sample with
  | attach | detach | reset | lend => exact hsampling.elim
  | touch i x y pressure =>
    obtain rfl : i = id := Option.some.inj hid
    exact outcome_touch x y pressure
  | buttons i mask =>
    obtain rfl : i = id := Option.some.inj hid
    exact outcome_buttonState hsupported mask
  | scroll i x y =>
    obtain rfl : i = id := Option.some.inj hid
    exact outcome_scroll x y

/-- An action without a fault that names a touchpad names one that there is. -/
theorem exists_pad_of_argumentFault? {action : Action} (hfault : rig.argumentFault? action = none)
    (hid : action.addressee? = some id) : ∃ pad, rig.pads[id]? = some pad := by
  have hin : ¬ rig.pads.length ≤ id := by
    intro hout
    cases action with
    | attach | detach | reset => cases hid
    | touch i | buttons i | scroll i | lend i =>
      obtain rfl : i = id := Option.some.inj hid
      simp [argumentFault?, hout] at hfault
  exact ⟨_, List.getElem?_eq_getElem (Nat.not_le.mp hin)⟩

/-- **Masks on record**: they are the supported ones that are accepted without a call on a sink and
without a change. -/
theorem act_buttons_iff (hsupported : rig.Supported) {mask : UInt32}
    (hfault : rig.argumentFault? (.buttons id mask) = none) :
    (rig.act (.buttons id mask) = (rig, .ok ())
        ∧ ∀ sink, received sink (rig.effects (.buttons id mask)) = [])
      ↔ rig.pads[id]?.map Pad.buttons = some mask := by
  obtain ⟨pad, hpad⟩ := exists_pad_of_argumentFault? hfault rfl
  have hmask : mask &&& ~~~supportedButtons = 0 := by
    have hin : ¬ rig.pads.length ≤ id := Nat.not_le.mpr (List.getElem?_eq_some_iff.mp hpad).1
    simpa [argumentFault?, hin] using hfault
  rw [hpad, Option.map_some, Option.some_inj]
  constructor
  · rintro ⟨hact, hsilent⟩
    by_contra hne
    cases hsink : pad.sink with
    | none =>
      have hrefused : (rig.act (.buttons id mask)).2 = .error (.notAttached id) := by
        simp [act, buttonState, hpad, hne, hmask, hsink]
      rw [hact] at hrefused
      cases hrefused
    | some held =>
      have hcalls : received held.2 (rig.effects (.buttons id mask)) = pad.buttonFrame mask := by
        simp [effects, sampling, hpad, hsink, Pad.frame?, hne, hmask, received_driving_self]
      exact buttonFrame_ne_nil (hsupported pad (List.mem_of_getElem? hpad)) hmask hne
        (hcalls.symm.trans (hsilent held.2))
  · rintro rfl
    refine ⟨by simp [act, buttonState, hpad], fun sink => ?_⟩
    cases hsink : pad.sink <;> simp [effects, sampling, hpad, hsink, Pad.frame?]

end Outcome

/-- **What comes of a sample**, in any state that a new rig can get into.  The outcome is the first
fault of the arguments, if there is one, in the order of `argumentFault?`; or else all is well if
the sample is a mask on record, it is refused if the touchpad has no sink, and otherwise it is the
status of the sink after the sample.  The masks without a fault that are accepted without a call
and without a change are those on record.  An action that is refused for its arguments changes
nothing. -/
theorem outcome_of_sample (config : Config) (factory : Factory) (rack : Rack) (steps : List Step)
    {id : Nat} {sample : Action} (hsampling : sample.IsSampling)
    (hid : sample.addressee? = some id) :
    let rig := (new config factory rack).steps steps
    let after := rig.act sample
    after.2
        = (match rig.argumentFault? sample with
          | some fault => .error fault
          | none =>
            if rig.repeats sample then .ok ()
            else
              match rig.sinkAt? id with
              | none => .error (.notAttached id)
              | some sink => outcome (after.1.rack.status sink))
      ∧ (∀ mask, sample = .buttons id mask → rig.argumentFault? sample = none →
          ((after = (rig, .ok ()) ∧ ∀ sink, received sink (rig.effects sample) = [])
            ↔ rig.pads[id]?.map Pad.buttons = some mask))
      ∧ ∀ failure, after.2 = .error failure →
          failure.kind = .invalidArgument ∨ failure.kind = .notSupported → after.1 = rig := by
  intro rig after
  have hsupported : rig.Supported := supported_steps config factory rack steps
  refine ⟨outcome_act hsupported hsampling hid, ?_, fun failure => act_refused⟩
  rintro mask rfl hfault
  exact act_buttons_iff hsupported hfault

/-- A mask with one more button than the one on record is refused, and changes nothing; the mask on
record is accepted as it is. -/
theorem outcome_of_sample_unsupported :
    let steps := [Step.call .attach, .call (.buttons 0 backButton)]
    let rig := (new .standard (.recorders []) ⟨[], .new []⟩).steps steps
    (rig.act (.buttons 0 9)).2 = .error (.unsupportedButtons 9)
      ∧ (rig.act (.buttons 0 9)).1 = rig
      ∧ rig.act (.buttons 0 backButton) = (rig, .ok ()) := by
  intro steps rig
  have hsampling : ∀ mask, (Action.buttons 0 mask).IsSampling := fun _ => trivial
  obtain ⟨houtcome, -, hrefused⟩ :=
    outcome_of_sample .standard (.recorders []) ⟨[], .new []⟩ steps (hsampling 9) rfl
  obtain ⟨-, hrecord, -⟩ :=
    outcome_of_sample .standard (.recorders []) ⟨[], .new []⟩ steps (hsampling backButton) rfl
  have hunsupported : (rig.act (.buttons 0 9)).2 = .error (.unsupportedButtons 9) :=
    houtcome.trans (by decide +kernel)
  have hrepeated := (hrecord backButton rfl (by decide +kernel)).mpr (by decide +kernel)
  exact ⟨hunsupported, hrefused _ hunsupported (Or.inr rfl), hrepeated.1⟩

/-! ## After a detach -/

/-- A touchpad without a sink gets none until it is attached or lent one. -/
theorem sinkAt?_none_of_steps {rig : Rig} {id : Nat} (hnone : rig.sinkAt? id = none)
    {steps : List Step} (hsteps : ∀ action ∈ actionsOf steps, action.gives id = false) :
    (rig.steps steps).sinkAt? id = none := by
  induction steps generalizing rig with
  | nil => exact hnone
  | cons step steps ih =>
    cases step with
    | order sink failure => exact ih hnone hsteps
    | call action =>
      refine ih ?_ fun later hmem => hsteps later (List.mem_cons_of_mem _ hmem)
      have hgives : action.gives id = false := hsteps action List.mem_cons_self
      show (rig.act action).1.sinkAt? id = none
      rw [sinkAt?_act]
      cases action with
      | attach => cases hgives
      | detach | reset => rfl
      | touch | buttons | scroll => exact hnone
      | lend i sink =>
        have hne : i ≠ id := by simpa [Action.gives, Action.lends] using hgives
        simp [hne, hnone]

/-- A sample for a touchpad without a sink gets to no sink. -/
theorem effects_of_sinkAt?_none {rig : Rig} {id : Nat} (hnone : rig.sinkAt? id = none)
    {sample : Action} (hsampling : sample.IsSampling) (hid : sample.addressee? = some id) :
    rig.effects sample = [] := by
  rcases effects_sampling rig hsampling with heffects | ⟨i, sink, _, hi, hsink, -, -⟩
  · exact heffects
  · obtain rfl : id = i := Option.some.inj (hid.symm.trans hi)
    rw [hnone] at hsink
    cases hsink

/-- No buttons are on record after a detach. -/
theorem repeats_of_sinkAt?_none {config : Config} {factory : Factory} {rack : Rack}
    {steps : List Step} {id : Nat} (hnone : ((new config factory rack).steps steps).sinkAt? id = none)
    {sample : Action} (hfault : ((new config factory rack).steps steps).argumentFault? sample = none)
    (hid : sample.addressee? = some id) :
    ((new config factory rack).steps steps).repeats sample = decide (sample = .buttons id 0) := by
  obtain ⟨pad, hpad⟩ := exists_pad_of_argumentFault? hfault hid
  have hbuttons : pad.buttons = 0 := (forgotten_of_sinkAt?_none hpad hnone).2
  cases sample with
  | attach | detach | reset => cases hid
  | touch | scroll | lend => rfl
  | buttons i mask =>
    obtain rfl : i = id := Option.some.inj hid
    simp [repeats, hpad, hbuttons, eq_comm]

/-- **After a detach** all samples without a fault are out of sequence, until the touchpad is attached
or lent a sink, but for the mask of no buttons: no buttons are what is on record, so that mask is
accepted as it is.  No sink gets a call. -/
theorem refused_since_detach (config : Config) (factory : Factory) (rack : Rack)
    (before : List Step) {later : List Step} {id : Nat}
    (hlater : ∀ action ∈ actionsOf later, action.gives id = false) {sample : Action}
    (hsampling : sample.IsSampling) (hid : sample.addressee? = some id) :
    let rig := (new config factory rack).steps (before ++ .call .detach :: later)
    rig.argumentFault? sample = none →
      (rig.act sample).2 = (if sample = .buttons id 0 then .ok () else .error (.notAttached id))
        ∧ (TouchpadFailure.notAttached id).kind = .sequencing
        ∧ rig.effects sample = [] ∧ (rig.act sample).1.rack = rig.rack := by
  intro rig hfault
  have hnone : rig.sinkAt? id = none := by
    have hdetached :
        (((new config factory rack).steps before).step (.call .detach)).sinkAt? id = none := by
      show (Rig.act _ .detach).1.sinkAt? id = none
      rw [sinkAt?_act]
    show ((new config factory rack).steps (before ++ .call .detach :: later)).sinkAt? id = none
    rw [steps_append, steps_cons]
    exact sinkAt?_none_of_steps hdetached hlater
  have hsupported : rig.Supported := supported_steps config factory rack _
  have heffects : rig.effects sample = [] := effects_of_sinkAt?_none hnone hsampling hid
  have hrepeats : rig.repeats sample = decide (sample = .buttons id 0) :=
    repeats_of_sinkAt?_none hnone hfault hid
  refine ⟨?_, rfl, heffects, ?_⟩
  · rw [outcome_act hsupported hsampling hid, hfault]
    simp only [outcomeAt, hrepeats, hnone, decide_eq_true_eq]
  · rw [rack_act, heffects]
    rfl

/-- A touchpad that was in use refuses a touch and the "back" button after a detach, also once the
other touchpad was lent a sink. -/
theorem refused_since_detach_back :
    let before := [Step.call .attach, .call (.touch 0 .zero .zero .one),
      .call (.buttons 0 backButton)]
    let later := [Step.call (.touch 0 .zero .zero .one), .call (.lend 1 0)]
    let rig := (new .standard (.recorders []) ⟨[], .new []⟩).steps
      (before ++ .call .detach :: later)
    (rig.act (.touch 0 .zero .zero .zero)).2 = .error (.notAttached 0)
      ∧ (rig.act (.buttons 0 backButton)).2 = .error (.notAttached 0) := by
  intro before later rig
  have hlater : ∀ action ∈ actionsOf later, action.gives 0 = false := by decide +kernel
  have htouch : (Action.touch 0 .zero .zero .zero).IsSampling := trivial
  have hbutton : (Action.buttons 0 backButton).IsSampling := trivial
  have htouched := refused_since_detach .standard (.recorders []) ⟨[], .new []⟩ before hlater
    htouch rfl (by decide +kernel)
  have hpressed := refused_since_detach .standard (.recorders []) ⟨[], .new []⟩ before hlater
    hbutton rfl (by decide +kernel)
  exact ⟨htouched.1, hpressed.1⟩

/-- The mask of no buttons is a mask of supported buttons, and it is accepted after a detach. -/
theorem not_refused_no_buttons :
    let rig := (new .standard (.recorders []) ⟨[], .new []⟩).steps [.call .attach, .call .detach]
    rig.argumentFault? (.buttons 0 0) = none ∧ rig.sinkAt? 0 = none
      ∧ (rig.act (.buttons 0 0)).2 = .ok ()
      ∧ (rig.act (.buttons 0 0)).2 ≠ .error (.notAttached 0) := by
  decide +kernel

end Rig

end VirtualTouchpad
