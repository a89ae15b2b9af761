/-
# Whether the host has the button that was accepted

A touchpad remembers the last mask of buttons that it sent, and sends a mask that it
remembers no second time.  It remembers a mask also if its sink fails to take the report.
So the next report of the same mask is accepted without being sent, and the host still has
the button as it was before.

Each report of the "back" key says the opposite of the one before.  So the host has the
button that the touchpad remembers exactly if the number of reports that were lost since the
last one that the sink took is even (`Agrees`).  Each step keeps this
(`agrees_backReports`), and `backKey_iff_even_lost` says it for every accepted mask.
-/
import Mathlib.Algebra.Group.Nat.Even
import Mathlib.Data.Nat.Bitwise
import VirtualTouchpad.Proofs.Touchpad.Contacts
import VirtualTouchpad.Proofs.Touchpad.History

namespace VirtualTouchpad

/-! ## Reports of the "back" key -/

/-- The state of the "back" key that a call reports. -/
def Call.backKey? : Call → Option KeyState
  | .key code state => if code = KeyCode.back then some state else none
  | _ => none

/-- A state of the "back" key that a sink was told, and whether the sink took it. -/
structure BackReport where
  state : KeyState
  taken : Bool
  deriving DecidableEq, Repr

/-- The last state that was taken. -/
def lastTaken (reports : List BackReport) : Option KeyState :=
  (reports.filter (·.taken)).getLast?.map (·.state)

/-- How many reports were lost since one was taken. -/
def lostSince (reports : List BackReport) : Nat := (reports.reverse.takeWhile (!·.taken)).length

/-- None is lost since the last one if that was taken. -/
theorem lostSince_append_taken {reports later : List BackReport} (hlater : later ≠ [])
    (htaken : ∀ report ∈ later, report.taken = true) : lostSince (reports ++ later) = 0 := by
  obtain ⟨earlier, last, rfl⟩ := (List.eq_nil_or_concat later).resolve_left hlater
  have hlast : last.taken = true := htaken last (by simp)
  simp [lostSince, hlast]

/-- The host has the button as it is remembered, pressed or not, exactly if the number of reports
that were lost is even. -/
def Agrees (pressed : Bool) (reports : List BackReport) : Prop :=
  (lastTaken reports = some .press ↔ pressed = true) ↔ Even (lostSince reports)

theorem agrees_nil : Agrees false [] := by simp [Agrees, lastTaken, lostSince]

/-- A report of the other state keeps the agreement, taken or lost. -/
theorem Agrees.concat {pressed : Bool} {reports : List BackReport} (h : Agrees pressed reports)
    (taken : Bool) :
    Agrees (!pressed) (reports ++ [⟨.ofBool (!pressed), taken⟩]) := by
  cases taken with
  | true => cases pressed <;> simp [Agrees, lastTaken, lostSince, KeyState.ofBool]
  | false =>
    -- The host has the button as before, and one report more is lost.
    have hlast : lastTaken (reports ++ [⟨.ofBool (!pressed), false⟩]) = lastTaken reports := by
      simp [lastTaken]
    have hlost : lostSince (reports ++ [⟨.ofBool (!pressed), false⟩]) = lostSince reports + 1 := by
      simp [lostSince]
    rw [Agrees, hlast, hlost, Nat.even_add_one, ← show _ ↔ _ from h]
    cases pressed <;> simp

/-- Reports that follow the changes of the button keep the agreement. -/
theorem Agrees.changes {pressed : Bool} {reports : List BackReport} (h : Agrees pressed reports)
    (samples : List Bool) (taken : Bool) :
    Agrees (samples.getLast?.getD pressed)
      (reports ++ (changes pressed samples).map (⟨·, taken⟩)) := by
  induction samples generalizing pressed reports with
  | nil => simpa [VirtualTouchpad.changes] using h
  | cons sample samples ih =>
    rw [VirtualTouchpad.changes, List.getLast?_cons, Option.getD_some]
    split
    · next hsame =>
      subst hsame
      exact ih h
    · next hother =>
      obtain rfl : sample = !pressed := by
        cases pressed <;> cases sample <;> first | rfl | exact absurd rfl hother
      rw [List.map_cons, List.append_cons]
      exact ih (h.concat taken)

/-! ## Frames -/

/-- Whether a mask has the "back" button. -/
def holdsBack (mask : UInt32) : Bool := mask &&& backButton ≠ 0

theorem holdsBack_eq_testBit (mask : UInt32) : holdsBack mask = mask.toNat.testBit 3 := by
  have hand : (mask &&& backButton).toNat = (mask.toNat.testBit 3).toNat * 8 := by
    rw [UInt32.toNat_and]
    exact Nat.and_two_pow mask.toNat 3
  have hzero : mask &&& backButton = 0 ↔ mask.toNat.testBit 3 = false := by
    rw [← UInt32.toNat_inj, hand]
    cases mask.toNat.testBit 3 <;> simp
  simp only [holdsBack, ne_eq, hzero, Bool.not_eq_false, Bool.decide_eq_true]

/-- Two masks differ in the "back" button if just one of them has it. -/
theorem holdsBack_xor (mask other : UInt32) :
    holdsBack (mask ^^^ other) = (holdsBack mask ^^ holdsBack other) := by
  simp only [holdsBack_eq_testBit, UInt32.toNat_xor, Nat.testBit_xor]

theorem backKey?_of_bracket (config : Config) (name : String) :
    ∀ call ∈ Rig.bracket config name, call.backKey? = none := by
  simp [Rig.bracket, Call.backKey?]

/-- The frame for a mask reports the change of the button. -/
theorem backKeys_buttonFrame (pad : Pad) (mask : UInt32) :
    (pad.buttonFrame mask).filterMap (·.backKey?)
      = changes (holdsBack pad.buttons) [holdsBack mask] := by
  have hdiffer : ((pad.buttons ^^^ mask) &&& backButton ≠ 0)
      ↔ holdsBack pad.buttons ≠ holdsBack mask := by
    have hxor := holdsBack_xor pad.buttons mask
    rw [← decide_eq_true_iff (p := (pad.buttons ^^^ mask) &&& backButton ≠ 0)]
    change holdsBack (pad.buttons ^^^ mask) = true ↔ _
    rw [hxor, bne_iff_ne]
  rw [Pad.buttonFrame, changes]
  by_cases hsame : holdsBack pad.buttons = holdsBack mask
  · rw [if_pos hsame, if_neg fun h => hdiffer.mp h hsame]
    rfl
  · rw [if_neg hsame, if_pos (hdiffer.mpr hsame)]
    rfl

theorem backKeys_touchFrame (pad : Pad) (position : Int32 × Int32) :
    (pad.touchFrame position).filterMap (·.backKey?) = [] := by
  simp only [Pad.touchFrame]
  cases pad.contact with
  | hovering | continuing =>
    simp only
    split <;> rfl
  | starting | ending => rfl

/-- What a touchpad makes of an action reports the change of the "back" button, if the action is a
mask of buttons. -/
theorem backKeys_frame? (pad : Pad) (config : Config) {action : Action} {id : Nat}
    (h : action.addressee? = some id) :
    ((pad.frame? config action).getD []).filterMap (·.backKey?)
      = changes (holdsBack pad.buttons) ((action.maskOn? id).toList.map holdsBack) := by
  cases action with
  | attach | detach | reset => cases h
  | lend => rfl
  | buttons i mask =>
    obtain rfl : i = id := Option.some.inj h
    by_cases hmask : mask &&& ~~~supportedButtons = 0
    · simp only [Pad.frame?, Action.maskOn?, hmask, and_true, if_true, Option.toList_some,
        List.map_cons, List.map_nil]
      by_cases hsame : pad.buttons = mask
      · simp [hsame, changes]
      · rw [if_pos hsame, Option.getD_some, backKeys_buttonFrame]
    · simp [Pad.frame?, Action.maskOn?, hmask, changes]
  | scroll i x y =>
    simp only [Pad.frame?, scrollFrame, Action.maskOn?]
    split
    · rw [Option.getD_some]
      by_cases hx : x.detents = 0 <;> by_cases hy : y.detents = 0 <;>
        simp [hx, hy, Call.backKey?, changes]
    · rfl
  | touch i x y pressure =>
    simp only [Pad.frame?, Action.maskOn?]
    split
    · exact backKeys_touchFrame _ _
    · rfl

namespace Rig

/-! ## Runs -/

/-- The reports of the "back" key that a sink gets by an action: they are taken if the sink keeps
no error then. -/
def backReport (sink : SinkId) (rig : Rig) (action : Action) : List BackReport :=
  ((received sink (rig.effects action)).filterMap (·.backKey?)).map
    (⟨·, ((rig.act action).1.rack.status sink).isNone⟩)

/-- The reports of the "back" key that a sink gets during steps. -/
def backReports (sink : SinkId) (rig : Rig) : List Step → List BackReport
  | [] => []
  | .call action :: steps =>
    rig.backReport sink action ++ backReports sink (rig.step (.call action)) steps
  | .order other failure :: steps => backReports sink (rig.step (.order other failure)) steps

theorem backReports_append (sink : SinkId) (rig : Rig) (steps later : List Step) :
    rig.backReports sink (steps ++ later)
      = rig.backReports sink steps ++ (rig.steps steps).backReports sink later := by
  induction steps generalizing rig with
  | nil => rfl
  | cons step steps ih =>
    cases step with
    | call action => rw [List.cons_append, backReports, backReports, ih, List.append_assoc]; rfl
    | order other failure => exact ih _

/-- **One step**: the agreement of the host with what a touchpad remembers is kept by any action
that leaves the touchpad its sink. -/
theorem agrees_backReport {rig : Rig} (h : rig.Tidy) {id : Nat} {sink : SinkId}
    (hsink : rig.sinkAt? id = some sink) {pad : Pad} (hpad : rig.pads[id]? = some pad)
    {action : Action} (hkept : action ≠ .detach ∧ action ≠ .reset) {reports : List BackReport}
    (hagrees : Agrees (holdsBack pad.buttons) reports) (fresh : SinkId) :
    Agrees (holdsBack (pad.after rig.config fresh id action).buttons)
      (reports ++ rig.backReport sink action) := by
  have hdown : action.isDown = false := Action.isDown_eq_false_iff.mpr hkept
  have hheld : pad.sink.isSome := isSome_sink_of_sinkAt? hsink hpad
  have hkeys : (received sink (rig.effects action)).filterMap (·.backKey?)
      = changes (holdsBack pad.buttons) ((action.maskOn? id).toList.map holdsBack) := by
    rw [filterMap_received_effects backKey?_of_bracket h hsink hpad hkept]
    split
    · next haddressee => exact backKeys_frame? pad rig.config haddressee
    · next hother => rw [Action.maskOn?_of_addressee hother]; rfl
  rw [backReport, hkeys, Pad.buttons_after pad _ _ _ hdown, if_pos hheld]
  have hafter := hagrees.changes ((action.maskOn? id).toList.map holdsBack)
    ((rig.act action).1.rack.status sink).isNone
  cases hmask : action.maskOn? id with
  | none => simpa [hmask] using hafter
  | some mask => simpa [hmask] using hafter

/-- **Any steps** keep the agreement, as long as the touchpad keeps its sink. -/
theorem agrees_backReports {rig : Rig} (h : rig.Tidy) {id : Nat} {sink : SinkId}
    (hsink : rig.sinkAt? id = some sink) {pad : Pad} (hpad : rig.pads[id]? = some pad)
    {steps : List Step} (hkept : ∀ action ∈ actionsOf steps, action ≠ .detach ∧ action ≠ .reset)
    (horderly : rig.Heeds Orderly steps) {reports : List BackReport}
    (hagrees : Agrees (holdsBack pad.buttons) reports) {after : Pad}
    (hafter : (rig.steps steps).pads[id]? = some after) :
    Agrees (holdsBack after.buttons) (reports ++ rig.backReports sink steps) := by
  induction steps generalizing rig pad reports with
  | nil =>
    obtain rfl : pad = after := Option.some.inj (hpad.symm.trans hafter)
    simpa [backReports] using hagrees
  | cons step steps ih =>
    cases step with
    | order other failure =>
      exact ih (h.order other failure) hsink hpad hkept horderly hagrees hafter
    | call action =>
      have hhead := hkept action List.mem_cons_self
      rw [backReports, ← List.append_assoc]
      exact ih (h.act horderly.1) (sinkAt?_kept hsink hhead horderly.1) (pad_act hpad action)
        (fun later hmem => hkept later (List.mem_cons_of_mem _ hmem)) horderly.2
        (agrees_backReport h hsink hpad hhead hagrees _) hafter

/-- Since a touchpad has got its sink, what it remembers of the "back" button agrees with what the
sink was told. -/
theorem agrees_tenure (config : Config) (factory : Factory) (rack : Rack) {before : List Step}
    {gain : Action} {during : List Step} {id : Nat} {sink : SinkId}
    (horderly : (new config factory rack).Heeds Orderly (before ++ .call gain :: during))
    (htenure : ((new config factory rack).steps before).Tenure id sink gain (actionsOf during))
    {after : Pad}
    (hafter : ((new config factory rack).steps (before ++ .call gain :: during)).pads[id]?
      = some after) :
    Agrees (holdsBack after.buttons)
      (((new config factory rack).steps before).backReports sink (.call gain :: during)) := by
  obtain ⟨hbefore, hgain, hduring⟩ := (heeds_append _ _ _ _).mp horderly
  have htidy := (tidy_new config factory rack).steps hbefore
  have hgains := attach_or_lend htenure.without htenure.gained
  obtain ⟨first, -, hfirst, -⟩ := sinkAt?_eq_some_iff.mp htenure.gained
  -- The touchpad gets the sink with no button on record, and the sink gets no report with that.
  have hstart : Agrees (holdsBack first.buttons) [] := by
    obtain ⟨old, -, htracked⟩ := forgotten_of_gain htenure.without hgains hfirst
    rw [show first.buttons = 0 from congrArg (·.2.2) htracked]
    exact agrees_nil
  have hnothing : ((new config factory rack).steps before).backReport sink gain = [] := by
    rw [backReport, filterMap_received_gain backKey?_of_bracket _ _ hgains, List.map_nil]
  rw [steps_append] at hafter
  have hagrees := agrees_backReports (htidy.act hgain) htenure.gained hfirst htenure.kept hduring
    hstart hafter
  rw [backReports, hnothing]
  exact hagrees

/-! ## Accepted masks -/

/-- A mask that is accepted is on record, without a sink only if it was before. -/
theorem accepted_buttons {rig : Rig} {id : Nat} {mask : UInt32}
    (hok : (rig.act (.buttons id mask)).2 = .ok ()) :
    (∃ pad, rig.pads[id]? = some pad ∧ (pad.sink = none → pad.buttons = mask))
      ∧ ∃ after, (rig.act (.buttons id mask)).1.pads[id]? = some after ∧ after.buttons = mask := by
  rw [getElem?_pads_act]
  simp only [act, buttonState] at hok
  split at hok
  · cases hok
  · next pad hpad =>
    rw [hpad, Option.map_some]
    split at hok
    · next hsame =>
      refine ⟨⟨pad, rfl, fun _ => hsame⟩, _, rfl, ?_⟩
      simp only [Pad.after]
      split
      · rfl
      · exact hsame
    · split at hok
      · cases hok
      · next hmask =>
        split at hok
        · cases hok
        · next hsink =>
          refine ⟨⟨pad, rfl, fun hnone => absurd (hsink.symm.trans hnone) (by simp)⟩, _, rfl, ?_⟩
          simp [Pad.after, not_not.mp hmask, hsink]

/-- The sink has taken all that it is told with a mask that is accepted. -/
theorem taken_of_ok {rig : Rig} {id : Nat} {sink : SinkId} (hsink : rig.sinkAt? id = some sink)
    {mask : UInt32} (hok : (rig.act (.buttons id mask)).2 = .ok ()) :
    ∀ report ∈ rig.backReport sink (.buttons id mask), report.taken = true := by
  obtain ⟨pad, ownership, hpad, hheld⟩ := sinkAt?_eq_some_iff.mp hsink
  intro report hmem
  obtain ⟨state, hstate, rfl⟩ := List.mem_map.mp hmem
  by_cases hsent : pad.buttons ≠ mask ∧ mask &&& ~~~supportedButtons = 0
  · -- The outcome is what the sink keeps after the frame.
    have hact : rig.act (.buttons id mask)
        = rig.sendFrame id { pad with buttons := mask } sink (pad.buttonFrame mask) := by
      simp [act, buttonState, hpad, hsent, hheld]
    have houtcome : outcome ((rig.act (.buttons id mask)).1.rack.status sink) = .ok () := by
      rw [hact] at hok ⊢
      exact hok
    cases hstatus : (rig.act (.buttons id mask)).1.rack.status sink with
    | none => rfl
    | some error => rw [hstatus] at houtcome; cases houtcome
  · simp [effects, sampling, hpad, hheld, Pad.frame?, hsent] at hstate

/-- **The host has the button that was accepted** exactly if an even number of reports was lost
since it took one; that is none if the mask was sent when it was accepted, and was not only on
record.  Without a sink only an empty mask is accepted. -/
theorem backKey_iff_even_lost (config : Config) (factory : Factory) (rack : Rack)
    {steps : List Step} {id : Nat} {mask : UInt32}
    (horderly : (new config factory rack).Heeds Orderly steps)
    (hok : (((new config factory rack).steps steps).act (.buttons id mask)).2 = .ok ()) :
    (((new config factory rack).steps steps).sinkAt? id = none → mask = 0)
      ∧ ∀ before gain during sink, steps = before ++ .call gain :: during →
          ((new config factory rack).steps before).Tenure id sink gain (actionsOf during) →
          let reports := ((new config factory rack).steps before).backReports sink
            (.call gain :: (during ++ [.call (.buttons id mask)]))
          ((lastTaken reports = some .press ↔ mask &&& backButton ≠ 0) ↔ Even (lostSince reports))
            ∧ (((new config factory rack).steps steps).backReport sink (.buttons id mask) ≠ [] →
              lostSince reports = 0) := by
  obtain ⟨⟨pad, hpad, hunattached⟩, after, hafter, hmask⟩ := accepted_buttons hok
  constructor
  · intro hnone
    have hsink : pad.sink = none := by simpa [sinkAt?, hpad] using hnone
    rw [← hunattached hsink]
    exact (forgotten_of_sinkAt?_none hpad hnone).2
  · rintro before gain during sink rfl htenure reports
    have hsplit : before ++ .call gain :: (during ++ [.call (.buttons id mask)])
        = (before ++ .call gain :: during) ++ [.call (.buttons id mask)] := by simp
    have hmore : (new config factory rack).Heeds Orderly
        (before ++ .call gain :: (during ++ [.call (.buttons id mask)])) := by
      rw [hsplit, heeds_append]
      exact ⟨horderly, trivial, trivial⟩
    have htenured : ((new config factory rack).steps before).Tenure id sink gain
        (actionsOf (during ++ [.call (.buttons id mask)])) := by
      rw [actionsOf_append]
      exact htenure.concat ⟨by simp, by simp⟩
    have hagrees := agrees_tenure config factory rack hmore htenured
      (by rw [hsplit, steps_append]; exact hafter)
    refine ⟨by simpa [Agrees, hmask, holdsBack] using hagrees, fun hsent => ?_⟩
    have hheld : ((new config factory rack).steps (before ++ .call gain :: during)).sinkAt? id
        = some sink := by
      rw [steps_append]
      exact sinkAt?_steps htenure.gained htenure.kept ((heeds_append _ _ _ _).mp horderly).2.2
    have hreports : reports = ((new config factory rack).steps before).backReports sink
          (.call gain :: during)
        ++ ((new config factory rack).steps (before ++ .call gain :: during)).backReport sink
          (.buttons id mask) := by
      have happend := backReports_append sink ((new config factory rack).steps before)
        (.call gain :: during) [.call (.buttons id mask)]
      rw [← steps_append] at happend
      exact happend.trans (congrArg _ (List.append_nil _))
    rw [hreports]
    exact lostSince_append_taken hsent (taken_of_ok hheld hok)

/-- A press and a release that are both lost: the release is accepted again, and the host has it. -/
theorem backKey_iff_even_lost_twice :
    let during := [Step.order 0 (some .sequencing), .call (.buttons 0 backButton),
      .call (.buttons 0 0), .order 0 none]
    lastTaken ((new .standard (.recorders []) ⟨[], .new []⟩).backReports 0
      (.call .attach :: (during ++ [.call (.buttons 0 0)]))) ≠ some .press := by
  intro during
  have horderly : (new .standard (.recorders []) ⟨[], .new []⟩).Heeds Orderly
      ([] ++ .call .attach :: during) := ⟨trivial, trivial, trivial, trivial⟩
  have hok : (((new .standard (.recorders []) ⟨[], .new []⟩).steps
      ([] ++ .call .attach :: during)).act (.buttons 0 0)).2 = .ok () := by decide +kernel
  have htenure : ((new .standard (.recorders []) ⟨[], .new []⟩).steps []).Tenure 0 0 .attach
      (actionsOf during) := ⟨by decide, by decide +kernel, by decide⟩
  obtain ⟨-, hheld⟩ := backKey_iff_even_lost .standard (.recorders []) ⟨[], .new []⟩ horderly hok
  have hiff := (hheld [] .attach during 0 rfl htenure).1.mpr (by decide +kernel)
  exact fun hpress => absurd (hiff.mp hpress) (by decide)

/-- A press that is lost is accepted when it is made again, and the host does not have it. -/
theorem not_backKey_lost_press :
    let rig := new .standard (.recorders []) ⟨[], .new []⟩
    let during := [Step.order 0 (some .sequencing), .call (.buttons 0 backButton), .order 0 none]
    rig.Heeds Orderly ([] ++ .call .attach :: during)
      ∧ (rig.steps []).Tenure 0 0 .attach (actionsOf during)
      ∧ ((rig.steps (.call .attach :: during)).act (.buttons 0 backButton)).2 = .ok ()
      ∧ lastTaken ((rig.steps []).backReports 0
          (.call .attach :: (during ++ [.call (.buttons 0 backButton)]))) = none := by
  intro rig during
  refine ⟨⟨trivial, trivial, trivial⟩, ⟨by decide, by decide +kernel, by decide⟩, ?_, ?_⟩
  · decide +kernel
  · decide +kernel

end Rig

end VirtualTouchpad
