/-
# What rigs do

An action on a rig changes what touchpads remember and does something to their
sinks.  `Pad.after` says what one touchpad remembers after an action, and
`Rig.effects` what the action does to the sinks; neither looks into a sink.

* `act_cases`: all that an action can do to a rig;
* `rack_act`: the rack after an action is the rack after its effects;
* `getElem?_pads_act`: the touchpads after an action are those of `Pad.after`;
* `rack_run`: the rack after a run is the rack after all the run's effects.
-/
import VirtualTouchpad.Touchpad.Rig
import VirtualTouchpad.Proofs.Sink.Effect

namespace VirtualTouchpad

/-! ## What a touchpad remembers -/

/-- The touchpad that an action names. -/
def Action.addressee? : Action → Option Nat
  | .touch id .. | .buttons id _ | .scroll id .. | .lend id _ => some id
  | .attach | .detach | .reset => none

namespace Pad

/-- The touchpad with number `id` after an action; `fresh` is the sink that attaching it would
make. -/
def after (pad : Pad) (config : Config) (fresh : SinkId) (id : Nat) : Action → Pad
  | .attach => { pad with sink := pad.sink <|> some (.owned, fresh) }
  | .detach | .reset => .initial
  | .touch i x y pressure =>
    if i = id ∧ x.isPosition ∧ y.isPosition then
      { pad with
        contact := pad.contact.next pressure.isPositive
        position :=
          if pad.sink.isSome then some (x.coordinate config.width, y.coordinate config.height)
          else pad.position }
    else pad
  | .buttons i mask =>
    if i = id ∧ mask &&& ~~~supportedButtons = 0 ∧ pad.sink.isSome then
      { pad with buttons := mask }
    else pad
  | .scroll .. => pad
  | .lend i sink => if i = id then { pad with sink := some (.lent, sink) } else pad

/-- An action that names another touchpad changes nothing. -/
theorem after_of_addressee {action : Action} {id i : Nat} (h : action.addressee? = some i)
    (hne : i ≠ id) (pad : Pad) (config : Config) (fresh : SinkId) :
    pad.after config fresh id action = pad := by
  cases action <;> simp_all [Action.addressee?, after]

/-- The frame that a sample makes of what the touchpad remembers, if it is a sample to go by. -/
def frame? (pad : Pad) (config : Config) : Action → Option (List Call)
  | .touch _ x y pressure =>
    if x.isPosition ∧ y.isPosition then
      some ({ pad with contact := pad.contact.next pressure.isPositive }.touchFrame
        (x.coordinate config.width, y.coordinate config.height))
    else none
  | .buttons _ mask =>
    if pad.buttons ≠ mask ∧ mask &&& ~~~supportedButtons = 0 then some (pad.buttonFrame mask)
    else none
  | .scroll _ x y =>
    if x.isScrollAmount ∧ y.isScrollAmount then some (scrollFrame x.detents y.detents) else none
  | _ => none

/-- The effects of dropping the sink that the touchpad owns. -/
def dropping (pad : Pad) : List Effect :=
  match pad.sink with
  | some (.owned, sink) => [.done sink .drop]
  | _ => []

/-- The effects of giving the sink back. -/
def releasing (pad : Pad) : List Effect :=
  match pad.sink with
  | none => []
  | some (_, sink) => .done sink (.call .close) :: pad.dropping

end Pad

/-! ## What happens to the sinks -/

namespace Rig

/-- The effects of attaching one touchpad. -/
def attachingOne (rig : Rig) (id : Nat) : List Effect :=
  match rig.pads[id]? with
  | none => []
  | some pad =>
    let calls := bracket rig.config (rig.config.deviceName id)
    match pad.sink with
    | some (_, sink) => driving sink calls
    | none => .added rig.factory.make.2 :: driving rig.rack.sinks.length calls

/-- The effects of attaching touchpads in order. -/
def attachingEach (rig : Rig) : List Nat → List Effect
  | [] => []
  | id :: ids => rig.attachingOne id ++ (rig.attachOne id).1.attachingEach ids

/-- The effects of a sample for a touchpad. -/
def sampling (rig : Rig) (id : Nat) (sample : Action) : List Effect :=
  match rig.pads[id]? with
  | none => []
  | some pad =>
    match pad.sink, pad.frame? rig.config sample with
    | some (_, sink), some frame => driving sink frame
    | _, _ => []

/-- What an action does to the sinks. -/
def effects (rig : Rig) : Action → List Effect
  | .attach => rig.attachingEach (List.range rig.pads.length)
  | .detach | .reset => rig.pads.flatMap Pad.releasing
  | .lend id _ => (rig.pads[id]?.map Pad.dropping).getD []
  | .touch id x y pressure => rig.sampling id (.touch id x y pressure)
  | .buttons id mask => rig.sampling id (.buttons id mask)
  | .scroll id x y => rig.sampling id (.scroll id x y)

/-- What a run of actions does to the sinks. -/
def trace (rig : Rig) : List Action → List Effect
  | [] => []
  | action :: actions => rig.effects action ++ (rig.act action).1.trace actions

/-- The number of the sink that attaching makes for a touchpad without one: those of the
touchpads before it come first. -/
def freshSink (rig : Rig) (id : Nat) : SinkId :=
  rig.rack.sinks.length + (rig.pads.take id).countP (·.sink.isNone)

/-! ### Samples -/

theorem set_self {pads : List Pad} {id : Nat} {pad : Pad} (h : pads[id]? = some pad) :
    pads.set id pad = pads := by
  apply List.ext_getElem?
  intro i
  by_cases hi : id = i
  · subst hi
    rw [List.getElem?_set_self (List.getElem?_eq_some_iff.mp h).1, h]
  · rw [List.getElem?_set_ne hi]

theorem getElem?_set_of_mem {pads : List Pad} {id : Nat} {pad : Pad} (h : pads[id]? = some pad)
    (new : Pad) (i : Nat) : (pads.set id new)[i]? = if id = i then some new else pads[i]? := by
  by_cases hi : id = i
  · subst hi
    rw [List.getElem?_set_self (List.getElem?_eq_some_iff.mp h).1, if_pos rfl]
  · rw [List.getElem?_set_ne hi, if_neg hi]

/-- Sending a frame drives the sink and replaces what the touchpad remembers. -/
theorem sendFrame_fst (rig : Rig) (id : Nat) (pad : Pad) (sink : SinkId) (frame : List Call) :
    (rig.sendFrame id pad sink frame).1
      = { rig with rack := rig.rack.performAll (driving sink frame) }.setPad id pad := by
  rw [← Rack.drive_fst]
  rfl

/-- Dropping has the effects of `Pad.dropping`. -/
theorem dropOwned_eq (rack : Rack) (pad : Pad) :
    dropOwned rack pad = rack.performAll pad.dropping := by
  unfold dropOwned Pad.dropping
  rcases pad.sink with _ | ⟨_ | _, sink⟩ <;> rfl

/-- Releasing has the effects of `Pad.releasing`. -/
theorem release_eq (rack : Rack) (pad : Pad) :
    release rack pad = rack.performAll pad.releasing := by
  unfold release Pad.releasing
  rcases pad.sink with _ | ⟨ownership, sink⟩
  · rfl
  · show dropOwned (rack.send sink .close) pad = _
    rw [dropOwned_eq]
    rfl

section Samples

variable {rig : Rig} {id : Nat} {pad : Pad} (hpad : rig.pads[id]? = some pad) (fresh : SinkId)

include hpad

theorem touch_fst (x y pressure : Single) : (rig.touch id x y pressure).1
    = { rig with rack := rig.rack.performAll (rig.effects (.touch id x y pressure)) }.setPad id
        (pad.after rig.config fresh id (.touch id x y pressure)) := by
  by_cases hin : x.isPosition ∧ y.isPosition
  · obtain ⟨hx, hy⟩ := hin
    cases hsink : pad.sink with
    | none => simp [touch, effects, sampling, hpad, checkRange, Pad.after, hx, hy, hsink]
    | some held =>
      simp [touch, effects, sampling, hpad, checkRange, Pad.after, Pad.frame?, hx, hy, hsink,
        sendFrame_fst]
  · have hrefused : (rig.touch id x y pressure).1 = rig := by
      simp only [touch, hpad, checkRange]
      cases hx : x.isPosition <;> cases hy : y.isPosition <;> simp_all
    rw [hrefused]
    cases hsink : pad.sink <;>
      simp [effects, sampling, hpad, hsink, Pad.frame?, Pad.after, hin, setPad, set_self hpad]

theorem buttonState_fst (mask : UInt32) : (rig.buttonState id mask).1
    = { rig with rack := rig.rack.performAll (rig.effects (.buttons id mask)) }.setPad id
        (pad.after rig.config fresh id (.buttons id mask)) := by
  by_cases hin : pad.buttons ≠ mask ∧ mask &&& ~~~supportedButtons = 0
  · obtain ⟨hne, hmask⟩ := hin
    cases hsink : pad.sink with
    | none =>
      simp [buttonState, effects, sampling, hpad, Pad.after, hne, hmask, hsink, setPad, set_self hpad]
    | some held =>
      simp [buttonState, effects, sampling, hpad, Pad.after, Pad.frame?, hne, hmask, hsink,
        sendFrame_fst]
  · have hrefused : (rig.buttonState id mask).1 = rig := by
      simp only [buttonState, hpad]
      split
      · rfl
      · next hne =>
        have hmask : mask &&& ~~~supportedButtons ≠ 0 := fun h => hin ⟨hne, h⟩
        simp [hmask]
    have hkept : pad.after rig.config fresh id (.buttons id mask) = pad := by
      simp only [Pad.after]
      split
      · next h =>
        have heq : pad.buttons = mask := Classical.byContradiction fun hne => hin ⟨hne, h.2.1⟩
        rw [← heq]
      · rfl
    rw [hrefused, hkept]
    cases hsink : pad.sink <;>
      simp [effects, sampling, hpad, hsink, Pad.frame?, hin, setPad, set_self hpad]

theorem scroll_fst (x y : Single) : (rig.scroll id x y).1
    = { rig with rack := rig.rack.performAll (rig.effects (.scroll id x y)) }.setPad id
        (pad.after rig.config fresh id (.scroll id x y)) := by
  by_cases hin : x.isScrollAmount ∧ y.isScrollAmount
  · obtain ⟨hx, hy⟩ := hin
    cases hsink : pad.sink with
    | none =>
      simp [scroll, effects, sampling, hpad, checkRange, Pad.after, hx, hy, hsink,
        setPad, set_self hpad]
    | some held =>
      simp [scroll, effects, sampling, hpad, checkRange, Pad.after, Pad.frame?, hx, hy, hsink,
        sendFrame_fst]
  · have hrefused : (rig.scroll id x y).1 = rig := by
      simp only [scroll, hpad, checkRange]
      cases hx : x.isScrollAmount <;> cases hy : y.isScrollAmount <;> simp_all
    rw [hrefused]
    cases hsink : pad.sink <;>
      simp [effects, sampling, hpad, hsink, Pad.frame?, Pad.after, hin, setPad, set_self hpad]

theorem lend_fst (sink : SinkId) : (rig.lend id sink).1
    = { rig with rack := rig.rack.performAll (rig.effects (.lend id sink)) }.setPad id
        (pad.after rig.config fresh id (.lend id sink)) := by
  simp [lend, effects, hpad, Pad.after, dropOwned_eq]

/-- Attaching one touchpad gives it a sink, unless it has one, and drives the sink. -/
theorem attachOne_fst : (rig.attachOne id).1
    = { rig with
        factory := if pad.sink.isNone then rig.factory.make.1 else rig.factory
        rack := rig.rack.performAll (rig.attachingOne id) }.setPad id
          (pad.after rig.config rig.rack.sinks.length id .attach) := by
  rcases hsink : pad.sink with _ | ⟨ownership, sink⟩
  · simp [attachOne, ensureSink, attachingOne, hpad, hsink, Pad.after, Rack.drive_fst, Rack.add,
      Rack.perform, setPad]
  · have hkept : pad.after rig.config rig.rack.sinks.length id .attach = pad := by
      cases pad
      simp_all [Pad.after]
    rw [hkept]
    simp [attachOne, ensureSink, attachingOne, hpad, hsink, Rack.drive_fst, setPad, set_self hpad]

end Samples

/-! ### Attaching -/

theorem attachOne_fst_of_none {rig : Rig} {id : Nat} (h : rig.pads[id]? = none) :
    (rig.attachOne id).1 = rig ∧ rig.attachingOne id = [] := by
  simp [attachOne, attachingOne, h]

theorem attachEach_append_fst (rig : Rig) (ids later : List Nat) :
    (rig.attachEach (ids ++ later)).1 = ((rig.attachEach ids).1.attachEach later).1 := by
  induction ids generalizing rig with
  | nil => rfl
  | cons id ids ih => simp [attachEach, ih]

theorem rack_attachEach (rig : Rig) (ids : List Nat) :
    (rig.attachEach ids).1.rack = rig.rack.performAll (rig.attachingEach ids) := by
  induction ids generalizing rig with
  | nil => rfl
  | cons id ids ih =>
    have hone : (rig.attachOne id).1.rack = rig.rack.performAll (rig.attachingOne id) := by
      cases hpad : rig.pads[id]? with
      | none => simp [attachOne_fst_of_none hpad]
      | some pad => rw [attachOne_fst hpad]; rfl
    simp only [attachEach, attachingEach, Rack.performAll_append]
    rw [ih, hone]

/-- How many sinks there are after attaching one touchpad. -/
theorem length_attachingOne {rig : Rig} {id : Nat} {pad : Pad} (hpad : rig.pads[id]? = some pad) :
    (rig.rack.performAll (rig.attachingOne id)).sinks.length
      = rig.rack.sinks.length + if pad.sink.isNone then 1 else 0 := by
  rcases hsink : pad.sink with _ | ⟨ownership, sink⟩
  · simp [attachingOne, hpad, hsink, Rack.length_sinks_driving, Rack.perform, Rack.add]
  · simp [attachingOne, hpad, hsink, Rack.length_sinks_driving]

/-- **Attaching the first touchpads**: they have got their sinks in order, and the others are as
they were. -/
theorem attachEach_range (rig : Rig) (n : Nat) (hn : n ≤ rig.pads.length) :
    (rig.attachEach (List.range n)).1.config = rig.config
    ∧ (rig.attachEach (List.range n)).1.rack.sinks.length = rig.freshSink n
    ∧ ∀ i, (rig.attachEach (List.range n)).1.pads[i]? = rig.pads[i]?.map fun pad =>
        if i < n then pad.after rig.config (rig.freshSink i) i .attach else pad := by
  induction n with
  | zero => simp [attachEach, freshSink]
  | succ n ih =>
    obtain ⟨hconfig, hlength, hpads⟩ := ih (by omega)
    have hlt : n < rig.pads.length := by omega
    -- The touchpads before the next one leave it as it was.
    have hpad : (rig.attachEach (List.range n)).1.pads[n]? = some rig.pads[n] := by
      rw [hpads n, List.getElem?_eq_getElem hlt]
      simp
    rw [List.range_succ, attachEach_append_fst]
    have hstep : ((rig.attachEach (List.range n)).1.attachEach [n]).1
        = ((rig.attachEach (List.range n)).1.attachOne n).1 := rfl
    rw [hstep, attachOne_fst hpad]
    refine ⟨hconfig, ?_, ?_⟩
    · simp only [setPad]
      rw [length_attachingOne hpad, hlength, freshSink, freshSink, List.take_add_one,
        List.getElem?_eq_getElem hlt, List.countP_append]
      simp [Nat.add_assoc]
    · intro i
      rw [setPad, getElem?_set_of_mem hpad, hconfig, hlength]
      by_cases hi : n = i
      · subst hi
        simp [List.getElem?_eq_getElem hlt]
      · rw [if_neg hi]
        rw [hpads i]
        by_cases hin : i < n
        · simp [hin, Nat.lt_succ_of_lt hin]
        · have hout : ¬ i < n + 1 := by omega
          simp [hin, hout]

/-! ### Actions -/

theorem releases_eq (pads : List Pad) (rack : Rack) :
    pads.foldl release rack = rack.performAll (pads.flatMap Pad.releasing) := by
  induction pads generalizing rack with
  | nil => rfl
  | cons pad pads ih => rw [List.foldl_cons, ih, List.flatMap_cons, Rack.performAll_append, release_eq]

/-- An action that names a touchpad that there is changes that one and its sink. -/
theorem act_fst_of_addressee {rig : Rig} {action : Action} {id : Nat} {pad : Pad}
    (h : action.addressee? = some id) (hpad : rig.pads[id]? = some pad) (fresh : SinkId) :
    (rig.act action).1
      = { rig with rack := rig.rack.performAll (rig.effects action) }.setPad id
          (pad.after rig.config fresh id action) := by
  cases action with
  | attach | detach | reset => cases h
  | touch i x y pressure => cases h; exact touch_fst hpad fresh x y pressure
  | buttons i mask => cases h; exact buttonState_fst hpad fresh mask
  | scroll i x y => cases h; exact scroll_fst hpad fresh x y
  | lend i sink => cases h; exact lend_fst hpad fresh sink

/-- An action that names a touchpad that there is not does nothing. -/
theorem act_of_addressee_none {rig : Rig} {action : Action} {id : Nat}
    (h : action.addressee? = some id) (hpad : rig.pads[id]? = none) :
    rig.act action = (rig, .error (.noSuchTouchpad id)) ∧ rig.effects action = [] := by
  cases action with
  | attach | detach | reset => cases h
  | touch i x y pressure => cases h; simp [act, touch, effects, sampling, hpad]
  | buttons i mask => cases h; simp [act, buttonState, effects, sampling, hpad]
  | scroll i x y => cases h; simp [act, scroll, effects, sampling, hpad]
  | lend i sink => cases h; simp [act, lend, effects, hpad]

/-- **What an action can do**: attach, take all touchpads down, name a touchpad that there is not
and do nothing, or change one touchpad and its sink. -/
theorem act_cases (rig : Rig) (action : Action) :
    action = .attach
    ∨ (action = .detach ∨ action = .reset)
    ∨ (∃ id, action.addressee? = some id ∧ rig.pads[id]? = none
      ∧ (rig.act action).1 = rig ∧ rig.effects action = [])
    ∨ ∃ id pad, action.addressee? = some id ∧ rig.pads[id]? = some pad
      ∧ ∀ fresh, (rig.act action).1
        = { rig with rack := rig.rack.performAll (rig.effects action) }.setPad id
            (pad.after rig.config fresh id action) := by
  cases haddressee : action.addressee? with
  | none =>
    cases action with
    | attach => exact Or.inl rfl
    | detach => exact Or.inr (Or.inl (Or.inl rfl))
    | reset => exact Or.inr (Or.inl (Or.inr rfl))
    | touch | buttons | scroll | lend => cases haddressee
  | some id =>
    right; right
    cases hpad : rig.pads[id]? with
    | none =>
      left
      obtain ⟨hact, heffects⟩ := act_of_addressee_none haddressee hpad
      exact ⟨id, rfl, hpad, by rw [hact], heffects⟩
    | some pad =>
      right
      exact ⟨id, pad, rfl, hpad, act_fst_of_addressee haddressee hpad⟩

/-- The rack after an action is the rack after its effects. -/
theorem rack_act (rig : Rig) (action : Action) :
    (rig.act action).1.rack = rig.rack.performAll (rig.effects action) := by
  rcases act_cases rig action with
    rfl | (rfl | rfl) | ⟨id, -, -, hact, heffects⟩ | ⟨id, pad, -, -, hact⟩
  · exact rack_attachEach rig _
  · exact releases_eq rig.pads rig.rack
  · exact releases_eq rig.pads rig.rack
  · rw [hact, heffects]
    rfl
  · rw [hact 0]
    rfl

/-- The configuration stays as it is. -/
theorem config_act (rig : Rig) (action : Action) : (rig.act action).1.config = rig.config := by
  rcases act_cases rig action with
    rfl | (rfl | rfl) | ⟨id, -, -, hact, -⟩ | ⟨id, pad, -, -, hact⟩
  · exact (attachEach_range rig _ (Nat.le_refl _)).1
  · rfl
  · rfl
  · rw [hact]
  · rw [hact 0]
    rfl

/-- The touchpads after an action are those of `Pad.after`. -/
theorem getElem?_pads_act (rig : Rig) (action : Action) (i : Nat) :
    (rig.act action).1.pads[i]?
      = rig.pads[i]?.map fun pad => pad.after rig.config (rig.freshSink i) i action := by
  have hdown : (rig.reset).pads[i]? = rig.pads[i]?.map fun _ => .initial := by
    show (rig.pads.map fun _ => Pad.initial)[i]? = _
    rw [List.getElem?_map]
  rcases act_cases rig action with
    rfl | (rfl | rfl) | ⟨id, haddressee, hpad, hact, -⟩ | ⟨id, pad, haddressee, hpad, hact⟩
  · show (rig.attachEach (List.range rig.pads.length)).1.pads[i]? = _
    rw [(attachEach_range rig rig.pads.length (Nat.le_refl _)).2.2 i]
    by_cases hi : i < rig.pads.length
    · simp [hi]
    · simp [List.getElem?_eq_none (Nat.le_of_not_lt hi)]
  · exact hdown
  · exact hdown
  · -- The touchpad that is named is not there, and the others are left alone.
    rw [hact]
    by_cases hi : id = i
    · simp [← hi, hpad]
    · simp [Pad.after_of_addressee haddressee hi]
  · rw [hact (rig.freshSink i), setPad, getElem?_set_of_mem hpad]
    by_cases hi : id = i
    · simp [← hi, hpad]
    · simp [hi, Pad.after_of_addressee haddressee hi]

/-- A touchpad that is there after an action. -/
theorem pad_act {rig : Rig} {id : Nat} {pad : Pad} (hpad : rig.pads[id]? = some pad)
    (action : Action) : (rig.act action).1.pads[id]?
      = some (pad.after rig.config (rig.freshSink id) id action) := by
  rw [getElem?_pads_act, hpad, Option.map_some]

/-- A touchpad after an action is one from before it. -/
theorem mem_pads_act {rig : Rig} {action : Action} {pad : Pad}
    (h : pad ∈ (rig.act action).1.pads) :
    ∃ before ∈ rig.pads, ∃ fresh id, pad = before.after rig.config fresh id action := by
  obtain ⟨i, hi⟩ := List.mem_iff_getElem?.1 h
  rw [getElem?_pads_act, Option.map_eq_some_iff] at hi
  obtain ⟨before, hbefore, rfl⟩ := hi
  exact ⟨before, List.mem_of_getElem? hbefore, _, _, rfl⟩

theorem length_pads_act (rig : Rig) (action : Action) :
    (rig.act action).1.pads.length = rig.pads.length := by
  have hiff : ∀ i, (rig.act action).1.pads.length ≤ i ↔ rig.pads.length ≤ i := by
    intro i
    rw [← List.getElem?_eq_none_iff, ← List.getElem?_eq_none_iff, getElem?_pads_act,
      Option.map_eq_none_iff]
  have h₁ := hiff rig.pads.length
  have h₂ := hiff (rig.act action).1.pads.length
  omega

/-! ### Runs -/

theorem run_cons_fst (rig : Rig) (action : Action) (actions : List Action) :
    (rig.run (action :: actions)).1 = ((rig.act action).1.run actions).1 := rfl

theorem run_cons_snd (rig : Rig) (action : Action) (actions : List Action) :
    (rig.run (action :: actions)).2 = (rig.act action).2 :: ((rig.act action).1.run actions).2 :=
  rfl

theorem run_append_fst (rig : Rig) (actions later : List Action) :
    (rig.run (actions ++ later)).1 = ((rig.run actions).1.run later).1 := by
  induction actions generalizing rig with
  | nil => rfl
  | cons action actions ih => exact ih _

theorem trace_append (rig : Rig) (actions later : List Action) :
    rig.trace (actions ++ later) = rig.trace actions ++ (rig.run actions).1.trace later := by
  induction actions generalizing rig with
  | nil => rfl
  | cons action actions ih =>
    rw [List.cons_append, trace, trace, ih, List.append_assoc, run_cons_fst]

/-- **The rack after a run** is the rack after what the run does to the sinks. -/
theorem rack_run (rig : Rig) (actions : List Action) :
    (rig.run actions).1.rack = rig.rack.performAll (rig.trace actions) := by
  induction actions generalizing rig with
  | nil => rfl
  | cons action actions ih =>
    rw [run_cons_fst, ih, rack_act, trace, Rack.performAll_append]

end Rig

end VirtualTouchpad
