/-
# Matched contacts

A reader of a device expects presses and releases of the touch key in turn, a press
first, and a contact to be lifted only where the touch key was just released.

A touchpad decides between the two by what it remembers of the last sample, and it
remembers samples also while it has no sink.  So a sink that a touchpad gets after a
contact starts with a release.  `contactsMatched_iff` says that this is the only way
for contacts to go unmatched: all calls that a sink gets, from the moment a touchpad
gets it until the touchpad gives it back, are matched unless the last sample before
was a contact and a later one is none.
-/
import VirtualTouchpad.Proofs.Touchpad.Holding

namespace VirtualTouchpad

/-! ## Presses and releases -/

/-- The other state of a key. -/
def KeyState.other : KeyState → KeyState
  | .release => .press
  | .press => .release

/-- Key states in turn, the given one first. -/
def Alternates : KeyState → List KeyState → Prop
  | _, [] => True
  | next, state :: states => state = next ∧ Alternates next.other states

instance Alternates.decidable : (next : KeyState) → (states : List KeyState) →
    Decidable (Alternates next states)
  | _, [] => .isTrue trivial
  | next, _ :: states => @instDecidableAnd _ _ _ (Alternates.decidable next.other states)

/-- The state of the touch key that a call reports. -/
def Call.touchKey? : Call → Option KeyState
  | .key code state => if code = KeyCode.touch then some state else none
  | _ => none

/-- The states of the touch key that calls report. -/
def touchKeys (calls : List Call) : List KeyState := calls.filterMap (·.touchKey?)

@[simp] theorem touchKeys_append (calls later : List Call) :
    touchKeys (calls ++ later) = touchKeys calls ++ touchKeys later :=
  List.filterMap_append

/-- Each lift of a contact comes directly after a release of the touch key. -/
def LiftsFollow (calls : List Call) : Prop :=
  ∀ before slot after, calls = before ++ .lift slot :: after →
    before.getLast? = some (.key KeyCode.touch .release)

/-- The touch key is pressed and released in turn, a press first, and contacts are lifted only
where it was just released. -/
structure ContactsMatched (calls : List Call) : Prop where
  alternate : Alternates .press (touchKeys calls)
  lifts : LiftsFollow calls

/-- Calls without a lift. -/
theorem liftsFollow_of_forall {calls : List Call} (h : ∀ slot, Call.lift slot ∉ calls) :
    LiftsFollow calls := by
  intro before slot after heq
  exact absurd (by rw [heq]; simp) (h slot)

/-- Where calls are joined no lift loses the release before it. -/
theorem LiftsFollow.append {calls later : List Call} (h : LiftsFollow calls)
    (hlater : LiftsFollow later) : LiftsFollow (calls ++ later) := by
  intro before slot after heq
  -- The lift is one of the later calls or one of the first.
  rcases List.append_eq_append_iff.mp heq with ⟨between, rfl, hsplit⟩ | ⟨between, hsplit, hrest⟩
  · have hlast := hlater between slot after hsplit
    rw [List.getLast?_append, hlast]
    rfl
  · cases between with
    | nil => exact absurd (hlater [] slot after hrest.symm) (by simp)
    | cons call between =>
      obtain ⟨rfl, rfl⟩ := List.cons_eq_cons.mp hrest
      exact h before slot between hsplit

/-! ## The frames -/

/-- What the touch key does when samples follow each other: it follows their changes. -/
def changes : Bool → List Bool → List KeyState
  | _, [] => []
  | pressed, sample :: samples =>
    if pressed = sample then changes pressed samples
    else .ofBool sample :: changes sample samples

theorem changes_append (pressed : Bool) (samples later : List Bool) :
    changes pressed (samples ++ later)
      = changes pressed samples ++ changes (samples.getLast?.getD pressed) later := by
  induction samples generalizing pressed with
  | nil => rfl
  | cons sample samples ih =>
    rw [List.cons_append, changes, changes, ih, ih, List.getLast?_cons]
    by_cases hsame : pressed = sample
    · simp [hsame]
    · simp [hsame]

/-- A change of the touch key is to the state that it is not in. -/
theorem alternates_changes (pressed : Bool) (samples : List Bool) :
    Alternates (KeyState.ofBool pressed).other (changes pressed samples) := by
  induction samples generalizing pressed with
  | nil => trivial
  | cons sample samples ih =>
    rw [changes]
    split
    · exact ih pressed
    · next hne =>
      have hother : KeyState.ofBool sample = (KeyState.ofBool pressed).other := by
        cases pressed <;> cases sample <;> first | rfl | exact absurd rfl hne
      exact ⟨hother, hother ▸ ih sample⟩

/-- As long as all samples are contacts after a contact, the touch key does not change. -/
theorem changes_true_of_forall {samples : List Bool} (h : false ∉ samples) :
    changes true samples = [] := by
  induction samples with
  | nil => rfl
  | cons sample samples ih =>
    cases sample with
    | false => exact absurd List.mem_cons_self h
    | true => exact ih fun htail => h (List.mem_cons_of_mem _ htail)

/-- The first change after a contact is a release. -/
theorem head?_changes_true {samples : List Bool} (h : false ∈ samples) :
    (changes true samples).head? = some .release := by
  induction samples with
  | nil => cases h
  | cons sample samples ih =>
    cases sample with
    | false => rfl
    | true => exact ih (by simpa using h)

/-- **When the changes start with a press**: unless the last sample was a contact and one of the
samples is none. -/
theorem alternates_press_changes_iff (pressed : Bool) (samples : List Bool) :
    Alternates .press (changes pressed samples) ↔ ¬ (pressed = true ∧ false ∈ samples) := by
  cases pressed with
  | false => exact iff_of_true (alternates_changes false samples) (by simp)
  | true =>
    by_cases hmem : false ∈ samples
    · refine iff_of_false (fun halternate => ?_) (by simp [hmem])
      have hhead := head?_changes_true hmem
      cases hchanges : changes true samples with
      | nil => simp [hchanges] at hhead
      | cons state states =>
        rw [hchanges] at hhead halternate
        exact absurd ((Option.some.inj hhead).symm.trans halternate.1) (by decide)
    · rw [changes_true_of_forall hmem]
      exact iff_of_true trivial (by simp [hmem])

/-- The frame for a touch sample reports the change of the touch key. -/
theorem touchKeys_touchFrame (pad : Pad) (pressed : Bool) (position : Int32 × Int32) :
    touchKeys ({ pad with contact := pad.contact.next pressed }.touchFrame position)
      = changes pad.contact.isPressed [pressed] := by
  obtain ⟨sink, last, contact, buttons⟩ := pad
  cases contact <;> cases pressed <;> simp only [Contact.next, Contact.isPressed, Pad.touchFrame]
    <;> first | rfl | (split <;> rfl)

theorem liftsFollow_touchFrame (pad : Pad) (position : Int32 × Int32) :
    LiftsFollow (pad.touchFrame position) := by
  simp only [Pad.touchFrame]
  cases pad.contact with
  | ending =>
    intro before slot after heq
    rcases before with _ | ⟨first, _ | ⟨second, _ | ⟨third, before⟩⟩⟩
    · simp at heq
    · rw [(List.cons_eq_cons.mp heq).1]
      rfl
    · simp at heq
    · simp at heq
  | hovering | continuing =>
    refine liftsFollow_of_forall fun slot => ?_
    simp only
    split <;> simp
  | starting => exact liftsFollow_of_forall (by simp)

/-- Calls that say nothing of contacts. -/
def Contactless (calls : List Call) : Prop := touchKeys calls = [] ∧ ∀ slot, .lift slot ∉ calls

theorem contactless_nil : Contactless [] := ⟨rfl, by simp⟩

theorem contactless_of_bracket {config : Config} {calls : List Call}
    (h : ∀ call ∈ calls, ∃ name, call ∈ Rig.bracket config name) : Contactless calls := by
  have hcall : ∀ call ∈ calls, call.touchKey? = none ∧ ∀ slot, call ≠ .lift slot := by
    intro call hmem
    obtain ⟨name, hname⟩ := h call hmem
    simp only [Rig.bracket, List.mem_cons, List.not_mem_nil, or_false] at hname
    rcases hname with rfl | rfl | rfl | rfl | rfl | rfl | rfl | rfl | rfl <;>
      exact ⟨rfl, by simp⟩
  refine ⟨List.filterMap_eq_nil_iff.mpr fun call hmem => (hcall call hmem).1, fun slot hmem => ?_⟩
  exact (hcall _ hmem).2 slot rfl

theorem contactless_buttonFrame (pad : Pad) (buttons : UInt32) :
    Contactless (pad.buttonFrame buttons) := by
  unfold Pad.buttonFrame
  split
  · exact ⟨rfl, by simp⟩
  · exact contactless_nil

theorem contactless_scrollFrame (x y : Int32) : Contactless (scrollFrame x y) := by
  unfold scrollFrame
  by_cases hx : x = 0 <;> by_cases hy : y = 0 <;>
    simp [hx, hy, Contactless, touchKeys, Call.touchKey?]

/-- What a touchpad makes of anything but a touch says nothing of contacts. -/
theorem contactless_frame? (pad : Pad) (config : Config) {action : Action}
    (h : ∀ id x y pressure, action ≠ .touch id x y pressure) :
    Contactless ((pad.frame? config action).getD []) := by
  cases action with
  | touch id x y pressure => exact absurd rfl (h id x y pressure)
  | buttons id mask =>
    simp only [Pad.frame?]
    split
    · exact contactless_buttonFrame pad mask
    · exact contactless_nil
  | scroll id x y =>
    simp only [Pad.frame?]
    split
    · exact contactless_scrollFrame _ _
    · exact contactless_nil
  | attach | detach | reset | lend => exact contactless_nil

/-! ## What a touchpad remembers -/

namespace Action

/-- Whether an action is a sample for a touchpad to go by, and then whether it is a contact. -/
def sample? (id : Nat) : Action → Option Bool
  | .touch i x y pressure =>
    if i = id ∧ x.isPosition ∧ y.isPosition then some pressure.isPositive else none
  | _ => none

/-- Whether the last sample was a contact, after an action. -/
def pressed (id : Nat) (before : Bool) (action : Action) : Bool :=
  match action with
  | .detach | .reset => false
  | action => (action.sample? id).getD before

theorem pressed_of_kept {id : Nat} {before : Bool} {action : Action}
    (hkept : action ≠ .detach ∧ action ≠ .reset) :
    action.pressed id before = (action.sample? id).getD before := by
  cases action with
  | detach => exact absurd rfl hkept.1
  | reset => exact absurd rfl hkept.2
  | attach | touch | buttons | scroll | lend => rfl

end Action

/-- Whether the last sample for a touchpad was a contact, after actions on a new rig.  It does not
matter whether the touchpad had a sink then. -/
def pressedAfter (id : Nat) (actions : List Action) : Bool :=
  actions.foldl (Action.pressed id) false

theorem Pad.isPressed_after (pad : Pad) (config : Config) (fresh : SinkId) (id : Nat)
    (action : Action) :
    (pad.after config fresh id action).contact.isPressed
      = action.pressed id pad.contact.isPressed := by
  cases action with
  | attach | detach | reset | scroll => rfl
  | touch i x y pressure =>
    simp only [Pad.after, Action.pressed, Action.sample?]
    split
    · exact Contact.isPressed_next _ _
    · rfl
  | buttons | lend =>
    simp only [Pad.after]
    split <;> rfl

namespace Rig

/-- What a touchpad remembers after a run. -/
theorem isPressed_run {rig : Rig} {id : Nat} {pad after : Pad} {actions : List Action}
    (hpad : rig.pads[id]? = some pad) (hafter : (rig.run actions).1.pads[id]? = some after) :
    after.contact.isPressed = actions.foldl (Action.pressed id) pad.contact.isPressed := by
  induction actions generalizing rig pad with
  | nil =>
    rw [Option.some.inj (hpad.symm.trans hafter)]
    rfl
  | cons action actions ih =>
    rw [ih (pad_act hpad action) hafter, Pad.isPressed_after, List.foldl_cons]

theorem length_pads_run (rig : Rig) (actions : List Action) :
    (rig.run actions).1.pads.length = rig.pads.length := by
  induction actions generalizing rig with
  | nil => rfl
  | cons action actions ih => rw [run_cons_fst, ih, length_pads_act]

/-- What a touchpad remembers after a run of a new rig. -/
theorem isPressed_run_new {config : Config} {factory : Factory} {rack : Rack} {id : Nat}
    {after : Pad} {actions : List Action}
    (hafter : ((new config factory rack).run actions).1.pads[id]? = some after) :
    after.contact.isPressed = pressedAfter id actions := by
  have hlt : id < (new config factory rack).pads.length := by
    rw [← length_pads_run _ actions]
    exact (List.getElem?_eq_some_iff.mp hafter).1
  have hinitial : (new config factory rack).pads[id]? = some .initial := by
    simp only [new, List.length_replicate] at hlt ⊢
    simp [hlt]
  rw [isPressed_run hinitial hafter]
  rfl

/-! ## What a sink gets -/

/-- What the sink of a touchpad gets when it is made or lent says nothing of contacts. -/
theorem contactless_gain (rig : Rig) {action : Action} (sink : SinkId)
    (h : action = .attach ∨ ∃ i s, action = .lend i s) :
    Contactless (received sink (rig.effects action)) := by
  rcases h with rfl | ⟨i, s, rfl⟩
  · exact contactless_of_bracket fun call hmem => mem_received_attachingEach hmem
  · rw [effects]
    cases rig.pads[i]? with
    | none => exact contactless_nil
    | some pad =>
      rw [Option.map_some, Option.getD_some, received_dropping]
      exact contactless_nil

/-- **One step**: unless it is taken away, the sink of a touchpad gets the changes of contact that
samples for that touchpad bring. -/
theorem received_effects {rig : Rig} (h : rig.Tidy) {id : Nat} {sink : SinkId}
    (hsink : rig.sinkAt? id = some sink) {pad : Pad} (hpad : rig.pads[id]? = some pad)
    {action : Action} (hkept : action ≠ .detach ∧ action ≠ .reset) :
    touchKeys (received sink (rig.effects action))
        = changes pad.contact.isPressed (action.sample? id).toList
      ∧ LiftsFollow (received sink (rig.effects action)) := by
  have hquiet : Contactless (received sink (rig.effects action)) → action.sample? id = none →
      touchKeys (received sink (rig.effects action))
          = changes pad.contact.isPressed (action.sample? id).toList
        ∧ LiftsFollow (received sink (rig.effects action)) := by
    rintro ⟨hkeys, hlifts⟩ hnone
    rw [hkeys, hnone]
    exact ⟨rfl, liftsFollow_of_forall hlifts⟩
  cases action with
  | detach => exact absurd rfl hkept.1
  | reset => exact absurd rfl hkept.2
  | attach => exact hquiet (contactless_gain rig sink (Or.inl rfl)) rfl
  | lend i s => exact hquiet (contactless_gain rig sink (Or.inr ⟨i, s, rfl⟩)) rfl
  | buttons i mask =>
    refine hquiet ?_ rfl
    rw [effects, received_sampling h hsink hpad]
    split
    · exact contactless_frame? pad rig.config (by simp)
    · exact contactless_nil
  | scroll i x y =>
    refine hquiet ?_ rfl
    rw [effects, received_sampling h hsink hpad]
    split
    · exact contactless_frame? pad rig.config (by simp)
    · exact contactless_nil
  | touch i x y pressure =>
    rw [effects, received_sampling h hsink hpad]
    by_cases hi : i = id
    · by_cases hin : x.isPosition ∧ y.isPosition
      · simp only [hi, Pad.frame?, hin, Action.sample?, and_self, if_true, Option.getD_some,
          Option.toList_some]
        exact ⟨touchKeys_touchFrame pad _ _, liftsFollow_touchFrame _ _⟩
      · simp only [hi, Pad.frame?, hin, Action.sample?, and_false, if_true, if_false,
          Option.getD_none, Option.toList_none]
        exact ⟨rfl, liftsFollow_of_forall contactless_nil.2⟩
    · simp only [hi, Action.sample?, false_and, if_false, Option.toList_none]
      exact ⟨rfl, liftsFollow_of_forall contactless_nil.2⟩

/-- **A whole run**: as long as a touchpad keeps its sink, that gets the changes of contact that
the touchpad's samples bring, from what the touchpad remembers at the start. -/
theorem received_trace {rig : Rig} (h : rig.Tidy) {id : Nat} {sink : SinkId}
    (hsink : rig.sinkAt? id = some sink) {pad : Pad} (hpad : rig.pads[id]? = some pad)
    {actions : List Action} (hkept : ∀ action ∈ actions, action ≠ .detach ∧ action ≠ .reset)
    (horderly : rig.Keeps Orderly actions) :
    touchKeys (received sink (rig.trace actions))
        = changes pad.contact.isPressed (actions.filterMap (Action.sample? id))
      ∧ LiftsFollow (received sink (rig.trace actions)) := by
  induction actions generalizing rig pad with
  | nil => exact ⟨rfl, liftsFollow_of_forall contactless_nil.2⟩
  | cons action actions ih =>
    have hhead := hkept action List.mem_cons_self
    obtain ⟨hkeys, hlifts⟩ := received_effects h hsink hpad hhead
    obtain ⟨hkeys', hlifts'⟩ := ih (h.act horderly.1) (sinkAt?_kept hsink hhead horderly.1)
      (pad_act hpad action) (fun later hmem => hkept later (List.mem_cons_of_mem _ hmem)) horderly.2
    rw [trace, received_append]
    refine ⟨?_, hlifts.append hlifts'⟩
    -- The changes of the rest start from what the touchpad remembers after this action.
    rw [touchKeys_append, hkeys, hkeys', Pad.isPressed_after, Action.pressed_of_kept hhead,
      List.filterMap_cons]
    cases hsample : action.sample? id with
    | none => rfl
    | some sample =>
      exact (changes_append pad.contact.isPressed [sample] _).symm

/-! ## Matched contacts -/

/-- A touchpad gets a sink by an action, and does not give it back during those that follow. -/
structure Tenure (rig : Rig) (id : Nat) (sink : SinkId) (gain : Action) (during : List Action) :
    Prop where
  without : rig.sinkAt? id = none
  gained : (rig.act gain).1.sinkAt? id = some sink
  kept : ∀ action ∈ during, action ≠ .detach ∧ action ≠ .reset

/-- A touchpad keeps its sink through an action more. -/
theorem Tenure.concat {rig : Rig} {id : Nat} {sink : SinkId} {gain : Action}
    {during : List Action} (h : rig.Tenure id sink gain during) {action : Action}
    (hkept : action ≠ .detach ∧ action ≠ .reset) :
    rig.Tenure id sink gain (during ++ [action]) where
  without := h.without
  gained := h.gained
  kept := by
    intro a hmem
    rcases List.mem_append.mp hmem with hmem | hmem
    · exact h.kept a hmem
    · exact List.mem_singleton.mp hmem ▸ hkept

/-- **Contacts are matched** on a sink, from the moment a touchpad gets it until the touchpad gives
it back, unless the last sample before was a contact and a later one is none. -/
theorem contactsMatched_iff (config : Config) (factory : Factory) (rack : Rack)
    {before : List Action} {gain : Action} {during : List Action} {id : Nat} {sink : SinkId}
    (horderly : (new config factory rack).Keeps Orderly (before ++ gain :: during))
    (htenure : ((new config factory rack).run before).1.Tenure id sink gain during) :
    ContactsMatched
        (received sink (((new config factory rack).run before).1.trace (gain :: during)))
      ↔ ¬ (pressedAfter id before = true ∧ ∃ action ∈ during, action.sample? id = some false) := by
  obtain ⟨hbefore, hgain, hduring⟩ := (keeps_append _ _ _ _).mp horderly
  have htidy := (tidy_new config factory rack).run hbefore
  have hgains := attach_or_lend htenure.without htenure.gained
  generalize hrig : ((new config factory rack).run before).1 = rig at *
  obtain ⟨pad, ownership, hpad, -⟩ := sinkAt?_eq_some_iff.mp htenure.gained
  -- What the touchpad remembers of contacts is what it remembered before it got the sink.
  have hpressed : pad.contact.isPressed = pressedAfter id before := by
    have hrun : ((new config factory rack).run (before ++ [gain])).1.pads[id]? = some pad := by
      rw [run_append_fst, hrig]
      exact hpad
    have hlast : pressedAfter id (before ++ [gain]) = gain.pressed id (pressedAfter id before) := by
      rw [pressedAfter, List.foldl_append]
      rfl
    rw [isPressed_run_new hrun, hlast]
    rcases hgains with rfl | ⟨i, s, rfl⟩ <;> rfl
  obtain ⟨hnokeys, hnolifts⟩ := contactless_gain rig sink hgains
  obtain ⟨hkeys, hlifts⟩ :=
    received_trace (htidy.act hgain) htenure.gained hpad htenure.kept hduring
  have htouch : touchKeys (received sink (rig.trace (gain :: during)))
      = changes (pressedAfter id before) (during.filterMap (Action.sample? id)) := by
    rw [trace, received_append, touchKeys_append, hnokeys, hkeys, hpressed]
    rfl
  have hmem : false ∈ during.filterMap (Action.sample? id)
      ↔ ∃ action ∈ during, action.sample? id = some false := List.mem_filterMap
  -- The lifts are in place in any case, so it comes down to the touch key.
  rw [← hmem, ← alternates_press_changes_iff, ← htouch]
  constructor
  · exact ContactsMatched.alternate
  · intro halternate
    refine ⟨halternate, ?_⟩
    rw [trace, received_append]
    exact (liftsFollow_of_forall hnolifts).append hlifts

/-- Two taps on a touchpad that is attached before the first of them. -/
theorem contactsMatched_two_taps :
    let tap := [Action.touch 0 .zero .zero .one, .touch 0 .zero .zero .zero]
    ContactsMatched (received 0 (((new .standard (.recorders []) ⟨[], .new []⟩).run []).1.trace
      (.attach :: (tap ++ tap)))) := by
  intro tap
  have horderly : (new .standard (.recorders []) ⟨[], .new []⟩).Keeps Orderly
      ([] ++ .attach :: (tap ++ tap)) := ⟨trivial, trivial, trivial, trivial, trivial, trivial⟩
  have htenure : ((new .standard (.recorders []) ⟨[], .new []⟩).run []).1.Tenure 0 0 .attach
      (tap ++ tap) := ⟨by decide, by decide +kernel, by decide⟩
  exact (contactsMatched_iff _ _ _ horderly htenure).mpr (by decide)

/-- A touchpad that is attached in the middle of a tap: its sink gets a release without a press. -/
theorem not_contactsMatched_late_attach :
    let rig := new .standard (.recorders []) ⟨[], .new []⟩
    let before := [Action.touch 0 .zero .zero .one]
    let during := [Action.touch 0 .zero .zero .zero]
    rig.Keeps Orderly (before ++ .attach :: during)
      ∧ (rig.run before).1.Tenure 0 0 .attach during
      ∧ ¬ ContactsMatched (received 0 ((rig.run before).1.trace (.attach :: during))) := by
  refine ⟨⟨trivial, trivial, trivial, trivial⟩, ⟨by decide +kernel, by decide +kernel, by decide⟩, ?_⟩
  intro hmatched
  exact absurd hmatched.alternate (by decide +kernel)

end Rig

end VirtualTouchpad
