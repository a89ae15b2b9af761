/-
# What touchpads remember

A touchpad forgets everything when it is taken down.  What it remembers at any other time
is a function of the actions since then (`Snapshot.ofHistory`): of the last two samples
it remembers whether they were contacts, with or without a sink; of the last sample that
it made with a sink, the coordinates; and of the buttons, the last supported mask that it
got while it had a sink.

* `snapshot_after`: one more action, and what the touchpad remembers then;
* `snapshot_steps`: the memory of a touchpad after any run;
* `act_refused`: an action that is refused for its arguments changes nothing at all.
-/
import Mathlib.Data.List.TakeWhile
import VirtualTouchpad.Proofs.Touchpad.Steps

namespace VirtualTouchpad

/-- A touch sample that a touchpad goes by: whether it is a contact, and where. -/
structure Sample where
  pressed : Bool
  position : Int32 × Int32
  deriving DecidableEq, Repr

/-! ## Actions of interest -/

namespace Action

/-- Whether an action takes all touchpads down. -/
def isDown : Action → Bool
  | .detach | .reset => true
  | _ => false

/-- Whether an action lends a touchpad a sink. -/
def lends (id : Nat) : Action → Bool
  | .lend i _ => i = id
  | _ => false

/-- Whether a touchpad has a sink after an action in any case, unless the action takes it down. -/
def gives (id : Nat) (action : Action) : Bool := action.lends id || action = .attach

/-- The sample that a touchpad makes of a touch in range. -/
def touchOn? (config : Config) (id : Nat) : Action → Option Sample
  | .touch i x y pressure =>
    if i = id ∧ x.isPosition ∧ y.isPosition then
      some ⟨pressure.isPositive, x.coordinate config.width, y.coordinate config.height⟩
    else none
  | _ => none

/-- The mask of a report for a touchpad, if all its buttons are supported. -/
def maskOn? (id : Nat) : Action → Option UInt32
  | .buttons i mask => if i = id ∧ mask &&& ~~~supportedButtons = 0 then some mask else none
  | _ => none

theorem touchOn?_of_gives {config : Config} {id : Nat} {action : Action}
    (h : action.gives id) : action.touchOn? config id = none := by
  cases action with
  | touch => cases h
  | _ => rfl

theorem isDown_eq_false_iff {action : Action} :
    action.isDown = false ↔ action ≠ .detach ∧ action ≠ .reset := by
  cases action <;> simp [isDown]

/-- A sample of a touchpad names it. -/
theorem touchOn?_of_addressee {config : Config} {id : Nat} {action : Action}
    (h : action.addressee? ≠ some id) : action.touchOn? config id = none := by
  cases action with
  | touch i x y pressure =>
    have hi : i ≠ id := fun heq => h (congrArg some heq)
    simp [touchOn?, hi]
  | _ => rfl

/-- So does a report of its buttons. -/
theorem maskOn?_of_addressee {id : Nat} {action : Action} (h : action.addressee? ≠ some id) :
    action.maskOn? id = none := by
  cases action with
  | buttons i mask =>
    have hi : i ≠ id := fun heq => h (congrArg some heq)
    simp [maskOn?, hi]
  | _ => rfl

theorem maskOn?_of_gives {id : Nat} {action : Action} (h : action.gives id) :
    action.maskOn? id = none := by
  cases action with
  | buttons => cases h
  | _ => rfl

theorem supported_of_maskOn? {id : Nat} {action : Action} {mask : UInt32}
    (h : action.maskOn? id = some mask) : mask &&& ~~~supportedButtons = 0 := by
  cases action with
  | buttons i m =>
    simp only [maskOn?] at h
    split at h
    · next hmask => exact Option.some.inj h ▸ hmask.2
    · cases h
  | _ => cases h

end Action

/-- Whether an action is none of the samples that touchpads go by, and takes none down. -/
def Action.IsStill : Action → Prop
  | .attach | .lend .. | .scroll .. => True
  | _ => False

/-- Whether a failure is due to the arguments of a call. -/
def TouchpadFailure.IsRefusal (failure : TouchpadFailure) : Prop :=
  failure.kind = .invalidArgument ∨ failure.kind = .notSupported

/-! ## Histories -/

/-- The actions since touchpads were last taken down. -/
def sinceDown (actions : List Action) : List Action :=
  (actions.reverse.takeWhile (!·.isDown)).reverse

theorem sinceDown_concat (actions : List Action) (action : Action) :
    sinceDown (actions ++ [action])
      = if action.isDown then [] else sinceDown actions ++ [action] := by
  cases h : action.isDown <;> simp [sinceDown, h]

/-- Who owns the sink of a touchpad after a history: one that is lent stays. -/
def ownerAfter (id : Nat) (since : List Action) : Option Ownership :=
  if since.any (·.lends id) then some .lent
  else if .attach ∈ since then some .owned
  else none

theorem ownerAfter_concat (id : Nat) (since : List Action) (action : Action) :
    ownerAfter id (since ++ [action])
      = if action.lends id then some .lent
        else if action = .attach then ownerAfter id since <|> some .owned
        else ownerAfter id since := by
  simp only [ownerAfter, List.any_append, List.any_cons, List.any_nil, Bool.or_false,
    List.mem_append, List.mem_singleton]
  cases hlends : action.lends id with
  | true => simp
  | false =>
    by_cases hattach : action = .attach
    · cases hbefore : since.any (·.lends id)
      · by_cases hmem : Action.attach ∈ since <;> simp [hattach, hmem]
      · simp [hattach]
    · simp [hattach, Ne.symm hattach]

/-- The part of a history in which a touchpad has a sink, from the action that gives it the sink
on. -/
def whileHeld (id : Nat) (since : List Action) : List Action := since.dropWhile (!·.gives id)

theorem whileHeld_eq_nil_iff {id : Nat} {since : List Action} :
    whileHeld id since = [] ↔ ownerAfter id since = none := by
  have hgives : ∀ action ∈ since, (!action.gives id) = true
      ↔ action.lends id = false ∧ action ≠ .attach := by
    intro action _
    simp [Action.gives]
  rw [whileHeld, List.dropWhile_eq_nil_iff, ownerAfter]
  constructor
  · intro h
    have hnone : since.any (·.lends id) = false :=
      List.any_eq_false.mpr fun action hmem => by simp [((hgives action hmem).mp (h action hmem)).1]
    have hattach : Action.attach ∉ since := fun hmem =>
      ((hgives _ hmem).mp (h _ hmem)).2 rfl
    simp [hnone, hattach]
  · intro h action hmem
    cases hany : since.any (·.lends id) with
    | true => simp [hany] at h
    | false =>
      refine (hgives action hmem).mpr ⟨?_, ?_⟩
      · simpa using List.any_eq_false.mp hany action hmem
      · rintro rfl
        simp [hany, hmem] at h

/-- What is read off the actions with a sink grows by actions with a sink. -/
theorem filterMap_whileHeld_concat {α : Type} {read : Action → Option α} {id : Nat}
    (hread : ∀ action : Action, action.gives id → read action = none) (since : List Action)
    (action : Action) :
    (whileHeld id (since ++ [action])).filterMap read
      = (whileHeld id since).filterMap read
        ++ if (ownerAfter id since).isSome then (read action).toList else [] := by
  rw [whileHeld, List.dropWhile_append]
  cases howner : ownerAfter id since with
  | none =>
    -- At best the new action gives the sink, and then nothing is read off it.
    have hnil : since.dropWhile (!·.gives id) = [] := whileHeld_eq_nil_iff.mpr howner
    simp only [whileHeld, hnil, List.isEmpty_nil, if_true]
    cases hgives : action.gives id with
    | true => simp [hgives, hread action hgives]
    | false => simp [hgives]
  | some owner =>
    have hne : since.dropWhile (!·.gives id) ≠ [] := fun hnil => by
      simp [whileHeld_eq_nil_iff.mp hnil] at howner
    have hsome : (since.dropWhile (!·.gives id)).isEmpty = false := by simpa using hne
    simp only [whileHeld, hsome, Option.isSome_some, if_true]
    cases hone : read action <;> simp [hone]

/-! ## Contacts -/

/-- Whether a sample was a contact, counted from the last one, which has number zero.  Samples that
there were not are none. -/
def pressedBack (samples : List Sample) (n : Nat) : Bool :=
  (samples.reverse[n]?.map (·.pressed)).getD false

/-- Two bits: the last sample in the low one, the sample before in the other. -/
def recentContacts (samples : List Sample) : Nat :=
  2 * (pressedBack samples 1).toNat + (pressedBack samples 0).toNat

theorem recentContacts_concat (samples : List Sample) (sample : Sample) :
    recentContacts (samples ++ [sample])
      = 2 * (pressedBack samples 0).toNat + sample.pressed.toNat := by
  simp [recentContacts, pressedBack]

/-- The low one of the two bits is the last sample. -/
theorem Contact.isPressed_of_bits {contact : Contact} {before last : Bool}
    (h : contact.bits = 2 * before.toNat + last.toNat) : contact.isPressed = last := by
  cases contact <;> cases before <;> cases last <;> first | rfl | cases h

/-! ## Snapshots -/

/-- What is seen of a touchpad. -/
structure Snapshot where
  owner : Option Ownership
  contacts : Nat
  position : Option (Int32 × Int32)
  buttons : UInt32
  deriving DecidableEq, Repr

/-- What is seen of a touchpad. -/
def Pad.snapshot (pad : Pad) : Snapshot :=
  ⟨pad.sink.map (·.1), pad.contact.bits, pad.position, pad.buttons⟩

/-- What samples have made of a touchpad. -/
def Pad.tracked (pad : Pad) : Contact × Option (Int32 × Int32) × UInt32 :=
  (pad.contact, pad.position, pad.buttons)

/-- What is to be seen of a touchpad after the actions since it was taken down. -/
def Snapshot.ofHistory (config : Config) (id : Nat) (since : List Action) : Snapshot where
  owner := ownerAfter id since
  contacts := recentContacts (since.filterMap (Action.touchOn? config id))
  position := ((whileHeld id since).filterMap (Action.touchOn? config id)).getLast?.map (·.position)
  buttons := ((whileHeld id since).filterMap (Action.maskOn? id)).getLast?.getD 0

theorem Snapshot.ofHistory_nil (config : Config) (id : Nat) :
    ofHistory config id [] = Pad.initial.snapshot := by
  simp [ofHistory, ownerAfter, whileHeld, recentContacts, pressedBack, Pad.snapshot, Pad.initial,
    Contact.bits]

/-- Without a sink there are no coordinates and no buttons to remember. -/
theorem Snapshot.ofHistory_of_owner_none (config : Config) {id : Nat} {since : List Action}
    (h : ownerAfter id since = none) :
    (ofHistory config id since).position = none ∧ (ofHistory config id since).buttons = 0 := by
  simp [ofHistory, whileHeld_eq_nil_iff.mpr h]

/-- Only supported buttons are remembered. -/
theorem Snapshot.supported_buttons_ofHistory (config : Config) (id : Nat) (since : List Action) :
    (ofHistory config id since).buttons &&& ~~~supportedButtons = 0 := by
  simp only [ofHistory]
  cases hlast : ((whileHeld id since).filterMap (Action.maskOn? id)).getLast? with
  | none => decide
  | some mask =>
    obtain ⟨action, -, hmask⟩ := List.mem_filterMap.mp (List.mem_of_getLast? hlast)
    exact Action.supported_of_maskOn? hmask

namespace Pad

section After

variable (pad : Pad) (config : Config) (fresh : SinkId) (id : Nat) {action : Action}
  (hkept : action.isDown = false)

include hkept

theorem owner_after : (pad.after config fresh id action).sink.map (·.1)
    = if action.lends id then some .lent
      else if action = .attach then pad.sink.map (·.1) <|> some .owned
      else pad.sink.map (·.1) := by
  cases action with
  | detach | reset => cases hkept
  | attach => cases hsink : pad.sink <;> simp [after, Action.lends, hsink]
  | scroll => rfl
  | touch | buttons =>
    simp only [after]
    split <;> rfl
  | lend i sink => by_cases hi : i = id <;> simp [after, Action.lends, hi]

theorem contact_after : (pad.after config fresh id action).contact
    = ((action.touchOn? config id).map fun sample => pad.contact.next sample.pressed).getD
        pad.contact := by
  cases action with
  | detach | reset => cases hkept
  | attach | scroll => rfl
  | touch | buttons | lend =>
    simp only [after, Action.touchOn?]
    split <;> rfl

theorem position_after : (pad.after config fresh id action).position
    = ((if pad.sink.isSome then action.touchOn? config id else none).map (·.position)
        <|> pad.position) := by
  cases action with
  | detach | reset => cases hkept
  | attach | scroll => simp [after, Action.touchOn?]
  | buttons | lend =>
    simp only [after, Action.touchOn?]
    split <;> simp
  | touch i x y pressure =>
    by_cases hin : i = id ∧ x.isPosition ∧ y.isPosition
    · cases hsink : pad.sink.isSome <;> simp [after, Action.touchOn?, hin, hsink]
    · simp [after, Action.touchOn?, hin]

theorem buttons_after : (pad.after config fresh id action).buttons
    = (if pad.sink.isSome then action.maskOn? id else none).getD pad.buttons := by
  cases action with
  | detach | reset => cases hkept
  | attach | scroll => simp [after, Action.maskOn?]
  | touch | lend =>
    simp only [after, Action.maskOn?]
    split <;> simp
  | buttons i mask =>
    by_cases hin : i = id ∧ mask &&& ~~~supportedButtons = 0
    · cases hsink : pad.sink.isSome <;> simp [after, Action.maskOn?, hin, hsink]
    · have hout : ¬ (i = id ∧ mask &&& ~~~supportedButtons = 0 ∧ pad.sink.isSome) :=
        fun h => hin ⟨h.1, h.2.1⟩
      simp [after, Action.maskOn?, hin, hout]

/-- **One more action**: what a touchpad remembers goes on to follow from its history. -/
theorem snapshot_after {since : List Action} (h : pad.snapshot = .ofHistory config id since) :
    (pad.after config fresh id action).snapshot = .ofHistory config id (since ++ [action]) := by
  have howner : pad.sink.map (·.1) = ownerAfter id since := congrArg Snapshot.owner h
  have hcontacts :
      pad.contact.bits = recentContacts (since.filterMap (Action.touchOn? config id)) :=
    congrArg Snapshot.contacts h
  have hposition : pad.position
      = ((whileHeld id since).filterMap (Action.touchOn? config id)).getLast?.map (·.position) :=
    congrArg Snapshot.position h
  have hbuttons : pad.buttons
      = ((whileHeld id since).filterMap (Action.maskOn? id)).getLast?.getD 0 :=
    congrArg Snapshot.buttons h
  have hheld : pad.sink.isSome = (ownerAfter id since).isSome := by rw [← howner, Option.isSome_map]
  rw [snapshot, Snapshot.ofHistory, Snapshot.mk.injEq]
  refine ⟨?_, ?_, ?_, ?_⟩
  · rw [owner_after pad config fresh id hkept, ownerAfter_concat, howner]
  · rw [contact_after pad config fresh id hkept, List.filterMap_append]
    cases hsample : action.touchOn? config id with
    | none => simpa [hsample] using hcontacts
    | some sample =>
      simp [hsample, recentContacts_concat, Contact.bits_next, Contact.isPressed_of_bits hcontacts]
  · rw [position_after pad config fresh id hkept, hheld,
      filterMap_whileHeld_concat fun _ => Action.touchOn?_of_gives, hposition]
    cases (ownerAfter id since).isSome with
    | false => simp
    | true => cases hsample : action.touchOn? config id <;> simp
  · rw [buttons_after pad config fresh id hkept, hheld,
      filterMap_whileHeld_concat fun _ => Action.maskOn?_of_gives, hbuttons]
    cases (ownerAfter id since).isSome with
    | false => simp
    | true => cases hmask : action.maskOn? id <;> simp

end After

end Pad

namespace Rig

/-- What touchpads remember goes on to follow from their history along any steps. -/
theorem snapshot_of_past {rig : Rig} {id : Nat} {past : List Action}
    (h : ∀ pad, rig.pads[id]? = some pad →
      pad.snapshot = .ofHistory rig.config id (sinceDown past)) (steps : List Step) :
    ∀ pad, (rig.steps steps).pads[id]? = some pad →
      pad.snapshot = .ofHistory rig.config id (sinceDown (past ++ actionsOf steps)) := by
  induction steps generalizing rig past with
  | nil =>
    intro pad hpad
    rw [show actionsOf [] = [] from rfl, List.append_nil]
    exact h pad hpad
  | cons step steps ih =>
    have hconfig : (rig.step step).config = rig.config := config_steps rig [step]
    have hnext : ∀ pad, (rig.step step).pads[id]? = some pad →
        pad.snapshot
          = .ofHistory (rig.step step).config id (sinceDown (past ++ step.action?.toList)) := by
      intro pad hpad
      rw [hconfig]
      rw [getElem?_pads_step] at hpad
      obtain ⟨before, hbefore, rfl⟩ := Option.map_eq_some_iff.mp hpad
      cases step with
      | order sink failure => simpa [Step.action?] using h before hbefore
      | call action =>
        simp only [Step.action?, Option.map_some, Option.getD_some, Option.toList_some]
        -- A history starts anew when touchpads are taken down, and goes on with other actions.
        rw [sinceDown_concat]
        cases hdown : action.isDown with
        | false => exact before.snapshot_after _ _ _ hdown (h before hbefore)
        | true =>
          cases action with
          | detach | reset => rfl
          | _ => cases hdown
    have hsplit : past ++ actionsOf (step :: steps)
        = past ++ step.action?.toList ++ actionsOf steps := by
      rw [List.append_assoc]
      cases step <;> rfl
    rw [hsplit, ← hconfig]
    exact ih hnext

/-- **The memory of a touchpad** after any run of a new rig. -/
theorem snapshot_steps {config : Config} {factory : Factory} {rack : Rack} {steps : List Step}
    {id : Nat} {pad : Pad}
    (hpad : ((new config factory rack).steps steps).pads[id]? = some pad) :
    pad.snapshot = .ofHistory config.clamped id (sinceDown (actionsOf steps)) := by
  have hnew : ∀ initial, (new config factory rack).pads[id]? = some initial →
      initial.snapshot = .ofHistory (new config factory rack).config id (sinceDown []) := by
    intro initial hinitial
    rw [new, List.getElem?_replicate] at hinitial
    split at hinitial
    · obtain rfl := Option.some.inj hinitial
      exact (Snapshot.ofHistory_nil _ _).symm
    · cases hinitial
  have hpast := snapshot_of_past hnew steps pad hpad
  rwa [List.nil_append] at hpast

/-- A touchpad without a sink remembers no coordinates and no buttons. -/
theorem forgotten_of_sinkAt?_none {config : Config} {factory : Factory} {rack : Rack}
    {steps : List Step} {id : Nat} {pad : Pad}
    (hpad : ((new config factory rack).steps steps).pads[id]? = some pad)
    (hnone : ((new config factory rack).steps steps).sinkAt? id = none) :
    pad.position = none ∧ pad.buttons = 0 := by
  have hsnapshot := snapshot_steps hpad
  have hsink : pad.sink = none := by simpa [sinkAt?, hpad] using hnone
  have howner : ownerAfter id (sinceDown (actionsOf steps)) = none := by
    have howner := congrArg Snapshot.owner hsnapshot
    rw [Pad.snapshot, hsink] at howner
    exact howner.symm
  obtain ⟨hposition, hbuttons⟩ := Snapshot.ofHistory_of_owner_none config.clamped howner
  rw [← hsnapshot] at hposition hbuttons
  exact ⟨hposition, hbuttons⟩

/-! ## Actions that leave the memory alone -/

/-- An action that is refused for its arguments changes nothing. -/
theorem act_refused {rig : Rig} {action : Action} {failure : TouchpadFailure}
    (herror : (rig.act action).2 = .error failure) (hrefusal : failure.IsRefusal) :
    (rig.act action).1 = rig := by
  -- What comes of a sink is no refusal, and neither is the lack of one.
  have hsink : ∀ status, outcome status ≠ .error failure := by
    rintro (_ | error) heq
    · cases heq
    · cases heq
      exact absurd hrefusal (by simp [TouchpadFailure.IsRefusal, TouchpadFailure.kind])
  have hattached : ∀ id, failure ≠ .notAttached id := by
    rintro id rfl
    exact absurd hrefusal (by simp [TouchpadFailure.IsRefusal, TouchpadFailure.kind])
  rcases hact : rig.act action with ⟨next, result⟩
  obtain rfl : result = .error failure := by rw [← herror, hact]
  cases action with
  | attach => exact absurd (congrArg Prod.snd hact) (hsink _)
  | detach | reset => cases hact
  | touch id x y pressure =>
    simp only [act, touch] at hact
    split at hact
    · cases hact; rfl
    · split at hact
      · cases hact; rfl
      · cases hact; rfl
      · split at hact
        · cases hact; exact absurd rfl (hattached id)
        · exact absurd (congrArg Prod.snd hact) (hsink _)
  | buttons id mask =>
    simp only [act, buttonState] at hact
    split at hact
    · cases hact; rfl
    · split at hact
      · cases hact
      · split at hact
        · cases hact; rfl
        · split at hact
          · cases hact; rfl
          · exact absurd (congrArg Prod.snd hact) (hsink _)
  | scroll id x y =>
    simp only [act, scroll] at hact
    split at hact
    · cases hact; rfl
    · split at hact
      · cases hact; rfl
      · cases hact; rfl
      · split at hact
        · cases hact; rfl
        · exact absurd (congrArg Prod.snd hact) (hsink _)
  | lend id sink =>
    simp only [act, lend] at hact
    split at hact
    · cases hact; rfl
    · cases hact

/-- Attaching, lending and scrolling leave alone what samples have made of a touchpad. -/
theorem tracked_after (pad : Pad) (config : Config) (fresh : SinkId) (id : Nat) {action : Action}
    (h : action.IsStill) : (pad.after config fresh id action).tracked = pad.tracked := by
  cases action with
  | attach | scroll => rfl
  | lend i sink =>
    simp only [Pad.after]
    split <;> rfl
  | detach | reset | touch | buttons => cases h

/-- A touchpad that gets a sink has no coordinates and no buttons to remember, and gets none. -/
theorem forgotten_of_gain {config : Config} {factory : Factory} {rack : Rack} {steps : List Step}
    {gain : Action} {id : Nat} {pad : Pad}
    (hnone : ((new config factory rack).steps steps).sinkAt? id = none)
    (hgain : gain = .attach ∨ ∃ i s, gain = .lend i s)
    (hpad : (((new config factory rack).steps steps).act gain).1.pads[id]? = some pad) :
    ∃ before, ((new config factory rack).steps steps).pads[id]? = some before
      ∧ pad.tracked = (before.contact, none, 0) := by
  rw [getElem?_pads_act] at hpad
  obtain ⟨before, hbefore, rfl⟩ := Option.map_eq_some_iff.mp hpad
  obtain ⟨hposition, hbuttons⟩ := forgotten_of_sinkAt?_none hbefore hnone
  have hstill : gain.IsStill := by rcases hgain with rfl | ⟨i, s, rfl⟩ <;> trivial
  refine ⟨before, hbefore, ?_⟩
  rw [tracked_after before _ _ _ hstill, Pad.tracked, hposition, hbuttons]

/-- An action that is no sample to go by leaves alone what samples have made of the touchpads. -/
theorem tracked_act {rig : Rig} {action : Action}
    (h : action.IsStill
      ∨ ∃ failure, (rig.act action).2 = .error failure ∧ failure.IsRefusal) :
    (rig.act action).1.pads.map Pad.tracked = rig.pads.map Pad.tracked := by
  rcases h with hstill | ⟨failure, herror, hrefusal⟩
  · apply List.ext_getElem?
    intro i
    rw [List.getElem?_map, List.getElem?_map, getElem?_pads_act, Option.map_map]
    congr 1
    funext pad
    exact tracked_after pad _ _ _ hstill
  · rw [act_refused herror hrefusal]

/-- **What a touchpad remembers is a function of its history**: after any steps of a new rig, the
memory of each touchpad is that of the actions since touchpads were last taken down, no button but
the supported ones is remembered, and an action leaves what samples have made of the touchpads
alone if it is no sample or is refused for its arguments.  `describe` gives a text and no rig. -/
theorem snapshot_of_history (config : Config) (factory : Factory) (rack : Rack)
    (steps : List Step) (id : Nat) :
    let rig := (new config factory rack).steps steps
    rig.pads[id]?.map Pad.snapshot
        = (if id < config.devices.toNat then
            some (.ofHistory config.clamped id (sinceDown (actionsOf steps)))
          else none)
      ∧ (∀ pad ∈ rig.pads, pad.buttons &&& ~~~supportedButtons = 0)
      ∧ ∀ action, (action.IsStill
            ∨ ∃ failure, (rig.act action).2 = .error failure ∧ failure.IsRefusal) →
          (rig.act action).1.pads.map Pad.tracked = rig.pads.map Pad.tracked := by
  intro rig
  refine ⟨?_, fun pad hmem => ?_, fun action h => tracked_act h⟩
  · have hlength : rig.pads.length = config.devices.toNat := by
      rw [length_pads_steps, new, List.length_replicate]
    cases hpad : rig.pads[id]? with
    | none =>
      have hout : ¬ id < config.devices.toNat :=
        Nat.not_lt.mpr (hlength ▸ List.getElem?_eq_none_iff.mp hpad)
      rw [Option.map_none, if_neg hout]
    | some pad =>
      have hin : id < config.devices.toNat := hlength ▸ (List.getElem?_eq_some_iff.mp hpad).1
      rw [Option.map_some, if_pos hin, snapshot_steps hpad]
  · obtain ⟨i, hi⟩ := List.mem_iff_getElem?.mp hmem
    have hbuttons : pad.buttons
        = (Snapshot.ofHistory config.clamped i (sinceDown (actionsOf steps))).buttons :=
      congrArg Snapshot.buttons (snapshot_steps hi)
    rw [hbuttons]
    exact Snapshot.supported_buttons_ofHistory _ _ _

/-- A contact and a button on an attached touchpad, and then a touch outside the surface. -/
theorem snapshot_of_history_contact :
    let rig := (new .standard (.recorders []) ⟨[], .new []⟩).steps
      [.call .attach, .call (.touch 0 .zero .zero .one), .call (.buttons 0 backButton)]
    rig.pads[0]?.map Pad.snapshot = some ⟨some .owned, 1, some (0, 0), backButton⟩
      ∧ (rig.act (.touch 0 .one .zero .zero)).1.pads.map Pad.tracked
        = rig.pads.map Pad.tracked := by
  intro rig
  obtain ⟨hsnapshot, -, htracked⟩ := snapshot_of_history .standard (.recorders []) ⟨[], .new []⟩
    [.call .attach, .call (.touch 0 .zero .zero .one), .call (.buttons 0 backButton)] 0
  refine ⟨hsnapshot.trans (by decide +kernel), htracked _ (Or.inr ?_)⟩
  exact ⟨.outOfRange "x" .one "[0, 1)", by rfl, Or.inl rfl⟩

end Rig

end VirtualTouchpad
