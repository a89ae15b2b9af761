/-
# Who holds which sink

A sink is lent in order if it is there, nobody holds it, and the touchpad that it
is lent to holds none.  As long as sinks are lent in order, no two touchpads hold
the same one (`Tidy.run`), so what a sink gets from a sample is the frame of the
touchpad that holds it (`received_sampling`).
-/
import VirtualTouchpad.Proofs.Touchpad.Trace

namespace VirtualTouchpad

namespace Rig

/-! ## Runs with rules -/

/-- Whether each action of a run keeps a rule about the state that it is made in. -/
def Keeps (rule : Rig → Action → Prop) (rig : Rig) : List Action → Prop
  | [] => True
  | action :: actions => rule rig action ∧ Keeps rule (rig.act action).1 actions

theorem keeps_append (rule : Rig → Action → Prop) (rig : Rig) (actions later : List Action) :
    rig.Keeps rule (actions ++ later)
      ↔ rig.Keeps rule actions ∧ (rig.run actions).1.Keeps rule later := by
  induction actions generalizing rig with
  | nil => simp [Keeps, run]
  | cons action actions ih => simp [Keeps, ih, run_cons_fst, and_assoc]

/-! ## Held sinks -/

/-- The sink that a touchpad holds. -/
def sinkAt? (rig : Rig) (id : Nat) : Option SinkId := (rig.pads[id]?.bind Pad.sink).map (·.2)

theorem sinkAt?_eq_some_iff {rig : Rig} {id : Nat} {sink : SinkId} :
    rig.sinkAt? id = some sink
      ↔ ∃ pad ownership, rig.pads[id]? = some pad ∧ pad.sink = some (ownership, sink) := by
  simp only [sinkAt?, Option.map_eq_some_iff, Option.bind_eq_some_iff]
  constructor
  · rintro ⟨⟨ownership, _⟩, ⟨pad, hpad, hsink⟩, rfl⟩
    exact ⟨pad, ownership, hpad, hsink⟩
  · rintro ⟨pad, ownership, hpad, hsink⟩
    exact ⟨(ownership, sink), ⟨pad, hpad, hsink⟩, rfl⟩

theorem isSome_sink_of_sinkAt? {rig : Rig} {id : Nat} {sink : SinkId} {pad : Pad}
    (hsink : rig.sinkAt? id = some sink) (hpad : rig.pads[id]? = some pad) : pad.sink.isSome := by
  obtain ⟨held, ownership, hheld, hsome⟩ := sinkAt?_eq_some_iff.mp hsink
  rw [Option.some.inj (hpad.symm.trans hheld), hsome]
  rfl

/-- Lending keeps the owners' rules: the sink is there, the touchpad holds none, and no touchpad
holds that one. -/
def Orderly (rig : Rig) : Action → Prop
  | .lend id sink =>
    sink < rig.rack.sinks.length ∧ rig.sinkAt? id = none ∧ ∀ i, rig.sinkAt? i ≠ some sink
  | _ => True

/-- Held sinks are there, and each is held by one touchpad. -/
structure Tidy (rig : Rig) : Prop where
  lt : ∀ id sink, rig.sinkAt? id = some sink → sink < rig.rack.sinks.length
  unshared : ∀ i j sink, rig.sinkAt? i = some sink → rig.sinkAt? j = some sink → i = j

/-- A new rig holds nothing. -/
theorem sinkAt?_new (config : Config) (factory : Factory) (rack : Rack) (id : Nat) :
    (new config factory rack).sinkAt? id = none := by
  simp only [sinkAt?, new, List.getElem?_replicate]
  split <;> rfl

theorem tidy_new (config : Config) (factory : Factory) (rack : Rack) :
    (new config factory rack).Tidy where
  lt := fun id sink h => by simp [sinkAt?_new] at h
  unshared := fun i j sink h => by simp [sinkAt?_new] at h

/-! ### After an action -/

/-- The sink that a touchpad holds after an action. -/
theorem sinkAt?_act (rig : Rig) (action : Action) (id : Nat) :
    (rig.act action).1.sinkAt? id
      = match action with
        | .attach =>
          rig.sinkAt? id <|> if id < rig.pads.length then some (rig.freshSink id) else none
        | .detach | .reset => none
        | .lend i sink => if i = id ∧ id < rig.pads.length then some sink else rig.sinkAt? id
        | _ => rig.sinkAt? id := by
  simp only [sinkAt?, getElem?_pads_act]
  cases hpad : rig.pads[id]? with
  | none =>
    have hge : ¬ id < rig.pads.length := Nat.not_lt.mpr (List.getElem?_eq_none_iff.mp hpad)
    cases action <;> simp [hge]
  | some pad =>
    have hlt : id < rig.pads.length := (List.getElem?_eq_some_iff.mp hpad).1
    cases action with
    | attach => cases hsink : pad.sink <;> simp [Pad.after, hsink, hlt]
    | detach | reset => simp [Pad.after, Pad.initial]
    | touch | buttons =>
      simp only [Option.map_some, Option.bind_some, Pad.after]
      split <;> rfl
    | scroll => rfl
    | lend i sink =>
      by_cases hi : i = id
      · simp [Pad.after, hi, hlt]
      · simp [Pad.after, hi]

/-- The sinks that attaching makes come after those that there are. -/
theorem length_le_freshSink (rig : Rig) (id : Nat) : rig.rack.sinks.length ≤ rig.freshSink id :=
  Nat.le_add_right _ _

/-- Attaching makes a sink of its own for each touchpad that holds none. -/
theorem freshSink_lt {rig : Rig} {i j : Nat} (hij : i < j) (hi : i < rig.pads.length)
    (hnone : rig.sinkAt? i = none) : rig.freshSink i < rig.freshSink j := by
  have hsink : rig.pads[i].sink = none := by
    simpa [sinkAt?, List.getElem?_eq_getElem hi] using hnone
  -- The touchpad `i` counts among those that come before `j`.
  have hstep : (rig.pads.take (i + 1)).countP (·.sink.isNone)
      = (rig.pads.take i).countP (·.sink.isNone) + 1 := by
    rw [List.take_add_one, List.getElem?_eq_getElem hi, List.countP_append]
    simp [hsink]
  have hle : (rig.pads.take (i + 1)).countP (·.sink.isNone)
      ≤ (rig.pads.take j).countP (·.sink.isNone) :=
    (List.take_sublist_take_left hij).countP_le
  exact Nat.add_lt_add_left (by omega) _

/-- Attaching lets a touchpad keep its sink, and makes one for a touchpad without. -/
theorem sinkAt?_attach {rig : Rig} {id : Nat} {sink : SinkId}
    (h : (rig.act .attach).1.sinkAt? id = some sink) :
    rig.sinkAt? id = some sink
      ∨ rig.sinkAt? id = none ∧ id < rig.pads.length ∧ sink = rig.freshSink id := by
  rw [sinkAt?_act] at h
  cases hold : rig.sinkAt? id with
  | some held => left; simpa [hold] using h
  | none => right; simpa [hold, eq_comm] using h

/-- Actions that neither attach nor lend give no touchpad a sink. -/
theorem sinkAt?_of_act {rig : Rig} {action : Action} {id : Nat} {sink : SinkId}
    (hattach : action ≠ .attach) (hlend : ∀ i s, action ≠ .lend i s)
    (h : (rig.act action).1.sinkAt? id = some sink) : rig.sinkAt? id = some sink := by
  rw [sinkAt?_act] at h
  cases action <;> simp_all

/-- Only attaching and lending give a sink to a touchpad that holds none. -/
theorem attach_or_lend {rig : Rig} {action : Action} {id : Nat} {sink : SinkId}
    (hnone : rig.sinkAt? id = none) (h : (rig.act action).1.sinkAt? id = some sink) :
    action = .attach ∨ ∃ i s, action = .lend i s := by
  by_cases hattach : action = .attach
  · exact Or.inl hattach
  by_cases hlend : ∃ i s, action = .lend i s
  · exact Or.inr hlend
  rw [sinkAt?_of_act hattach (fun i s he => hlend ⟨i, s, he⟩) h] at hnone
  cases hnone

/-- Only detaching and resetting take a sink away, as long as sinks are lent in order. -/
theorem sinkAt?_kept {rig : Rig} {action : Action} {id : Nat} {sink : SinkId}
    (hsink : rig.sinkAt? id = some sink) (hkept : action ≠ .detach ∧ action ≠ .reset)
    (horderly : rig.Orderly action) : (rig.act action).1.sinkAt? id = some sink := by
  rw [sinkAt?_act]
  cases action with
  | detach => exact absurd rfl hkept.1
  | reset => exact absurd rfl hkept.2
  | attach => simp [hsink]
  | touch | buttons | scroll => exact hsink
  | lend i s =>
    have hne : i ≠ id := by
      rintro rfl
      exact absurd (hsink.symm.trans horderly.2.1) (by simp)
    simp [hne, hsink]

/-- After attaching, the rack has the sinks that were made. -/
theorem length_sinks_attach (rig : Rig) :
    (rig.act .attach).1.rack.sinks.length = rig.freshSink rig.pads.length :=
  (attachEach_range rig _ (Nat.le_refl _)).2.1

theorem length_le_act (rig : Rig) (action : Action) :
    rig.rack.sinks.length ≤ (rig.act action).1.rack.sinks.length := by
  rw [rack_act]
  exact Rack.length_le_performAll _ _

theorem Tidy.attach {rig : Rig} (h : rig.Tidy) : (rig.act .attach).1.Tidy where
  lt := by
    intro id sink hsink
    rcases sinkAt?_attach hsink with hold | ⟨hnone, hlt, rfl⟩
    · exact Nat.lt_of_lt_of_le (h.lt id sink hold) (length_le_act rig .attach)
    · rw [length_sinks_attach]
      exact freshSink_lt hlt hlt hnone
  unshared := by
    intro i j sink hi hj
    -- Of two sinks that are held after attaching, each was there before or was made.
    rcases sinkAt?_attach hi with holdi | ⟨hnonei, hlti, rfl⟩
      <;> rcases sinkAt?_attach hj with holdj | ⟨hnonej, hltj, heq⟩
    · exact h.unshared i j sink holdi holdj
    · have hlt := h.lt i sink holdi
      exact absurd (length_le_freshSink rig j) (heq ▸ Nat.not_le.mpr hlt)
    · have hlt := h.lt j _ holdj
      exact absurd (length_le_freshSink rig i) (Nat.not_le.mpr hlt)
    · rcases Nat.lt_trichotomy i j with hij | hij | hij
      · exact absurd heq (Nat.ne_of_lt (freshSink_lt hij hlti hnonei))
      · exact hij
      · exact absurd heq.symm (Nat.ne_of_lt (freshSink_lt hij hltj hnonej))

theorem Tidy.lend {rig : Rig} (h : rig.Tidy) {id : Nat} {sink : SinkId}
    (horderly : rig.Orderly (.lend id sink)) : (rig.act (.lend id sink)).1.Tidy := by
  obtain ⟨hthere, -, hfree⟩ := horderly
  -- A sink that is held after lending was held before, or is the one that was lent.
  have hcases : ∀ i s, (rig.act (.lend id sink)).1.sinkAt? i = some s →
      rig.sinkAt? i = some s ∨ i = id ∧ s = sink := by
    intro i s hs
    rw [sinkAt?_act] at hs
    simp only at hs
    split at hs
    · next hi => exact Or.inr ⟨hi.1.symm, (Option.some.inj hs).symm⟩
    · exact Or.inl hs
  constructor
  · intro i s hs
    refine Nat.lt_of_lt_of_le ?_ (length_le_act rig _)
    rcases hcases i s hs with hold | ⟨-, rfl⟩
    · exact h.lt i s hold
    · exact hthere
  · intro i j s hi hj
    rcases hcases i s hi with holdi | ⟨rfl, rfl⟩ <;> rcases hcases j _ hj with holdj | ⟨rfl, hs⟩
    · exact h.unshared i j s holdi holdj
    · exact absurd (hs ▸ holdi) (hfree i)
    · exact absurd holdj (hfree j)
    · rfl

/-- Orderly actions keep a rig tidy. -/
theorem Tidy.act {rig : Rig} (h : rig.Tidy) {action : Action} (horderly : rig.Orderly action) :
    (rig.act action).1.Tidy := by
  by_cases hattach : action = .attach
  · exact hattach ▸ h.attach
  by_cases hlend : ∃ id sink, action = .lend id sink
  · obtain ⟨id, sink, rfl⟩ := hlend
    exact h.lend horderly
  have hback : ∀ i s, (rig.act action).1.sinkAt? i = some s → rig.sinkAt? i = some s :=
    fun i s => sinkAt?_of_act hattach fun i s he => hlend ⟨i, s, he⟩
  exact
    { lt := fun i s hs => Nat.lt_of_lt_of_le (h.lt i s (hback i s hs)) (length_le_act rig action)
      unshared := fun i j s hi hj => h.unshared i j s (hback i s hi) (hback j s hj) }

/-- **Orderly runs keep a rig tidy.** -/
theorem Tidy.run {rig : Rig} (h : rig.Tidy) {actions : List Action}
    (horderly : rig.Keeps Orderly actions) : (rig.run actions).1.Tidy := by
  induction actions generalizing rig with
  | nil => exact h
  | cons action actions ih => exact ih (h.act horderly.1) horderly.2

/-! ## What a held sink gets -/

/-- Dropping is no call. -/
theorem received_dropping (sink : SinkId) (pad : Pad) : received sink pad.dropping = [] := by
  unfold Pad.dropping
  split <;> rfl

/-- A sample is a frame for the sink of the touchpad that it names, and nothing for the others. -/
theorem received_sampling {rig : Rig} (h : rig.Tidy) {id : Nat} {sink : SinkId}
    (hsink : rig.sinkAt? id = some sink) {pad : Pad} (hpad : rig.pads[id]? = some pad) (i : Nat)
    (sample : Action) : received sink (rig.sampling i sample)
      = if i = id then (pad.frame? rig.config sample).getD [] else [] := by
  by_cases hi : i = id
  · subst hi
    obtain ⟨other, ownership, hother, hheld⟩ := sinkAt?_eq_some_iff.mp hsink
    rw [Option.some.inj (hother.symm.trans hpad)] at hheld
    rw [if_pos rfl, sampling, hpad]
    simp only [hheld]
    cases pad.frame? rig.config sample with
    | none => rfl
    | some frame => exact received_driving_self sink frame
  · rw [if_neg hi, sampling]
    cases hother : rig.pads[i]? with
    | none => rfl
    | some other =>
      simp only
      split
      · next ownership held frame hheld _ =>
        -- Two touchpads would hold the same sink.
        refine received_driving_of_ne (fun heq => hi ?_) frame
        exact h.unshared i id sink
          (sinkAt?_eq_some_iff.mpr ⟨other, ownership, hother, heq ▸ hheld⟩) hsink
      · rfl

/-- All that a sink gets when touchpads are attached belongs to a configuration. -/
theorem mem_received_attachingEach {rig : Rig} {sink : SinkId} {ids : List Nat} {call : Call}
    (h : call ∈ received sink (rig.attachingEach ids)) :
    ∃ name, call ∈ bracket rig.config name := by
  induction ids generalizing rig with
  | nil => simp [attachingEach] at h
  | cons id ids ih =>
    rw [attachingEach, received_append, List.mem_append] at h
    cases hpad : rig.pads[id]? with
    | none =>
      rw [(attachOne_fst_of_none hpad).1, (attachOne_fst_of_none hpad).2] at h
      exact ih (h.resolve_left (by simp))
    | some pad =>
      rcases h with h | h
      · refine ⟨rig.config.deviceName id, ?_⟩
        rw [attachingOne, hpad] at h
        simp only at h
        split at h
        · exact mem_of_mem_received_driving h
        · exact mem_of_mem_received_driving h
      · have hconfig : (rig.attachOne id).1.config = rig.config := by rw [attachOne_fst hpad]; rfl
        exact hconfig ▸ ih h

section Reading

variable {α : Type} {read : Call → Option α}
  (hread : ∀ config name, ∀ call ∈ bracket config name, read call = none)

include hread

/-- Making or lending a sink sends it nothing that is read off samples. -/
theorem filterMap_received_gain (rig : Rig) {action : Action} (sink : SinkId)
    (h : action = .attach ∨ ∃ i s, action = .lend i s) :
    (received sink (rig.effects action)).filterMap read = [] := by
  rcases h with rfl | ⟨i, s, rfl⟩
  · refine List.filterMap_eq_nil_iff.mpr fun call hmem => ?_
    obtain ⟨name, hname⟩ := mem_received_attachingEach hmem
    exact hread _ _ call hname
  · rw [effects]
    cases rig.pads[i]? with
    | none => rfl
    | some pad =>
      rw [Option.map_some, Option.getD_some, received_dropping]
      rfl

/-- What is read off the calls that a held sink gets from an action: it comes from the frame that
the touchpad makes of a sample, unless the sink is taken away. -/
theorem filterMap_received_effects {rig : Rig} (h : rig.Tidy) {id : Nat} {sink : SinkId}
    (hsink : rig.sinkAt? id = some sink) {pad : Pad} (hpad : rig.pads[id]? = some pad)
    {action : Action} (hkept : action ≠ .detach ∧ action ≠ .reset) :
    (received sink (rig.effects action)).filterMap read
      = if action.addressee? = some id then
          ((pad.frame? rig.config action).getD []).filterMap read
        else [] := by
  have hsampling : ∀ (i : Nat) (sample : Action),
      (received sink (rig.sampling i sample)).filterMap read
        = if some i = some id then ((pad.frame? rig.config sample).getD []).filterMap read
          else [] := by
    intro i sample
    rw [received_sampling h hsink hpad]
    by_cases hi : i = id
    · rw [if_pos hi, if_pos (congrArg some hi)]
    · rw [if_neg hi, if_neg fun heq => hi (Option.some.inj heq)]
      rfl
  cases action with
  | detach => exact absurd rfl hkept.1
  | reset => exact absurd rfl hkept.2
  | attach => exact filterMap_received_gain hread rig sink (Or.inl rfl)
  | lend i s =>
    rw [filterMap_received_gain hread rig sink (Or.inr ⟨i, s, rfl⟩)]
    exact (ite_self _).symm
  | touch i x y pressure => exact hsampling i _
  | buttons i mask => exact hsampling i _
  | scroll i x y => exact hsampling i _

end Reading

end Rig

end VirtualTouchpad
