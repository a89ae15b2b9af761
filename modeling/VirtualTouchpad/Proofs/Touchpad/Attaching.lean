/-
# Attaching as many as can be

All touchpads are attached, in their order: one without a sink gets the next that the
factory makes, and each sink is reset and gets the whole configuration, whatever became of
the others.  The first error is the outcome.

`Rig.attachment` says what is done for one touchpad, in terms of the rig before the first;
`attachEach_first` that attaching does this for the touchpads one after the other, and
`attach_all` puts it together.  A sink that several touchpads share is configured once for
each of them, and what counts for a touchpad is the error after its own configuration.
-/
import VirtualTouchpad.Proofs.Touchpad.History

namespace VirtualTouchpad

/-- The first thing that is found among the first numbers. -/
theorem findSome?_range_eq_some_iff {α : Type} {find : Nat → Option α} {n : Nat} {found : α} :
    (List.range n).findSome? find = some found
      ↔ ∃ i, i < n ∧ find i = some found ∧ ∀ j, j < i → find j = none := by
  induction n with
  | zero => simp
  | succ n ih =>
    rw [List.range_succ, List.findSome?_append, Option.or_eq_some_iff, ih,
      List.findSome?_eq_none_iff]
    simp only [List.mem_range, List.findSome?_singleton]
    constructor
    · rintro (⟨i, hi, hfound, hnone⟩ | ⟨hnone, hfound⟩)
      · exact ⟨i, Nat.lt_succ_of_lt hi, hfound, hnone⟩
      · exact ⟨n, Nat.lt_succ_self n, hfound, hnone⟩
    · rintro ⟨i, hi, hfound, hnone⟩
      rcases Nat.lt_succ_iff_lt_or_eq.mp hi with hlt | rfl
      · exact Or.inl ⟨i, hlt, hfound, hnone⟩
      · exact Or.inr ⟨hnone, hfound⟩

/-- The factory after making so many sinks. -/
def Factory.after (factory : Factory) : Nat → Factory
  | 0 => factory
  | made + 1 => (factory.after made).make.1

namespace Rig

/-! ## One touchpad among all -/

/-- How many of the touchpads before one have no sink. -/
def sinkless (rig : Rig) (id : Nat) : Nat := (rig.pads.take id).countP (·.sink.isNone)

/-- The sink of a touchpad once it is attached: its own, or the one that is made for it. -/
def sinkOnceAttached (rig : Rig) (id : Nat) : SinkId := (rig.sinkAt? id).getD (rig.freshSink id)

/-- What attaching all touchpads does for one of them: a sink is made if it has none, and its sink
is reset and gets the whole configuration. -/
def attachment (rig : Rig) (id : Nat) : List Effect :=
  (if rig.sinkAt? id = none then [.added (rig.factory.after (rig.sinkless id)).make.2] else [])
    ++ driving (rig.sinkOnceAttached id) (bracket rig.config (rig.config.deviceName id))

/-- The rack once the first touchpads are attached. -/
def rackOnceAttached (rig : Rig) (n : Nat) : Rack :=
  rig.rack.performAll ((List.range n).flatMap rig.attachment)

/-- The error that the sink of a touchpad keeps at the end of the touchpad's configuration. -/
def attachError? (rig : Rig) (id : Nat) : Option SinkError :=
  (rig.rackOnceAttached (id + 1)).status (rig.sinkOnceAttached id)

theorem sinkless_succ {rig : Rig} {id : Nat} {pad : Pad} (hpad : rig.pads[id]? = some pad) :
    rig.sinkless (id + 1) = rig.sinkless id + if pad.sink.isNone then 1 else 0 := by
  rw [sinkless, sinkless, List.take_add_one, hpad, List.countP_append]
  simp

/-! ## Touchpads in order -/

theorem attachEach_append_snd (rig : Rig) (ids later : List Nat) :
    (rig.attachEach (ids ++ later)).2
      = (rig.attachEach ids).2.or ((rig.attachEach ids).1.attachEach later).2 := by
  induction ids generalizing rig with
  | nil => rfl
  | cons id ids ih =>
    show ((rig.attachOne id).2 <|> ((rig.attachOne id).1.attachEach (ids ++ later)).2)
      = ((rig.attachOne id).2 <|> ((rig.attachOne id).1.attachEach ids).2).or _
    rw [ih]
    cases (rig.attachOne id).2 <;> rfl

theorem attachingEach_append (rig : Rig) (ids later : List Nat) :
    rig.attachingEach (ids ++ later)
      = rig.attachingEach ids ++ (rig.attachEach ids).1.attachingEach later := by
  induction ids generalizing rig with
  | nil => rfl
  | cons id ids ih =>
    rw [List.cons_append, attachingEach, attachingEach, ih, List.append_assoc]
    rfl

/-- Attaching one touchpad gives the error that its sink keeps then. -/
theorem attachOne_snd {rig : Rig} {id : Nat} {pad : Pad} (hpad : rig.pads[id]? = some pad) :
    (rig.attachOne id).2
      = (rig.attachOne id).1.rack.status
          ((pad.sink.map (·.2)).getD rig.rack.sinks.length) := by
  rcases hsink : pad.sink with _ | ⟨ownership, sink⟩
  · simp [attachOne, ensureSink, hpad, hsink, Rack.drive, Rack.add]
  · simp [attachOne, ensureSink, hpad, hsink, Rack.drive]

/-- **The first touchpads, in order**: for each of them is done what `attachment` says, and the first
error comes out. -/
theorem attachEach_first (rig : Rig) {n : Nat} (hn : n ≤ rig.pads.length) :
    rig.attachingEach (List.range n) = (List.range n).flatMap rig.attachment
      ∧ (rig.attachEach (List.range n)).1.factory = rig.factory.after (rig.sinkless n)
      ∧ (rig.attachEach (List.range n)).2 = (List.range n).findSome? rig.attachError? := by
  induction n with
  | zero => exact ⟨rfl, rfl, rfl⟩
  | succ n ih =>
    obtain ⟨heffects, hfactory, herror⟩ := ih (by omega)
    obtain ⟨hconfig, hlength, hpads⟩ := attachEach_range rig n (by omega)
    have hold : rig.pads[n]? = some rig.pads[n] := List.getElem?_eq_getElem hn
    -- The touchpads before it leave the next one as it was.
    have hpad : (rig.attachEach (List.range n)).1.pads[n]? = some rig.pads[n] := by
      rw [hpads n, hold]
      simp
    have hsinkAt : rig.sinkAt? n = rig.pads[n].sink.map (·.2) := by
      rw [sinkAt?, hold, Option.bind_some]
    have hone : (rig.attachEach (List.range n)).1.attachingOne n = rig.attachment n := by
      rw [attachingOne, hpad, attachment, sinkOnceAttached, hsinkAt]
      simp only [hconfig, hfactory, hlength]
      rcases hsink : rig.pads[n].sink with _ | ⟨ownership, sink⟩
      · rfl
      · rfl
    have hmore : rig.attachingEach (List.range (n + 1))
        = (List.range (n + 1)).flatMap rig.attachment := by
      rw [List.range_succ, attachingEach_append, heffects, List.flatMap_append, attachingEach, hone]
      simp [attachingEach]
    have hstep : (rig.attachEach (List.range (n + 1))).1
        = ((rig.attachEach (List.range n)).1.attachOne n).1 := by
      rw [List.range_succ, attachEach_append_fst]
      rfl
    refine ⟨hmore, ?_, ?_⟩
    · rw [hstep, attachOne_fst hpad, sinkless_succ hold]
      simp only [setPad, hfactory]
      cases rig.pads[n].sink <;> rfl
    · have hrack : ((rig.attachEach (List.range n)).1.attachOne n).1.rack
          = rig.rackOnceAttached (n + 1) := by
        rw [← hstep, rack_attachEach, hmore, rackOnceAttached]
      have hlast : ((rig.attachEach (List.range n)).1.attachOne n).2 = rig.attachError? n := by
        rw [attachOne_snd hpad, hrack, hlength, attachError?, sinkOnceAttached, hsinkAt]
      rw [List.range_succ, attachEach_append_snd, herror, List.findSome?_append]
      congr 1
      show (((rig.attachEach (List.range n)).1.attachOne n).2 <|> none) = _
      rw [hlast]
      simp

/-! ## All touchpads -/

/-- A sink that is there before gets the configurations of the touchpads that hold it then, in their
order. -/
theorem received_attachment (rig : Rig) (sink : SinkId) (ids : List Nat) :
    received sink (ids.flatMap rig.attachment)
      = ids.flatMap fun id =>
          if rig.sinkOnceAttached id = sink then
            bracket rig.config (rig.config.deviceName id)
          else [] := by
  induction ids with
  | nil => rfl
  | cons id ids ih =>
    rw [List.flatMap_cons, List.flatMap_cons, received_append, ih]
    congr 1
    have hadded : ∀ made, received sink
        (if rig.sinkAt? id = none then [.added made] else ([] : List Effect)) = [] := by
      intro made
      split <;> rfl
    rw [attachment, received_append, hadded, List.nil_append]
    split
    · next heq => rw [heq, received_driving_self]
    · next hne => exact received_driving_of_ne hne _

/-- **Attaching does what it can.**  Whatever sinks the touchpads of a rig have, for each touchpad in
its order: the factory is asked for one sink if it has none, and its sink is reset and gets the whole
configuration.  All is well exactly if no sink keeps an error at the end of a configuration, and
otherwise the outcome is the error of the first touchpad whose sink does.  What samples have made of
the touchpads stays. -/
theorem attach_all (rig : Rig) :
    let after := rig.act .attach
    let n := rig.pads.length
    rig.effects .attach = (List.range n).flatMap rig.attachment
      ∧ after.1.rack = rig.rack.performAll (rig.effects .attach)
      ∧ after.1.factory = rig.factory.after (rig.sinkless n)
      ∧ (∀ id, id < n → after.1.sinkAt? id = some (rig.sinkOnceAttached id))
      ∧ (∀ sink, received sink (rig.effects .attach) = (List.range n).flatMap fun id =>
          if rig.sinkOnceAttached id = sink then bracket rig.config (rig.config.deviceName id)
          else [])
      ∧ (after.2 = .ok () ↔ ∀ id, id < n → rig.attachError? id = none)
      ∧ (∀ error, after.2 = .error (.sink error)
          ↔ ∃ id, id < n ∧ rig.attachError? id = some error
            ∧ ∀ i, i < id → rig.attachError? i = none)
      ∧ after.1.pads.map Pad.tracked = rig.pads.map Pad.tracked := by
  intro after n
  obtain ⟨heffects, hfactory, herror⟩ := attachEach_first rig (Nat.le_refl n)
  have houtcome : after.2 = outcome ((List.range n).findSome? rig.attachError?) := by
    rw [← herror]
    rfl
  have hstill : Action.IsStill .attach := trivial
  refine ⟨heffects, rack_act rig .attach, hfactory, fun id hid => ?_, fun sink => ?_, ?_,
    fun error => ?_, tracked_act (Or.inl hstill)⟩
  · rw [sinkAt?_act, if_pos hid, sinkOnceAttached]
    cases rig.sinkAt? id <;> rfl
  · rw [show rig.effects .attach = _ from heffects, received_attachment]
  · have hok : ∀ status, outcome status = .ok () ↔ status = none := by
      intro status
      cases status <;> simp [outcome]
    rw [houtcome, hok, List.findSome?_eq_none_iff]
    simp only [List.mem_range]
  · have hfailed : ∀ status, outcome status = .error (.sink error) ↔ status = some error := by
      intro status
      cases status <;> simp [outcome]
    rw [houtcome, hfailed, findSome?_range_eq_some_iff]

/-- Two touchpads share a recorder that fails, and the one between them has no sink: it gets one, which
is configured, and the failure of the first touchpad is the outcome. -/
theorem attach_all_shared :
    let failing : Sink := .recorder (.new (some (.keyRange 0x400)))
    let rig := (new { Config.standard with devices := 3 } (.recorders []) ⟨[failing], .new []⟩).steps
      [.call (.lend 0 0), .call (.lend 2 0)]
    (rig.act .attach).2 = .error (.sink (.keyRange 0x400))
      ∧ (rig.act .attach).1.sinkAt? 1 = some 1
      ∧ received 1 (rig.effects .attach) = bracket rig.config "vr-virtual-touchpad-1" := by
  intro failing rig
  obtain ⟨-, -, -, hsinks, hcalls, -, hfirst, -⟩ := attach_all rig
  refine ⟨(hfirst _).mpr ⟨0, by decide, by decide +kernel, by simp⟩, ?_, ?_⟩
  · exact (hsinks 1 (by decide)).trans (by decide +kernel)
  · exact (hcalls 1).trans (by decide +kernel)

end Rig

end VirtualTouchpad
