/-
# Whole frames

A whole frame is reports with one `synReport` after them, or no call at all.  A device that
gets a whole frame while its own is empty offers the host the encoding of just that frame,
or asks nothing of it, and its frame is empty again (`Device.receiveAll_framed`).  It does
not matter what becomes of the write.

So a sink of a rack that gets reports in whole frames only has an empty frame between them
(`ClearAt.perform`, `ClearAt.whole_frame`), and all that is ever offered on its device are
the encodings of these frames (`not_write_eventsOf`, `ClearAt.whole_frame`).
-/
import VirtualTouchpad.Proofs.Sink.Frames
import VirtualTouchpad.Proofs.Sink.Lifecycle

namespace VirtualTouchpad

/-! ## Whole frames -/

/-- Whether calls are a whole frame: reports with codes in range and one end, or nothing. -/
def Framed (calls : List Call) : Prop :=
  calls = [] ∨ ∃ reports : List Call, reports ≠ []
    ∧ (∀ call ∈ reports, call.IsReport ∧ call.InRange) ∧ calls = reports ++ [.synReport]

/-- The payloads for calls, while a slot is the current one and the frame is empty. -/
def encoding (slot : Option Int32) (calls : List Call) : List (List UInt8) :=
  ((Encoder.mk slot [] []).steps calls).payloads

theorem Encoder.step_report (encoder : Encoder) {call : Call} (h : call.IsReport) :
    encoder.step call
      = { encoder with
          frame := encoder.frame ++ call.events encoder.slot
          slot := call.slotAfter encoder.slot } := by
  cases call <;> first | rfl | exact h.elim

namespace Device

/-- Reports to a device that is ready go into its frame, as an encoder has them in its own. -/
theorem receiveAll_reports {d : Device} (hready : d.stage = .ready) {calls : List Call}
    (hcalls : ∀ call ∈ calls, call.IsReport ∧ call.InRange) (host : Host)
    (written : List (List UInt8)) :
    ∃ frame slot, (Encoder.mk d.slot d.frame written).steps calls = ⟨slot, frame, written⟩
      ∧ d.receiveAll host calls = (host, { d with frame := frame, slot := slot }) := by
  induction calls generalizing d with
  | nil => exact ⟨d.frame, d.slot, rfl, rfl⟩
  | cons call calls ih =>
    obtain ⟨hreport, hrange⟩ := hcalls call List.mem_cons_self
    obtain ⟨frame, slot, hsteps, hreceive⟩ := ih (d := d.report call) hready
      fun later hmem => hcalls later (List.mem_cons_of_mem _ hmem)
    refine ⟨frame, slot, ?_, ?_⟩
    · rw [← hsteps]
      exact congrArg (Encoder.steps · calls) (Encoder.step_report _ hreport)
    · rw [receiveAll, receive_report hready hreport hrange]
      exact hreceive

/-- Reports to a device that is not ready change no more than its status. -/
theorem receiveAll_refused {d : Device} (hstage : d.stage ≠ .ready) {calls : List Call}
    (hcalls : ∀ call ∈ calls, call.IsReport) (host : Host) :
    ∃ status, d.receiveAll host calls = (host, { d with status := status }) := by
  induction calls generalizing d with
  | nil => exact ⟨d.status, rfl⟩
  | cons call calls ih =>
    obtain ⟨error, hrefused⟩ := receive_refused (hcalls call List.mem_cons_self)
      (fun h => hstage h.1) host
    rw [receiveAll, hrefused]
    exact ih (d := d.latch error) hstage
      fun later hmem => hcalls later (List.mem_cons_of_mem _ hmem)

/-- A device that is ready offers the host its frame with the end, if there is a device of the host;
afterwards the frame is empty. -/
theorem synReport_offers {d : Device} (hready : d.stage = .ready) (host : Host) :
    ∃ new, (d.synReport host).1 = host.recordAll new ∧ (d.synReport host).2.frame = []
      ∧ (new = [] ∨ ∃ n, d.node = some n ∧ new ≠ [] ∧ Offers n d.payload new) := by
  cases hnode : d.node with
  | none =>
    have hrefused : d.synReport host = (host, { d with frame := [] }.latch .sequencing) := by
      simp [synReport, hready, hnode]
    rw [hrefused]
    exact ⟨[], by simp, rfl, Or.inl rfl⟩
  | some n =>
    obtain ⟨writes, hhost, hoffers, hsome⟩ := host.write_offers n d.payload_ne_nil
    rw [synReport_eq hready hnode]
    exact ⟨writes, hhost, rfl, Or.inr ⟨n, rfl, hsome, hoffers⟩⟩

/-- **A whole frame** leaves the frame of a device empty that was, and the device has offered the
encoding of the frame to the host, or asked nothing of it. -/
theorem receiveAll_framed {d : Device} (hclear : d.frame = []) {calls : List Call}
    (hframed : Framed calls) (host : Host) :
    ∃ new, (d.receiveAll host calls).1 = host.recordAll new
      ∧ (d.receiveAll host calls).2.frame = []
      ∧ (new = [] ∨ ∃ n bytes, d.node = some n ∧ encoding d.slot calls = [bytes] ∧ new ≠ []
          ∧ Offers n bytes new) := by
  rcases hframed with rfl | ⟨reports, -, hreports, rfl⟩
  · exact ⟨[], by simp [receiveAll], hclear, Or.inl rfl⟩
  · rw [receiveAll_append]
    by_cases hready : d.stage = .ready
    · obtain ⟨frame, slot, hsteps, hreceive⟩ := receiveAll_reports hready hreports host []
      obtain ⟨new, hhost, hframe, hoffered⟩ :=
        synReport_offers (d := { d with frame := frame, slot := slot }) hready host
      rw [hreceive]
      refine ⟨new, hhost, hframe, hoffered.imp_right ?_⟩
      rintro ⟨n, hnode, hsome, hoffers⟩
      refine ⟨n, _, hnode, ?_, hsome, hoffers⟩
      rw [hclear] at hsteps
      rw [encoding, Encoder.steps_append, hsteps]
      rfl
    · -- A device that is not ready refuses all of it.
      obtain ⟨status, hreceive⟩ := receiveAll_refused hready
        (fun call hmem => (hreports call hmem).1) host
      rw [hreceive]
      refine ⟨[], ?_, ?_, Or.inl rfl⟩
      · simp [receiveAll, receive, synReport, hready]
      · simp [receiveAll, receive, synReport, hready, latch, hclear]

/-! ## Other operations -/

/-- An empty frame stays empty unless there is a report to go into it. -/
theorem frame_operate {d : Device} (hclear : d.frame = []) (host : Host) {operation : Operation}
    (h : ∀ call, operation = .call call → ¬ call.IsReport) :
    (d.operate host operation).2.frame = [] := by
  have hsuffix := d.frame_operate_suffix host operation
  rw [hclear, queuedBy_of_not_report h] at hsuffix
  exact List.suffix_nil.mp hsuffix

/-- An operation adds to the calls on the host, and only the end of a frame adds a write. -/
theorem operate_records (d : Device) (host : Host) (operation : Operation) :
    ∃ new, (d.operate host operation).1 = host.recordAll new
      ∧ (operation ≠ .call .synReport → ∀ event ∈ new, event.isWrite = false) := by
  rcases d.host_operate host operation with hhost | ⟨-, hhost⟩ | ⟨rfl, n, -, hhost⟩ | hhost
  · exact ⟨[], by rw [hhost, Host.recordAll_nil], by simp⟩
  · obtain ⟨new, hmake, -, hnew⟩ := d.make_spec host
    exact ⟨new, hhost.trans hmake, fun _ => hnew⟩
  · obtain ⟨writes, hwrite, -⟩ := host.write_spec n d.payload
    exact ⟨writes, hhost.trans hwrite, fun hne => absurd rfl hne⟩
  · obtain ⟨new, hclose, hnew⟩ := d.close_spec host
    exact ⟨new, hhost.trans hclose, fun _ event hmem => (hnew event hmem).1⟩

end Device

/-! ## Sinks of a rack -/

/-- A sink that has no events waiting for the end of a frame. -/
def Sink.IsClear : Sink → Prop
  | .recorder _ => True
  | .device d => d.frame = []

/-- The sink with a number, if it is there, is clear. -/
def Rack.ClearAt (rack : Rack) (id : SinkId) : Prop :=
  ∀ sink, rack.sinks[id]? = some sink → sink.IsClear

/-- An effect gives a sink no report, and puts only clear sinks into the rack. -/
def Effect.Spares (id : SinkId) : Effect → Prop
  | .added sink => sink.IsClear
  | .done other (.call call) => other = id → ¬ call.IsReport
  | .done _ _ => True

/-- What is done to another sink spares this one. -/
theorem Effect.spares_of_target {effect : Effect} {other id : SinkId}
    (h : effect.target? = some other) (hne : other ≠ id) : effect.Spares id := by
  cases effect with
  | added sink => cases h
  | done target operation =>
    obtain rfl : target = other := Option.some.inj h
    cases operation with
    | reset | drop => trivial
    | call call => exact fun heq => absurd heq hne

namespace Rack

variable {rack : Rack} {id : SinkId}

/-- A clear sink stays clear unless it gets a report. -/
theorem ClearAt.perform (h : rack.ClearAt id) {effect : Effect} (hspares : effect.Spares id) :
    (rack.perform effect).ClearAt id := by
  cases effect with
  | added sink =>
    intro held hheld
    -- The sink was there before, or it is the one that is put into the rack.
    by_cases hlt : id < rack.sinks.length
    · exact h held (by simpa [Rack.perform, add, List.getElem?_append_left hlt] using hheld)
    · rw [Rack.perform, add, List.getElem?_append_right (Nat.not_lt.mp hlt)] at hheld
      rw [← List.mem_singleton.mp (List.mem_of_getElem? hheld)] at hspares
      exact hspares
  | done other operation =>
    by_cases hid : other = id
    · subst hid
      cases hsink : rack.sinks[other]? with
      | none =>
        rw [Rack.perform, update_of_length_le (List.getElem?_eq_none_iff.mp hsink)]
        exact h
      | some sink =>
        have hlt := (List.getElem?_eq_some_iff.mp hsink).1
        intro held hheld
        simp only [Rack.perform, update_of_getElem? hsink, List.getElem?_set_self hlt,
          Option.some.injEq] at hheld
        subst hheld
        cases sink with
        | recorder r =>
          rw [Sink.operate_recorder]
          trivial
        | device d =>
          rw [Sink.operate_device]
          refine d.frame_operate (h _ hsink) rack.host fun call hcall => ?_
          subst hcall
          exact hspares rfl
    · intro held hheld
      rw [Rack.perform, getElem?_update_of_ne hid] at hheld
      exact h held hheld

theorem ClearAt.performAll (h : rack.ClearAt id) {effects : List Effect}
    (hspares : ∀ effect ∈ effects, effect.Spares id) : (rack.performAll effects).ClearAt id := by
  induction effects generalizing rack with
  | nil => exact h
  | cons effect effects ih =>
    exact ih (h.perform (hspares effect List.mem_cons_self))
      fun later hmem => hspares later (List.mem_cons_of_mem _ hmem)

/-! ### What is asked of the host -/

/-- An effect adds to the calls on the host, and only the end of a frame adds a write. -/
theorem perform_records (rack : Rack) (effect : Effect) :
    ∃ new, (rack.perform effect).host = rack.host.recordAll new
      ∧ ((∀ other, effect ≠ .done other (.call .synReport)) →
          ∀ event ∈ new, event.isWrite = false) := by
  cases effect with
  | added sink => exact ⟨[], (Host.recordAll_nil _).symm, by simp⟩
  | done other operation =>
    cases hsink : rack.sinks[other]? with
    | none =>
      rw [Rack.perform, update_of_length_le (List.getElem?_eq_none_iff.mp hsink)]
      exact ⟨[], (Host.recordAll_nil _).symm, by simp⟩
    | some sink =>
      rw [Rack.perform, update_of_getElem? hsink]
      cases sink with
      | recorder r =>
        rw [Sink.operate_recorder]
        exact ⟨[], (Host.recordAll_nil _).symm, by simp⟩
      | device d =>
        rw [Sink.operate_device]
        obtain ⟨new, hhost, hnew⟩ := d.operate_records rack.host operation
        exact ⟨new, hhost, fun h => hnew fun hsyn => h other (congrArg _ hsyn)⟩

/-- Files are not touched. -/
theorem files_performAll (rack : Rack) (effects : List Effect) :
    (rack.performAll effects).host.files = rack.host.files := by
  induction effects generalizing rack with
  | nil => rfl
  | cons effect effects ih =>
    obtain ⟨new, hhost, -⟩ := rack.perform_records effect
    rw [performAll_cons, ih, hhost]
    rfl

/-- The calls on the host that a single effect on a sink makes. -/
theorem eventsOf_of_records {effect : Effect} {new : List KernelEvent}
    (htarget : effect.target? = some id)
    (hhost : (rack.perform effect).host = rack.host.recordAll new) :
    rack.eventsOf id [effect] = new := by
  rw [eventsOf_singleton, if_pos htarget, hhost, Host.events_recordAll, List.drop_left]

/-- Where a sink gets no end of a frame, nothing is written for it. -/
theorem not_write_eventsOf {effects : List Effect}
    (h : .done id (.call .synReport) ∉ effects) :
    ∀ event ∈ rack.eventsOf id effects, event.isWrite = false := by
  induction effects generalizing rack with
  | nil => simp [eventsOf]
  | cons effect effects ih =>
    intro event hmem
    rw [eventsOf_cons] at hmem
    rcases List.mem_append.mp hmem with hmem | hmem
    · by_cases htarget : effect.target? = some id
      · obtain ⟨new, hhost, hnew⟩ := rack.perform_records effect
        rw [eventsOf_of_records htarget hhost] at hmem
        refine hnew (fun other heq => h ?_) event hmem
        subst heq
        obtain rfl : other = id := Option.some.inj htarget
        exact List.mem_cons_self
      · rw [eventsOf_singleton, if_neg htarget] at hmem
        cases hmem
    · exact ih (fun hin => h (List.mem_cons_of_mem _ hin)) event hmem

/-- Effects on one sink alone add to the calls on the host just what they make on that sink. -/
theorem host_performAll {effects : List Effect}
    (h : ∀ effect ∈ effects, effect.target? = some id) :
    (rack.performAll effects).host = rack.host.recordAll (rack.eventsOf id effects) := by
  induction effects generalizing rack with
  | nil => exact (Host.recordAll_nil _).symm
  | cons effect effects ih =>
    obtain ⟨new, hhost, -⟩ := rack.perform_records effect
    rw [performAll_cons, ih fun later hmem => h later (List.mem_cons_of_mem _ hmem), eventsOf_cons,
      eventsOf_of_records (h effect List.mem_cons_self) hhost, hhost, Host.recordAll_recordAll]

/-! ### Frames -/

theorem target?_of_mem_driving {calls : List Call} {effect : Effect}
    (h : effect ∈ driving id calls) :
    effect.target? = some id := by
  rcases List.mem_cons.mp h with rfl | hmem
  · rfl
  · obtain ⟨call, -, rfl⟩ := List.mem_map.mp hmem
    rfl

/-- Effects on a sink that is not there do nothing. -/
theorem performAll_absent (h : rack.sinks.length ≤ id) {effects : List Effect}
    (htarget : ∀ effect ∈ effects, effect.target? = some id) : rack.performAll effects = rack := by
  induction effects with
  | nil => rfl
  | cons effect effects ih =>
    have hnothing : rack.perform effect = rack := by
      cases effect with
      | added sink => cases htarget _ List.mem_cons_self
      | done other operation =>
        obtain rfl : other = id := Option.some.inj (htarget _ List.mem_cons_self)
        rw [Rack.perform, update_of_length_le h]
    rw [performAll_cons, hnothing]
    exact ih fun later hmem => htarget later (List.mem_cons_of_mem _ hmem)

/-- **A whole frame for a clear sink**: the sink is clear afterwards, and its device was offered
the encoding of the frame, or nothing. -/
theorem ClearAt.whole_frame (h : rack.ClearAt id) {calls : List Call} (hframed : Framed calls) :
    (rack.performAll (driving id calls)).ClearAt id
      ∧ ((∀ event ∈ rack.eventsOf id (driving id calls), event.isWrite = false)
        ∨ ∃ d n bytes, rack.sinks[id]? = some (.device d) ∧ d.node = some n
          ∧ encoding d.slot calls = [bytes] ∧ rack.eventsOf id (driving id calls) ≠ []
          ∧ Offers n bytes (rack.eventsOf id (driving id calls))) := by
  have hhost : (rack.performAll (driving id calls)).host
      = rack.host.recordAll (rack.eventsOf id (driving id calls)) :=
    host_performAll fun effect => target?_of_mem_driving
  have hquiet : (rack.performAll (driving id calls)).host = rack.host →
      ∀ event ∈ rack.eventsOf id (driving id calls), event.isWrite = false := by
    intro hsame
    rw [hsame, ← Host.recordAll_nil rack.host, Host.recordAll_recordAll, List.nil_append] at hhost
    simp [← Host.recordAll_injective hhost]
  cases hsink : rack.sinks[id]? with
  | none =>
    have hnothing : rack.performAll (driving id calls) = rack :=
      performAll_absent (List.getElem?_eq_none_iff.mp hsink) fun effect => target?_of_mem_driving
    exact ⟨hnothing.symm ▸ h, Or.inl (hquiet (by rw [hnothing]))⟩
  | some sink =>
    have hlt := (List.getElem?_eq_some_iff.mp hsink).1
    cases sink with
    | recorder r =>
      have hdrive := drive_fst rack id calls
      rw [drive_recorder hsink] at hdrive
      refine ⟨fun held hheld => ?_, Or.inl (hquiet (by rw [← hdrive]))⟩
      rw [← hdrive, List.getElem?_set_self hlt] at hheld
      obtain rfl := Option.some.inj hheld
      trivial
    | device d =>
      obtain ⟨new, hreceived, hframe, hoffered⟩ :=
        d.resetStatus.receiveAll_framed (h _ hsink) hframed rack.host
      have hdrive := drive_fst rack id calls
      rw [drive_device hsink] at hdrive
      refine ⟨fun held hheld => ?_, ?_⟩
      · rw [← hdrive, List.getElem?_set_self hlt] at hheld
        obtain rfl := Option.some.inj hheld
        exact hframe
      · have hevents : rack.eventsOf id (driving id calls) = new := by
          rw [← hdrive] at hhost
          exact Host.recordAll_injective (hhost.symm.trans hreceived)
        rw [hevents]
        rcases hoffered with rfl | ⟨n, bytes, hnode, hbytes, hsome, hoffers⟩
        · exact Or.inl (by simp)
        · exact Or.inr ⟨d, n, bytes, rfl, hnode, hbytes, hsome, hoffers⟩

end Rack

end VirtualTouchpad
