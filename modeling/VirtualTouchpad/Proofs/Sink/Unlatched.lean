/-
# Kept errors

The error that a sink keeps is a matter of the next reset alone.  A sink is always reset
before it is driven, and what closes or drops it does not look at the error, so two racks
that differ in nothing but kept errors fare the same: `Rack.unlatched_drive` and
`Rack.unlatched_update`, for racks with and without their errors.

A device that is ready keeps an error of each call that configures it, and changes nothing
else (`Device.receiveAll_configuring`).
-/
import VirtualTouchpad.Proofs.Sink.Calls

namespace VirtualTouchpad

/-! ## Configuring a device that is ready -/

/-- Whether a call is one of those that declare a device. -/
def Call.IsConfiguring : Call → Prop
  | .configureBegin _ | .configureProperty _ | .configureKey _ | .configureRel _
  | .configureMultiTouch .. | .configureSlots _ | .configureEnd => True
  | _ => False

namespace Device

section Ready

variable {d : Device} (hready : d.stage = .ready)

include hready

/-- A call that declares a device is out of sequence. -/
theorem receive_configuring (host : Host) {call : Call} (hcall : call.IsConfiguring) :
    d.receive host call = (host, d.latch .sequencing) := by
  have hnew : d.stage ≠ .new := by simp [hready]
  have hconfiguring : d.stage ≠ .configuring := by simp [hready]
  cases call with
  | configureBegin => exact receive_of_stage_ne rfl hnew host
  | configureProperty | configureKey | configureRel | configureMultiTouch | configureSlots
  | configureEnd => exact receive_of_stage_ne rfl hconfiguring host
  | key | rel | contact | lift | synReport | close => exact hcall.elim

/-- **Configuring a device that is ready** changes no more than the error that it keeps, and asks
nothing of the host. -/
theorem receiveAll_configuring (host : Host) {calls : List Call} (hne : calls ≠ [])
    (hcalls : ∀ call ∈ calls, call.IsConfiguring) :
    d.receiveAll host calls = (host, d.latch .sequencing) := by
  induction calls generalizing d with
  | nil => exact absurd rfl hne
  | cons call calls ih =>
    have hlatched : (d.latch .sequencing).stage = .ready := hready
    rw [receiveAll, receive_configuring hready host (hcalls call List.mem_cons_self)]
    by_cases hlast : calls = []
    · rw [hlast]
      rfl
    · rw [ih hlatched hlast fun later hmem => hcalls later (List.mem_cons_of_mem _ hmem),
        latch_latch]

end Ready

end Device

/-! ## Racks without kept errors -/

@[simp] theorem Sink.resetStatus_resetStatus (sink : Sink) :
    sink.resetStatus.resetStatus = sink.resetStatus := by
  cases sink <;> rfl

namespace Rack

/-- The rack without the errors that its sinks keep. -/
def unlatched (rack : Rack) : Rack := { rack with sinks := rack.sinks.map Sink.resetStatus }

@[simp] theorem unlatched_unlatched (rack : Rack) : rack.unlatched.unlatched = rack.unlatched := by
  simp [unlatched, Function.comp_def]

theorem getElem?_unlatched (rack : Rack) (id : SinkId) :
    rack.unlatched.sinks[id]? = rack.sinks[id]?.map Sink.resetStatus := List.getElem?_map

/-- Another sink is put in the place of one. -/
theorem unlatched_set (rack : Rack) (host : Host) (id : SinkId) (sink : Sink) :
    Rack.unlatched ⟨rack.sinks.set id sink, host⟩
      = ⟨rack.unlatched.sinks.set id sink.resetStatus, host⟩ := by
  simp [unlatched, List.map_set]

/-- **Doing something to a sink** that goes by no kept error. -/
theorem unlatched_update {act : Host → Sink → Host × Sink}
    (hact : ∀ host sink, (act host sink.resetStatus).1 = (act host sink).1
      ∧ (act host sink.resetStatus).2.resetStatus = (act host sink).2.resetStatus)
    (rack : Rack) (id : SinkId) :
    (rack.unlatched.update id act).unlatched = (rack.update id act).unlatched := by
  cases hsink : rack.sinks[id]? with
  | none => simp [update, hsink, unlatched, Function.comp_def]
  | some sink =>
    obtain ⟨hhost, hnext⟩ := hact rack.host sink
    simp [update, hsink, unlatched, Function.comp_def, List.map_set, hhost, hnext]

/-- **Closing** a sink. -/
theorem unlatched_close (rack : Rack) (id : SinkId) :
    (rack.unlatched.send id .close).unlatched = (rack.send id .close).unlatched := by
  apply unlatched_update
  intro host sink
  cases sink <;> exact ⟨rfl, rfl⟩

/-- **Dropping** a sink. -/
theorem unlatched_drop (rack : Rack) (id : SinkId) :
    (rack.unlatched.drop id).unlatched = (rack.drop id).unlatched := by
  apply unlatched_update
  intro host sink
  cases sink <;> exact ⟨rfl, rfl⟩

/-! ### Driving -/

/-- Two racks that differ in no more than the errors that the sinks but one keep. -/
structure SameAt (id : SinkId) (rack other : Rack) : Prop where
  sink : rack.sinks[id]? = other.sinks[id]?
  unlatched : rack.unlatched = other.unlatched

namespace SameAt

variable {id : SinkId} {rack other : Rack}

theorem host (h : SameAt id rack other) : rack.host = other.host := by
  show rack.unlatched.host = other.unlatched.host
  rw [h.unlatched]

theorem update (h : SameAt id rack other) (act : Host → Sink → Host × Sink) :
    SameAt id (rack.update id act) (other.update id act) := by
  cases hsink : rack.sinks[id]? with
  | none =>
    have hlength := List.getElem?_eq_none_iff.mp hsink
    have hlength' := List.getElem?_eq_none_iff.mp (h.sink ▸ hsink)
    rw [update_of_length_le hlength, update_of_length_le hlength']
    exact h
  | some sink =>
    have hsink' : other.sinks[id]? = some sink := h.sink ▸ hsink
    have hlt := (List.getElem?_eq_some_iff.mp hsink).1
    have hlt' := (List.getElem?_eq_some_iff.mp hsink').1
    rw [update_of_getElem? hsink, update_of_getElem? hsink', h.host]
    refine ⟨?_, ?_⟩
    · rw [List.getElem?_set_self hlt, List.getElem?_set_self hlt']
    · rw [unlatched_set, unlatched_set, h.unlatched]

theorem sendAll (h : SameAt id rack other) (calls : List Call) :
    SameAt id (rack.sendAll id calls) (other.sendAll id calls) := by
  induction calls generalizing rack other with
  | nil => exact h
  | cons call calls ih => exact ih (h.update _)

end SameAt

/-- A reset takes away the only difference at a sink. -/
theorem sameAt_resetStatus (rack : Rack) (id : SinkId) :
    SameAt id (rack.unlatched.resetStatus id) (rack.resetStatus id) := by
  constructor
  · cases hsink : rack.sinks[id]? with
    | none => simp [resetStatus, Rack.update, hsink, unlatched]
    | some sink =>
      have hlt := (List.getElem?_eq_some_iff.mp hsink).1
      simp [resetStatus, Rack.update, unlatched, hlt]
  · apply unlatched_update
    intro host sink
    exact ⟨rfl, by simp⟩

/-- **Driving a sink** goes by no error that was kept before, and gives the same status. -/
theorem unlatched_drive (rack : Rack) (id : SinkId) (calls : List Call) :
    (rack.unlatched.drive id calls).2 = (rack.drive id calls).2
      ∧ (rack.unlatched.drive id calls).1.unlatched = (rack.drive id calls).1.unlatched := by
  have hsame := (sameAt_resetStatus rack id).sendAll calls
  refine ⟨?_, hsame.unlatched⟩
  show (Rack.sinks _)[id]?.bind Sink.status = (Rack.sinks _)[id]?.bind Sink.status
  rw [hsame.sink]

/-- A device that is ready is driven with calls that configure it: all that comes of it is the
error. -/
theorem drive_configuring {rack : Rack} {id : SinkId} {d : Device}
    (hsink : rack.sinks[id]? = some (.device d)) (hready : d.stage = .ready) {calls : List Call}
    (hne : calls ≠ []) (hcalls : ∀ call ∈ calls, call.IsConfiguring) :
    (rack.drive id calls).2 = some .sequencing
      ∧ (rack.drive id calls).1.unlatched = rack.unlatched := by
  have hreset : d.resetStatus.stage = .ready := hready
  have hkept : rack.unlatched.sinks[id]? = some (.device d.resetStatus) := by
    rw [getElem?_unlatched, hsink]
    rfl
  obtain ⟨hlt, hget⟩ := List.getElem?_eq_some_iff.mp hkept
  rw [drive_device hsink, Device.receiveAll_configuring hreset rack.host hne hcalls]
  refine ⟨rfl, ?_⟩
  show Rack.unlatched ⟨rack.sinks.set id _, rack.host⟩ = _
  rw [unlatched_set]
  show (⟨rack.unlatched.sinks.set id (.device d.resetStatus), rack.host⟩ : Rack) = _
  rw [← hget, List.set_getElem_self]
  rfl

end Rack

end VirtualTouchpad
