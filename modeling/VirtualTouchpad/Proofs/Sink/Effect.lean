/-
# Effects on sinks

Whatever is done to the sinks of a rack comes down to single effects: a new sink
is put into it, or an operation is done to one of its sinks.  A list of effects
takes a rack to the rack in which all of them were done, and says which calls
each sink got.

`calls_performAll` ties that to the sinks themselves: a recorder has written down
exactly the calls that it got.
-/
import VirtualTouchpad.Sink.Rack

namespace VirtualTouchpad

/-! ## Operations -/

/-- Something that is done to a sink. -/
inductive Operation where
  /-- Its status is reset. -/
  | reset
  | call (call : Call)
  /-- Its owner drops it. -/
  | drop
  deriving DecidableEq, Repr

/-- Does an operation to a device. -/
def Device.operate (d : Device) (host : Host) : Operation → Host × Device
  | .reset => (host, d.resetStatus)
  | .call call => d.receive host call
  | .drop => d.close host

/-- Does an operation to a recorder, which nothing but calls and resets changes. -/
def Recorder.operate (r : Recorder) : Operation → Recorder
  | .reset => r.resetStatus
  | .call call => r.receive call
  | .drop => r

namespace Sink

/-- Does an operation to a sink. -/
def operate (host : Host) (sink : Sink) : Operation → Host × Sink
  | .reset => (host, sink.resetStatus)
  | .call call => sink.receive host call
  | .drop => sink.drop host

theorem operate_device (host : Host) (d : Device) (operation : Operation) :
    operate host (.device d) operation
      = ((d.operate host operation).1, .device (d.operate host operation).2) := by
  cases operation <;> rfl

theorem operate_recorder (host : Host) (r : Recorder) (operation : Operation) :
    operate host (.recorder r) operation = (host, .recorder (r.operate operation)) := by
  cases operation <;> rfl

end Sink

/-! ## Effects -/

/-- Something that is done to a rack. -/
inductive Effect where
  /-- A sink is put into it. -/
  | added (sink : Sink)
  /-- An operation is done to one of its sinks. -/
  | done (id : SinkId) (operation : Operation)
  deriving DecidableEq, Repr

namespace Effect

/-- The call on a sink that an effect is. -/
def callOn? (id : SinkId) : Effect → Option Call
  | .done i (.call call) => if i = id then some call else none
  | _ => none

end Effect

/-- The calls that a sink got among some effects. -/
def received (id : SinkId) (effects : List Effect) : List Call := effects.filterMap (·.callOn? id)

@[simp] theorem received_nil (id : SinkId) : received id [] = [] := rfl

@[simp] theorem received_append (id : SinkId) (effects later : List Effect) :
    received id (effects ++ later) = received id effects ++ received id later :=
  List.filterMap_append

/-- The effects of driving a sink: its status is reset, then it gets calls. -/
def driving (id : SinkId) (calls : List Call) : List Effect :=
  .done id .reset :: calls.map fun call => .done id (.call call)

/-- A sink that is driven gets just the calls. -/
theorem received_driving_self (id : SinkId) (calls : List Call) :
    received id (driving id calls) = calls := by
  have hcall : (fun effect => Effect.callOn? id effect) ∘ (fun call => Effect.done id (.call call))
      = some := by
    funext call
    exact if_pos rfl
  rw [received, driving, List.filterMap_cons_none rfl, List.filterMap_map, hcall,
    List.filterMap_some]

/-- Other sinks than the one that is driven get nothing. -/
theorem received_driving_of_ne {id other : SinkId} (h : other ≠ id) (calls : List Call) :
    received id (driving other calls) = [] := by
  simp [received, driving, Effect.callOn?, h]

/-- Whatever a sink gets while one is driven is among the calls. -/
theorem mem_of_mem_received_driving {id other : SinkId} {calls : List Call} {call : Call}
    (h : call ∈ received id (driving other calls)) : call ∈ calls := by
  by_cases heq : other = id
  · rwa [heq, received_driving_self] at h
  · rw [received_driving_of_ne heq] at h
    cases h

namespace Rack

/-- The rack after an effect. -/
def perform (rack : Rack) : Effect → Rack
  | .added sink => (rack.add sink).1
  | .done id operation => rack.update id fun host sink => sink.operate host operation

/-- The rack after effects in order. -/
def performAll (rack : Rack) (effects : List Effect) : Rack := effects.foldl perform rack

@[simp] theorem performAll_nil (rack : Rack) : rack.performAll [] = rack := rfl

@[simp] theorem performAll_cons (rack : Rack) (effect : Effect) (effects : List Effect) :
    rack.performAll (effect :: effects) = (rack.perform effect).performAll effects := rfl

theorem performAll_append (rack : Rack) (effects later : List Effect) :
    rack.performAll (effects ++ later) = (rack.performAll effects).performAll later :=
  List.foldl_append

/-- Sending calls is one effect after the other. -/
theorem sendAll_eq_performAll (rack : Rack) (id : SinkId) (calls : List Call) :
    rack.sendAll id calls = rack.performAll (calls.map fun call => .done id (.call call)) := by
  simp only [sendAll, performAll, List.foldl_map]
  rfl

/-- Driving a sink has the effects of `driving`. -/
theorem drive_fst (rack : Rack) (id : SinkId) (calls : List Call) :
    (rack.drive id calls).1 = rack.performAll (driving id calls) := by
  simp only [drive, sendAll_eq_performAll]
  rfl

/-! ### What effects do to the sinks -/

/-- Doing something to a sink that there is. -/
theorem update_of_getElem? {rack : Rack} {id : SinkId} {sink : Sink}
    (h : rack.sinks[id]? = some sink) (act : Host → Sink → Host × Sink) :
    rack.update id act = ⟨rack.sinks.set id (act rack.host sink).2, (act rack.host sink).1⟩ := by
  simp [update, h]

/-- Nothing is done to a sink that there is not. -/
theorem update_of_length_le {rack : Rack} {id : SinkId} (h : rack.sinks.length ≤ id)
    (act : Host → Sink → Host × Sink) : rack.update id act = rack := by
  simp [update, List.getElem?_eq_none h]

theorem length_sinks_update (rack : Rack) (id : SinkId) (act : Host → Sink → Host × Sink) :
    (rack.update id act).sinks.length = rack.sinks.length := by
  unfold update
  split <;> simp

theorem getElem?_update_of_ne {id other : SinkId} (h : other ≠ id) (rack : Rack)
    (act : Host → Sink → Host × Sink) : (rack.update other act).sinks[id]? = rack.sinks[id]? := by
  unfold update
  split
  · rfl
  · simp [List.getElem?_set_ne h]

/-- Sinks never leave a rack. -/
theorem length_le_perform (rack : Rack) (effect : Effect) :
    rack.sinks.length ≤ (rack.perform effect).sinks.length := by
  cases effect with
  | added sink => simp [perform, add]
  | done id operation => exact Nat.le_of_eq (length_sinks_update rack id _).symm

theorem length_le_performAll (rack : Rack) (effects : List Effect) :
    rack.sinks.length ≤ (rack.performAll effects).sinks.length := by
  induction effects generalizing rack with
  | nil => exact Nat.le_refl _
  | cons effect effects ih => exact Nat.le_trans (length_le_perform rack effect) (ih _)

/-- Driving a sink makes no new one. -/
theorem length_sinks_driving (rack : Rack) (id : SinkId) (calls : List Call) :
    (rack.performAll (driving id calls)).sinks.length = rack.sinks.length := by
  rw [driving, performAll_cons]
  have hcalls : ∀ (calls : List Call) (rack : Rack),
      (rack.performAll (calls.map fun call => .done id (.call call))).sinks.length
        = rack.sinks.length := by
    intro calls
    induction calls with
    | nil => intro rack; rfl
    | cons call calls ih =>
      intro rack
      rw [List.map_cons, performAll_cons, ih]
      exact length_sinks_update rack id _
  rw [hcalls]
  exact length_sinks_update rack id _

/-- A recorder goes on as one through any effect, and writes down the call that it gets. -/
theorem perform_recorder {rack : Rack} {id : SinkId} {r : Recorder}
    (h : rack.sinks[id]? = some (.recorder r)) (effect : Effect) :
    ∃ r', (rack.perform effect).sinks[id]? = some (.recorder r')
      ∧ r'.calls = r.calls ++ (effect.callOn? id).toList := by
  have hlt : id < rack.sinks.length := (List.getElem?_eq_some_iff.mp h).1
  cases effect with
  | added sink => exact ⟨r, by simp [perform, add, List.getElem?_append_left hlt, h],
      by simp [Effect.callOn?]⟩
  | done other operation =>
    by_cases hid : other = id
    · subst hid
      refine ⟨r.operate operation, ?_, ?_⟩
      · simp [perform, update_of_getElem? h, Sink.operate_recorder, hlt]
      · cases operation <;>
          simp [Recorder.operate, Effect.callOn?, Recorder.resetStatus, Recorder.receive]
    · refine ⟨r, ?_, ?_⟩
      · rw [perform, getElem?_update_of_ne hid, h]
      · cases operation <;> simp [Effect.callOn?, hid]

/-- **The log of a recorder**: it grows by exactly the calls that the recorder got. -/
theorem calls_performAll {rack : Rack} {id : SinkId} {r : Recorder}
    (h : rack.sinks[id]? = some (.recorder r)) (effects : List Effect) :
    ∃ r', (rack.performAll effects).sinks[id]? = some (.recorder r')
      ∧ r'.calls = r.calls ++ received id effects := by
  induction effects generalizing rack r with
  | nil => exact ⟨r, h, by simp⟩
  | cons effect effects ih =>
    obtain ⟨r₁, h₁, hcalls₁⟩ := perform_recorder h effect
    obtain ⟨r₂, h₂, hcalls₂⟩ := ih h₁
    refine ⟨r₂, h₂, ?_⟩
    rw [hcalls₂, hcalls₁, List.append_assoc]
    congr 1
    cases heffect : effect.callOn? id <;> simp [received, heffect]

end Rack

end VirtualTouchpad
