/-
# The first error

A device sink keeps the first error since its status was reset.  What an operation fails
with is a matter of the sink's stage and of the host alone, whatever error is kept already
(`Device.failure?`): a call is refused, the declared device cannot be made, or a frame
cannot be written.

`Device.status_operateAll` reads the kept error off the failures of a run, and
`Device.first_error_kept` puts it together with what a refused call leaves alone and with
the order of the stages.
-/
import Mathlib.Data.List.DropRight
import VirtualTouchpad.Proofs.Sink.Lifecycle

namespace VirtualTouchpad

/-! ## Stages in their order -/

/-- The place of a stage in the order of stages. -/
def Stage.rank : Stage → Nat
  | .new => 0
  | .configuring => 1
  | .ready => 2
  | .closed => 3

theorem Stage.rank_le_closed (stage : Stage) : stage.rank ≤ Stage.closed.rank := by
  cases stage <;> decide

namespace Device

theorem rank_configureEnd (d : Device) (host : Host) :
    d.stage.rank ≤ (d.configureEnd host).2.stage.rank := by
  unfold configureEnd
  split
  · exact Nat.le_refl _
  next hstage =>
  have hconfiguring : d.stage = .configuring := Classical.byContradiction hstage
  rw [hconfiguring]
  split
  · exact Stage.rank_le_closed .configuring
  · split
    · exact (by decide : Stage.configuring.rank ≤ Stage.ready.rank)
    · exact Stage.rank_le_closed .configuring

theorem stage_synReport (d : Device) (host : Host) : (d.synReport host).2.stage = d.stage := by
  unfold synReport
  split
  · rfl
  · simp only
    split
    · rfl
    · split <;> rfl

/-- **An operation** takes a sink to no earlier stage. -/
theorem rank_operate (d : Device) (host : Host) (operation : Operation) :
    d.stage.rank ≤ (d.operate host operation).2.stage.rank := by
  cases operation with
  | reset => exact Nat.le_refl _
  | drop => exact Stage.rank_le_closed d.stage
  | call call =>
    show d.stage.rank ≤ (d.receive host call).2.stage.rank
    by_cases hquiet : call.IsQuiet
    · obtain ⟨-, hquietly⟩ := d.quiet_receive host hquiet
      rcases hquietly.stage with hstage | ⟨hnew, hconfiguring⟩
      · rw [hstage]
      · rw [hnew, hconfiguring]
        decide
    · cases call with
      | configureEnd => exact d.rank_configureEnd host
      | synReport => exact Nat.le_of_eq (congrArg Stage.rank (d.stage_synReport host).symm)
      | close => exact Stage.rank_le_closed d.stage
      | _ => exact absurd ⟨by simp, by simp, by simp⟩ hquiet

theorem rank_operateAll (d : Device) (host : Host) (operations : List Operation) :
    d.stage.rank ≤ (d.operateAll host operations).2.stage.rank := by
  induction operations generalizing d host with
  | nil => exact Nat.le_refl _
  | cons operation operations ih => exact Nat.le_trans (d.rank_operate host operation) (ih _ _)

/-! ## Failures -/

/-- What the host fails to do for a call that is not refused: to make the declared device, which is
not tried after an error, or to write the frame. -/
def hostFailure? (d : Device) (host : Host) : Call → Option SinkError
  | .configureEnd =>
    match d.status, (d.make host).2 with
    | none, .error e => some e
    | _, _ => none
  | .synReport => d.node.bind fun n => (host.write n d.payload).2.map (.io "write uinput frame")
  | _ => none

theorem hostFailure?_of_isQuiet {call : Call} (h : call.IsQuiet) (d : Device) (host : Host) :
    d.hostFailure? host call = none := by
  cases call with
  | configureEnd => exact absurd rfl h.1
  | synReport => exact absurd rfl h.2.1
  | _ => rfl

/-- What an operation fails with, whatever error is kept. -/
def failure? (d : Device) (host : Host) : Operation → Option SinkError
  | .reset | .drop => none
  | .call call => call.refusal? d.stage <|> d.hostFailure? host call

/-- A call that asks nothing of the host, and is not refused, changes no error. -/
theorem status_of_accepted {d : Device} {call : Call} (hquiet : call.IsQuiet)
    (h : call.refusal? d.stage = none) (host : Host) :
    (d.receive host call).2.status = d.status := by
  have hown : ∀ own, call.stage? = some own → d.stage = own ∧ call.fault? = none :=
    fun own hown => Call.eq_of_refusal?_eq_none hown h
  cases call with
  | configureEnd => exact absurd rfl hquiet.1
  | synReport => exact absurd rfl hquiet.2.1
  | close => exact absurd rfl hquiet.2.2
  | configureBegin identity =>
    obtain ⟨hstage, hfault⟩ := hown _ rfl
    show (d.configureBegin identity).status = d.status
    unfold Call.fault? at hfault
    rw [configureBegin, during_of_stage hstage]
    simp only at hfault ⊢
    split at hfault
    · cases hfault
    · next hsize => rw [if_neg hsize]
  | configureProperty | configureKey | configureRel =>
    obtain ⟨hstage, hfault⟩ := hown _ rfl
    refine (congrArg Device.status (during_of_stage hstage _)).trans ?_
    rw [withCode_of_fitting hfault]
  | key | rel =>
    obtain ⟨hstage, hfault⟩ := hown _ rfl
    refine (congrArg Device.status (during_of_stage hstage _)).trans ?_
    rw [withCode_of_fitting hfault]
    rfl
  | configureMultiTouch | configureSlots =>
    obtain ⟨hstage, -⟩ := hown _ rfl
    simp only [receive]
    rw [configureAbs_eq hstage (by decide), configureAbs_eq (by exact hstage) (by decide)]
  | contact slot | lift slot =>
    obtain ⟨hstage, -⟩ := hown _ rfl
    refine (congrArg Device.status (during_of_stage hstage _)).trans ?_
    rw [selectSlot_eq]
    rfl

theorem status_configureEnd {d : Device} (hstage : d.stage = .configuring) (host : Host) :
    (d.configureEnd host).2.status = (d.status <|> d.hostFailure? host .configureEnd) := by
  unfold configureEnd hostFailure?
  rw [if_neg (not_not.mpr hstage)]
  cases d.status with
  | some error => simp
  | none =>
    simp only [Option.isSome_none, Bool.false_eq_true, if_false]
    split
    · next hmake => simp [hmake]
    · next hmake => simp [hmake, latch]

theorem status_synReport {d : Device} (h : d.Equipped) (hready : d.stage = .ready) (host : Host) :
    (d.synReport host).2.status = (d.status <|> d.hostFailure? host .synReport) := by
  obtain ⟨n, hnode⟩ := h.exists_node hready
  rw [synReport_eq hready hnode, hostFailure?, hnode]
  rfl

/-- **An operation** keeps the error that there is, or else that of its own failure. -/
theorem status_operate {d : Device} (h : d.Equipped) (host : Host) (operation : Operation) :
    (d.operate host operation).2.status
      = if operation = .reset then none else d.status <|> d.failure? host operation := by
  cases operation with
  | reset => rfl
  | drop => simp [operate, close, failure?]
  | call call =>
    rw [if_neg (by simp)]
    show (d.receive host call).2.status = (d.status <|> d.failure? host (.call call))
    cases hrefused : call.refusal? d.stage with
    | some error =>
      rw [receive_of_refusal hrefused, failure?, hrefused]
      rfl
    | none =>
      rw [failure?, hrefused]
      show (d.receive host call).2.status = (d.status <|> d.hostFailure? host call)
      have hown : ∀ own, call.stage? = some own → d.stage = own :=
        fun own hown => (Call.eq_of_refusal?_eq_none hown hrefused).1
      by_cases hquiet : call.IsQuiet
      · rw [status_of_accepted hquiet hrefused, hostFailure?_of_isQuiet hquiet]
        simp
      · cases call with
        | configureEnd => exact status_configureEnd (hown _ rfl) host
        | synReport => exact status_synReport h (hown _ rfl) host
        | close => simp [receive, close, hostFailure?]
        | _ => exact absurd ⟨by simp, by simp, by simp⟩ hquiet

/-! ## Runs -/

/-- Operations in order, each with what it fails with. -/
def attempts (d : Device) (host : Host) : List Operation → List (Operation × Option SinkError)
  | [] => []
  | operation :: operations =>
    (operation, d.failure? host operation)
      :: (d.operate host operation).2.attempts (d.operate host operation).1 operations

theorem attempts_concat (d : Device) (host : Host) (operations : List Operation)
    (operation : Operation) :
    d.attempts host (operations ++ [operation])
      = d.attempts host operations
        ++ [(operation, (d.operateAll host operations).2.failure?
            (d.operateAll host operations).1 operation)] := by
  induction operations generalizing d host with
  | nil => rfl
  | cons first operations ih => exact congrArg ((first, d.failure? host first) :: ·) (ih _ _)

/-- The first failure since the last reset. -/
def firstFailure? (attempts : List (Operation × Option SinkError)) : Option SinkError :=
  (attempts.rtakeWhile fun attempt => attempt.1 ≠ .reset).findSome? (·.2)

theorem firstFailure?_concat (attempts : List (Operation × Option SinkError))
    (operation : Operation) (failure : Option SinkError) :
    firstFailure? (attempts ++ [(operation, failure)])
      = if operation = .reset then none else firstFailure? attempts <|> failure := by
  rw [firstFailure?, List.rtakeWhile_concat]
  by_cases hreset : operation = .reset
  · simp [hreset]
  · rw [if_neg hreset, if_pos (by simpa using hreset), List.findSome?_append]
    simp [firstFailure?]

/-- **The error that a sink keeps** is its first failure since the last reset. -/
theorem status_operateAll (path : String) (host : Host) (operations : List Operation) :
    ((new path).operateAll host operations).2.status
      = firstFailure? ((new path).attempts host operations) := by
  induction operations using List.reverseRecOn with
  | nil => rfl
  | append_singleton operations operation ih =>
    have hequipped := (equipped_new path).operateAll host operations
    rw [operateAll_append, attempts_concat, firstFailure?_concat, ← ih]
    exact status_operate hequipped _ operation

/-- **Refused calls are inert and the first error is kept**, whatever was done to a sink before and
whatever the faults of its host.  A refused call changes no more than the kept error, and asks
nothing of the host; an error is kept until the status is reset; what is kept is the error of the
first call since the last reset that failed; and the stages come in their order. -/
theorem first_error_kept (path : String) (host : Host) (operations : List Operation) :
    let now := (new path).operateAll host operations
    (∀ (call : Call) (error : SinkError), call.refusal? now.2.stage = some error →
      now.2.receive now.1 call = (now.1, { now.2 with status := now.2.status <|> some error }))
    ∧ (∀ (operation : Operation) (error : SinkError), operation ≠ .reset →
      now.2.status = some error → (now.2.operate now.1 operation).2.status = some error)
    ∧ now.2.status = firstFailure? ((new path).attempts host operations)
    ∧ ∀ later : List Operation,
      now.2.stage.rank ≤ (now.2.operateAll now.1 later).2.stage.rank := by
  intro now
  have hequipped : now.2.Equipped := (equipped_new path).operateAll host operations
  refine ⟨fun call error hrefused => receive_of_refusal hrefused now.1, ?_,
    status_operateAll path host operations, fun later => now.2.rank_operateAll now.1 later⟩
  intro operation error hne hkept
  rw [status_operate hequipped, if_neg hne, hkept]
  rfl

/-- Two codes are too great, and the status is reset between them: the error of the second is kept, no
device is made, and neither the end of a frame nor a drop puts another error in its place. -/
theorem first_error_kept_two_codes :
    let operations : List Operation := [.call (.configureBegin ⟨"pad", virtualBus, 0, 0, 1⟩),
      .call (.configureKey 0x300), .reset, .call (.configureRel 0x20), .call (.configureKey 0x300),
      .call .configureEnd]
    let now := (new "/dev/uinput").operateAll (.new []) operations
    now.2.status = some (.relRange 0x20) ∧ now.2.stage = .closed
      ∧ now.2.receive now.1 .synReport = now
      ∧ (now.2.operate now.1 .drop).2.status = some (.relRange 0x20) := by
  intro operations now
  obtain ⟨hinert, hkept, hfirst, -⟩ := first_error_kept "/dev/uinput" (.new []) operations
  have hstatus : now.2.status = some (.relRange 0x20) := hfirst.trans (by decide +kernel)
  have hstage : now.2.stage = .closed := by decide +kernel
  refine ⟨hstatus, hstage, ?_, hkept .drop _ (by decide) hstatus⟩
  refine (hinert .synReport .sequencing ?_).trans ?_
  · show Call.synReport.refusal? now.2.stage = some .sequencing
    rw [hstage]
    rfl
  · show (now.1, { now.2 with status := now.2.status <|> some .sequencing }) = now
    have hsame : (now.2.status <|> some .sequencing) = now.2.status := by
      rw [hstatus]
      rfl
    rw [hsame]

end Device

end VirtualTouchpad
