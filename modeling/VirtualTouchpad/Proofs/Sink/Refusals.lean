/-
# Refused calls

Each call is for one stage of a device, except `close`, which is for all of them, and may
carry a code that is too great or a name that is too long.  `Call.refusal?` puts the two
together, for a call and a stage: it is the rule that calls are refused by.

`Device.receive_of_refusal` says what becomes of a refused call: no more than the kept
status changes, and nothing is asked of the host.
-/
import VirtualTouchpad.Sink.Device

namespace VirtualTouchpad

namespace Call

/-- The stage that a call is for, if it is for one alone. -/
def stage? : Call → Option Stage
  | .configureBegin _ => some .new
  | .configureProperty _ | .configureKey _ | .configureRel _ | .configureMultiTouch ..
  | .configureSlots _ | .configureEnd => some .configuring
  | .key .. | .rel .. | .contact .. | .lift _ | .synReport => some .ready
  | .close => none

/-- The error of a code that is too great. -/
def excess? (code greatest : UInt16) (error : UInt16 → SinkError) : Option SinkError :=
  if greatest < code then some (error code) else none

theorem le_of_excess?_eq_none {code greatest : UInt16} {error : UInt16 → SinkError}
    (h : excess? code greatest error = none) : code ≤ greatest := by
  unfold excess? at h
  split at h
  · cases h
  · next hcode => exact UInt16.not_lt.mp hcode

/-- What is wrong with what a call carries, in whatever stage it is made. -/
def fault? : Call → Option SinkError
  | .configureBegin identity =>
    let size := identity.name.utf8ByteSize
    if nameFieldSize ≤ size then some (.nameTooLong size) else none
  | .configureProperty property => excess? property InputProperty.greatest .propertyRange
  | .configureKey code | .key code _ => excess? code KeyCode.greatest .keyRange
  | .configureRel axis | .rel axis _ => excess? axis RelAxis.greatest .relRange
  | _ => none

/-- Why a call is refused in a stage: it is for another one, or something is wrong with it. -/
def refusal? (call : Call) (stage : Stage) : Option SinkError :=
  if call.stage?.all (· = stage) then call.fault? else some .sequencing

/-- A call in another stage than its own is out of sequence. -/
theorem refusal?_of_ne {call : Call} {own stage : Stage} (hown : call.stage? = some own)
    (h : stage ≠ own) : call.refusal? stage = some .sequencing := by
  rw [refusal?, hown, if_neg]
  simpa using Ne.symm h

/-- In its own stage only what a call carries may be wrong with it. -/
theorem refusal?_of_eq {call : Call} {own : Stage} (hown : call.stage? = some own) :
    call.refusal? own = call.fault? := by
  rw [refusal?, hown, if_pos]
  simp

/-- A call that is not refused is made in its own stage, and nothing is wrong with it. -/
theorem eq_of_refusal?_eq_none {call : Call} {own stage : Stage} (hown : call.stage? = some own)
    (h : call.refusal? stage = none) : stage = own ∧ call.fault? = none := by
  by_cases hstage : stage = own
  · rw [hstage, refusal?_of_eq hown] at h
    exact ⟨hstage, h⟩
  · rw [refusal?_of_ne hown hstage] at h
    cases h

end Call

namespace Device

/-! ## Stages -/

theorem during_of_stage {d : Device} {stage : Stage} (h : d.stage = stage)
    (act : Device → Device) : d.during stage act = act d := if_pos h

theorem during_of_ne {d : Device} {stage : Stage} (h : d.stage ≠ stage)
    (act : Device → Device) : d.during stage act = d.latch .sequencing := if_neg h

/-- The first error is kept. -/
theorem latch_latch (d : Device) (first later : SinkError) :
    (d.latch first).latch later = d.latch first := by
  cases hstatus : d.status <;> simp [latch, hstatus]

/-! ## Calls out of sequence -/

theorem configureAbs_of_ne {d : Device} (h : d.stage ≠ .configuring) (axis : UInt16)
    (least greatest : Int32) : d.configureAbs axis least greatest = d.latch .sequencing :=
  during_of_ne h _

/-- **A call in another stage than its own** is out of sequence. -/
theorem receive_of_stage_ne {d : Device} {call : Call} {own : Stage}
    (hown : call.stage? = some own) (h : d.stage ≠ own) (host : Host) :
    d.receive host call = (host, d.latch .sequencing) := by
  -- Two axes are declared by one call, and the error of the first is kept.
  have htwice : own = .configuring → ∀ (axis other : UInt16) (x0 y0 x1 y1 : Int32),
      (d.configureAbs axis x0 x1).configureAbs other y0 y1 = d.latch .sequencing := by
    rintro rfl axis other x0 y0 x1 y1
    have hlatched : (d.latch .sequencing).stage ≠ .configuring := h
    rw [configureAbs_of_ne h, configureAbs_of_ne hlatched, latch_latch]
  cases call with
  | close => cases hown
  | configureEnd | synReport =>
    cases hown
    exact if_pos h
  | configureMultiTouch | configureSlots =>
    cases hown
    exact congrArg (Prod.mk host) (htwice rfl ..)
  | configureBegin | configureProperty | configureKey | configureRel | key | rel | contact | lift =>
    cases hown
    exact congrArg (Prod.mk host) (during_of_ne h _)

/-! ## Codes and names -/

theorem withCode_of_excess {code greatest : UInt16} {error : UInt16 → SinkError} {e : SinkError}
    (h : Call.excess? code greatest error = some e) (d : Device) (act : Device → Device) :
    d.withCode code greatest error act = d.latch e := by
  unfold Call.excess? at h
  unfold withCode
  split at h
  · next hcode =>
    obtain rfl := Option.some.inj h
    rw [if_pos hcode]
  · cases h

theorem withCode_of_fitting {code greatest : UInt16} {error : UInt16 → SinkError}
    (h : Call.excess? code greatest error = none) (d : Device) (act : Device → Device) :
    d.withCode code greatest error act = act d :=
  if_neg (UInt16.not_lt.mpr (Call.le_of_excess?_eq_none h))

/-- **A call that something is wrong with**, in its own stage. -/
theorem receive_of_fault {d : Device} {call : Call} (hown : call.stage? = some d.stage)
    {e : SinkError} (h : call.fault? = some e) (host : Host) :
    d.receive host call = (host, d.latch e) := by
  cases call with
  | configureBegin identity =>
    refine congrArg (Prod.mk host) ((during_of_stage (Option.some.inj hown).symm _).trans ?_)
    unfold Call.fault? at h
    simp only at h ⊢
    split at h
    · next hsize =>
      obtain rfl := Option.some.inj h
      rw [if_pos hsize]
    · cases h
  | configureProperty | configureKey | configureRel | key | rel =>
    refine congrArg (Prod.mk host) ((during_of_stage (Option.some.inj hown).symm _).trans ?_)
    exact withCode_of_excess h d _
  | configureMultiTouch | configureSlots | configureEnd | contact | lift | synReport | close =>
    cases h

/-! ## Refusals -/

/-- **A refused call** changes nothing but the kept status, and asks nothing of the host. -/
theorem receive_of_refusal {d : Device} {call : Call} {e : SinkError}
    (h : call.refusal? d.stage = some e) (host : Host) :
    d.receive host call = (host, d.latch e) := by
  cases hown : call.stage? with
  | none =>
    cases call with
    | close => cases h
    | _ => cases hown
  | some own =>
    by_cases hstage : d.stage = own
    · subst hstage
      rw [Call.refusal?_of_eq hown] at h
      exact receive_of_fault hown h host
    · rw [Call.refusal?_of_ne hown hstage] at h
      obtain rfl := Option.some.inj h
      exact receive_of_stage_ne hown hstage host

end Device

end VirtualTouchpad
