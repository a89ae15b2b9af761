/-
# Frames as bytes

What a device writes for the calls that it gets, as a function of these calls alone:
each `synReport` makes one payload, of the events of the calls since the last one.  A
contact is preceded by its slot, unless that is the last one that was sent.

A device that is ready writes just these payloads (`Alive.receiveAll`).
-/
import VirtualTouchpad.Proofs.Sink.Calls

namespace VirtualTouchpad

/-! ## Payloads -/

/-- What is left over and what was written after some calls. -/
structure Encoder where
  /-- The last slot that was sent. -/
  slot : Option Int32
  frame : List InputEvent
  payloads : List (List UInt8)

namespace Encoder

/-- Before the first call. -/
def start : Encoder := ⟨none, [], []⟩

/-- One more call. -/
def step (encoder : Encoder) : Call → Encoder
  | .synReport =>
    { encoder with
      frame := []
      payloads := encoder.payloads ++
        [(encoder.frame ++ [InputEvent.synReport]).flatMap InputEvent.bytes] }
  | call =>
    { encoder with
      frame := encoder.frame ++ call.events encoder.slot
      slot := call.slotAfter encoder.slot }

/-- After some calls. -/
def steps (encoder : Encoder) (calls : List Call) : Encoder := calls.foldl step encoder

theorem steps_append (encoder : Encoder) (calls later : List Call) :
    encoder.steps (calls ++ later) = (encoder.steps calls).steps later :=
  List.foldl_append

end Encoder

/-- The payloads for the calls of a recorder. -/
def payloads (calls : List Call) : List (List UInt8) := (Encoder.start.steps calls).payloads

/-- There is one payload for each `synReport`. -/
theorem length_payloads (calls : List Call) :
    (payloads calls).length = calls.count .synReport := by
  have hsteps : ∀ encoder : Encoder, (encoder.steps calls).payloads.length
      = encoder.payloads.length + calls.count .synReport := by
    induction calls with
    | nil => intro encoder; rfl
    | cons call calls ih =>
      intro encoder
      show ((encoder.step call).steps calls).payloads.length = _
      rw [ih]
      by_cases hsyn : call = .synReport
      · subst hsyn
        simp only [Encoder.step, List.length_append, List.length_singleton, List.count_cons_self]
        omega
      · have hkept : (encoder.step call).payloads = encoder.payloads := by
          cases call <;> first | rfl | exact absurd rfl hsyn
        rw [hkept, List.count_cons_of_ne hsyn]
  rw [payloads, hsteps, Encoder.start, List.length_nil, Nat.zero_add]

namespace KernelEvent

/-- The payload of a write to a device. -/
def payloadOn? (n : Nat) : KernelEvent → Option (List UInt8)
  | .written device bytes _ => if device = n then some bytes else none
  | _ => none

end KernelEvent

/-- The payloads that were written to a device. -/
def payloadsOn (n : Nat) (events : List KernelEvent) : List (List UInt8) :=
  events.filterMap (·.payloadOn? n)

@[simp] theorem payloadsOn_append (n : Nat) (events later : List KernelEvent) :
    payloadsOn n (events ++ later) = payloadsOn n events ++ payloadsOn n later :=
  List.filterMap_append

theorem payloadsOn_of_not_write {events : List KernelEvent}
    (h : ∀ event ∈ events, event.isWrite = false) (n : Nat) : payloadsOn n events = [] := by
  refine List.filterMap_eq_nil_iff.mpr fun event hmem => ?_
  have hnot := h event hmem
  cases event with
  | written => cases hnot
  | opened | openFailed | requested | closed => rfl

namespace Device

/-! ## A device that keeps up with a recorder -/

/-- A device of the host that is made, has no error, and is as far as an encoder. -/
structure Alive (n : Nat) (encoder : Encoder) (d : Device) : Prop where
  stage : d.stage = .ready
  node : d.node = some n
  status : d.status = none
  slot : d.slot = encoder.slot
  frame : d.frame = encoder.frame

namespace Alive

variable {n : Nat} {encoder : Encoder} {d : Device}

/-- **One call**: a device that keeps up goes on to do so, and writes what the encoder does. -/
theorem receive (h : Alive n encoder d) {host : Host} (hfree : host.faults = []) {call : Call}
    (hcall : call.IsSample) :
    ∃ new, (d.receive host call).1 = host.recordAll new
      ∧ Alive n (encoder.step call) (d.receive host call).2
      ∧ (encoder.step call).payloads = encoder.payloads ++ payloadsOn n new
      ∧ ∀ event ∈ new, event.WritesTo n := by
  rcases hcall with rfl | ⟨hreport, hrange⟩
  · have hwrite := Host.write_of_no_faults hfree n d.payload_ne_nil
    have hreceive : d.receive host .synReport
        = (host.recordAll [.written n d.payload .whole], { d with frame := [] }) := by
      show d.synReport host = _
      rw [synReport_eq h.stage h.node, hwrite, h.status]
      simp [← h.status]
    rw [hreceive]
    refine ⟨[.written n d.payload .whole], rfl, ?_, ?_, ?_⟩
    · exact ⟨h.stage, h.node, h.status, h.slot, rfl⟩
    · simp [Encoder.step, payloadsOn, KernelEvent.payloadOn?, payload, h.frame]
    · intro event hmem
      exact ⟨_, _, List.mem_singleton.mp hmem⟩
  · have hstep : encoder.step call =
        { encoder with
          frame := encoder.frame ++ call.events encoder.slot
          slot := call.slotAfter encoder.slot } := by
      cases call <;> first | rfl | exact hreport.elim
    rw [receive_report h.stage hreport hrange, hstep]
    refine ⟨[], by simp, ?_, by simp [payloadsOn], by simp⟩
    exact ⟨h.stage, h.node, h.status, by simp [report, h.slot], by simp [report, h.slot, h.frame]⟩

/-- **Calls in order**: the device writes what the encoder does. -/
theorem receiveAll (h : Alive n encoder d) {host : Host} (hfree : host.faults = [])
    {calls : List Call} (hcalls : ∀ call ∈ calls, call.IsSample) :
    ∃ new, (d.receiveAll host calls).1 = host.recordAll new
      ∧ Alive n (encoder.steps calls) (d.receiveAll host calls).2
      ∧ (encoder.steps calls).payloads = encoder.payloads ++ payloadsOn n new
      ∧ ∀ event ∈ new, event.WritesTo n := by
  induction calls generalizing encoder d host with
  | nil => exact ⟨[], by simp [Device.receiveAll], h, by simp [Encoder.steps, payloadsOn], by simp⟩
  | cons call calls ih =>
    obtain ⟨first, hfirst, halive, hwritten, hwrites⟩ :=
      h.receive hfree (hcalls call List.mem_cons_self)
    have hfree' : (d.receive host call).1.faults = [] := by rw [hfirst]; exact hfree
    obtain ⟨rest, hrest, halive', hwritten', hwrites'⟩ :=
      ih halive hfree' fun later hmem => hcalls later (List.mem_cons_of_mem _ hmem)
    refine ⟨first ++ rest, ?_, halive', ?_, ?_⟩
    · rw [Device.receiveAll, hrest, hfirst, Host.recordAll_recordAll]
    · rw [payloadsOn_append, ← List.append_assoc, ← hwritten]
      exact hwritten'
    · intro event hmem
      rcases List.mem_append.mp hmem with hmem | hmem
      · exact hwrites event hmem
      · exact hwrites' event hmem

end Alive

end Device

end VirtualTouchpad
