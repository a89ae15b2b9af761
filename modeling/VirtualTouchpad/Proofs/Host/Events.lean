/-
# What the host writes down

Whatever is asked of the host, it does no more than add calls to the end of its list.
For opening (`openDeviceIn_spec`) and for a list of requests (`requestAll_spec`) one
lemma each says which.
-/
import VirtualTouchpad.Host.Kernel

namespace VirtualTouchpad

namespace KernelEvent

/-- The device that a call is on. -/
def device? : KernelEvent → Option Nat
  | .opened n _ | .requested n .. | .written n .. | .closed n => some n
  | .openFailed .. => none

/-- The bytes that a device took in a call. -/
def accepted : KernelEvent → List UInt8
  | .written _ bytes .whole => bytes
  | .written _ bytes (.short count) => bytes.take count
  | _ => []

/-- Whether the call is a write. -/
def isWrite : KernelEvent → Bool
  | .written .. => true
  | _ => false

/-- Whether a call writes to a device. -/
def WritesTo (n : Nat) (event : KernelEvent) : Prop :=
  ∃ bytes outcome, event = .written n bytes outcome

end KernelEvent

/-- The bytes that devices took in some calls. -/
def acceptedBytes (events : List KernelEvent) : List UInt8 := events.flatMap (·.accepted)

@[simp] theorem acceptedBytes_append (events later : List KernelEvent) :
    acceptedBytes (events ++ later) = acceptedBytes events ++ acceptedBytes later :=
  List.flatMap_append

/-- Where nothing is written nothing is taken. -/
theorem acceptedBytes_of_not_write {events : List KernelEvent}
    (h : ∀ event ∈ events, event.isWrite = false) : acceptedBytes events = [] := by
  refine List.flatMap_eq_nil_iff.mpr fun event hmem => ?_
  have hnot := h event hmem
  cases event with
  | written => cases hnot
  | opened | openFailed | requested | closed => rfl

namespace Host

/-- The host after more calls. -/
def recordAll (host : Host) (events : List KernelEvent) : Host :=
  { host with events := host.events ++ events }

@[simp] theorem recordAll_nil (host : Host) : host.recordAll [] = host := by
  simp [recordAll]

@[simp] theorem recordAll_recordAll (host : Host) (events later : List KernelEvent) :
    (host.recordAll events).recordAll later = host.recordAll (events ++ later) := by
  simp [recordAll]

theorem record_eq (host : Host) (event : KernelEvent) :
    host.record event = host.recordAll [event] := rfl

@[simp] theorem events_recordAll (host : Host) (events : List KernelEvent) :
    (host.recordAll events).events = host.events ++ events := rfl

theorem recordAll_injective {host : Host} {events later : List KernelEvent}
    (h : host.recordAll events = host.recordAll later) : events = later :=
  List.append_cancel_left (congrArg Host.events h)

/-! ## Opening -/

/-- Attempts to open a path that were interrupted, and are made again. -/
def interrupted (path : String) (tries : Nat) : List KernelEvent :=
  List.replicate tries (.openFailed path Errno.interrupted)

/-- **Opening**: after interrupted attempts the device is opened, or a last one fails. -/
theorem openDeviceIn_spec (fuel : Nat) (host : Host) (path : String) :
    ∃ tries,
      (∃ n, openDeviceIn fuel host path
        = (host.recordAll (interrupted path tries ++ [.opened n path]), .ok (.device n)))
      ∨ ∃ code, openDeviceIn fuel host path
        = (host.recordAll (interrupted path tries ++ [.openFailed path code]),
            .error (.os code)) := by
  induction fuel generalizing host with
  | zero =>
    refine ⟨0, ?_⟩
    unfold openDeviceIn
    cases host.nextFailure? "open" with
    | none =>
      left
      refine ⟨host.nextDevice, ?_⟩
      rfl
    | some code =>
      right
      refine ⟨code, ?_⟩
      rfl
  | succ fuel ih =>
    unfold openDeviceIn
    cases host.nextFailure? "open" with
    | none =>
      refine ⟨0, Or.inl ⟨host.nextDevice, ?_⟩⟩
      rfl
    | some code =>
      simp only
      by_cases hcode : code = Errno.interrupted
      · -- One more interrupted attempt comes before those of the attempts that follow.
        subst hcode
        obtain ⟨tries, hrest⟩ := ih (host.record (.openFailed path Errno.interrupted))
        refine ⟨tries + 1, ?_⟩
        simp only [if_true]
        rcases hrest with ⟨n, hopen⟩ | ⟨last, hopen⟩
        · left
          refine ⟨n, ?_⟩
          rw [hopen, record_eq, recordAll_recordAll]
          rfl
        · right
          refine ⟨last, ?_⟩
          rw [hopen, record_eq, recordAll_recordAll]
          rfl
      · refine ⟨0, Or.inr ⟨code, ?_⟩⟩
        simp only [if_neg hcode]
        rfl

/-- Opening a path either leaves the host as it is and opens no device, or is `openDeviceIn`. -/
theorem openNode_spec (host : Host) (path : String) :
    (∃ result, host.openNode path = (host, result) ∧ ∀ n, result ≠ .ok (.device n))
    ∨ host.openNode path = openDeviceIn host.faults.length host path := by
  unfold openNode
  split
  · exact Or.inl ⟨_, rfl, by simp⟩
  · split
    · exact Or.inr rfl
    · left
      refine ⟨_, rfl, fun n => ?_⟩
      cases host.files.openExisting path <;> simp [Except.map]

/-! ## Requests -/

/-- Requests on a device that all succeed. -/
def granted (n : Nat) (requests : List Request) : List KernelEvent :=
  requests.map (.requested n · none)

/-- **Requests in order**: all of them succeed, or those up to one that fails. -/
theorem requestAll_spec (host : Host) (n : Nat) (requests : List Request) :
    host.requestAll n requests = (host.recordAll (granted n requests), none)
    ∨ ∃ before r after code, requests = before ++ r :: after
      ∧ host.requestAll n requests
        = (host.recordAll (granted n before ++ [.requested n r (some code)]), some (r, code)) := by
  induction requests generalizing host with
  | nil => exact Or.inl (by simp [requestAll, granted])
  | cons r requests ih =>
    simp only [requestAll, request]
    cases host.nextFailure? r.name with
    | some code => exact Or.inr ⟨[], r, requests, code, rfl, rfl⟩
    | none =>
      simp only [record_eq]
      rcases ih (host.recordAll [.requested n r none]) with hall | ⟨before, s, after, code, rfl, hfail⟩
      · left
        rw [hall, recordAll_recordAll]
        rfl
      · right
        refine ⟨r :: before, s, after, code, rfl, ?_⟩
        rw [hfail, recordAll_recordAll]
        rfl

/-! ## Without faults -/

theorem nextEffect?_of_no_faults {host : Host} (h : host.faults = []) (call : String) :
    host.nextEffect? call = none := by
  simp [nextEffect?, h]

theorem nextFailure?_of_no_faults {host : Host} (h : host.faults = []) (call : String) :
    host.nextFailure? call = none := by
  simp [nextFailure?, nextEffect?_of_no_faults h]

/-- A write without faults takes everything at once. -/
theorem write_of_no_faults {host : Host} (h : host.faults = []) (n : Nat) {bytes : List UInt8}
    (hbytes : bytes ≠ []) :
    host.write n bytes = (host.recordAll [.written n bytes .whole], none) := by
  simp [write, writeIn, hbytes, nextEffect?_of_no_faults h, record_eq]

/-- Opening without faults makes the next device. -/
theorem openNode_of_no_faults {host : Host} (h : host.faults = []) {path : String}
    (hdevice : isDevicePath path = true) (hnul : '\x00' ∉ path.toList) :
    host.openNode path
      = (host.recordAll [.opened host.nextDevice path], .ok (.device host.nextDevice)) := by
  simp [openNode, hdevice, hnul, h, openDeviceIn, nextFailure?_of_no_faults h, record_eq]

/-- Requests without faults all succeed. -/
theorem requestAll_of_no_faults {host : Host} (h : host.faults = []) (n : Nat)
    (requests : List Request) :
    host.requestAll n requests = (host.recordAll (granted n requests), none) := by
  induction requests generalizing host with
  | nil => simp [requestAll, granted]
  | cons r requests ih =>
    simp only [requestAll, request, nextFailure?_of_no_faults h, record_eq]
    have hfree : (host.recordAll [.requested n r none]).faults = [] := h
    rw [ih hfree, recordAll_recordAll]
    rfl

end Host

end VirtualTouchpad
