/-
# A host that goes on

After a history a host does what a host without one would do, as long as it meets no
more faults: only the numbers of its devices go on from those that there were.
`Host.atop` puts what a new host has done on top of the history of another one, and
each operation is the same on both.

* `Host.FaultlessTo`: no call from an earlier host to a later one met a fault;
* `openNode_atop`, `requestAll_atop`, `request_atop`, `write_atop`, `close_atop`: the operations.
-/
import VirtualTouchpad.Proofs.Host.Writes

namespace VirtualTouchpad

namespace KernelEvent

/-- The call with its device counted on from a number. -/
def renumber (first : Nat) : KernelEvent → KernelEvent
  | .opened n path => .opened (first + n) path
  | .openFailed path code => .openFailed path code
  | .requested n request failure => .requested (first + n) request failure
  | .written n bytes outcome => .written (first + n) bytes outcome
  | .closed n => .closed (first + n)

/-- Whether a call met no fault. -/
def isFaultless : KernelEvent → Bool
  | .opened .. | .closed _ => true
  | .openFailed .. => false
  | .requested _ _ failure => failure.isNone
  | .written _ _ outcome => outcome = .whole

/-- Renumbering keeps what a call is. -/
theorem isOpening_renumber (first : Nat) :
    isOpening ∘ renumber first = isOpening := by
  funext event
  cases event <;> rfl

end KernelEvent

namespace Host

/-! ## Hosts that grow -/

/-- Whether a host came from another by calls. -/
def Grows (before after : Host) : Prop := ∃ new, after = before.recordAll new

/-- The calls from an earlier host to a later one. -/
def since (before after : Host) : List KernelEvent := after.events.drop before.events.length

/-- Whether no call from an earlier host to a later one met a fault. -/
def FaultlessTo (before after : Host) : Prop :=
  ∀ event ∈ since before after, event.isFaultless = true

instance (before after : Host) : Decidable (FaultlessTo before after) :=
  inferInstanceAs (Decidable (∀ event ∈ since before after, event.isFaultless = true))

variable {before middle after base new : Host}

theorem Grows.refl (host : Host) : Grows host host := ⟨[], by simp⟩

theorem Grows.trans (h : Grows before middle) (h' : Grows middle after) : Grows before after := by
  obtain ⟨first, rfl⟩ := h
  obtain ⟨second, rfl⟩ := h'
  exact ⟨first ++ second, recordAll_recordAll _ _ _⟩

@[simp] theorem since_recordAll (host : Host) (events : List KernelEvent) :
    since host (host.recordAll events) = events := by
  simp [since]

theorem faultlessTo_recordAll (host : Host) (events : List KernelEvent) :
    FaultlessTo host (host.recordAll events) ↔ ∀ event ∈ events, event.isFaultless = true := by
  rw [FaultlessTo, since_recordAll]

/-- Of all calls none met a fault, so none of the first ones did, and none of the later ones. -/
theorem FaultlessTo.split (h : FaultlessTo before after) (hfirst : Grows before middle)
    (hlater : Grows middle after) : FaultlessTo before middle ∧ FaultlessTo middle after := by
  obtain ⟨first, rfl⟩ := hfirst
  obtain ⟨later, rfl⟩ := hlater
  rw [recordAll_recordAll, faultlessTo_recordAll] at h
  rw [faultlessTo_recordAll, faultlessTo_recordAll]
  constructor
  · intro event hmem
    exact h event (List.mem_append_left _ hmem)
  · intro event hmem
    exact h event (List.mem_append_right _ hmem)

/-- A call that met a fault is not among those of which none did. -/
theorem FaultlessTo.absurd_of_record {event : KernelEvent} (h : FaultlessTo before after)
    (hgrows : Grows (before.recordAll [event]) after) (hbad : event.isFaultless = false) :
    False := by
  obtain ⟨hfirst, -⟩ := h.split ⟨[event], rfl⟩ hgrows
  rw [faultlessTo_recordAll] at hfirst
  simp [hbad] at hfirst

theorem grows_openDeviceIn (tries : Nat) (host : Host) (path : String) :
    Grows host (openDeviceIn tries host path).1 := by
  obtain ⟨failed, ⟨n, hopen⟩ | ⟨code, hopen⟩⟩ := openDeviceIn_spec tries host path
  · exact ⟨_, congrArg Prod.fst hopen⟩
  · exact ⟨_, congrArg Prod.fst hopen⟩

theorem grows_openNode (host : Host) (path : String) : Grows host (host.openNode path).1 := by
  obtain ⟨result, hopen, -⟩ | hopen := openNode_spec host path
  · rw [hopen]
    exact Grows.refl host
  · rw [hopen]
    exact grows_openDeviceIn _ host path

theorem grows_writeIn (calls : Nat) (host : Host) (n : Nat) (bytes : List UInt8) :
    Grows host (writeIn calls host n bytes).1 := by
  obtain ⟨writes, hwrite, -⟩ := writeIn_spec calls host n bytes
  exact ⟨writes, hwrite⟩

/-! ## Operations that meet no fault -/

/-- A device that is opened without a fault is the next one. -/
theorem openDeviceIn_of_faultless {tries : Nat} {host : Host} {path : String}
    (h : FaultlessTo host (openDeviceIn tries host path).1) :
    openDeviceIn tries host path
      = (host.recordAll [.opened host.nextDevice path], .ok (.device host.nextDevice)) := by
  unfold openDeviceIn at h ⊢
  rcases hfail : host.nextFailure? "open" with _ | code
  · simp only [record_eq]
  · simp only [hfail] at h
    rcases tries with _ | tries
    · exact (h.absurd_of_record (Grows.refl _) rfl).elim
    · simp only at h
      split at h
      · exact (h.absurd_of_record (grows_openDeviceIn _ _ _) rfl).elim
      · exact (h.absurd_of_record (Grows.refl _) rfl).elim

/-- Requests that meet no fault all succeed. -/
theorem requestAll_of_faultless {host : Host} {n : Nat} {requests : List Request}
    (h : FaultlessTo host (host.requestAll n requests).1) :
    host.requestAll n requests = (host.recordAll (granted n requests), none) := by
  obtain hall | ⟨before, r, after, code, -, hfail⟩ := requestAll_spec host n requests
  · exact hall
  · rw [hfail, faultlessTo_recordAll] at h
    have hbad := h (.requested n r (some code)) (by simp)
    simp [KernelEvent.isFaultless] at hbad

theorem request_of_faultless {host : Host} {n : Nat} {request : Request}
    (h : FaultlessTo host (host.request n request).1) :
    host.request n request = (host.recordAll [.requested n request none], none) := by
  simp only [Host.request, record_eq, faultlessTo_recordAll] at h ⊢
  have hnone := h _ List.mem_cons_self
  simp only [KernelEvent.isFaultless, Option.isNone_iff_eq_none] at hnone
  rw [hnone]

/-- A write that meets no fault takes everything at once. -/
theorem write_of_faultless {host : Host} {n : Nat} {bytes : List UInt8} (hbytes : bytes ≠ [])
    (h : FaultlessTo host (host.write n bytes).1) :
    host.write n bytes = (host.recordAll [.written n bytes .whole], none) := by
  unfold write writeIn at h ⊢
  rw [if_neg hbytes] at h ⊢
  rcases hfault : host.nextEffect? "write" with _ | code | count
  · simp only [record_eq]
  · simp only [hfault, record_eq] at h
    split at h
    · exact (h.absurd_of_record (grows_writeIn _ _ _ _) rfl).elim
    · exact (h.absurd_of_record (Grows.refl _) rfl).elim
  · simp only [hfault, record_eq] at h
    split at h
    · exact (h.absurd_of_record (Grows.refl _) rfl).elim
    · exact (h.absurd_of_record (grows_writeIn _ _ _ _) rfl).elim

/-! ## A new host on top of a history -/

/-- The handle with its device counted on from a number. -/
def Handle.renumber (first : Nat) : Handle → Handle
  | .device n => .device (first + n)
  | .other => .other

/-- A host with the calls of a new one on top of its own; the devices are numbered on. -/
def atop (new base : Host) : Host := base.recordAll (new.events.map (·.renumber base.nextDevice))

/-- A new host that meets no faults and has the files of another one. -/
structure Beside (new base : Host) : Prop where
  faults : new.faults = []
  files : new.files = base.files

theorem Beside.grows (h : new.Beside base) (hgrows : Grows new after) : after.Beside base := by
  obtain ⟨events, rfl⟩ := hgrows
  exact ⟨h.faults, h.files⟩

theorem atop_recordAll (new base : Host) (events : List KernelEvent) :
    (new.recordAll events).atop base
      = (new.atop base).recordAll (events.map (·.renumber base.nextDevice)) := by
  simp [atop]

theorem nextDevice_atop (new base : Host) :
    (new.atop base).nextDevice = base.nextDevice + new.nextDevice := by
  simp only [atop, nextDevice, events_recordAll, List.countP_append, List.countP_map,
    Nat.add_left_cancel_iff]
  exact congrArg (new.events.countP ·) (KernelEvent.isOpening_renumber _)

/-- **Opening a node** after a history. -/
theorem openNode_atop (h : new.Beside base) {path : String}
    (hfaultless : (new.atop base).FaultlessTo ((new.atop base).openNode path).1) :
    (new.atop base).openNode path
      = ((new.openNode path).1.atop base,
        (new.openNode path).2.map (Handle.renumber base.nextDevice)) := by
  unfold openNode at hfaultless ⊢
  split
  · rfl
  · next hnul =>
    rw [if_neg hnul] at hfaultless
    split
    · next hdevice =>
      rw [if_pos hdevice] at hfaultless
      have hnew : openDeviceIn new.faults.length new path
          = (new.recordAll [.opened new.nextDevice path], .ok (.device new.nextDevice)) := by
        unfold openDeviceIn
        simp only [nextFailure?_of_no_faults h.faults, record_eq]
      rw [openDeviceIn_of_faultless hfaultless, hnew, atop_recordAll, nextDevice_atop]
      rfl
    · show (new.atop base, (base.files.openExisting path).map _)
        = (new.atop base, ((new.files.openExisting path).map _).map _)
      rw [h.files]
      cases base.files.openExisting path <;> rfl

/-- **Requests** after a history. -/
theorem requestAll_atop (h : new.Beside base) {n : Nat} {requests : List Request}
    (hfaultless : (new.atop base).FaultlessTo
      ((new.atop base).requestAll (base.nextDevice + n) requests).1) :
    (new.atop base).requestAll (base.nextDevice + n) requests
        = ((new.requestAll n requests).1.atop base, none)
      ∧ (new.requestAll n requests).2 = none := by
  rw [requestAll_of_faultless hfaultless, requestAll_of_no_faults h.faults, atop_recordAll]
  constructor
  · rw [granted, granted, List.map_map]
    rfl
  · rfl

/-- **A request** after a history. -/
theorem request_atop (h : new.Beside base) {n : Nat} {request : Request}
    (hfaultless : (new.atop base).FaultlessTo
      ((new.atop base).request (base.nextDevice + n) request).1) :
    ((new.atop base).request (base.nextDevice + n) request).1
      = (new.request n request).1.atop base := by
  have hnew : new.request n request = (new.recordAll [.requested n request none], none) := by
    simp only [Host.request, nextFailure?_of_no_faults h.faults, record_eq]
  rw [request_of_faultless hfaultless, hnew, atop_recordAll]
  rfl

/-- **A write** after a history. -/
theorem write_atop (h : new.Beside base) {n : Nat} {bytes : List UInt8} (hbytes : bytes ≠ [])
    (hfaultless : (new.atop base).FaultlessTo
      ((new.atop base).write (base.nextDevice + n) bytes).1) :
    (new.atop base).write (base.nextDevice + n) bytes
      = ((new.write n bytes).1.atop base, (new.write n bytes).2) := by
  rw [write_of_faultless hbytes hfaultless, write_of_no_faults h.faults n hbytes, atop_recordAll]
  rfl

/-- **Closing** after a history. -/
theorem close_atop (new base : Host) (n : Nat) :
    (new.atop base).close (base.nextDevice + n) = (new.close n).atop base := by
  rw [close, close, record_eq, record_eq, atop_recordAll]
  rfl

end Host

end VirtualTouchpad
