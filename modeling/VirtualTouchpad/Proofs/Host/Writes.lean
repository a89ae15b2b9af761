/-
# Writing bytes to a device

A write of some bytes is a loop of calls.  Each call offers all that the device has not
taken yet (`Offers`), so what it took is a beginning of the bytes, whatever the calls came
to (`Offers.accepted_prefix`).

`Delivers` is the loop without a bound: it goes on while there are bytes left, after an
interruption and after a call that took some of them, and it is given up otherwise.
Each call that does not end the loop has met a fault, which no later one meets again
(`length_faultsAhead_record`), so the bound that `Host.write` has is never reached
(`Host.write_delivers`).
-/
import VirtualTouchpad.Proofs.Host.Events

namespace VirtualTouchpad

/-! ## Offers -/

/-- Writes to a device that offer it some bytes: first all of them, then what it has not taken. -/
def Offers (n : Nat) : List UInt8 → List KernelEvent → Prop
  | _, [] => True
  | bytes, event :: later =>
    bytes ≠ [] ∧ (∃ outcome, event = .written n bytes outcome)
      ∧ Offers n (bytes.drop event.accepted.length) later

theorem KernelEvent.accepted_written_prefix (n : Nat) (bytes : List UInt8)
    (outcome : WriteOutcome) : (KernelEvent.written n bytes outcome).accepted <+: bytes := by
  cases outcome with
  | whole => exact List.prefix_refl bytes
  | short count => exact List.take_prefix count bytes
  | failed code => exact List.nil_prefix

namespace Offers

variable {n : Nat} {bytes : List UInt8} {writes : List KernelEvent}

theorem writesTo (h : Offers n bytes writes) : ∀ event ∈ writes, event.WritesTo n := by
  induction writes generalizing bytes with
  | nil => simp
  | cons event later ih =>
    obtain ⟨-, houtcome, hlater⟩ := h
    intro other hmem
    rcases List.mem_cons.mp hmem with rfl | hmem
    · exact ⟨bytes, houtcome⟩
    · exact ih hlater other hmem

/-- **What is taken** of an offer is a beginning of the bytes. -/
theorem accepted_prefix (h : Offers n bytes writes) : acceptedBytes writes <+: bytes := by
  induction writes generalizing bytes with
  | nil => exact List.nil_prefix
  | cons event later ih =>
    obtain ⟨-, ⟨outcome, rfl⟩, hlater⟩ := h
    have hsplit := List.prefix_iff_eq_append.mp
      (KernelEvent.accepted_written_prefix n bytes outcome)
    -- What is taken later continues what was taken first.
    obtain ⟨rest, hrest⟩ := ih hlater
    refine ⟨rest, ?_⟩
    show (KernelEvent.written n bytes outcome).accepted ++ acceptedBytes later ++ rest = bytes
    rw [List.append_assoc, hrest, hsplit]

end Offers

/-! ## The loop -/

/-- What a write is given up for after a call: a failure, unless it is an interruption, or that
nothing was taken. -/
def KernelEvent.writeError? : KernelEvent → Option IoError
  | .written _ _ (.failed code) => if code = Errno.interrupted then none else some (.os code)
  | .written _ _ (.short count) => if count = 0 then some .wroteNothing else none
  | _ => none

namespace Host

/-- What a call that writes bytes comes to, as the faults have it. -/
def writeOutcome (host : Host) (bytes : List UInt8) : WriteOutcome :=
  match host.nextEffect? "write" with
  | none => .whole
  | some (.fails code) => .failed code
  | some (.takes count) => .short (min count bytes.length)

/-- The calls of a write of bytes on a host, and what it fails with: while there are bytes left
they are offered, up to a call that the write is given up for. -/
def Delivers (n : Nat) : Host → List UInt8 → List KernelEvent → Option IoError → Prop
  | _, bytes, [], failure => bytes = [] ∧ failure = none
  | host, bytes, event :: later, failure =>
    bytes ≠ [] ∧ event = .written n bytes (host.writeOutcome bytes)
      ∧ match event.writeError? with
        | some e => later = [] ∧ failure = some e
        | none => Delivers n (host.record event) (bytes.drop event.accepted.length) later failure

namespace Delivers

variable {n : Nat} {host : Host} {bytes : List UInt8} {writes : List KernelEvent}
  {failure : Option IoError}

theorem offers (h : Delivers n host bytes writes failure) : Offers n bytes writes := by
  induction writes generalizing host bytes with
  | nil => trivial
  | cons event later ih =>
    obtain ⟨hne, hevent, hlater⟩ := h
    refine ⟨hne, ⟨_, hevent⟩, ?_⟩
    split at hlater
    · obtain ⟨rfl, -⟩ := hlater
      trivial
    · exact ih hlater

/-- A call that a write is given up for took nothing. -/
theorem accepted_of_writeError {event : KernelEvent} {e : IoError} (h : event.writeError? = some e) :
    event.accepted = [] := by
  cases event with
  | written n bytes outcome =>
    cases outcome with
    | whole => cases h
    | failed code => rfl
    | short count =>
      by_cases hcount : count = 0
      · subst hcount
        rfl
      · simp [KernelEvent.writeError?, hcount] at h
  | opened | openFailed | requested | closed => cases h

/-- **All of the bytes** are taken if and only if the write does not fail. -/
theorem accepted_eq_iff (h : Delivers n host bytes writes failure) :
    acceptedBytes writes = bytes ↔ failure = none := by
  induction writes generalizing host bytes with
  | nil =>
    obtain ⟨rfl, rfl⟩ := h
    simp [acceptedBytes]
  | cons event later ih =>
    obtain ⟨hne, hevent, hlater⟩ := h
    split at hlater
    · next e herror =>
      -- The write is given up, and there are bytes left.
      obtain ⟨rfl, rfl⟩ := hlater
      have hnothing : acceptedBytes [event] = [] := by
        simp [acceptedBytes, accepted_of_writeError herror]
      rw [hnothing]
      simpa using hne.symm
    · have hprefix := KernelEvent.accepted_written_prefix n bytes (host.writeOutcome bytes)
      rw [← hevent] at hprefix
      have hsplit := List.prefix_iff_eq_append.mp hprefix
      rw [← ih hlater]
      constructor
      · intro hall
        have hboth : event.accepted ++ acceptedBytes later
            = event.accepted ++ bytes.drop event.accepted.length := hall.trans hsplit.symm
        exact List.append_cancel_left hboth
      · intro hrest
        show event.accepted ++ acceptedBytes later = bytes
        rw [hrest, hsplit]

end Delivers

/-! ## Faults that lie ahead -/

/-- The faults that a later write may still meet. -/
def faultsAhead (host : Host) : List KernelFault :=
  host.faults.filter fun fault =>
    fault.call == "write" && decide (host.events.countP (·.call == "write") < fault.nth)

theorem length_faultsAhead_le (host : Host) : host.faultsAhead.length ≤ host.faults.length :=
  List.length_filter_le _ _

/-- A write that has met a fault leaves fewer of them ahead. -/
theorem length_faultsAhead_record {host : Host} {effect : FaultEffect}
    (h : host.nextEffect? "write" = some effect) (n : Nat) (bytes : List UInt8)
    (outcome : WriteOutcome) :
    (host.record (.written n bytes outcome)).faultsAhead.length < host.faultsAhead.length := by
  obtain ⟨fault, hfind, -⟩ := Option.map_eq_some_iff.mp h
  have hmet := List.find?_some hfind
  simp only [Bool.and_eq_true, beq_iff_eq] at hmet
  obtain ⟨hcall, hnth⟩ := hmet
  -- One more write was made, so the faults ahead are those of before with a greater number.
  have hahead : (host.record (.written n bytes outcome)).faultsAhead
      = host.faultsAhead.filter fun fault =>
          decide (host.events.countP (·.call == "write") + 1 < fault.nth) := by
    rw [faultsAhead, faultsAhead, List.filter_filter]
    refine List.filter_congr fun other _ => ?_
    have hcount : (host.record (.written n bytes outcome)).events.countP (·.call == "write")
        = host.events.countP (·.call == "write") + 1 := by
      simp [Host.record, KernelEvent.call]
    rw [hcount, Bool.eq_iff_iff]
    simp only [Bool.and_eq_true, beq_iff_eq, decide_eq_true_eq]
    constructor
    · rintro ⟨hwrite, hlater⟩
      exact ⟨hlater, hwrite, by omega⟩
    · rintro ⟨hlater, hwrite, -⟩
      exact ⟨hwrite, hlater⟩
  rw [hahead, List.length_filter_lt_length_iff_exists]
  refine ⟨fault, List.mem_filter.mpr ⟨List.mem_of_find?_eq_some hfind, ?_⟩, ?_⟩
  · simp [hcall, hnth]
  · simp [hnth]

/-! ## Writes -/

theorem writeIn_nil (calls : Nat) (host : Host) (n : Nat) :
    writeIn calls host n [] = (host, none) := by
  cases calls <;> rfl

/-- **One turn** of the loop: after the call it is given up, or goes on with what is left. -/
theorem writeIn_succ (calls : Nat) (host : Host) (n : Nat) {bytes : List UInt8}
    (hne : bytes ≠ []) :
    let event := KernelEvent.written n bytes (host.writeOutcome bytes)
    writeIn (calls + 1) host n bytes
      = match event.writeError? with
        | some e => (host.record event, some e)
        | none => writeIn calls (host.record event) n (bytes.drop event.accepted.length) := by
  intro event
  rw [writeIn, if_neg hne]
  cases heffect : host.nextEffect? "write" with
  | none =>
    have hevent : event = .written n bytes .whole := by simp [event, writeOutcome, heffect]
    simp only [hevent, KernelEvent.writeError?, KernelEvent.accepted, List.drop_length]
    rw [writeIn_nil]
  | some effect =>
    cases effect with
    | fails code =>
      have hevent : event = .written n bytes (.failed code) := by
        simp [event, writeOutcome, heffect]
      by_cases hcode : code = Errno.interrupted
      · simp [hevent, KernelEvent.writeError?, KernelEvent.accepted, hcode]
      · simp [hevent, KernelEvent.writeError?, hcode]
    | takes count =>
      have hevent : event = .written n bytes (.short (min count bytes.length)) := by
        simp [event, writeOutcome, heffect]
      by_cases htaken : min count bytes.length = 0
      · simp [hevent, KernelEvent.writeError?, htaken]
      · simp [hevent, KernelEvent.writeError?, KernelEvent.accepted, htaken]

/-- A call that leaves bytes over has met a fault. -/
theorem length_faultsAhead_of_left (host : Host) (n : Nat) {bytes : List UInt8}
    (hleft : bytes.drop
      (KernelEvent.written n bytes (host.writeOutcome bytes)).accepted.length ≠ []) :
    (host.record (.written n bytes (host.writeOutcome bytes))).faultsAhead.length
      < host.faultsAhead.length := by
  cases heffect : host.nextEffect? "write" with
  | none =>
    have houtcome : host.writeOutcome bytes = .whole := by rw [writeOutcome, heffect]
    rw [houtcome] at hleft
    exact absurd List.drop_length hleft
  | some effect => exact length_faultsAhead_record heffect n bytes _

/-- Writing with a bound offers the bytes, and with one above the number of faults ahead it is the
loop without a bound. -/
theorem writeIn_spec (calls : Nat) (host : Host) (n : Nat) (bytes : List UInt8) :
    ∃ writes, (writeIn calls host n bytes).1 = host.recordAll writes ∧ Offers n bytes writes
      ∧ (host.faultsAhead.length < calls →
        Delivers n host bytes writes (writeIn calls host n bytes).2) := by
  induction calls generalizing host bytes with
  | zero => exact ⟨[], by simp [writeIn], trivial, fun h => absurd h (Nat.not_lt_zero _)⟩
  | succ calls ih =>
    by_cases hne : bytes = []
    · subst hne
      rw [writeIn_nil]
      exact ⟨[], by simp, trivial, fun _ => ⟨rfl, rfl⟩⟩
    · rw [writeIn_succ calls host n hne]
      generalize hevent : KernelEvent.written n bytes (host.writeOutcome bytes) = event
      split
      · next e herror =>
        refine ⟨[event], rfl, ⟨hne, ⟨_, hevent.symm⟩, trivial⟩, fun _ => ⟨hne, hevent.symm, ?_⟩⟩
        rw [herror]
        exact ⟨rfl, rfl⟩
      · next herror =>
        obtain ⟨writes, hhost, hoffers, hdelivers⟩ :=
          ih (host.record event) (bytes.drop event.accepted.length)
        refine ⟨event :: writes, ?_, ⟨hne, ⟨_, hevent.symm⟩, hoffers⟩, fun hbound => ?_⟩
        · rw [hhost, record_eq, recordAll_recordAll]
          rfl
        · refine ⟨hne, hevent.symm, ?_⟩
          rw [herror]
          by_cases hleft : bytes.drop event.accepted.length = []
          · -- Nothing is left, so the loop is over, whatever the bound.
            rw [hleft, writeIn_nil] at hhost ⊢
            obtain rfl : [] = writes := recordAll_injective ((recordAll_nil _).trans hhost)
            exact ⟨rfl, rfl⟩
          · have hfewer : (host.record event).faultsAhead.length < host.faultsAhead.length := by
              subst hevent
              exact length_faultsAhead_of_left host n hleft
            exact hdelivers (by omega)

/-- **A write** is the loop without a bound. -/
theorem write_delivers (host : Host) (n : Nat) (bytes : List UInt8) :
    ∃ writes, (host.write n bytes).1 = host.recordAll writes
      ∧ Delivers n host bytes writes (host.write n bytes).2 := by
  obtain ⟨writes, hhost, -, hdelivers⟩ := writeIn_spec (host.faults.length + 1) host n bytes
  exact ⟨writes, hhost, hdelivers (Nat.lt_succ_of_le host.length_faultsAhead_le)⟩

/-- The device takes the bytes in order, all of them or those up to some point. -/
theorem write_spec (host : Host) (n : Nat) (bytes : List UInt8) :
    ∃ writes, (host.write n bytes).1 = host.recordAll writes
      ∧ (∀ event ∈ writes, event.WritesTo n) ∧ acceptedBytes writes <+: bytes := by
  obtain ⟨writes, hhost, hdelivers⟩ := host.write_delivers n bytes
  exact ⟨writes, hhost, hdelivers.offers.writesTo, hdelivers.offers.accepted_prefix⟩

theorem write_offers (host : Host) (n : Nat) {bytes : List UInt8} (hbytes : bytes ≠ []) :
    ∃ writes, (host.write n bytes).1 = host.recordAll writes ∧ Offers n bytes writes
      ∧ writes ≠ [] := by
  obtain ⟨writes, hhost, hdelivers⟩ := host.write_delivers n bytes
  refine ⟨writes, hhost, hdelivers.offers, ?_⟩
  rintro rfl
  exact hbytes hdelivers.1

end Host

end VirtualTouchpad
