/-
# The life of a device

A device of the host is opened, declared, made, written to, destroyed and closed,
in this order, and any of the first steps may fail.  `Life` lists the courses that
the calls for one node can take, and `Lifecycle` says what they have in common once
the device is gone: whatever was opened is closed, and whatever was made is
destroyed, once.

* `Life.close`, `Life.write`: how a course goes on;
* `Life.lifecycle`: every course without a device in the end is a lifecycle.
-/
import VirtualTouchpad.Proofs.Host.Events

namespace VirtualTouchpad

/-! ## Lifecycles -/

namespace KernelEvent

/-- Whether the call tries to open a node. -/
def isAttempt : KernelEvent → Bool
  | .opened .. | .openFailed .. => true
  | _ => false

/-- Whether the call is to make a declared device. -/
def isCreation : KernelEvent → Bool
  | .requested _ .createDevice _ => true
  | _ => false

/-- Whether the call made a declared device. -/
def isCreated : KernelEvent → Bool
  | .requested _ .createDevice none => true
  | _ => false

/-- Whether the call is to destroy a device, be it done or not. -/
def isDestruction : KernelEvent → Bool
  | .requested _ .destroyDevice _ => true
  | _ => false

/-- Whether the call closes a device. -/
def isClosing : KernelEvent → Bool
  | .closed _ => true
  | _ => false

/-- Where in the life of a device a call has its place. -/
def phase : KernelEvent → Nat
  | .openFailed .. => 0
  | .opened .. => 1
  | .requested _ .createDevice _ => 3
  | .requested _ .destroyDevice _ => 5
  | .requested .. => 2
  | .written .. => 4
  | .closed _ => 6

/-- Whether a call may come somewhere before another in a life. -/
def Before (earlier later : KernelEvent) : Prop :=
  earlier.phase ≤ later.phase ∧ earlier.phase < 6

end KernelEvent

/-- The calls for one sink whose life is over: it opened its node at most once, and a device that
it opened was made at most once, destroyed if and only if it was made, and then closed. -/
structure Lifecycle (path : String) (events : List KernelEvent) : Prop where
  /-- An attempt to open the node is only repeated when it was interrupted. -/
  attempts : ∃ tries last, events.filter (·.isAttempt)
    = Host.interrupted path tries ++ Option.toList last
  opened : ∀ event ∈ events, ∀ n, event.device? = some n → .opened n path ∈ events
  created : events.countP (·.isCreation) ≤ 1
  destroyed : events.countP (·.isDestruction) = events.countP (·.isCreated)
  closed : events.countP (·.isClosing) = events.countP (·.isOpening)
  written : ∀ before n bytes outcome after, events = before ++ .written n bytes outcome :: after →
    .requested n .createDevice none ∈ before
      ∧ (∃ failure, .requested n .destroyDevice failure ∈ after)
      ∧ ∀ failure, .requested n .destroyDevice failure ∉ before
  last : ∀ before n after, events = before ++ .closed n :: after → after = []

/-! ## Courses -/

/-- A request that makes no device and destroys none. -/
def Request.Declares (request : Request) : Prop :=
  request ≠ .createDevice ∧ request ≠ .destroyDevice

/-- Opening a node, with requests that succeeded. -/
def opening (path : String) (tries n : Nat) (requests : List Request) : List KernelEvent :=
  Host.interrupted path tries ++ .opened n path :: Host.granted n requests

/-- The calls so far for the sink of a path that has a device of the host or not. -/
inductive Life (path : String) : Option Nat → List KernelEvent → Prop where
  | unopened : Life path none []
  | refused (tries : Nat) (code : Int) :
      Life path none (Host.interrupted path tries ++ [.openFailed path code])
  /-- A request failed while the device was made. -/
  | abandoned (tries n : Nat) {requests : List Request} (request : Request) (code : Int)
      (hdeclares : ∀ r ∈ requests, r.Declares) (hnot : request ≠ .destroyDevice) :
      Life path none (opening path tries n requests
        ++ [.requested n request (some code), .closed n])
  | living (tries n : Nat) {requests : List Request} {writes : List KernelEvent}
      (hdeclares : ∀ r ∈ requests, r.Declares) (hwrites : ∀ event ∈ writes, event.WritesTo n) :
      Life path (some n) (opening path tries n requests
        ++ .requested n .createDevice none :: writes)
  | ended (tries n : Nat) {requests : List Request} {writes : List KernelEvent}
      (failure : Option Int)
      (hdeclares : ∀ r ∈ requests, r.Declares) (hwrites : ∀ event ∈ writes, event.WritesTo n) :
      Life path none (opening path tries n requests
        ++ .requested n .createDevice none
          :: (writes ++ [.requested n .destroyDevice failure, .closed n]))

namespace Life

variable {path : String}

/-- A living device is closed. -/
theorem close {n : Nat} {events : List KernelEvent} (h : Life path (some n) events)
    (failure : Option Int) :
    Life path none (events ++ [.requested n .destroyDevice failure, .closed n]) := by
  cases h with
  | living tries _ hdeclares hwrites =>
    rw [List.append_assoc, List.cons_append]
    exact .ended tries n failure hdeclares hwrites

/-- A living device is written to. -/
theorem write {n : Nat} {events writes : List KernelEvent} (h : Life path (some n) events)
    (hwrites : ∀ event ∈ writes, event.WritesTo n) : Life path (some n) (events ++ writes) := by
  cases h with
  | living tries _ hdeclares hbefore =>
    rw [List.append_assoc, List.cons_append]
    refine .living tries n hdeclares fun event hmem => ?_
    rcases List.mem_append.mp hmem with hmem | hmem
    · exact hbefore event hmem
    · exact hwrites event hmem

end Life

/-! ## Courses are lifecycles -/

/-- Opening a node takes three kinds of calls. -/
theorem mem_opening {path : String} {tries n : Nat} {requests : List Request}
    {event : KernelEvent} (h : event ∈ opening path tries n requests) :
    event = .openFailed path Errno.interrupted ∨ event = .opened n path
      ∨ ∃ r ∈ requests, event = .requested n r none := by
  rcases List.mem_append.mp h with h | h
  · exact Or.inl (List.eq_of_mem_replicate h)
  · rcases List.mem_cons.mp h with h | h
    · exact Or.inr (Or.inl h)
    · obtain ⟨r, hr, rfl⟩ := List.mem_map.mp h
      exact Or.inr (Or.inr ⟨r, hr, rfl⟩)

/-- Opening a node writes nothing. -/
theorem not_write_of_mem_opening {path : String} {tries n : Nat} {requests : List Request}
    {event : KernelEvent} (h : event ∈ opening path tries n requests) : event.isWrite = false := by
  rcases mem_opening h with rfl | rfl | ⟨r, -, rfl⟩ <;> rfl

theorem Request.Declares.phase {request : Request} (h : request.Declares) (n : Nat)
    (failure : Option Int) : (KernelEvent.requested n request failure).phase = 2 := by
  cases request with
  | createDevice => exact absurd rfl h.1
  | destroyDevice => exact absurd rfl h.2
  | _ => rfl

/-- Nothing in an opening comes later than a declaration. -/
theorem phase_le_of_mem_opening {path : String} {tries n : Nat} {requests : List Request}
    (hdeclares : ∀ r ∈ requests, r.Declares) {event : KernelEvent}
    (h : event ∈ opening path tries n requests) : event.phase ≤ 2 := by
  rcases mem_opening h with rfl | rfl | ⟨r, hr, rfl⟩
  · exact Nat.zero_le 2
  · exact Nat.le_succ 1
  · exact Nat.le_of_eq ((hdeclares r hr).phase n none)

/-- No call up to the declarations makes, destroys or closes a device. -/
theorem KernelEvent.none_of_phase_le {event : KernelEvent} (h : event.phase ≤ 2) :
    event.isCreation = false ∧ event.isCreated = false ∧ event.isDestruction = false
      ∧ event.isClosing = false := by
  cases event with
  | opened | openFailed => exact ⟨rfl, rfl, rfl, rfl⟩
  | written => exact absurd h (by decide : ¬ 4 ≤ 2)
  | closed => exact absurd h (by decide : ¬ 6 ≤ 2)
  | requested n request failure =>
    cases request with
    | createDevice => exact absurd h (by decide : ¬ 3 ≤ 2)
    | destroyDevice => exact absurd h (by decide : ¬ 5 ≤ 2)
    | _ => exact ⟨rfl, rfl, rfl, rfl⟩

theorem pairwise_opening {path : String} {tries n : Nat} {requests : List Request}
    (hdeclares : ∀ r ∈ requests, r.Declares) :
    (opening path tries n requests).Pairwise KernelEvent.Before := by
  have hgranted : ∀ event ∈ Host.granted n requests, event.phase = 2 := by
    intro event hmem
    obtain ⟨r, hr, rfl⟩ := List.mem_map.mp hmem
    exact (hdeclares r hr).phase n none
  refine List.pairwise_append.mpr ⟨?_, List.pairwise_cons.mpr ⟨?_, ?_⟩, ?_⟩
  · exact List.pairwise_replicate.mpr (Or.inr ⟨Nat.le_refl _, (by decide : 0 < 6)⟩)
  · intro event hmem
    exact ⟨hgranted event hmem ▸ (by decide : 1 ≤ 2), (by decide : 1 < 6)⟩
  · refine List.pairwise_of_forall_mem_list fun a ha b hb => ?_
    rw [KernelEvent.Before, hgranted a ha, hgranted b hb]
    decide
  · intro a ha b _
    rw [List.eq_of_mem_replicate ha]
    exact ⟨Nat.zero_le _, (by decide : 0 < 6)⟩

/-- **After an opening** the rest of a life has to be in order, to destroy what it makes, to close
the device, and to write only to what it makes. -/
theorem lifecycle_of_opening {path : String} {tries n : Nat} {requests : List Request}
    {rest : List KernelEvent} (hdeclares : ∀ r ∈ requests, r.Declares)
    (hdevice : ∀ event ∈ rest, event.device? = some n ∧ event.isAttempt = false)
    (hphase : ∀ event ∈ rest, 2 ≤ event.phase) (horder : rest.Pairwise KernelEvent.Before)
    (hcreated : rest.countP (·.isCreation) ≤ 1)
    (hdestroyed : rest.countP (·.isDestruction) = rest.countP (·.isCreated))
    (hclosed : rest.countP (·.isClosing) = 1)
    (hwritten : ∀ bytes outcome, .written n bytes outcome ∈ rest →
      .requested n .createDevice none ∈ rest ∧ ∃ failure, .requested n .destroyDevice failure ∈ rest) :
    Lifecycle path (opening path tries n requests ++ rest) := by
  have hopened : KernelEvent.opened n path ∈ opening path tries n requests := by simp [opening]
  -- What an opening has none of is counted in the rest.
  have hnothing : ∀ p : KernelEvent → Bool,
      (∀ event : KernelEvent, event.phase ≤ 2 → p event = false) →
      (opening path tries n requests ++ rest).countP p = rest.countP p := by
    intro p hp
    rw [List.countP_append, List.countP_eq_zero.mpr, Nat.zero_add]
    intro event hmem
    simp [hp event (phase_le_of_mem_opening hdeclares hmem)]
  have hsorted : (opening path tries n requests ++ rest).Pairwise KernelEvent.Before := by
    refine List.pairwise_append.mpr ⟨pairwise_opening hdeclares, horder, ?_⟩
    intro a ha b hb
    have hle := phase_le_of_mem_opening hdeclares ha
    exact ⟨Nat.le_trans hle (hphase b hb), by omega⟩
  have hopening : (opening path tries n requests ++ rest).countP (·.isOpening) = 1 := by
    have hgranted : (Host.granted n requests).countP (·.isOpening) = 0 := by
      simp [List.countP_eq_zero, Host.granted, KernelEvent.isOpening]
    have hrest : rest.countP (·.isOpening) = 0 := by
      refine List.countP_eq_zero.mpr fun event hmem => ?_
      have hattempt := (hdevice event hmem).2
      cases event <;> simp_all [KernelEvent.isOpening, KernelEvent.isAttempt]
    rw [List.countP_append, opening, List.countP_append, List.countP_cons, hgranted, hrest]
    simp [Host.interrupted, List.countP_replicate, KernelEvent.isOpening]
  constructor
  case attempts =>
    refine ⟨tries, some (.opened n path), ?_⟩
    have hrest : rest.filter (·.isAttempt) = [] :=
      List.filter_eq_nil_iff.mpr fun event hmem => by simp [(hdevice event hmem).2]
    have hgranted : (Host.granted n requests).filter (·.isAttempt) = [] := by
      simp [List.filter_eq_nil_iff, Host.granted, KernelEvent.isAttempt]
    rw [List.filter_append, hrest, opening, List.filter_append, List.filter_cons, hgranted]
    simp [Host.interrupted, KernelEvent.isAttempt]
  case opened =>
    intro event hmem m hm
    suffices hn : m = n by rw [hn]; exact List.mem_append_left _ hopened
    rcases List.mem_append.mp hmem with hmem | hmem
    · rcases mem_opening hmem with rfl | rfl | ⟨r, -, rfl⟩
      · cases hm
      · exact (Option.some.inj hm).symm
      · exact (Option.some.inj hm).symm
    · exact Option.some.inj (hm.symm.trans (hdevice event hmem).1)
  case created =>
    rw [hnothing _ fun event h => (KernelEvent.none_of_phase_le h).1]
    exact hcreated
  case destroyed =>
    rw [hnothing _ fun event h => (KernelEvent.none_of_phase_le h).2.2.1,
      hnothing _ fun event h => (KernelEvent.none_of_phase_le h).2.1]
    exact hdestroyed
  case closed =>
    rw [hnothing _ fun event h => (KernelEvent.none_of_phase_le h).2.2.2, hclosed, hopening]
  case written =>
    intro before m bytes outcome after heq
    -- The order of the calls says on which side of the write the making and the destroying are.
    rw [heq] at hsorted
    obtain ⟨-, hafter, hbefore⟩ := List.pairwise_append.mp hsorted
    have hmem : KernelEvent.written m bytes outcome ∈ rest := by
      have hall : KernelEvent.written m bytes outcome ∈ opening path tries n requests ++ rest := by
        rw [heq]
        simp
      refine (List.mem_append.mp hall).resolve_left fun hin => ?_
      exact absurd (phase_le_of_mem_opening hdeclares hin) (by decide : ¬ 4 ≤ 2)
    obtain rfl : m = n := Option.some.inj (hdevice _ hmem).1
    obtain ⟨hmake, failure, hdestroy⟩ := hwritten bytes outcome hmem
    -- Of two calls of different phases the later one does not come before the other.
    have hplace : ∀ event ∈ rest,
        event ∈ before ∨ event = .written m bytes outcome ∨ event ∈ after := by
      intro event hin
      have hall := List.mem_append_right (opening path tries m requests) hin
      rw [heq] at hall
      simpa using hall
    have hnot : ∀ failure, KernelEvent.requested m .destroyDevice failure ∉ before := by
      intro failure hin
      exact absurd (hbefore _ hin _ List.mem_cons_self).1 (by decide : ¬ 5 ≤ 4)
    refine ⟨?_, ⟨failure, ?_⟩, hnot⟩
    · rcases hplace _ hmake with hin | hin | hin
      · exact hin
      · cases hin
      · exact absurd ((List.pairwise_cons.mp hafter).1 _ hin).1 (by decide : ¬ 4 ≤ 3)
    · rcases hplace _ hdestroy with hin | hin | hin
      · exact absurd hin (hnot failure)
      · cases hin
      · exact hin
  case last =>
    intro before m after heq
    -- Nothing has its place after the closing.
    rw [heq] at hsorted
    obtain ⟨-, hafter, -⟩ := List.pairwise_append.mp hsorted
    refine List.eq_nil_iff_forall_not_mem.mpr fun event hin => ?_
    exact absurd ((List.pairwise_cons.mp hafter).1 event hin).2 (by decide : ¬ 6 < 6)

/-- A sink that opened nothing had no life to end. -/
theorem lifecycle_of_attempts {path : String} {events : List KernelEvent} (tries : Nat)
    (last : Option KernelEvent) (hevents : events = Host.interrupted path tries ++ last.toList)
    (hfailed : ∀ event ∈ events, ∃ code, event = .openFailed path code) :
    Lifecycle path events := by
  have hnone : ∀ p : KernelEvent → Bool, (∀ code, p (.openFailed path code) = false) →
      events.countP p = 0 := by
    intro p hp
    refine List.countP_eq_zero.mpr fun event hmem => ?_
    obtain ⟨code, rfl⟩ := hfailed event hmem
    simp [hp code]
  constructor
  case attempts =>
    refine ⟨tries, last, ?_⟩
    rw [← hevents]
    refine List.filter_eq_self.mpr fun event hmem => ?_
    obtain ⟨code, rfl⟩ := hfailed event hmem
    rfl
  case opened =>
    intro event hmem n hn
    obtain ⟨code, rfl⟩ := hfailed event hmem
    cases hn
  case created => rw [hnone _ fun _ => rfl]; exact Nat.zero_le 1
  case destroyed => rw [hnone _ fun _ => rfl, hnone _ fun _ => rfl]
  case closed => rw [hnone _ fun _ => rfl, hnone _ fun _ => rfl]
  case written =>
    intro before n bytes outcome after heq
    obtain ⟨code, h⟩ := hfailed (.written n bytes outcome) (by rw [heq]; simp)
    cases h
  case last =>
    intro before n after heq
    obtain ⟨code, h⟩ := hfailed (.closed n) (by rw [heq]; simp)
    cases h

/-- **Every course without a device in the end is a lifecycle.** -/
theorem Life.lifecycle {path : String} {events : List KernelEvent} (h : Life path none events) :
    Lifecycle path events := by
  cases h with
  | unopened => exact lifecycle_of_attempts 0 none rfl (by simp)
  | refused tries code =>
    refine lifecycle_of_attempts tries (some _) rfl fun event hmem => ?_
    rcases List.mem_append.mp hmem with hmem | hmem
    · exact ⟨_, List.eq_of_mem_replicate hmem⟩
    · exact ⟨code, List.mem_singleton.mp hmem⟩
  | abandoned tries n request code hdeclares hnot =>
    have hphase : 2 ≤ (KernelEvent.requested n request (some code)).phase
        ∧ (KernelEvent.requested n request (some code)).phase < 6 := by
      cases request <;> simp [KernelEvent.phase]
    have hdestruction : (KernelEvent.requested n request (some code)).isDestruction = false := by
      cases request <;> simp_all [KernelEvent.isDestruction]
    refine lifecycle_of_opening hdeclares ?_ ?_ ?_ ?_ ?_ ?_ ?_
    · simp [KernelEvent.device?, KernelEvent.isAttempt]
    · intro event hmem
      simp only [List.mem_cons, List.not_mem_nil, or_false] at hmem
      rcases hmem with rfl | rfl
      · exact hphase.1
      · exact (by decide : 2 ≤ 6)
    · refine List.pairwise_cons.mpr ⟨fun event hmem => ?_, List.pairwise_singleton _ _⟩
      rw [List.mem_singleton.mp hmem]
      exact ⟨Nat.le_of_lt hphase.2, hphase.2⟩
    · have hclosed : [KernelEvent.closed n].countP (·.isCreation) = 0 := rfl
      rw [List.countP_cons, hclosed]
      split <;> decide
    · have hcreated : (KernelEvent.requested n request (some code)).isCreated = false := by
        cases request <;> rfl
      have hnone : ∀ p : KernelEvent → Bool, p (.requested n request (some code)) = false →
          p (.closed n) = false →
          [.requested n request (some code), .closed n].countP p = 0 := by
        intro p hfirst hlast
        simp [hfirst, hlast]
      rw [hnone _ hdestruction rfl, hnone _ hcreated rfl]
    · simp [KernelEvent.isClosing]
    · simp
  | @ended tries n _ writes failure hdeclares hwrites =>
    have hwrite : ∀ p : KernelEvent → Bool, (∀ n bytes outcome, p (.written n bytes outcome) = false) →
        writes.countP p = 0 := by
      intro p hp
      refine List.countP_eq_zero.mpr fun event hmem => ?_
      obtain ⟨bytes, outcome, rfl⟩ := hwrites event hmem
      simp [hp n bytes outcome]
    have hrest : ∀ event ∈ KernelEvent.requested n .createDevice none
          :: (writes ++ [.requested n .destroyDevice failure, .closed n]),
        event = .requested n .createDevice none ∨ event.WritesTo n
          ∨ event = .requested n .destroyDevice failure ∨ event = .closed n := by
      intro event hmem
      simp only [List.mem_cons, List.mem_append, List.not_mem_nil, or_false] at hmem
      rcases hmem with h | h | h | h
      · exact Or.inl h
      · exact Or.inr (Or.inl (hwrites event h))
      · exact Or.inr (Or.inr (Or.inl h))
      · exact Or.inr (Or.inr (Or.inr h))
    have hphase : ∀ event ∈ writes, event.phase = 4 := by
      intro event hmem
      obtain ⟨bytes, outcome, rfl⟩ := hwrites event hmem
      rfl
    refine lifecycle_of_opening hdeclares ?_ ?_ ?_ ?_ ?_ ?_ ?_
    · intro event hmem
      rcases hrest event hmem with rfl | ⟨bytes, outcome, rfl⟩ | rfl | rfl <;> exact ⟨rfl, rfl⟩
    · intro event hmem
      rcases hrest event hmem with rfl | ⟨bytes, outcome, rfl⟩ | rfl | rfl <;>
        simp [KernelEvent.phase]
    · refine List.pairwise_cons.mpr ⟨?_, List.pairwise_append.mpr ⟨?_, ?_, ?_⟩⟩
      · intro event hmem
        rcases hrest event (List.mem_cons_of_mem _ hmem) with rfl | ⟨bytes, outcome, rfl⟩ | rfl | rfl
          <;> simp [KernelEvent.Before, KernelEvent.phase]
      · refine List.pairwise_of_forall_mem_list fun a ha b hb => ?_
        rw [KernelEvent.Before, hphase a ha, hphase b hb]
        decide
      · simp [KernelEvent.Before, KernelEvent.phase]
      · intro a ha b hb
        rw [KernelEvent.Before, hphase a ha]
        simp only [List.mem_cons, List.not_mem_nil, or_false] at hb
        rcases hb with rfl | rfl <;> simp [KernelEvent.phase]
    · simp [hwrite, KernelEvent.isCreation]
    · simp [hwrite, KernelEvent.isDestruction, KernelEvent.isCreated]
    · simp [hwrite, KernelEvent.isClosing]
    · intro bytes outcome _
      exact ⟨List.mem_cons_self, failure, by simp⟩

end VirtualTouchpad
