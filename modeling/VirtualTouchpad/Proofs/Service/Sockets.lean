/-
# Sockets in one directory

Two sockets of different names in one directory are served independently exactly if
their names differ before their last dots (`independent_iff_stem_ne`): the lock file of a
socket has the name of the socket up to its last dot.

What claims and their ends preserve is that nobody but the claims on record holds a
lock.  So whether a lock file is held is a matter of the sockets that are served
(`isHeld_iff_serves`).
-/
import VirtualTouchpad.Proofs.Host.Names
import VirtualTouchpad.Proofs.Service.Claims
import VirtualTouchpad.Service.Server

namespace VirtualTouchpad.Service

open Files (Leads TakesFile)

/-- Whether a socket can be claimed. -/
def IsClaimable (files : Files) (socket : String) : Prop :=
  ∃ pid taken claim, Claim.take files socket pid = (taken, .ok claim)

/-- A claim on one of two sockets, or the end of a claim. -/
def LockEvent.IsAbout (first second : String) : LockEvent → Prop
  | .claim socket _ => socket = first ∨ socket = second
  | .drop _ => True
  | .lock _ | .unlock _ | .write .. => False

/-- Whether a claim on a socket is not dropped yet. -/
def LockState.Serves (state : LockState) (socket : String) : Prop :=
  ∃ claim ∈ state.claims, claim.socket = socket

/-- After any claims on two sockets and ends of claims, what becomes of the next claim on one of
them depends on nothing but whether this very socket is served. -/
structure Independent (files : Files) (first second : String) : Prop where
  succeeds : ∀ events : List LockEvent, (∀ event ∈ events, event.IsAbout first second) →
    ∀ socket, socket = first ∨ socket = second →
      ¬ ((LockState.start files).run events).Serves socket →
      ∀ pid, ∃ claim, (Claim.take ((LockState.start files).run events).files socket pid).2 = .ok claim
  refused : ∀ events : List LockEvent, (∀ event ∈ events, event.IsAbout first second) →
    ∀ socket, socket = first ∨ socket = second →
      ((LockState.start files).run events).Serves socket →
      ∀ pid, ∃ owner, (Claim.take ((LockState.start files).run events).files socket pid).2
        = .error (.taken socket owner)

variable {files : Files} {first second socket : String} {location : Location} {state : LockState}

/-! ## Lock files of sockets that can be claimed -/

theorem IsClaimable.exists_leads (h : IsClaimable files socket) (hfiles : files.Unlocked) :
    ∃ location, Leads files (Path.lockFile socket) location ∧ files.TakesFile location := by
  obtain ⟨pid, taken, claim, htake⟩ := h
  obtain ⟨opened, hopen, -⟩ := (LockState.sound_start hfiles).of_take htake
  have hopened := Files.opened_of_openForLock hopen
  exact ⟨_, hopened.leads, hopened.fits.resolve_right fun hdevice =>
    hopened.leads.ne_null (hfiles.devices _ hdevice)⟩

/-! ## What claims and their ends preserve -/

namespace LockState

/-- Nobody but claims on two sockets is on record. -/
structure IsFor (first second : String) (state : LockState) : Prop where
  others : state.others = []
  claims : ∀ claim ∈ state.claims, claim.socket = first ∨ claim.socket = second

theorem IsFor.act {event : LockEvent} (h : IsFor first second state) (hsound : Sound state)
    (habout : event.IsAbout first second) : IsFor first second (state.act event) := by
  cases event with
  | claim socket pid =>
    cases htake : Claim.take state.files socket pid with
    | mk files result =>
      simp only [LockState.act, htake]
      cases result with
      | error => exact ⟨h.others, h.claims⟩
      | ok claim =>
        obtain ⟨_, -, -, hsocket, -⟩ := hsound.of_take htake
        exact ⟨h.others, List.forall_mem_cons.2 ⟨hsocket ▸ habout, h.claims⟩⟩
  | drop claim =>
    rw [LockState.act]
    split
    · exact ⟨h.others, fun other hmem => h.claims other (List.mem_of_mem_erase hmem)⟩
    · exact h
  | lock | unlock | write => exact habout.elim

theorem IsFor.run {events : List LockEvent} (h : IsFor first second state) (hsound : Sound state)
    (habout : ∀ event ∈ events, event.IsAbout first second) :
    IsFor first second (state.run events) := by
  induction events generalizing state with
  | nil => exact h
  | cons event events ih =>
    obtain ⟨hevent, hevents⟩ := List.forall_mem_cons.1 habout
    exact ih (h.act hsound hevent) (hsound.act event).2 hevents

/-- Of two sockets with different lock files, one has its lock file held exactly if it is served
itself. -/
theorem IsFor.isHeld_iff_serves (h : IsFor first second state) (hsound : Sound state)
    (hleads : Leads state.files (Path.lockFile first) location)
    (hother : ¬ Leads state.files (Path.lockFile second) location) :
    state.IsHeld location ↔ state.Serves first := by
  constructor
  · rintro ⟨opening, hmem, rfl⟩
    rw [openings, h.others, List.append_nil] at hmem
    obtain ⟨claim, hclaim, rfl⟩ := List.mem_map.1 hmem
    refine ⟨claim, hclaim, (h.claims claim hclaim).resolve_right fun hsecond => hother ?_⟩
    exact hsecond ▸ hsound.leads claim hclaim
  · rintro ⟨claim, hmem, rfl⟩
    exact ⟨claim.opening, List.mem_append_left _ (List.mem_map_of_mem hmem),
      (hsound.leads claim hmem).unique hleads⟩

end LockState

/-! ## Independence -/

section Independence

variable {events : List LockEvent} {other directory : Location} {m n : String}

/-- Of two sockets with different lock files, one can be claimed exactly if it is not served. -/
theorem take_run (hfiles : files.Unlocked)
    (habout : ∀ event ∈ events, event.IsAbout first second)
    (hfirst : Leads files (Path.lockFile first) location) (htakes : files.TakesFile location)
    (hsecond : Leads files (Path.lockFile second) other) (hne : location ≠ other) (pid : Nat) :
    (¬ ((LockState.start files).run events).Serves first →
      ∃ claim, (Claim.take ((LockState.start files).run events).files first pid).2 = .ok claim) ∧
    (((LockState.start files).run events).Serves first →
      ∃ owner, (Claim.take ((LockState.start files).run events).files first pid).2
        = .error (.taken first owner)) := by
  have hsound := LockState.sound_start hfiles
  obtain ⟨hgrows, hrun⟩ := hsound.run events
  have hfor : LockState.IsFor first second ((LockState.start files).run events) :=
    LockState.IsFor.run ⟨rfl, fun _ hmem => absurd hmem List.not_mem_nil⟩ hsound habout
  have hleads := hfirst.of_grows hgrows
  have hheld := hfor.isHeld_iff_serves hrun hleads fun h =>
    hne (h.unique (hsecond.of_grows hgrows))
  constructor
  · intro hfree
    obtain ⟨taken, claim, htake, -⟩ :=
      hrun.exists_take pid hleads (hgrows.takesFile htakes) (hheld.not.2 hfree)
    exact ⟨claim, by rw [htake]⟩
  · intro hserved
    obtain ⟨opened, hopen⟩ := Files.exists_openForLock hleads (hgrows.takesFile htakes)
    obtain ⟨content, holder, -, htake⟩ := hrun.take_of_held pid hopen (hheld.2 hserved)
    exact ⟨_, by rw [htake]⟩

theorem independent_of_ne (hfiles : files.Unlocked)
    (hfirst : Leads files (Path.lockFile first) location) (htakes : files.TakesFile location)
    (hsecond : Leads files (Path.lockFile second) other) (htakes' : files.TakesFile other)
    (hne : location ≠ other) : Independent files first second := by
  have hswap {event : LockEvent} (h : event.IsAbout first second) :
      event.IsAbout second first := by
    cases event with
    | claim => exact Or.symm h
    | drop | lock | unlock | write => exact h
  constructor <;> intro events habout socket hsocket hserves pid <;>
    rcases hsocket with rfl | rfl
  · exact (take_run hfiles habout hfirst htakes hsecond hne pid).1 hserves
  · exact (take_run hfiles (fun event hmem => hswap (habout event hmem)) hsecond htakes' hfirst
      hne.symm pid).1 hserves
  · exact (take_run hfiles habout hfirst htakes hsecond hne pid).2 hserves
  · exact (take_run hfiles (fun event hmem => hswap (habout event hmem)) hsecond htakes' hfirst
      hne.symm pid).2 hserves

/-- A claim on one of two sockets that have one lock file keeps the other from being claimed. -/
theorem not_independent_of_eq (hfiles : files.Unlocked)
    (hfirst : Leads files (Path.lockFile first) location) (htakes : files.TakesFile location)
    (hsecond : Leads files (Path.lockFile second) location) (hne : first ≠ second) :
    ¬ Independent files first second := by
  intro h
  have hsound := LockState.sound_start hfiles
  obtain ⟨taken, claim, htake, hlocation⟩ := hsound.exists_take 0 hfirst htakes (by
    rintro ⟨_, hmem, -⟩
    exact List.not_mem_nil hmem)
  have hrun : (LockState.start files).run [.claim first 0] = ⟨taken, [claim], []⟩ := by
    simp only [LockState.run, List.foldl_cons, List.foldl_nil, LockState.act, htake]
    rfl
  obtain ⟨hgrows, hlater⟩ := hsound.run [.claim first 0]
  obtain ⟨_, -, -, hsocket, -⟩ := hsound.of_take htake
  obtain ⟨next, hnext⟩ := h.succeeds [.claim first 0] (by simp [LockEvent.IsAbout]) second
    (.inr rfl) (by simpa [hrun, LockState.Serves, hsocket] using hne) 0
  obtain ⟨opened, hopen⟩ := Files.exists_openForLock (hsecond.of_grows hgrows)
    (hgrows.takesFile htakes)
  have hheld : ((LockState.start files).run [.claim first 0]).IsHeld location := by
    rw [hrun]
    exact ⟨claim.opening, List.mem_cons_self, hlocation⟩
  obtain ⟨_, _, -, hrefused⟩ := hlater.take_of_held 0 hopen hheld
  rw [hrefused] at hnext
  cases hnext

/-- **Sockets of different names in a directory are independent** exactly if their names differ
before their last dots. -/
theorem independent_iff_stem_ne (hfiles : files.Unlocked)
    (hfirst : IsClaimable files first) (hsecond : IsClaimable files second)
    (hm : Leads files first (directory ++ [m])) (hn : Leads files second (directory ++ [n]))
    (hne : m ≠ n) :
    Independent files first second ↔ Path.stem m.toList ≠ Path.stem n.toList := by
  obtain ⟨location, hlock, htakes⟩ := hfirst.exists_leads hfiles
  obtain ⟨other, hlock', htakes'⟩ := hsecond.exists_leads hfiles
  have hlocations : location = other ↔ Path.stem m.toList = Path.stem n.toList := by
    rw [hm.lock_eq hlock, hn.lock_eq hlock', List.append_cancel_left_eq]
    simp [Path.lockName, String.ofList_inj]
  have hsockets : first ≠ second := by
    rintro rfl
    simpa [hne] using hm.unique hn
  constructor
  · intro h hstem
    obtain rfl := hlocations.2 hstem
    exact not_independent_of_eq hfiles hlock htakes hlock' hsockets h
  · intro hstem
    exact independent_of_ne hfiles hlock htakes hlock' htakes' (hlocations.not.2 hstem)

end Independence

/-! ### Two sockets in the working directory -/

theorem independent_iff_stem_ne_dots :
    Files.empty.Unlocked ∧ IsClaimable .empty "run.1.sock" ∧ IsClaimable .empty "./run.2.sock" ∧
      Leads .empty "run.1.sock" (Files.workingDirectory ++ ["run.1.sock"]) ∧
      Leads .empty "./run.2.sock" (Files.workingDirectory ++ ["run.2.sock"]) ∧
      Independent .empty "run.1.sock" "./run.2.sock" := by
  have hfirst : IsClaimable .empty "run.1.sock" := ⟨7, _, _, rfl⟩
  have hsecond : IsClaimable .empty "./run.2.sock" := ⟨7, _, _, rfl⟩
  have hm : Leads .empty "run.1.sock" (Files.workingDirectory ++ ["run.1.sock"]) :=
    ⟨by decide, by decide, by decide, .last (by decide) (by decide) (by decide)⟩
  have hn : Leads .empty "./run.2.sock" (Files.workingDirectory ++ ["run.2.sock"]) :=
    ⟨by decide, by decide, by decide,
      .stay (.inr rfl) (.last (by decide) (by decide) (by decide))⟩
  exact ⟨Files.unlocked_empty, hfirst, hsecond, hm, hn,
    (independent_iff_stem_ne Files.unlocked_empty hfirst hsecond hm hn (by decide)).2 (by decide)⟩

/-- Two sockets that can be claimed and bound, neither the other's lock file: one cannot be claimed
while the other is served. -/
theorem not_independent_same_stem :
    Files.empty.Unlocked ∧ IsClaimable .empty "a.sock" ∧ IsClaimable .empty "a.ctl" ∧
      ((Files.empty.remove "a.sock").bind "a.sock" socketMode).isOk ∧
      ((Files.empty.remove "a.ctl").bind "a.ctl" socketMode).isOk ∧
      Path.lockFile "a.sock" ≠ "a.ctl" ∧ Path.lockFile "a.ctl" ≠ "a.sock" ∧
      ¬ Independent .empty "a.sock" "a.ctl" := by
  refine ⟨Files.unlocked_empty, ⟨7, _, _, rfl⟩, ⟨7, _, _, rfl⟩, by decide +kernel,
    by decide +kernel, by decide +kernel, by decide +kernel, fun h => ?_⟩
  have hserves : ¬ ((LockState.start .empty).run [.claim "a.sock" 7]).Serves "a.ctl" := by
    have hclaims : ((LockState.start .empty).run [.claim "a.sock" 7]).claims
        = [⟨"a.sock", 0, ["work", "a.lock"]⟩] := by decide +kernel
    simp [LockState.Serves, hclaims]
  obtain ⟨claim, hclaim⟩ :=
    h.succeeds [.claim "a.sock" 7] (by simp [LockEvent.IsAbout]) "a.ctl" (.inr rfl) hserves 7
  have hrefused : (Claim.take ((LockState.start .empty).run [.claim "a.sock" 7]).files "a.ctl" 7).2
      = .error (.taken "a.ctl" "7") := by decide +kernel
  rw [hrefused] at hclaim
  cases hclaim

end VirtualTouchpad.Service
