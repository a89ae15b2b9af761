/-
# Lock files among processes

Services claim sockets and drop their claims; other processes lock lock files, give
the locks up and write to the files; nobody removes a lock file.  Whatever they do
in whatever order (`locks_in_order`), a lock file has one holder at most, a claim succeeds
exactly if its lock file can be opened and nobody holds it, and its end leaves the
file free.

What carries this from one event to the next is `Sound`: those who are on record as
holders are exactly those who hold locks, and the path of each claim still leads to
the file that it holds.
-/
import Mathlib.Data.List.TakeWhile
import VirtualTouchpad.Proofs.Host.Locks
import VirtualTouchpad.Service.Claim

namespace VirtualTouchpad

/-- Nobody holds a lock, and no device is where a lock file could be. -/
structure Files.Unlocked (files : Files) : Prop where
  free : ∀ location content holder,
    files.get? location = some (.file content holder) → holder = none
  devices : ∀ location, files.get? location = some .nullDevice → location = ["dev", "null"]

theorem Files.unlocked_empty : Files.empty.Unlocked where
  free := by
    intro location content holder h
    obtain ⟨entry, hfound, heq⟩ := Option.map_eq_some_iff.1 h
    have hmem := List.mem_of_find?_eq_some hfound
    simp only [empty, List.mem_cons, List.not_mem_nil, or_false] at hmem
    rcases hmem with rfl | rfl | rfl | rfl | rfl <;> cases heq
  devices := by
    intro location h
    obtain ⟨entry, hfound, heq⟩ := Option.map_eq_some_iff.1 h
    have hmem := List.mem_of_find?_eq_some hfound
    have hlocation := List.find?_some hfound
    simp only [empty, List.mem_cons, List.not_mem_nil, or_false] at hmem
    rcases hmem with rfl | rfl | rfl | rfl | rfl <;> try cases heq
    exact (beq_iff_eq.1 hlocation).symm

namespace Service

open Files (Opening Leads Grows Kept)

/-! ## What happens to lock files -/

/-- What processes do with lock files. -/
inductive LockEvent where
  /-- A process claims a socket. -/
  | claim (socket : String) (pid : Nat)
  | drop (claim : Claim)
  /-- Another process locks a file, if nobody holds it. -/
  | lock (path : String)
  | unlock (opening : Opening)
  | write (path : String) (content : List UInt8)
  deriving DecidableEq, Repr

/-- The files, the claims that are not dropped, and what other processes hold. -/
structure LockState where
  files : Files
  claims : List Claim
  others : List Opening

namespace LockState

/-- Nobody has claimed anything. -/
def start (files : Files) : LockState := ⟨files, [], []⟩

/-- All openings that hold locks. -/
def openings (state : LockState) : List Opening := state.claims.map Claim.opening ++ state.others

/-- Whether somebody holds the file at a location. -/
def IsHeld (state : LockState) (location : Location) : Prop :=
  ∃ opening ∈ state.openings, opening.location = location

/-- One event. -/
def act (state : LockState) : LockEvent → LockState
  | .claim socket pid =>
    match Claim.take state.files socket pid with
    | (files, .ok claim) => { state with files := files, claims := claim :: state.claims }
    | (files, .error _) => { state with files := files }
  | .drop claim =>
    if claim ∈ state.claims then
      { state with files := claim.release state.files, claims := state.claims.erase claim }
    else state
  | .lock path =>
    match state.files.openForLock path with
    | .error _ => state
    | .ok (files, opening) =>
      match files.tryLock opening with
      | none => { state with files := files }
      | some files => { state with files := files, others := opening :: state.others }
  | .unlock opening =>
    if opening ∈ state.others then
      { state with files := state.files.close opening, others := state.others.erase opening }
    else state
  | .write path content => { state with files := state.files.write path content }

/-- Events one after another. -/
def run (state : LockState) (events : List LockEvent) : LockState := events.foldl act state

end LockState

/-! ## One claim -/

namespace Claim

variable {files opened : Files} {socket : String} {opening : Opening} {content : List UInt8}

theorem take_unopened {cause : IoError} (pid : Nat)
    (h : files.openForLock (Path.lockFile socket) = .error cause) :
    take files socket pid = (files, .error (.unopened (Path.lockFile socket) cause)) := by
  unfold take
  simp only [h]

theorem take_held {holder : Nat} (pid : Nat)
    (hopen : files.openForLock (Path.lockFile socket) = .ok (opened, opening))
    (hheld : files.get? opening.location = some (.file content (some holder))) :
    take files socket pid = (opened, .error (.taken socket (owner content))) := by
  have hopened := (Files.opened_of_openForLock hopen).get?_of_some hheld
  unfold take
  simp only [hopen, Files.tryLock_held hopened, Files.content, hopened]

theorem take_free (pid : Nat)
    (hopen : files.openForLock (Path.lockFile socket) = .ok (opened, opening))
    (hfree : opened.get? opening.location = some (.file content none)) :
    take files socket pid = (opened.put opening.location
      (.file (record pid) (some opening.number)), .ok ⟨socket, opening⟩) := by
  have hlocked := Files.get?_put_self opened opening.location
    (.file content (some opening.number))
  unfold take
  simp only [hopen, Files.tryLock_free hfree, Files.replaceContent_held _ hlocked, Files.put_put]

theorem release_held {claim : Claim}
    (h : files.get? claim.opening.location = some (.file content (some claim.opening.number))) :
    claim.release files = files.put claim.opening.location (.file [] none) := by
  have hemptied := Files.get?_put_self files claim.opening.location
    (.file [] (some claim.opening.number))
  rw [release, Files.replaceContent_held _ h, Files.close_held hemptied, Files.put_put]

end Claim

/-! ## What every event preserves -/

variable {state next : LockState} {files opened : Files} {socket : String} {opening : Opening}
  {claim : Claim}

namespace LockState

/-- Who is on record as a holder holds a lock, and claims hold what their paths lead to. -/
structure Sound (state : LockState) : Prop where
  kept : state.files.Kept state.openings
  leads : ∀ claim ∈ state.claims,
    Leads state.files (Path.lockFile claim.socket) claim.opening.location
  devices : ∀ location, state.files.get? location = some .nullDevice → location = ["dev", "null"]

theorem sound_start (h : files.Unlocked) : Sound (.start files) where
  kept :=
    { mem_iff := fun opening => by
        refine iff_of_false List.not_mem_nil fun ⟨content, hheld⟩ => ?_
        cases h.free _ _ _ hheld
      nodup := List.nodup_nil }
  leads := fun _ hmem => absurd hmem List.not_mem_nil
  devices := h.devices

namespace Sound

/-- Files that are made and changed move no claim and make no device. -/
theorem of_kept (h : Sound state) (hgrows : Grows state.files next.files)
    (hkept : next.files.Kept next.openings)
    (hclaims : ∀ claim ∈ next.claims, claim ∈ state.claims ∨
      Leads state.files (Path.lockFile claim.socket) claim.opening.location) : Sound next where
  kept := hkept
  leads := fun claim hmem => by
    rcases hclaims claim hmem with hold | hleads
    · exact (h.leads claim hold).of_grows hgrows
    · exact hleads.of_grows hgrows
  devices := fun location hdevice => h.devices location (hgrows.nullDevice hdevice)

/-- A file is held exactly if it has a holder on record. -/
theorem isHeld_iff (h : Sound state) {location : Location} : state.IsHeld location ↔
    ∃ content holder, state.files.get? location = some (.file content (some holder)) := by
  constructor
  · rintro ⟨opening, hmem, rfl⟩
    obtain ⟨content, hheld⟩ := (h.kept.mem_iff opening).1 hmem
    exact ⟨content, _, hheld⟩
  · rintro ⟨content, holder, hheld⟩
    exact ⟨⟨holder, location⟩, (h.kept.mem_iff _).2 ⟨content, hheld⟩, rfl⟩

/-- A lock file that is opened and not held is a free file then. -/
theorem free_of_opened (h : Sound state)
    (hopened : state.files.Opened (Path.lockFile socket) opened opening)
    (hfree : ¬ state.IsHeld opening.location) :
    ∃ content, opened.get? opening.location = some (.file content none) := by
  rcases hopened.fits with (hnone | ⟨content, holder, hfile⟩) | hdevice
  · exact ⟨[], by rw [hopened.get?_eq, if_pos ⟨rfl, hnone⟩]⟩
  · cases holder with
    | none => exact ⟨content, hopened.get?_of_some hfile⟩
    | some holder => exact absurd (h.isHeld_iff.2 ⟨content, holder, hfile⟩) hfree
  · exact absurd (h.devices _ hdevice) hopened.leads.ne_null

/-- A claim on a lock file that is held is refused. -/
theorem take_of_held (h : Sound state) (pid : Nat)
    (hopen : state.files.openForLock (Path.lockFile socket) = .ok (opened, opening))
    (hheld : state.IsHeld opening.location) :
    ∃ content holder, state.files.get? opening.location = some (.file content (some holder)) ∧
      Claim.take state.files socket pid
        = (opened, .error (.taken socket (Claim.owner content))) := by
  obtain ⟨content, holder, hfile⟩ := h.isHeld_iff.1 hheld
  exact ⟨content, holder, hfile, Claim.take_held pid hopen hfile⟩

/-- A claim on a lock file that is not held succeeds. -/
theorem take_of_free (h : Sound state) (pid : Nat)
    (hopen : state.files.openForLock (Path.lockFile socket) = .ok (opened, opening))
    (hfree : ¬ state.IsHeld opening.location) :
    ∃ old, opened.get? opening.location = some (.file old none) ∧
      Claim.take state.files socket pid = (opened.put opening.location
        (.file (Claim.record pid) (some opening.number)), .ok ⟨socket, opening⟩) := by
  obtain ⟨old, hfile⟩ := h.free_of_opened (Files.opened_of_openForLock hopen) hfree
  exact ⟨old, hfile, Claim.take_free pid hopen hfile⟩

/-! ### One event -/

theorem act_claim (h : Sound state) (socket : String) (pid : Nat) :
    Grows state.files (state.act (.claim socket pid)).files ∧
      Sound (state.act (.claim socket pid)) := by
  cases hopen : state.files.openForLock (Path.lockFile socket) with
  | error cause =>
    rw [LockState.act, Claim.take_unopened pid hopen]
    exact ⟨.refl _, h⟩
  | ok made =>
    obtain ⟨opened, opening⟩ := made
    have hopened := Files.opened_of_openForLock hopen
    by_cases hheld : state.IsHeld opening.location
    · obtain ⟨content, holder, -, htake⟩ := h.take_of_held pid hopen hheld
      rw [LockState.act, htake]
      exact ⟨hopened.grows, h.of_kept hopened.grows (h.kept.opened hopened) fun _ => .inl⟩
    · obtain ⟨old, hfree, htake⟩ := h.take_of_free pid hopen hheld
      rw [LockState.act, htake]
      have hgrows := hopened.grows.trans (Files.grows_put (.inr ⟨old, none, hfree⟩)
        (Claim.record pid) (some opening.number))
      refine ⟨hgrows, h.of_kept hgrows ((h.kept.opened hopened).lock hfree) fun claim hmem => ?_⟩
      rcases List.mem_cons.1 hmem with rfl | hold
      · exact .inr hopened.leads
      · exact .inl hold

theorem act_drop (h : Sound state) (claim : Claim) :
    Grows state.files (state.act (.drop claim)).files ∧ Sound (state.act (.drop claim)) := by
  rw [LockState.act]
  split
  · next hmem =>
    have hperm : state.openings.Perm
        (claim.opening :: ((state.claims.erase claim).map Claim.opening ++ state.others)) :=
      ((List.perm_cons_erase hmem).map Claim.opening).append_right state.others
    obtain ⟨content, hheld⟩ := (h.kept.mem_iff claim.opening).1 (hperm.mem_iff.2 List.mem_cons_self)
    rw [Claim.release_held hheld]
    have hgrows := Files.grows_put (.inr ⟨content, _, hheld⟩) [] none
    exact ⟨hgrows, h.of_kept hgrows (h.kept.perm hperm).unlock
      fun _ hin => .inl (List.mem_of_mem_erase hin)⟩
  · exact ⟨.refl _, h⟩

theorem act_lock (h : Sound state) (path : String) :
    Grows state.files (state.act (.lock path)).files ∧ Sound (state.act (.lock path)) := by
  cases hopen : state.files.openForLock path with
  | error cause =>
    simp only [LockState.act, hopen]
    exact ⟨.refl _, h⟩
  | ok made =>
    obtain ⟨opened, opening⟩ := made
    have hopened := Files.opened_of_openForLock hopen
    cases hlock : opened.tryLock opening with
    | none =>
      simp only [LockState.act, hopen, hlock]
      exact ⟨hopened.grows, h.of_kept hopened.grows (h.kept.opened hopened) fun _ => .inl⟩
    | some locked =>
      simp only [LockState.act, hopen, hlock]
      obtain ⟨content, hfree, rfl⟩ := Files.free_of_tryLock hlock
      have hgrows := hopened.grows.trans (Files.grows_put (.inr ⟨content, none, hfree⟩) content
        (some opening.number))
      exact ⟨hgrows, h.of_kept hgrows
        (((h.kept.opened hopened).lock hfree).perm List.perm_middle.symm) fun _ => .inl⟩

theorem act_unlock (h : Sound state) (opening : Opening) :
    Grows state.files (state.act (.unlock opening)).files ∧
      Sound (state.act (.unlock opening)) := by
  rw [LockState.act]
  split
  · next hmem =>
    have hperm : state.openings.Perm
        (opening :: (state.claims.map Claim.opening ++ state.others.erase opening)) :=
      ((List.perm_cons_erase hmem).append_left _).trans List.perm_middle
    obtain ⟨content, hheld⟩ := (h.kept.mem_iff opening).1 (hperm.mem_iff.2 List.mem_cons_self)
    rw [Files.close_held hheld]
    have hgrows := Files.grows_put (.inr ⟨content, _, hheld⟩) content none
    exact ⟨hgrows, h.of_kept hgrows (h.kept.perm hperm).unlock fun _ => .inl⟩
  · exact ⟨.refl _, h⟩

theorem act_write (h : Sound state) (path : String) (content : List UInt8) :
    Grows state.files (state.act (.write path content)).files ∧
      Sound (state.act (.write path content)) := by
  rw [LockState.act]
  rcases Files.write_cases state.files path content with hsame | ⟨location, holder, heq, hold⟩
  · rw [hsame]
    exact ⟨.refl _, h⟩
  · rw [heq]
    have hgrows : Grows state.files (state.files.put location (.file content holder)) := by
      rcases hold with ⟨hnone, -⟩ | ⟨old, hfile⟩
      · exact Files.grows_put (.inl hnone) content holder
      · exact Files.grows_put (.inr ⟨old, holder, hfile⟩) content holder
    exact ⟨hgrows, h.of_kept hgrows (h.kept.put hold) fun _ => .inl⟩

theorem act (h : Sound state) (event : LockEvent) :
    Grows state.files (state.act event).files ∧ Sound (state.act event) := by
  cases event with
  | claim socket pid => exact h.act_claim socket pid
  | drop claim => exact h.act_drop claim
  | lock path => exact h.act_lock path
  | unlock opening => exact h.act_unlock opening
  | write path content => exact h.act_write path content

/-- Files only grow from event to event, and what is sound stays so. -/
theorem run (h : Sound state) (events : List LockEvent) :
    Grows state.files (state.run events).files ∧ Sound (state.run events) := by
  induction events generalizing state with
  | nil => exact ⟨.refl _, h⟩
  | cons event events ih =>
    obtain ⟨hgrows, hnext⟩ := h.act event
    obtain ⟨hlater, hfinal⟩ := ih hnext
    exact ⟨hgrows.trans hlater, hfinal⟩

/-! ### What becomes of a claim -/

/-- A claim whose path leads to a file that nobody holds, or to nothing yet, gets the file. -/
theorem exists_take (h : Sound state) (pid : Nat) {location : Location}
    (hleads : Leads state.files (Path.lockFile socket) location)
    (hfits : state.files.TakesFile location) (hfree : ¬ state.IsHeld location) :
    ∃ files claim, Claim.take state.files socket pid = (files, .ok claim) ∧
      claim.opening.location = location := by
  obtain ⟨opened, hopen⟩ := Files.exists_openForLock hleads hfits
  obtain ⟨old, -, htake⟩ := h.take_of_free pid hopen hfree
  exact ⟨_, _, htake, rfl⟩

/-- A dropped claim leaves an empty file that nobody holds, and nothing else changes. -/
theorem drop_eq (h : Sound state) (hmem : claim ∈ state.claims) :
    (state.act (.drop claim)).files = state.files.put claim.opening.location (.file [] none) := by
  obtain ⟨content, hheld⟩ := (h.kept.mem_iff claim.opening).1
    (List.mem_append_left _ (List.mem_map_of_mem hmem))
  rw [LockState.act, if_pos hmem]
  exact Claim.release_held hheld

end Sound

end LockState

/-! ## What a refusal says -/

/-- A text of nothing but blanks is the one that has nothing left without them. -/
theorem trimBlanks_eq_empty {text : String} :
    trimBlanks text = "" ↔ ∀ c ∈ text.toList, isBlank c = true := by
  have hnone : trimBlanks text = "" ↔ ∀ c ∈ text.toList.dropWhile isBlank, isBlank c = true := by
    rw [trimBlanks, ← String.toList_inj]
    simp [List.dropWhile_eq_nil_iff]
  rw [hnone]
  constructor
  · intro h c hc
    rw [← List.takeWhile_append_dropWhile (p := isBlank) (l := text.toList)] at hc
    rcases List.mem_append.1 hc with hstart | hrest
    · exact List.mem_takeWhile_imp hstart
    · exact h c hrest
  · exact fun h c hc => h c ((List.dropWhile_sublist _).mem hc)

/-- What a claim on a socket is told whose lock file somebody holds: the content is named exactly if
it is a text that is not blank. -/
def TellsOwner (socket : String) (content : List UInt8) (complaint : Complaint) : Prop :=
  (∃ text, textOf? content = some text ∧ (∃ c ∈ text.toList, isBlank c = false) ∧
    complaint = ["Touchpads on " ++ socket ++ " are already being served"
      ++ (" by pid " ++ trimBlanks text)]) ∨
  (∀ text, textOf? content = some text → ∀ c ∈ text.toList, isBlank c = true) ∧
    complaint = ["Touchpads on " ++ socket ++ " are already being served"]

theorem tellsOwner_complaint (socket : String) (content : List UInt8) :
    TellsOwner socket content (Claim.Refusal.taken socket (Claim.owner content)).complaint := by
  cases htext : textOf? content with
  | none =>
    refine .inr ⟨fun _ h => ?_, ?_⟩
    · rw [htext] at h
      cases h
    · simp [Claim.Refusal.complaint, Claim.owner, htext]
  | some text =>
    by_cases hblank : trimBlanks text = ""
    · refine .inr ⟨?_, ?_⟩
      · intro other h
        rw [htext] at h
        cases h
        exact trimBlanks_eq_empty.1 hblank
      · simp [Claim.Refusal.complaint, Claim.owner, htext, hblank]
    · refine .inl ⟨text, htext, ?_, ?_⟩
      · simpa using mt trimBlanks_eq_empty.2 hblank
      · simp [Claim.Refusal.complaint, Claim.owner, htext, hblank]

/-! ## Locks in order -/

namespace LockState

/-- Who holds what, and what claims and their ends do. -/
structure InOrder (state : LockState) : Prop where
  /-- One file, one holder. -/
  exclusive : state.openings.Pairwise (·.location ≠ ·.location)
  /-- Those on record are those who hold locks. -/
  recorded : ∀ opening, opening ∈ state.openings ↔
    ∃ content, state.files.get? opening.location = some (.file content (some opening.number))
  /-- A claim succeeds exactly if its lock file can be opened and nobody holds it. -/
  succeeds_iff : ∀ socket pid,
    (∃ files claim, Claim.take state.files socket pid = (files, .ok claim)) ↔
    ∃ opened opening, state.files.openForLock (Path.lockFile socket) = .ok (opened, opening) ∧
      ¬ state.IsHeld opening.location
  /-- Then the lock file holds the process number and a line feed, and no other file changes. -/
  claimed : ∀ socket pid files claim, Claim.take state.files socket pid = (files, .ok claim) →
    claim.socket = socket ∧
    (∃ opened, state.files.openForLock (Path.lockFile socket) = .ok (opened, claim.opening)) ∧
    files.get? claim.opening.location
      = some (.file (bytesOf (toString pid ++ "\n")) (some claim.opening.number)) ∧
    ∀ location ≠ claim.opening.location, files.get? location = state.files.get? location
  /-- A claim on what somebody holds changes nothing and is told by whom. -/
  refused : ∀ socket pid opened opening,
    state.files.openForLock (Path.lockFile socket) = .ok (opened, opening) →
    state.IsHeld opening.location →
    ∃ files refusal, Claim.take state.files socket pid = (files, .error refusal) ∧
      (∀ location, files.get? location = state.files.get? location) ∧
      TellsOwner socket (state.files.content opening) refusal.complaint
  /-- A dropped claim leaves its file empty and free, and the next claim on it succeeds. -/
  dropped : ∀ claim ∈ state.claims,
    (state.act (.drop claim)).files.get? claim.opening.location = some (.file [] none) ∧
    ¬ (state.act (.drop claim)).IsHeld claim.opening.location ∧
    (∀ location ≠ claim.opening.location,
      (state.act (.drop claim)).files.get? location = state.files.get? location) ∧
    ∀ events pid,
      ¬ ((state.act (.drop claim)).run events).IsHeld claim.opening.location →
      ∃ files next,
        Claim.take ((state.act (.drop claim)).run events).files claim.socket pid
          = (files, .ok next) ∧
        next.opening.location = claim.opening.location

namespace Sound

/-- A claim that succeeds opened a file that nobody held; it locks the file and leaves its record
there. -/
theorem of_take (h : Sound state) {pid : Nat}
    (htake : Claim.take state.files socket pid = (files, .ok claim)) :
    ∃ opened, state.files.openForLock (Path.lockFile socket) = .ok (opened, claim.opening) ∧
      ¬ state.IsHeld claim.opening.location ∧ claim.socket = socket ∧
      files = opened.put claim.opening.location
        (.file (Claim.record pid) (some claim.opening.number)) := by
  cases hopen : state.files.openForLock (Path.lockFile socket) with
  | error cause =>
    rw [Claim.take_unopened pid hopen] at htake
    cases htake
  | ok made =>
    obtain ⟨opened, opening⟩ := made
    by_cases hheld : state.IsHeld opening.location
    · obtain ⟨_, _, -, hrefused⟩ := h.take_of_held pid hopen hheld
      rw [hrefused] at htake
      cases htake
    · obtain ⟨_, -, htaken⟩ := h.take_of_free pid hopen hheld
      rw [htaken] at htake
      cases htake
      exact ⟨opened, rfl, hheld, rfl, rfl⟩

theorem inOrder (h : Sound state) : InOrder state where
  exclusive := h.kept.nodup.imp_of_mem fun hmem hother hne heq =>
    hne (h.kept.eq_of_location hmem hother heq)
  recorded := h.kept.mem_iff
  succeeds_iff := by
    intro socket pid
    constructor
    · rintro ⟨files, claim, htake⟩
      obtain ⟨opened, hopen, hfree, -⟩ := h.of_take htake
      exact ⟨opened, claim.opening, hopen, hfree⟩
    · rintro ⟨opened, opening, hopen, hfree⟩
      obtain ⟨old, -, htake⟩ := h.take_of_free pid hopen hfree
      exact ⟨_, _, htake⟩
  claimed := by
    intro socket pid files claim htake
    obtain ⟨opened, hopen, -, hsocket, rfl⟩ := h.of_take htake
    refine ⟨hsocket, ⟨opened, hopen⟩, ?_, fun location hother => ?_⟩
    · rw [Files.get?_put_self, Claim.record]
    · rw [Files.get?_put, if_neg hother, (Files.opened_of_openForLock hopen).get?_eq,
        if_neg fun hnew => hother hnew.1]
  refused := by
    intro socket pid opened opening hopen hheld
    obtain ⟨content, holder, hfile, htake⟩ := h.take_of_held pid hopen hheld
    refine ⟨opened, _, htake, fun location => ?_, ?_⟩
    · rw [(Files.opened_of_openForLock hopen).get?_eq, if_neg]
      rintro ⟨rfl, hnone⟩
      rw [hfile] at hnone
      cases hnone
    · rw [Files.content, hfile]
      exact tellsOwner_complaint socket content
  dropped := by
    intro claim hmem
    obtain ⟨hdrop, hnext⟩ := h.act_drop claim
    have hfile : (state.act (.drop claim)).files.get? claim.opening.location
        = some (.file [] none) := by
      rw [h.drop_eq hmem, Files.get?_put_self]
    refine ⟨hfile, fun hheld => ?_, fun location hother => ?_, fun events pid hfree => ?_⟩
    · obtain ⟨_, _, hholder⟩ := hnext.isHeld_iff.1 hheld
      rw [hfile] at hholder
      cases hholder
    · rw [h.drop_eq hmem, Files.get?_put, if_neg hother]
    · -- Whatever happens until the next claim, the path still leads to the file.
      obtain ⟨hlater, hfinal⟩ := hnext.run events
      exact hfinal.exists_take pid ((h.leads claim hmem).of_grows (hdrop.trans hlater))
        (hlater.takesFile (.inr ⟨[], none, hfile⟩)) hfree

end Sound

end LockState

/-- **Lock files are in order** whatever happens to them. -/
theorem locks_in_order (h : files.Unlocked) (events : List LockEvent) :
    LockState.InOrder ((LockState.start files).run events) :=
  ((LockState.sound_start h).run events).2.inOrder

theorem locks_in_order_two_sockets :
    Files.empty.Unlocked ∧
      ((LockState.start .empty).run [.claim "a.sock" 7, .lock "b.lock", .claim "b.sock" 8]).claims
        = [⟨"a.sock", 0, ["work", "a.lock"]⟩] ∧
      LockState.InOrder ((LockState.start .empty).run
        [.claim "a.sock" 7, .lock "b.lock", .claim "b.sock" 8]) :=
  ⟨Files.unlocked_empty, by decide +kernel, locks_in_order Files.unlocked_empty _⟩

end Service

end VirtualTouchpad
