/-
# One process for a socket

While a process has its claim on a socket, the lock file of the socket names it, and
nobody else can claim the socket, whatever it and other processes do: that holds exactly of
the sockets that are not their own lock files (`exclusive_iff`).  A socket `x.lock` is: who
binds it removes the lock file first.

The invariant is `Processes.Sound`: the lock file of a claim is held as the claim says,
unless its process has removed its own lock file, and then has its socket there while it
listens.
-/
import VirtualTouchpad.Proofs.Host.Directories
import VirtualTouchpad.Proofs.Host.Names
import VirtualTouchpad.Proofs.Service.Claims
import VirtualTouchpad.Proofs.Service.Processes
import VirtualTouchpad.Proofs.Json.Numerals

namespace VirtualTouchpad

open Files (Leads)
open Json (isDigit_iff_toNat isDigit_of_mem_toDigits)

/-! ## Files that others cannot touch -/

namespace Files

variable {files before after : Files} {location : Location} {path : String}

/-- All that is there stays, but for files that nobody holds. -/
def KeepsTaken (before after : Files) : Prop :=
  ∀ location node, before.get? location = some node → (∀ content, node ≠ .file content none) →
    after.get? location = some node

theorem KeepsTaken.refl (files : Files) : KeepsTaken files files := fun _ _ hnode _ => hnode

theorem KeepsTaken.trans {files : Files} (h : KeepsTaken before files)
    (hafter : KeepsTaken files after) : KeepsTaken before after :=
  fun location node hnode htaken => hafter location node (h location node hnode htaken) htaken

theorem KeepsTaken.keepsDirectories (h : KeepsTaken before after) : KeepsDirectories before after :=
  fun location hdirectory => h location _ hdirectory fun _ heq => nomatch heq

theorem Made.keepsTaken (h : Made before after) : KeepsTaken before after :=
  fun _ _ hnode _ => h.get?_of_some hnode

theorem Opened.keepsTaken {opening : Opening} (h : Opened before path after opening) :
    KeepsTaken before after :=
  fun _ _ hnode _ => h.get?_of_some hnode

theorem keepsTaken_put {content : List UInt8} (h : files.get? location = some (.file content none))
    (node : Node) : KeepsTaken files (files.put location node) := by
  intro other old hold htaken
  rw [get?_put, if_neg, hold]
  rintro rfl
  rw [h] at hold
  exact htaken content (Option.some.inj hold).symm

theorem openings_of_openForLock {opening : Opening}
    (h : files.openForLock path = .ok (after, opening)) :
    after.openings = files.openings + 1 := by
  rw [openForLock] at h
  cases hplace : files.locate path with
  | error cause =>
    rw [hplace] at h
    cases h
  | ok place =>
    simp only [hplace, Bind.bind, Except.bind] at h
    split at h <;> cases h <;> rfl

end Files

namespace Service

variable {files after : Files} {socket : String} {pid : Nat} {claim : Claim}

/-! ## Claims that succeed -/

namespace Claim

/-- A claim that was made, and the files before and after. -/
structure Taken (before after : Files) (socket : String) (pid : Nat) (claim : Claim) : Prop where
  leads : Leads after (Path.lockFile socket) claim.opening.location
  number : before.openings ≤ claim.opening.number
  number_lt : claim.opening.number < after.openings
  held : after.get? claim.opening.location
    = some (.file (record pid) (some claim.opening.number))

/-- A claim, made or refused, changes nothing but files that nobody holds. -/
theorem take_spec (files : Files) (socket : String) (pid : Nat) :
    files.KeepsTaken (take files socket pid).1 ∧
      files.openings ≤ (take files socket pid).1.openings ∧
      ∀ claim, (take files socket pid).2 = .ok claim →
        Taken files (take files socket pid).1 socket pid claim := by
  cases hopen : files.openForLock (Path.lockFile socket) with
  | error cause =>
    rw [take_unopened pid hopen]
    exact ⟨.refl files, Nat.le_refl _, by simp⟩
  | ok made =>
    obtain ⟨opened, opening⟩ := made
    have hopened := Files.opened_of_openForLock hopen
    have hopenings := Files.openings_of_openForLock hopen
    cases hlock : opened.tryLock opening with
    | none =>
      simp only [take, hopen, hlock]
      exact ⟨hopened.keepsTaken, by omega, by simp⟩
    | some locked =>
      obtain ⟨content, hfree, -⟩ := Files.free_of_tryLock hlock
      rw [take_free pid hopen hfree]
      have hkeeps := Files.keepsTaken_put hfree (.file (record pid) (some opening.number))
      refine ⟨hopened.keepsTaken.trans hkeeps, by show _ ≤ opened.openings; omega, ?_⟩
      intro claim hclaim
      cases hclaim
      exact
        { leads := (hopened.leads.of_keeps hopened.keepsTaken.keepsDirectories).of_keeps
            hkeeps.keepsDirectories
          number := Nat.le_of_eq hopened.number.symm
          number_lt := by
            show opening.number < opened.openings
            rw [hopened.number]
            omega
          held := Files.get?_put_self _ _ _ }

end Claim

/-- Whether the directory of a socket is there. -/
def HasParent (files : Files) (socket : String) : Prop :=
  ∀ parent, Path.parent? socket = some parent → parent = "" ∨ files.isDirectory parent

theorem HasParent.of_keeps (h : HasParent files socket) (hkeeps : files.KeepsDirectories after) :
    HasParent after socket :=
  fun parent hparent => (h parent hparent).imp_right fun hthere =>
    Files.isDirectory_of_keeps hthere hkeeps

/-- Where the directory of a socket is there, only the claim matters. -/
theorem claimSocket_eq (h : HasParent files socket) (pid : Nat) :
    claimSocket files socket pid
      = ((Claim.take files socket pid).1,
        (Claim.take files socket pid).2.mapError Claim.Refusal.complaint) := by
  cases hparent : Path.parent? socket with
  | none => simp only [claimSocket, claimSocket.claim, hparent, Option.map_none]
  | some parent =>
    simp only [claimSocket, claimSocket.claim, hparent, Option.map_some,
      Files.makeDirectories_again (h parent hparent)]

theorem claimSocket_spec (files : Files) (socket : String) (pid : Nat) :
    files.KeepsTaken (claimSocket files socket pid).1 ∧
      files.openings ≤ (claimSocket files socket pid).1.openings ∧
      ∀ claim, (claimSocket files socket pid).2 = .ok claim →
        Claim.Taken files (claimSocket files socket pid).1 socket pid claim ∧
        HasParent (claimSocket files socket pid).1 socket := by
  -- The directory is made, and then the socket is claimed.
  have hclaim {made : Files} (hmade : files.Made made) (hparent : HasParent made socket)
      (hmake : claimSocket files socket pid = claimSocket made socket pid) :
      files.KeepsTaken (claimSocket files socket pid).1 ∧
        files.openings ≤ (claimSocket files socket pid).1.openings ∧
        ∀ claim, (claimSocket files socket pid).2 = .ok claim →
          Claim.Taken files (claimSocket files socket pid).1 socket pid claim ∧
          HasParent (claimSocket files socket pid).1 socket := by
    rw [hmake, claimSocket_eq hparent]
    dsimp only
    obtain ⟨hkeeps, hopenings, htaken⟩ := Claim.take_spec made socket pid
    rw [hmade.openings] at hopenings
    refine ⟨hmade.keepsTaken.trans hkeeps, hopenings, fun claim hok => ?_⟩
    have htake : (Claim.take made socket pid).2 = .ok claim := by
      cases hresult : (Claim.take made socket pid).2 with
      | error refusal =>
        rw [hresult] at hok
        cases hok
      | ok other =>
        rw [hresult] at hok
        cases hok
        rfl
    have h := htaken claim htake
    exact ⟨⟨h.leads, hmade.openings ▸ h.number, h.number_lt, h.held⟩,
      hparent.of_keeps hkeeps.keepsDirectories⟩
  cases hparent : Path.parent? socket with
  | none => exact hclaim (.refl files) (fun _ h => nomatch hparent.symm.trans h) rfl
  | some parent =>
    obtain ⟨made, error, hmake⟩ : ∃ made error, files.makeDirectories parent = (made, error) :=
      ⟨_, _, rfl⟩
    obtain ⟨hmade, hthere⟩ := Files.of_makeDirectories hmake
    cases error with
    | some cause =>
      have hfailed : claimSocket files socket pid = (made, .error [cause.message]) := by
        simp only [claimSocket, hparent, Option.map_some, hmake]
      rw [hfailed]
      exact ⟨hmade.keepsTaken, Nat.le_of_eq hmade.openings.symm, fun _ hok => nomatch hok⟩
    | none =>
      have hparents : HasParent made socket := by
        intro other hother
        obtain rfl : parent = other := Option.some.inj (hparent.symm.trans hother)
        exact hthere rfl
      refine hclaim hmade hparents ?_
      rw [claimSocket_eq hparents]
      simp only [claimSocket, claimSocket.claim, hparent, Option.map_some, hmake]

/-! ## What the lock files of processes hold -/

namespace Process

variable {p q other : Process} {claim' : Claim} {location : Location}

/-- The socket is its own lock file. -/
def LocksItself (p : Process) : Prop := Path.lockFile p.server.socket = p.server.socket

/-- How a claim of a process stands in the files. -/
structure Fits (files : Files) (p : Process) (claim : Claim) : Prop where
  leads : Leads files (Path.lockFile p.server.socket) claim.opening.location
  number_lt : claim.opening.number < files.openings
  parent : HasParent files p.server.socket
  /-- Only the process itself can have removed its lock file. -/
  held : p.phase = .claimed ∨ ¬ p.LocksItself →
    files.get? claim.opening.location
      = some (.file (Claim.record p.pid) (some claim.opening.number))
  /-- Then it has bound its socket there, or it has failed. -/
  bound : p.phase = .listening → p.LocksItself →
    ∃ mode, files.get? claim.opening.location = some (.socket mode)

/-- Two claims have openings of their own, and no place for two sockets. -/
structure Apart (p q : Process) (claim claim' : Claim) : Prop where
  number : claim.opening.number ≠ claim'.opening.number
  location : p.phase = .listening → p.LocksItself → q.phase = .listening → q.LocksItself →
    claim.opening.location ≠ claim'.opening.location

theorem Apart.symm (h : Apart p q claim claim') : Apart q p claim' claim :=
  ⟨h.number.symm, fun hq hq' hp hp' heq => h.location hp hp' hq hq' heq.symm⟩

/-- Whether there is something at the place of the lock file that the process has put there. -/
def Occupies (p : Process) : Prop :=
  p.phase = .claimed ∨ p.phase = .listening ∨ ¬ p.LocksItself

/-- What that is. -/
theorem Fits.get?_cases (h : Fits files p claim) (hoccupies : p.Occupies) :
    files.get? claim.opening.location
        = some (.file (Claim.record p.pid) (some claim.opening.number)) ∨
      p.phase = .listening ∧ p.LocksItself ∧
        ∃ mode, files.get? claim.opening.location = some (.socket mode) := by
  by_cases hheld : p.phase = .claimed ∨ ¬ p.LocksItself
  · exact .inl (h.held hheld)
  · obtain ⟨hclaimed, hself⟩ := not_or.1 hheld
    have hlistening := (hoccupies.resolve_left hclaimed).resolve_right hself
    exact .inr ⟨hlistening, not_not.1 hself, h.bound hlistening (not_not.1 hself)⟩

/-- Two processes put nothing at one place. -/
theorem Fits.location_ne (hp : Fits files p claim) (hq : Fits files q claim')
    (hapart : Apart p q claim claim') (hoccupies : p.Occupies) (hoccupies' : q.Occupies) :
    claim.opening.location ≠ claim'.opening.location := by
  intro heq
  rcases hp.get?_cases hoccupies with hfile | ⟨hphase, hself, mode, hsocket⟩ <;>
    rcases hq.get?_cases hoccupies' with hfile' | ⟨hphase', hself', mode', hsocket'⟩
  · rw [heq, hfile'] at hfile
    exact hapart.number (Option.some.inj (Node.file.inj (Option.some.inj hfile)).2).symm
  · rw [heq, hsocket'] at hfile
    cases hfile
  · rw [heq, hfile'] at hsocket
    cases hsocket
  · exact hapart.location hphase hself hphase' hself' heq

/-- How a claim goes on standing when its process gets on. -/
theorem Fits.move (h : Fits files p claim) (hsocket : q.server.socket = p.server.socket)
    (hkeeps : files.KeepsDirectories after) (hopenings : files.openings ≤ after.openings)
    (hheld : q.phase = .claimed ∨ ¬ p.LocksItself → after.get? claim.opening.location
      = some (.file (Claim.record q.pid) (some claim.opening.number)))
    (hbound : q.phase = .listening → p.LocksItself →
      ∃ mode, after.get? claim.opening.location = some (.socket mode)) : Fits after q claim where
  leads := hsocket ▸ h.leads.of_keeps hkeeps
  number_lt := Nat.lt_of_lt_of_le h.number_lt hopenings
  parent := hsocket ▸ h.parent.of_keeps hkeeps
  held := fun hphase => hheld (by rwa [LocksItself, hsocket] at hphase)
  bound := fun hphase hself => hbound hphase (by rwa [LocksItself, hsocket] at hself)

/-- A claim stands as it did, if what stands there does. -/
theorem Fits.of_files (h : Fits files p claim) (hkeeps : files.KeepsDirectories after)
    (hopenings : files.openings ≤ after.openings)
    (hsame : p.Occupies → after.get? claim.opening.location = files.get? claim.opening.location) :
    Fits after p claim := by
  refine h.move rfl hkeeps hopenings (fun hheld => ?_) fun hlistening hself => ?_
  · rw [hsame (hheld.elim .inl fun hself => .inr (.inr hself)), h.held hheld]
  · rw [hsame (.inr (.inl hlistening))]
    exact h.bound hlistening hself

/-! ### One change -/

/-- What a process removes is nothing that another one has put at the place of its lock file. -/
theorem Fits.ne_of_leads (hp : Fits files p claim) (hq : Fits files q claim')
    (hapart : Apart p q claim claim') (hphase : p.phase = .claimed ∨ p.phase = .listening)
    (hoccupies : q.Occupies) (hleads : Leads files p.server.socket location) :
    claim'.opening.location ≠ location := by
  intro heq
  -- The lock files of both processes would be one.
  have hself : p.LocksItself := hleads.lockFile_eq_self hp.leads (heq ▸ hq.leads)
  have hlock := hp.leads
  rw [hself] at hlock
  exact hp.location_ne hq hapart (hphase.imp_right .inl) hoccupies
    ((hlock.unique hleads).trans heq.symm)

/-- What a process removes is not its own lock file, unless the socket is. -/
theorem Fits.ne_of_not_locksItself (h : Fits files p claim) (hself : ¬ p.LocksItself)
    (hleads : Leads files p.server.socket location) : claim.opening.location ≠ location := by
  rintro rfl
  exact hself (hleads.lockFile_eq_self h.leads h.leads)

theorem get?_remove_of_ne (h : ∀ place, Leads files socket place → location ≠ place) :
    (files.remove socket).get? location = files.get? location := by
  rcases files.remove_cases socket with hsame | ⟨place, hleads, -, heq⟩
  · rw [hsame]
  · rw [heq, Files.get?_erase, if_neg (h place hleads)]

/-- Giving up a claim empties and frees its file, if the claim holds it. -/
theorem release_cases (files : Files) (claim : Claim) : claim.release files = files ∨
    ∃ content, files.get? claim.opening.location
        = some (.file content (some claim.opening.number)) ∧
      claim.release files = files.put claim.opening.location (.file [] none) := by
  by_cases hheld : ∃ content, files.get? claim.opening.location
      = some (.file content (some claim.opening.number))
  · obtain ⟨content, hfile⟩ := hheld
    exact .inr ⟨content, hfile, Claim.release_held hfile⟩
  · left
    have hother {old : List UInt8} {holder : Nat}
        (hfile : files.get? claim.opening.location = some (.file old (some holder))) :
        holder ≠ claim.opening.number := by
      rintro rfl
      exact hheld ⟨old, hfile⟩
    have hkept : files.replaceContent claim.opening [] = files := by
      rw [Files.replaceContent]
      split
      · next hfile => rw [if_neg (hother hfile)]
      · rfl
    rw [Claim.release, hkept, Files.close]
    split
    · next hfile => rw [if_neg (hother hfile)]
    · rfl

theorem Fits.other_of_remove (hp : Fits files p claim) (hother : Fits files other claim')
    (hapart : Apart p other claim claim') (hphase : p.phase = .claimed ∨ p.phase = .listening) :
    Fits (files.remove p.server.socket) other claim' := by
  refine hother.of_files (Files.keepsDirectories_remove _ _)
    (Nat.le_of_eq (Files.openings_remove _ _).symm) fun hoccupies => ?_
  exact get?_remove_of_ne fun place hleads => hp.ne_of_leads hother hapart hphase hoccupies hleads

/-- A change of one process leaves the claims of the others as they stand. -/
theorem Change.fits_other (h : p.Change q)
    (hp : ∀ claim, p.server.claim = some claim → Fits p.server.rig.files p claim)
    (hother : Fits p.server.rig.files other claim')
    (hapart : ∀ claim, p.server.claim = some claim → Apart p other claim claim') :
    Fits q.server.rig.files other claim' := by
  cases h with
  | unseen _ _ hfiles => rwa [hfiles]
  | cleared claim hclaim _ hphase _ hfiles =>
    rw [hfiles]
    exact (hp claim hclaim).other_of_remove hother (hapart claim hclaim) (.inl hphase)
  | retired claim hclaim _ hphase _ hfiles =>
    rw [hfiles]
    exact (hp claim hclaim).other_of_remove hother (hapart claim hclaim) (.inr hphase)
  | bound claim hclaim _ hphase _ hfiles =>
    obtain ⟨place, hleads, hnone, heq⟩ := Files.of_bind hfiles
    rw [heq]
    refine hother.of_files (Files.keepsDirectories_put (by simp [hnone]) _) (Nat.le_refl _)
      fun hoccupies => ?_
    rw [Files.get?_put, if_neg]
    rintro rfl
    rcases hother.get?_cases hoccupies with hfile | ⟨-, -, _, hsocket⟩
    · rw [hnone] at hfile
      cases hfile
    · rw [hnone] at hsocket
      cases hsocket
  | dropped claim hclaim _ hfiles =>
    rw [hfiles]
    rcases release_cases p.server.rig.files claim with hsame | ⟨content, hheld, heq⟩
    · rwa [hsame]
    · rw [heq]
      refine hother.of_files (Files.keepsDirectories_put (by simp [hheld]) _) (Nat.le_refl _)
        fun hoccupies => ?_
      rw [Files.get?_put, if_neg]
      intro hlocation
      rcases hother.get?_cases hoccupies with hfile | ⟨-, -, _, hsocket⟩
      · rw [hlocation, hheld] at hfile
        exact (hapart claim hclaim).number
          (Option.some.inj (Node.file.inj (Option.some.inj hfile)).2)
      · rw [hlocation, hheld] at hsocket
        cases hsocket

theorem Fits.of_remove (h : Fits files p claim) (hsocket : q.server.socket = p.server.socket)
    (hpid : q.pid = p.pid) (hclaimed : q.phase ≠ .claimed) (hlistening : q.phase ≠ .listening) :
    Fits (files.remove p.server.socket) q claim := by
  refine h.move hsocket (Files.keepsDirectories_remove _ _)
    (Nat.le_of_eq (Files.openings_remove _ _).symm) (fun hheld => ?_)
    fun hphase => absurd hphase hlistening
  have hself := hheld.resolve_left hclaimed
  rw [get?_remove_of_ne fun place => h.ne_of_not_locksItself hself, h.held (.inr hself), hpid]

/-- Its own claim stands as the new phase says. -/
theorem Change.fits (h : p.Change q) (hsocket : q.server.socket = p.server.socket)
    (hpid : q.pid = p.pid)
    (hp : ∀ claim, p.server.claim = some claim → Fits p.server.rig.files p claim)
    (hq : q.server.claim = some claim) : Fits q.server.rig.files q claim := by
  cases h with
  | unseen hclaim hphase hfiles =>
    have h := hp claim (hclaim ▸ hq)
    rw [hfiles]
    refine h.move hsocket (.refl _) (Nat.le_refl _) (fun hheld => ?_) fun hlistening hself => ?_
    · rw [hpid]
      refine h.held (hheld.imp_left fun hclaimed => ?_)
      rcases hphase with hsame | hended
      · rw [← hsame, hclaimed]
      · rw [hended] at hclaimed
        cases hclaimed
    · refine h.bound ?_ hself
      rcases hphase with hsame | hended
      · rw [← hsame, hlistening]
      · rw [hended] at hlistening
        cases hlistening
  | cleared claim' hclaim hclaim' _ hphase' hfiles =>
    rw [hfiles]
    exact (hp claim (hclaim.trans (hclaim'.symm.trans hq))).of_remove hsocket hpid
      (by simp [hphase']) (by simp [hphase'])
  | retired claim' hclaim hclaim' _ hphase' hfiles =>
    rw [hfiles]
    exact (hp claim (hclaim.trans (hclaim'.symm.trans hq))).of_remove hsocket hpid
      (by simp [hphase']) (by simp [hphase'])
  | bound claim' hclaim hclaim' hphase hphase' hfiles =>
    obtain ⟨place, hleads, hnone, heq⟩ := Files.of_bind hfiles
    have h := hp claim (hclaim.trans (hclaim'.symm.trans hq))
    rw [heq]
    refine h.move hsocket (Files.keepsDirectories_put (by simp [hnone]) _) (Nat.le_refl _)
      (fun hheld => ?_) fun _ hself => ?_
    · have hself := hheld.resolve_left (by simp [hphase'])
      rw [Files.get?_put, if_neg (h.ne_of_not_locksItself hself hleads), h.held (.inr hself), hpid]
    · have hlock := h.leads
      rw [hself] at hlock
      exact ⟨socketMode, by rw [hlock.unique hleads, Files.get?_put_self]⟩
  | dropped _ _ hclaim' =>
    rw [hclaim'] at hq
    cases hq

/-- And it stays apart from the others. -/
theorem Change.apart (h : p.Change q) (hsocket : q.server.socket = p.server.socket)
    (hp : ∀ claim, p.server.claim = some claim → Fits p.server.rig.files p claim)
    (hother : Fits p.server.rig.files other claim')
    (hapart : ∀ claim, p.server.claim = some claim → Apart p other claim claim')
    (hq : q.server.claim = some claim) : Apart q other claim claim' := by
  have hself : q.LocksItself ↔ p.LocksItself := by rw [LocksItself, LocksItself, hsocket]
  have hnot (hphase : q.phase ≠ .listening) (hclaim : p.server.claim = some claim) :
      Apart q other claim claim' :=
    ⟨(hapart claim hclaim).number, fun hlistening => absurd hlistening hphase⟩
  cases h with
  | unseen hclaim hphase _ =>
    rcases hphase with hsame | hended
    · have h := hapart claim (hclaim ▸ hq)
      exact ⟨h.number, fun hlistening hq => h.location (hsame ▸ hlistening) (hself.1 hq)⟩
    · exact hnot (by simp [hended]) (hclaim ▸ hq)
  | cleared _ hclaim hclaim' _ hphase' _ | retired _ hclaim hclaim' _ hphase' _ =>
    exact hnot (by simp [hphase']) (hclaim.trans (hclaim'.symm.trans hq))
  | bound _ hclaim hclaim' _ _ hfiles =>
    obtain ⟨place, hleads, hnone, -⟩ := Files.of_bind hfiles
    have hp' := hclaim.trans (hclaim'.symm.trans hq)
    refine ⟨(hapart claim hp').number, fun _ hlocks hlistening hlocks' heq => ?_⟩
    -- The place was empty, so nobody's socket was there.
    have hlock := (hp claim hp').leads
    rw [hself.1 hlocks] at hlock
    obtain ⟨mode, hsocket⟩ := hother.bound hlistening hlocks'
    rw [← heq, hlock.unique hleads, hnone] at hsocket
    cases hsocket
  | dropped _ _ hclaim' =>
    rw [hclaim'] at hq
    cases hq

/-- Claims of processes stand through all that leaves their files alone. -/
theorem Fits.of_keepsTaken (h : Fits files p claim) (hkeeps : files.KeepsTaken after)
    (hopenings : files.openings ≤ after.openings) : Fits after p claim := by
  refine h.of_files hkeeps.keepsDirectories hopenings fun hoccupies => ?_
  rcases h.get?_cases hoccupies with hfile | ⟨-, -, mode, hsocket⟩
  · rw [hfile, hkeeps _ _ hfile (by simp)]
  · rw [hsocket, hkeeps _ _ hsocket (by simp)]

end Process

/-! ## What every event preserves -/

namespace Processes

open Process (Fits Apart)

variable {state : Processes}

/-- All claims stand, each apart from the others. -/
structure Sound (state : Processes) : Prop where
  fits : ∀ p ∈ state.all, ∀ claim, p.server.claim = some claim → Fits state.files p claim
  apart : ∀ (i j : Nat) p q claim claim', i ≠ j → state.all[i]? = some p → state.all[j]? = some q →
    p.server.claim = some claim → q.server.claim = some claim' → Apart p q claim claim'

theorem sound_none (files : Files) : Sound (none files) where
  fits := fun _ hmem => absurd hmem List.not_mem_nil
  apart := fun _ _ _ _ _ _ _ hp => nomatch hp

/-- A start is refused, or adds a process with a claim. -/
theorem act_start (state : Processes) (rig : Rig) (socket : String) (pid : Nat) :
    (∃ complaint, (claimSocket state.files socket pid).2 = .error complaint ∧
      state.act (.start rig socket pid)
        = ⟨(claimSocket state.files socket pid).1, state.all⟩) ∨
    ∃ claim server, (claimSocket state.files socket pid).2 = .ok claim ∧ server.socket = socket ∧
      server.claim = some claim ∧
      state.act (.start rig socket pid)
        = ⟨(claimSocket state.files socket pid).1, state.all ++ [⟨server, pid, .claimed⟩]⟩ := by
  have hfiles : (rig.withFiles state.files).files = state.files := rfl
  cases hresult : (claimSocket state.files socket pid).2 with
  | error complaint =>
    refine .inl ⟨complaint, rfl, ?_⟩
    simp only [act, Server.new, hfiles, hresult]
    rfl
  | ok claim =>
    refine .inr ⟨claim, ⟨socket, some claim,
      (rig.withFiles state.files).withFiles (claimSocket state.files socket pid).1, []⟩, rfl, rfl,
      rfl, ?_⟩
    simp only [act, Server.new, hfiles, hresult]
    rfl

theorem Sound.start (h : Sound state) (rig : Rig) (socket : String) (pid : Nat) :
    Sound (state.act (.start rig socket pid)) := by
  obtain ⟨hkeeps, hopenings, htaken⟩ := claimSocket_spec state.files socket pid
  have hold : ∀ p ∈ state.all, ∀ claim, p.server.claim = some claim →
      Fits (claimSocket state.files socket pid).1 p claim :=
    fun p hmem claim hclaim => (h.fits p hmem claim hclaim).of_keepsTaken hkeeps hopenings
  rcases state.act_start rig socket pid with
    ⟨_, -, heq⟩ | ⟨claim, server, hresult, hsocket, hserver, heq⟩
  · rw [heq]
    exact ⟨hold, h.apart⟩
  obtain ⟨hnew, hparent⟩ := htaken claim hresult
  subst hsocket
  rw [heq]
  constructor
  · intro p hmem other hother
    rcases List.mem_append.1 hmem with hmem | hmem
    · exact hold p hmem other hother
    · obtain rfl := List.mem_singleton.1 hmem
      obtain rfl : claim = other := Option.some.inj (hserver.symm.trans hother)
      exact ⟨hnew.leads, hnew.number_lt, hparent, fun _ => hnew.held, fun hphase => nomatch hphase⟩
  · -- The new opening has a new number.
    have hlast {i : Nat} {p : Process} {other : Claim} (hp : state.all[i]? = some p)
        (hother : p.server.claim = some other) :
        Apart p ⟨server, pid, .claimed⟩ other claim := by
      have hlt := (h.fits p (List.mem_of_getElem? hp) other hother).number_lt
      have hge := hnew.number
      exact ⟨by omega, fun _ _ hphase => nomatch hphase⟩
    intro i j p q first second hne hi hj hp hq
    rw [List.getElem?_append] at hi hj
    split at hi <;> split at hj
    · exact h.apart i j p q first second hne hi hj hp hq
    · obtain rfl := List.mem_singleton.1 (List.mem_of_getElem? hj)
      obtain rfl : claim = second := Option.some.inj (hserver.symm.trans hq)
      exact hlast hi hp
    · obtain rfl := List.mem_singleton.1 (List.mem_of_getElem? hi)
      obtain rfl : claim = first := Option.some.inj (hserver.symm.trans hp)
      exact (hlast hj hq).symm
    · have hi' := (List.getElem?_eq_some_iff.1 hi).1
      have hj' := (List.getElem?_eq_some_iff.1 hj).1
      simp only [List.length_singleton] at hi' hj'
      omega

theorem Sound.deed (h : Sound state) (i : Nat) (deed : Deed) :
    Sound (state.act (.deed i deed)) := by
  rw [act]
  cases hp : state.all[i]? with
  | none => exact h
  | some p =>
    dsimp only
    have hmem := List.mem_of_getElem? hp
    -- The process as it is with the files of the host, before and after the deed.
    generalize hbefore : ({ p with server := p.server.withFiles state.files } : Process) = before
    obtain ⟨hsocket, hpid, hchange⟩ := before.act_change deed
    generalize before.act deed = after at hsocket hpid hchange ⊢
    have hfiles : before.server.rig.files = state.files := by rw [← hbefore]; rfl
    have hclaims : before.server.claim = p.server.claim := by rw [← hbefore]; rfl
    have hfits : ∀ claim, before.server.claim = some claim →
        Fits before.server.rig.files before claim := by
      intro claim hclaim
      have hold := h.fits p hmem claim (hclaims ▸ hclaim)
      subst hbefore
      exact hold.move rfl (.refl _) (Nat.le_refl _) hold.held hold.bound
    have hapart : ∀ (j : Nat) q claim claim', i ≠ j → state.all[j]? = some q →
        before.server.claim = some claim → q.server.claim = some claim' →
        Apart before q claim claim' := by
      intro j q claim claim' hne hq hclaim hclaim'
      have hold := h.apart i j p q claim claim' hne hp hq (hclaims ▸ hclaim) hclaim'
      subst hbefore
      exact ⟨hold.number, hold.location⟩
    have hother {j : Nat} {q : Process} {claim : Claim} (hq : state.all[j]? = some q)
        (hclaim : q.server.claim = some claim) : Fits before.server.rig.files q claim :=
      hfiles ▸ h.fits q (List.mem_of_getElem? hq) claim hclaim
    have hset (j : Nat) (q : Process) (hq : (state.all.set i after)[j]? = some q) :
        i = j ∧ q = after ∨ i ≠ j ∧ state.all[j]? = some q := by
      by_cases hj : i = j
      · subst hj
        rw [List.getElem?_set_self (List.getElem?_eq_some_iff.1 hp).1] at hq
        exact .inl ⟨rfl, (Option.some.inj hq).symm⟩
      · rw [List.getElem?_set_ne hj] at hq
        exact .inr ⟨hj, hq⟩
    constructor
    · intro q hq claim hclaim
      obtain ⟨j, hj⟩ := List.mem_iff_getElem?.1 hq
      rcases hset j q hj with ⟨rfl, rfl⟩ | ⟨hne, hj⟩
      · exact hchange.fits hsocket hpid hfits hclaim
      · exact hchange.fits_other hfits (hother hj hclaim) fun claim' hclaim' =>
          hapart j q claim' claim hne hj hclaim' hclaim
    · intro j k q r claim claim' hne hj hk hclaim hclaim'
      have hafter {l : Nat} {q : Process} {claim claim' : Claim} (hl : i ≠ l)
          (hq : state.all[l]? = some q) (hclaim : after.server.claim = some claim)
          (hclaim' : q.server.claim = some claim') : Apart after q claim claim' :=
        hchange.apart hsocket hfits (hother hq hclaim')
          (fun claim hclaim => hapart l q claim claim' hl hq hclaim hclaim') hclaim
      rcases hset j q hj with ⟨rfl, rfl⟩ | ⟨hij, hq⟩ <;>
        rcases hset k r hk with ⟨rfl, rfl⟩ | ⟨hik, hr⟩
      · exact absurd rfl hne
      · exact hafter hik hr hclaim hclaim'
      · exact (hafter hij hq hclaim' hclaim).symm
      · exact h.apart j k q r claim claim' hne hq hr hclaim hclaim'

theorem Sound.act (h : Sound state) (event : HostEvent) : Sound (state.act event) := by
  cases event with
  | start rig socket pid => exact h.start rig socket pid
  | deed i deed => exact h.deed i deed

/-- Claims stand whatever happens. -/
theorem Sound.run (h : Sound state) (events : List HostEvent) : Sound (state.run events) := by
  induction events generalizing state with
  | nil => exact h
  | cons event events ih => exact ih (h.act event)

/-! ## Exclusion -/

/-- The lock file of a process's socket names the process, and nobody else can claim the socket. -/
structure Holds (state : Processes) (p : Process) : Prop where
  recorded : state.files.read (Path.lockFile p.server.socket) = .ok (Claim.record p.pid)
  refused : ∀ (rig : Rig) (pid : Nat),
    (Server.new (rig.withFiles state.files) p.server.socket pid).2
      = .error ["Touchpads on " ++ p.server.socket ++ " are already being served by pid "
          ++ toString p.pid]

end Processes

/-- Whatever processes do, one that has its claim on a socket holds it against all others. -/
def Exclusive (files : Files) (socket : String) : Prop :=
  ∀ events, ∀ p ∈ ((Processes.none files).run events).all, p.server.socket = socket →
    p.server.claim.isSome → ((Processes.none files).run events).Holds p

theorem not_isBlank_of_isDigit {c : Char} (h : c.isDigit = true) : isBlank c = false := by
  obtain ⟨hlow, hhigh⟩ := (isDigit_iff_toNat c).1 h
  simp [isBlank, inRanges, blankRanges]
  omega

/-- Nothing is dropped where nothing is blank. -/
theorem dropWhile_isBlank {cs : List Char} (h : ∀ c ∈ cs, isBlank c = false) (rest : List Char)
    (hne : cs ≠ []) : (cs ++ rest).dropWhile isBlank = cs ++ rest := by
  obtain ⟨c, others, rfl⟩ := List.exists_cons_of_ne_nil hne
  rw [List.cons_append, List.dropWhile_cons_of_neg]
  simp [h c List.mem_cons_self]

/-- What a process writes down names it. -/
theorem owner_record (pid : Nat) : Claim.owner (Claim.record pid) = toString pid := by
  have hdigits : ∀ c ∈ Nat.toDigits 10 pid, isBlank c = false := fun c hc =>
    not_isBlank_of_isDigit (isDigit_of_mem_toDigits hc)
  have hne : Nat.toDigits 10 pid ≠ [] := Nat.toDigits_ne_nil
  have hend : (Nat.toDigits 10 pid).reverse.dropWhile isBlank = (Nat.toDigits 10 pid).reverse := by
    simpa using dropWhile_isBlank (fun c hc => hdigits c (List.mem_reverse.1 hc)) []
      (List.reverse_eq_nil_iff.not.2 hne)
  rw [Claim.owner, Claim.record, textOf?_bytesOf]
  simp only [trimBlanks, Nat.toString_eq_ofList_toDigits, String.toList_append, String.toList_ofList]
  rw [dropWhile_isBlank hdigits _ hne]
  simp [hend, isBlank, inRanges, blankRanges]

namespace Processes

/-- A claim on a socket that is not its own lock file holds. -/
theorem Sound.holds {state : Processes} (h : Sound state) {p : Process} (hmem : p ∈ state.all)
    (hclaim : p.server.claim = some claim) (hself : ¬ p.LocksItself) : state.Holds p := by
  have hfits := h.fits p hmem claim hclaim
  have hheld := hfits.held (.inr hself)
  constructor
  · simp only [Files.read, hfits.leads.locate_eq, Files.placeAt, hheld, Bind.bind, Except.bind]
  · intro rig pid
    obtain ⟨opened, hopen⟩ :=
      Files.exists_openForLock hfits.leads (.inr ⟨_, _, hheld⟩)
    have htake := Claim.take_held pid hopen hheld
    have hfiles : (rig.withFiles state.files).files = state.files := rfl
    have hnamed : toString p.pid ≠ "" := by
      intro hempty
      rw [Nat.toString_eq_ofList_toDigits] at hempty
      exact Nat.toDigits_ne_nil (String.ofList_inj.1 hempty)
    simp only [Server.new, hfiles, claimSocket_eq hfits.parent, htake, owner_record]
    have hwords : " are already being served by pid " = " are already being served" ++ " by pid " :=
      rfl
    simp only [Except.mapError, Except.map, Claim.Refusal.complaint, if_neg hnamed, hwords,
      String.append_assoc]

/-- A process that starts where there is no other one. -/
theorem run_start {rig : Rig} {server : Server}
    (hnew : (Server.new (rig.withFiles files) socket pid).2 = .ok server) :
    ∃ made claim started, started.socket = socket ∧ started.claim = some claim ∧
      (none files).run [.start rig socket pid] = ⟨made, [⟨started, pid, .claimed⟩]⟩ := by
  rcases (none files).act_start rig socket pid with
    ⟨complaint, hresult, -⟩ | ⟨claim, started, -, hsocket, hclaim, hstart⟩
  · have hfiles : (rig.withFiles files).files = files := rfl
    have hnone : (none files).files = files := rfl
    rw [hnone] at hresult
    simp only [Server.new, hfiles, hresult] at hnew
    cases hnew
  · exact ⟨_, claim, started, hsocket, hclaim, hstart⟩

/-- What it does next: it removes what is at the path of its socket. -/
theorem act_clear {server : Server} (hclaim : server.claim = some claim) :
    act ⟨files, [⟨server, pid, .claimed⟩]⟩ (.deed 0 .clear)
      = ⟨files.remove server.socket, [⟨(server.withFiles files).clear, pid, .cleared⟩]⟩ := by
  have htime : (server.withFiles files).claim.isSome := by
    show server.claim.isSome
    rw [hclaim]
    rfl
  simp [act, Process.act, htime]
  rfl

end Processes

/-- Who clears a socket that is its own lock file has no lock file any more. -/
theorem not_exclusive_of_self {rig : Rig} {server : Server} (hself : Path.lockFile socket = socket)
    (hnew : (Server.new (rig.withFiles files) socket pid).2 = .ok server) :
    ¬ Exclusive files socket := by
  intro h
  obtain ⟨made, claim, started, rfl, hclaim, hrun⟩ := Processes.run_start hnew
  -- The lock file is where the path of the socket leads.
  have hsound := (Processes.sound_none files).run [.start rig started.socket pid]
  rw [hrun] at hsound
  have hfits := hsound.fits _ List.mem_cons_self claim hclaim
  have hleads := hfits.leads
  rw [hself] at hleads
  have hgone := hleads.read_remove (hfits.held (.inl rfl)) (by simp)
  -- So it is removed with what is at that path.
  have hlater : (Processes.none files).run [.start rig started.socket pid, .deed 0 .clear]
      = ⟨made.remove started.socket, [⟨(started.withFiles made).clear, pid, .cleared⟩]⟩ :=
    calc (Processes.none files).run [.start rig started.socket pid, .deed 0 .clear]
      _ = ((Processes.none files).run [.start rig started.socket pid]).act (.deed 0 .clear) := rfl
      _ = _ := by rw [hrun, Processes.act_clear hclaim]
  have hholds := h [.start rig started.socket pid, .deed 0 .clear]
  rw [hlater] at hholds
  have hsome : (started.withFiles made).clear.claim.isSome := by
    show started.claim.isSome
    rw [hclaim]
    rfl
  have hread := (hholds _ List.mem_cons_self rfl hsome).recorded
  have hpath : Path.lockFile (started.withFiles made).clear.socket = started.socket := hself
  simp only [hpath, hgone] at hread
  cases hread

/-- **One process for a socket**: a socket that can be claimed is held by who claims it, exactly if
it is not its own lock file. -/
theorem exclusive_iff {rig : Rig} {server : Server}
    (hnew : (Server.new (rig.withFiles files) socket pid).2 = .ok server) :
    Exclusive files socket ↔ Path.lockFile socket ≠ socket := by
  constructor
  · exact fun h hself => not_exclusive_of_self hself hnew h
  · intro hself events p hmem hsocket hclaim
    obtain ⟨claim, hclaim⟩ := Option.isSome_iff_exists.1 hclaim
    refine ((Processes.sound_none files).run events).holds hmem hclaim ?_
    rwa [Process.LocksItself, hsocket]

/-- A rig of touchpads on recorders. -/
def recordingRig : Rig := .new .standard (.recorders []) ⟨[], .new []⟩

theorem exclusive_iff_dots : ∃ server,
    (Server.new (recordingRig.withFiles .empty) "./run.1.sock" 7).2 = .ok server ∧
      Exclusive .empty "./run.1.sock" := by
  have hnew : (Server.new (recordingRig.withFiles .empty) "./run.1.sock" 7).2 = .ok _ := rfl
  exact ⟨_, hnew, (exclusive_iff hnew).2 (by decide)⟩

/-- On the socket `a.lock` a server can be made and can listen, but that removes its lock file:
another server cannot open the file and is not told that the socket is served.  The file does not
come back: it is not there either once the server has stopped. -/
theorem not_exclusive_lock :
    (∃ server, (Server.new (recordingRig.withFiles .empty) "a.lock" 7).2 = .ok server ∧
      server.listen.2 = .ok () ∧
      (Server.new (recordingRig.withFiles server.listen.1.rig.files) "a.lock" 8).2
        = .error ["Failed to open a.lock", "No such device or address (os error 6)"] ∧
      server.listen.1.stop.rig.files.read "a.lock" = .error (.os Errno.noEntry)) ∧
    ¬ Exclusive .empty "a.lock" := by
  have hself : Path.lockFile "a.lock" = "a.lock" := by decide
  have hnew : (Server.new (recordingRig.withFiles .empty) "a.lock" 7).2 = .ok _ := rfl
  -- The server that listens has its socket where the lock file was.
  exact ⟨⟨_, hnew, rfl, rfl, rfl⟩, not_exclusive_of_self hself hnew⟩

end Service

end VirtualTouchpad
