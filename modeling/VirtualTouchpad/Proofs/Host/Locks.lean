/-
# Locks of files

What each operation on locks finds and changes, and who holds which lock:
`Files.Kept` says that exactly the openings of a list hold locks.  A lock is had by
one opening at a time (`Kept.eq_of_location`); locking a file that nobody holds adds
an opening to the list (`Kept.lock`), giving a lock up takes one away
(`Kept.unlock`), and nothing else changes it.
-/
import VirtualTouchpad.Proofs.Host.Files

namespace VirtualTouchpad

namespace Files

variable {files : Files} {location : Location} {path : String}

/-! ## What operations find and change -/

/-- What opening a file to lock it finds and makes. -/
structure Opened (files : Files) (path : String) (opened : Files) (opening : Opening) : Prop where
  leads : Leads files path opening.location
  number : opening.number = files.openings
  fits : files.TakesFile opening.location ∨ files.get? opening.location = some .nullDevice
  get?_eq : ∀ location, opened.get? location =
    if location = opening.location ∧ files.get? location = none then some (.file [] none)
    else files.get? location

theorem opened_of_openForLock {opened : Files} {opening : Opening}
    (h : files.openForLock path = .ok (opened, opening)) : Opened files path opened opening := by
  cases hplace : files.locate path with
  | error cause =>
    rw [openForLock, hplace] at h
    cases h
  | ok place =>
    simp only [openForLock, hplace, Bind.bind, Except.bind] at h
    rcases leads_of_locate hplace with hwants | ⟨location, hleads, rfl⟩
    · -- A directory is not opened, nor anything else with a slash after its name.
      cases place with
      | present location node =>
        obtain rfl : node = .directory := hwants
        cases h
      | unfit => cases h
      | vacant location slash =>
        obtain rfl : slash = true := hwants
        cases h
    · cases hnode : files.get? location with
      | none =>
        simp only [placeAt, hnode] at h
        cases h
        refine ⟨hleads, rfl, .inl (.inl hnode), fun other => ?_⟩
        rw [get?_withOpenings, get?_put]
        by_cases hother : other = location
        · rw [hother, if_pos rfl, if_pos ⟨rfl, hnode⟩]
        · rw [if_neg hother, if_neg fun hnone => hother hnone.1]
      | some node =>
        have hsame : ∀ other, files.get? other = if other = location ∧ files.get? other = none then
            some (.file [] none) else files.get? other := by
          intro other
          split
          · next hnone =>
            rw [hnone.1, hnode] at hnone
            cases hnone.2
          · rfl
        simp only [placeAt, hnode] at h
        cases node with
        | directory | socket => cases h
        | file content holder =>
          cases h
          exact ⟨hleads, rfl, .inl (.inr ⟨content, holder, hnode⟩), hsame⟩
        | nullDevice =>
          cases h
          exact ⟨hleads, rfl, .inr hnode, hsame⟩

theorem exists_openForLock (h : Leads files path location) (hfits : files.TakesFile location) :
    ∃ opened, files.openForLock path = .ok (opened, ⟨files.openings, location⟩) := by
  rw [openForLock, h.locate_eq, placeAt]
  rcases hfits with hnone | ⟨content, holder, hfile⟩
  · rw [hnone]
    exact ⟨_, rfl⟩
  · rw [hfile]
    exact ⟨_, rfl⟩

section Opened

variable {opened : Files} {opening : Opening}

theorem Opened.grows (h : Opened files path opened opening) : Grows files opened := by
  intro location
  rw [h.get?_eq]
  split
  · next hnew => exact .inr ⟨.inl hnew.2, [], none, rfl⟩
  · exact .inl rfl

/-- Opening a file that is there finds it. -/
theorem Opened.get?_of_some {node : Node} (h : Opened files path opened opening)
    (hnode : files.get? location = some node) : opened.get? location = some node := by
  rw [h.get?_eq, hnode]
  exact if_neg fun hnone => nomatch hnone.2

theorem tryLock_free {content : List UInt8}
    (h : files.get? opening.location = some (.file content none)) :
    files.tryLock opening
      = some (files.put opening.location (.file content (some opening.number))) := by
  rw [tryLock, h]

/-- What is locked was a file that nobody held. -/
theorem free_of_tryLock {locked : Files} (h : files.tryLock opening = some locked) :
    ∃ content, files.get? opening.location = some (.file content none) ∧
      locked = files.put opening.location (.file content (some opening.number)) := by
  rw [tryLock] at h
  split at h
  · next content hfree => exact ⟨content, hfree, (Option.some.inj h).symm⟩
  · cases h

theorem tryLock_held {content : List UInt8} {holder : Nat}
    (h : files.get? opening.location = some (.file content (some holder))) :
    files.tryLock opening = none := by
  rw [tryLock, h]

theorem replaceContent_held {old : List UInt8} (content : List UInt8)
    (h : files.get? opening.location = some (.file old (some opening.number))) :
    files.replaceContent opening content
      = files.put opening.location (.file content (some opening.number)) := by
  simp only [replaceContent, h, if_true]

theorem close_held {content : List UInt8}
    (h : files.get? opening.location = some (.file content (some opening.number))) :
    files.close opening = files.put opening.location (.file content none) := by
  simp only [close, h, if_true]

end Opened

/-- Writing to a path puts other content into a file, makes a file or does nothing. -/
theorem write_cases (files : Files) (path : String) (content : List UInt8) :
    files.write path content = files ∨
      ∃ location holder, files.write path content = files.put location (.file content holder) ∧
        (files.get? location = none ∧ holder = none ∨
          ∃ old, files.get? location = some (.file old holder)) := by
  cases hplace : files.locate path with
  | error cause =>
    rw [write, hplace]
    exact .inl rfl
  | ok place =>
    simp only [write, hplace]
    rcases leads_of_locate hplace with hwants | ⟨location, -, rfl⟩
    · cases place with
      | present location node =>
        obtain rfl : node = .directory := hwants
        exact .inl rfl
      | unfit => exact .inl rfl
      | vacant location slash =>
        obtain rfl : slash = true := hwants
        exact .inl rfl
    · cases hnode : files.get? location with
      | none =>
        simp only [placeAt, hnode]
        exact .inr ⟨location, none, rfl, .inl ⟨hnode, rfl⟩⟩
      | some node =>
        simp only [placeAt, hnode]
        cases node with
        | file old holder => exact .inr ⟨location, holder, rfl, .inr ⟨old, hnode⟩⟩
        | directory | socket | nullDevice => exact .inl rfl

/-! ## Who holds the locks -/

/-- Exactly the given openings hold locks. -/
structure Kept (files : Files) (openings : List Opening) : Prop where
  mem_iff : ∀ opening, opening ∈ openings ↔
    ∃ content, files.get? opening.location = some (.file content (some opening.number))
  nodup : openings.Nodup

namespace Kept

variable {openings : List Opening} {opening : Opening} {content : List UInt8}

/-- One file, one holder. -/
theorem eq_of_location (h : Kept files openings) {other : Opening} (hmem : opening ∈ openings)
    (hother : other ∈ openings) (heq : opening.location = other.location) : opening = other := by
  obtain ⟨_, hheld⟩ := (h.mem_iff opening).1 hmem
  obtain ⟨_, hheld'⟩ := (h.mem_iff other).1 hother
  rw [heq, hheld'] at hheld
  obtain ⟨number, location⟩ := opening
  cases hheld
  cases heq
  rfl

theorem perm (h : Kept files openings) {others : List Opening} (hperm : openings.Perm others) :
    Kept files others where
  mem_iff := fun opening => hperm.mem_iff.symm.trans (h.mem_iff opening)
  nodup := hperm.nodup_iff.1 h.nodup

/-- Making a file to open it locks nothing. -/
theorem opened {opened : Files} (h : Kept files openings)
    (hopened : Opened files path opened opening) : Kept opened openings where
  mem_iff := fun other => by
    rw [h.mem_iff, hopened.get?_eq]
    split
    · next hnew => simp [hnew.2]
    · rfl
  nodup := h.nodup

/-- Other content does not change who holds a file. -/
theorem put {holder : Option Nat} (h : Kept files openings)
    (hsame : files.get? location = none ∧ holder = none ∨
      ∃ old, files.get? location = some (.file old holder)) :
    Kept (files.put location (.file content holder)) openings where
  mem_iff := fun other => by
    rw [h.mem_iff, get?_put]
    split
    · next heq =>
      rw [heq]
      rcases hsame with ⟨hnone, rfl⟩ | ⟨old, hold⟩
      · simp [hnone]
      · simp [hold]
    · rfl
  nodup := h.nodup

/-- A file that nobody holds can be locked. -/
theorem lock {old : List UInt8} (h : Kept files openings)
    (hfree : files.get? opening.location = some (.file old none)) :
    Kept (files.put opening.location (.file content (some opening.number)))
      (opening :: openings) where
  mem_iff := fun other => by
    rw [List.mem_cons, h.mem_iff, get?_put]
    by_cases heq : other.location = opening.location
    · obtain ⟨number, location⟩ := other
      obtain rfl : location = opening.location := heq
      have hsame : (⟨number, opening.location⟩ : Opening) = opening
          ↔ opening.number = number := by
        constructor
        · exact fun h => (congrArg Opening.number h).symm
        · rintro rfl
          rfl
      simp [hfree, hsame]
    · have hne : other ≠ opening := fun hsame => heq (congrArg _ hsame)
      simp [heq, hne]
  nodup := by
    refine List.nodup_cons.2 ⟨fun hmem => ?_, h.nodup⟩
    obtain ⟨_, hheld⟩ := (h.mem_iff opening).1 hmem
    rw [hfree] at hheld
    cases hheld

/-- Who gives a lock up holds it no more. -/
theorem unlock (h : Kept files (opening :: openings)) :
    Kept (files.put opening.location (.file content none)) openings where
  mem_iff := fun other => by
    rw [get?_put]
    by_cases heq : other.location = opening.location
    · have hout : other ∉ openings := fun hmem =>
        (List.nodup_cons.1 h.nodup).1
          (h.eq_of_location (List.mem_cons_of_mem _ hmem) List.mem_cons_self heq ▸ hmem)
      simp [heq, hout]
    · have hne : other ≠ opening := fun hsame => heq (congrArg _ hsame)
      rw [if_neg heq, ← h.mem_iff, List.mem_cons, or_iff_right hne]
  nodup := (List.nodup_cons.1 h.nodup).2

end Kept

end Files

end VirtualTouchpad
