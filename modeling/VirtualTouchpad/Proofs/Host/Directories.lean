/-
# Directories and sockets among files

What removing a path, binding a socket and making directories find and change.  None of
them takes a directory away, so paths go on leading where they led
(`keepsDirectories_remove`, `Made.get?_of_some`).

Once the directories of a path are made they are there for good, and making them again
does nothing (`makeDirectories_again`).
-/
import VirtualTouchpad.Proofs.Host.Files

namespace VirtualTouchpad

namespace Files

variable {files before after : Files} {location here : Location} {path : String}
  {steps : List (List Char)} {node : Node}

/-! ## Places that become empty, and empty places -/

theorem get?_erase (files : Files) (location other : Location) :
    (files.erase location).get? other = if other = location then none else files.get? other := by
  by_cases h : other = location
  · have hnone : (files.entries.filter (·.1 != location)).find? (·.1 == location) = none := by
      simp [List.find?_eq_none]
    simp [erase, get?, h, hnone]
  · have hfind : (files.entries.filter (·.1 != location)).find? (·.1 == other)
        = files.entries.find? (·.1 == other) := by
      rw [List.find?_filter]
      congr 1
      funext entry
      by_cases hentry : entry.1 = other <;> simp [hentry, h]
    simp [erase, get?, h, hfind]

theorem keepsDirectories_erase (h : files.get? location ≠ some .directory) :
    KeepsDirectories files (files.erase location) := by
  intro other hdirectory
  rw [get?_erase, if_neg, hdirectory]
  rintro rfl
  exact h hdirectory

theorem keepsDirectories_put (h : files.get? location ≠ some .directory) (node : Node) :
    KeepsDirectories files (files.put location node) := by
  intro other hdirectory
  rw [get?_put, if_neg, hdirectory]
  rintro rfl
  exact h hdirectory

/-- Removing a path makes at most the place empty that it leads to, which is no directory. -/
theorem remove_cases (files : Files) (path : String) :
    files.remove path = files ∨
      ∃ location, Leads files path location ∧ files.get? location ≠ some .directory ∧
        files.remove path = files.erase location := by
  cases hplace : files.locate path with
  | error cause =>
    rw [remove, hplace]
    exact .inl rfl
  | ok place =>
    simp only [remove, hplace]
    rcases leads_of_locate hplace with hwants | ⟨location, hleads, rfl⟩
    · cases place with
      | present location node =>
        obtain rfl : node = .directory := hwants
        exact .inl rfl
      | unfit => exact .inl rfl
      | vacant => exact .inl rfl
    · cases hnode : files.get? location with
      | none => simp [placeAt, hnode]
      | some node =>
        simp only [placeAt, hnode]
        by_cases hdirectory : node = .directory
        · exact .inl (if_pos hdirectory)
        · exact .inr ⟨location, hleads, fun h => hdirectory (Option.some.inj (hnode.symm.trans h)),
            if_neg hdirectory⟩

/-- What a path leads to is not there when it is removed. -/
theorem Leads.remove_eq (h : Leads files path location) (hnode : files.get? location = some node)
    (hdirectory : node ≠ .directory) : files.remove path = files.erase location := by
  simp only [remove, h.locate_eq, placeAt, hnode]
  exact if_neg hdirectory

theorem Leads.read_remove (h : Leads files path location) (hnode : files.get? location = some node)
    (hdirectory : node ≠ .directory) : (files.remove path).read path = .error (.os Errno.noEntry) := by
  have herased : (files.erase location).get? location = none := by
    rw [get?_erase, if_pos rfl]
  have hkeeps : KeepsDirectories files (files.erase location) :=
    keepsDirectories_erase (by simpa [hnode])
  have hleads := h.of_keeps hkeeps
  simp only [h.remove_eq hnode hdirectory, read, hleads.locate_eq, placeAt, herased, Bind.bind,
    Except.bind]

theorem keepsDirectories_remove (files : Files) (path : String) :
    KeepsDirectories files (files.remove path) := by
  rcases remove_cases files path with hsame | ⟨location, -, hnode, heq⟩
  · rw [hsame]
    exact .refl files
  · rw [heq]
    exact keepsDirectories_erase hnode

theorem openings_remove (files : Files) (path : String) :
    (files.remove path).openings = files.openings := by
  rcases remove_cases files path with hsame | ⟨location, -, -, heq⟩
  · rw [hsame]
  · rw [heq]
    rfl

/-- A socket is bound to an empty place. -/
theorem of_bind {mode : Nat} (h : files.bind path mode = .ok after) :
    ∃ location, Leads files path location ∧ files.get? location = none ∧
      after = files.put location (.socket mode) := by
  rw [bind] at h
  split at h
  · cases h
  · cases hplace : files.locate path with
    | error cause =>
      rw [hplace] at h
      cases h
    | ok place =>
      simp only [hplace, Bind.bind, Except.bind] at h
      rcases leads_of_locate hplace with hwants | ⟨location, hleads, rfl⟩
      · cases place with
        | present | unfit => cases h
        | vacant location slash =>
          obtain rfl : slash = true := hwants
          cases h
      · cases hnode : files.get? location with
        | none =>
          simp only [placeAt, hnode] at h
          cases h
          exact ⟨location, hleads, hnode, rfl⟩
        | some node =>
          simp only [placeAt, hnode] at h
          cases h

/-! ## Making directories -/

/-- Some empty places have got directories. -/
structure Made (before after : Files) : Prop where
  openings : after.openings = before.openings
  get?_eq : ∀ location, after.get? location = before.get? location ∨
    before.get? location = none ∧ after.get? location = some .directory

theorem Made.refl (files : Files) : Made files files := ⟨rfl, fun _ => .inl rfl⟩

/-- What is there stays. -/
theorem Made.get?_of_some (h : Made before after) (hnode : before.get? location = some node) :
    after.get? location = some node := by
  rcases h.get?_eq location with hsame | ⟨hnone, -⟩
  · rw [hsame, hnode]
  · rw [hnone] at hnode
    cases hnode

theorem Made.trans {files : Files} (h : Made before files) (hafter : Made files after) :
    Made before after where
  openings := hafter.openings.trans h.openings
  get?_eq := fun location => by
    rcases h.get?_eq location with hsame | ⟨hnone, hmade⟩
    · rw [← hsame]
      exact hafter.get?_eq location
    · exact .inr ⟨hnone, hafter.get?_of_some hmade⟩

theorem made_put (h : files.get? location = none) : Made files (files.put location .directory) where
  openings := rfl
  get?_eq := fun other => by
    rw [get?_put]
    split
    · next heq => exact .inr ⟨heq ▸ h, rfl⟩
    · exact .inl rfl

/-- A path that leads to a directory goes on leading there. -/
theorem walk_directory_of_keeps {directory : Location}
    (h : before.walk here steps = .ok (.present directory .directory))
    (hkeeps : KeepsDirectories before after) :
    after.walk here steps = .ok (.present directory .directory) := by
  induction steps generalizing here with
  | nil => exact h
  | cons step steps ih =>
    rw [walk] at h ⊢
    by_cases hstay : step = [] ∨ step = ['.']
    · rw [if_pos hstay] at h ⊢
      exact ih h
    rw [if_neg hstay] at h ⊢
    by_cases hup : step = ['.', '.']
    · rw [if_pos hup] at h ⊢
      exact ih h
    rw [if_neg hup] at h ⊢
    by_cases hsize : 255 < (String.ofList step).utf8ByteSize
    · simp only [if_pos hsize] at h
      cases h
    simp only [if_neg hsize] at h ⊢
    cases hnode : before.get? (here ++ [String.ofList step]) with
    | none =>
      simp only [hnode] at h
      split_ifs at h
      cases h
    | some node =>
      simp only [hnode] at h
      cases node with
      | directory =>
        simp only [hkeeps _ hnode]
        exact ih h
      | file | socket | nullDevice =>
        dsimp only at h
        split_ifs at h <;> cases h

/-- Slashes at the end of a path lead no further. -/
theorem walk_slashes (h : steps.all (· = [])) :
    files.walk here steps = .ok (.present here .directory) := by
  induction steps with
  | nil => rfl
  | cons step steps ih =>
    obtain ⟨rfl, hsteps⟩ : step = [] ∧ steps.all (· = []) := by simpa using h
    rw [walk, if_pos (.inl rfl), ih hsteps]

/-- A path to an empty place leads to the directory that is made there. -/
theorem walk_put_directory {slash : Bool}
    (h : files.walk here steps = .ok (.vacant location slash)) :
    files.get? location = none ∧
      (files.put location .directory).walk here steps = .ok (.present location .directory) := by
  induction steps generalizing here with
  | nil => cases h
  | cons step steps ih =>
    rw [walk] at h ⊢
    by_cases hstay : step = [] ∨ step = ['.']
    · rw [if_pos hstay] at h ⊢
      exact ih h
    rw [if_neg hstay] at h ⊢
    by_cases hup : step = ['.', '.']
    · rw [if_pos hup] at h ⊢
      exact ih h
    rw [if_neg hup] at h ⊢
    by_cases hsize : 255 < (String.ofList step).utf8ByteSize
    · simp only [if_pos hsize] at h
      cases h
    simp only [if_neg hsize] at h ⊢
    cases hnode : files.get? (here ++ [String.ofList step]) with
    | none =>
      simp only [hnode] at h
      split_ifs at h with hslashes
      cases h
      simp only [get?_put_self]
      exact ⟨hnode, walk_slashes hslashes⟩
    | some node =>
      simp only [hnode] at h
      cases node with
      | directory =>
        obtain ⟨hnone, hwalk⟩ := ih h
        have hkept : (files.put location .directory).get? (here ++ [String.ofList step])
            = some .directory := by
          rw [get?_put, hnode, ite_self]
        simp only [hkept]
        exact ⟨hnone, hwalk⟩
      | file | socket | nullDevice =>
        dsimp only at h
        split_ifs at h <;> cases h

theorem isDirectory_iff : files.isDirectory path ↔
    ∃ directory, files.locate path = .ok (.present directory .directory) := by
  rw [isDirectory]
  split
  · next directory heq => simp [heq]
  · next hnot => simpa using fun directory heq => hnot directory heq

/-- Following a path of an allowed spelling in other files. -/
theorem locate_eq_of_walk {place place' : Place} (h : before.locate path = .ok place)
    (hwalk : ∀ here, before.walk here (Path.split path.toList) = .ok place →
      after.walk here (Path.split path.toList) = .ok place') :
    after.locate path = .ok place' := by
  rw [locate] at h ⊢
  split_ifs at h ⊢
  · exact hwalk _ h
  · exact hwalk _ h

theorem isDirectory_of_keeps (h : before.isDirectory path)
    (hkeeps : KeepsDirectories before after) : after.isDirectory path := by
  obtain ⟨directory, hplace⟩ := isDirectory_iff.1 h
  exact isDirectory_iff.2 ⟨directory, locate_eq_of_walk hplace fun _ hwalk =>
    walk_directory_of_keeps hwalk hkeeps⟩

/-- A directory that is made is there. -/
theorem of_makeDirectory (h : files.makeDirectory path = .ok after) :
    Made files after ∧ after.isDirectory path := by
  rw [makeDirectory] at h
  cases hplace : files.locate path with
  | error cause =>
    rw [hplace] at h
    cases h
  | ok place =>
    simp only [hplace, Bind.bind, Except.bind] at h
    cases place with
    | present | unfit => cases h
    | vacant location slash =>
      cases h
      have hnone : files.get? location = none := by
        rw [locate] at hplace
        split_ifs at hplace <;> exact (walk_put_directory hplace).1
      exact ⟨made_put hnone, isDirectory_iff.2 ⟨location, locate_eq_of_walk hplace fun _ hwalk =>
        (walk_put_directory hwalk).2⟩⟩

theorem of_ensureDirectory {error : Option IoError}
    (h : files.ensureDirectory path = (after, error)) :
    Made files after ∧ (error = none → after.isDirectory path) := by
  rw [ensureDirectory] at h
  cases hmake : files.makeDirectory path with
  | ok made =>
    simp only [hmake] at h
    cases h
    exact (of_makeDirectory hmake).imp_right fun hthere _ => hthere
  | error cause =>
    simp only [hmake] at h
    cases h
    refine ⟨.refl files, fun hnone => ?_⟩
    split at hnone
    · next hthere => exact hthere
    · cases hnone

theorem of_makeDirectoriesIn {count : Nat} {error : Option IoError}
    (h : makeDirectoriesIn count files path = (after, error)) :
    Made files after ∧ (error = none → count = 0 ∨ path = "" ∨ after.isDirectory path) := by
  induction count generalizing files path after error with
  | zero =>
    cases h
    exact ⟨.refl files, fun _ => .inl rfl⟩
  | succ count ih =>
    rw [makeDirectoriesIn] at h
    by_cases hempty : path = ""
    · rw [if_pos hempty] at h
      cases h
      exact ⟨.refl files, fun _ => .inr (.inl hempty)⟩
    rw [if_neg hempty] at h
    obtain ⟨first, cause, hfirst⟩ : ∃ first cause, files.ensureDirectory path = (first, cause) :=
      ⟨_, _, rfl⟩
    obtain ⟨hmade, hthere⟩ := of_ensureDirectory hfirst
    simp only [hfirst] at h
    cases cause with
    | none =>
      cases h
      exact ⟨hmade, fun _ => .inr (.inr (hthere rfl))⟩
    | some cause =>
      dsimp only at h
      split_ifs at h
      · -- The directories before come first, and then this one again.
        obtain ⟨parents, failure, hparents⟩ : ∃ parents failure,
            makeDirectoriesIn count first ((Path.parent? path).getD "") = (parents, failure) :=
          ⟨_, _, rfl⟩
        obtain ⟨hbefore, -⟩ := ih hparents
        simp only [hparents] at h
        cases failure with
        | none =>
          obtain ⟨hlast, hthere⟩ := of_ensureDirectory h
          exact ⟨hmade.trans (hbefore.trans hlast), fun hnone => .inr (.inr (hthere hnone))⟩
        | some failure =>
          cases h
          exact ⟨hmade.trans hbefore, fun hnone => nomatch hnone⟩
      · cases h
        exact ⟨hmade, fun hnone => nomatch hnone⟩

/-- Making the directories of a path makes all of them, or gives an error. -/
theorem of_makeDirectories {error : Option IoError}
    (h : files.makeDirectories path = (after, error)) :
    Made files after ∧ (error = none → path = "" ∨ after.isDirectory path) := by
  obtain ⟨hmade, hthere⟩ := of_makeDirectoriesIn h
  refine ⟨hmade, fun hnone => ?_⟩
  rcases hthere hnone with hlength | hdone
  · exact .inl (String.length_eq_zero_iff.1 hlength)
  · exact hdone

/-- Making directories that are there does nothing. -/
theorem makeDirectories_again (h : path = "" ∨ files.isDirectory path) :
    files.makeDirectories path = (files, none) := by
  by_cases hempty : path = ""
  · subst hempty
    rfl
  have hdirectory := h.resolve_left hempty
  obtain ⟨directory, hplace⟩ := isDirectory_iff.1 hdirectory
  have hensure : files.ensureDirectory path = (files, none) := by
    simp [ensureDirectory, makeDirectory, hplace, hdirectory, Bind.bind, Except.bind]
  obtain ⟨count, hcount⟩ : ∃ count, path.length = count + 1 :=
    Nat.exists_eq_succ_of_ne_zero fun hzero => hempty (String.length_eq_zero_iff.1 hzero)
  simp [makeDirectories, hcount, makeDirectoriesIn, hempty, hensure]

end Files

end VirtualTouchpad
