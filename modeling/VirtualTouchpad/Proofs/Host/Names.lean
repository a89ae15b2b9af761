/-
# Names in a directory

A path that does not lead to a directory is the path of a directory and a name in it
(`Path.exists_before`).  With another name for the last one the path leads to another
place in the same directory (`Files.Reaches.of_name`).

The lock file of a socket is such a place: its name is the socket's name up to the last
dot, and `.lock` (`Files.Leads.of_lockFile`).
-/
import Mathlib.Data.List.TakeWhile
import VirtualTouchpad.Proofs.Host.Files

namespace VirtualTouchpad

namespace Path

/-- What can be the name of something in a directory. -/
structure IsName (name : List Char) : Prop where
  ne_nil : name ≠ []
  ne_here : name ≠ ['.']
  ne_up : name ≠ ['.', '.']
  noSlash : '/' ∉ name

/-- What can stand before a name in a path. -/
def IsBefore (before : List Char) : Prop := before = [] ∨ before.getLast? = some '/'

/-- A name before its last dot, and `.lock`. -/
def lockName (name : List Char) : List Char := stem name ++ ".lock".toList

variable {before name part cs : List Char} {parts : List (List Char)}

/-! ## Paths cut before a name -/

theorem split_of_notMem (h : '/' ∉ name) : split name = [name] := by
  induction name with
  | nil => rfl
  | cons c name ih =>
    obtain ⟨hc, hname⟩ : '/' ≠ c ∧ '/' ∉ name := by simpa using h
    rw [split, if_neg (Ne.symm hc), ih hname]

theorem notMem_of_mem_split (h : part ∈ split cs) : '/' ∉ part := by
  induction cs generalizing part with
  | nil => simp_all [split]
  | cons c cs ih =>
    rw [split] at h
    split at h
    · rcases List.mem_cons.1 h with rfl | hrest
      · exact List.not_mem_nil
      · exact ih hrest
    · next hc =>
      obtain ⟨start, rest, hparts⟩ := List.exists_cons_of_ne_nil (split_ne_nil cs)
      simp only [hparts] at h ih
      rcases List.mem_cons.1 h with rfl | hrest
      · simpa [Ne.symm hc] using ih List.mem_cons_self
      · exact ih (List.mem_cons_of_mem _ hrest)

/-- The last part of a path can be cut off it, and another one put in its place. -/
theorem exists_before (h : split cs = parts ++ [name]) :
    ∃ before, cs = before ++ name ∧ IsBefore before ∧
      ∀ other, '/' ∉ other → split (before ++ other) = parts ++ [other] := by
  induction cs generalizing parts with
  | nil =>
    obtain ⟨rfl, hname⟩ := List.append_eq_singleton_iff.1 h.symm |>.resolve_right (by simp)
    cases hname
    exact ⟨[], rfl, .inl rfl, fun other => split_of_notMem⟩
  | cons c cs ih =>
    rw [split] at h
    split at h
    · next hc =>
      cases parts with
      | nil => exact absurd (List.cons.inj h).2 (split_ne_nil cs)
      | cons first parts =>
        obtain ⟨rfl, hrest⟩ := List.cons.inj h
        obtain ⟨before, rfl, hbefore, hother⟩ := ih hrest
        refine ⟨c :: before, rfl, .inr ?_, fun other hslash => ?_⟩
        · rcases hbefore with rfl | hlast
          · rw [hc, List.getLast?_singleton]
          · rw [List.getLast?_cons, hlast, Option.getD_some]
        · rw [List.cons_append, split, if_pos hc, hother other hslash, List.cons_append]
    · next hc =>
      obtain ⟨start, rest, hparts⟩ := List.exists_cons_of_ne_nil (split_ne_nil cs)
      simp only [hparts] at h
      cases parts with
      | nil =>
        -- There is no slash: the path is the name.
        obtain ⟨rfl, rfl⟩ := List.cons.inj h
        rw [eq_of_split hparts]
        exact ⟨[], rfl, .inl rfl, fun other => split_of_notMem⟩
      | cons first parts =>
        obtain ⟨rfl, hrest⟩ := List.cons.inj h
        have hsplit : split cs = (start :: parts) ++ [name] := by rw [hparts, hrest]; rfl
        obtain ⟨before, rfl, hbefore, hother⟩ := ih hsplit
        refine ⟨c :: before, rfl, ?_, fun other hslash => ?_⟩
        · rcases hbefore with rfl | hlast
          · have hone := hother [] List.not_mem_nil
            simp [split] at hone
          · exact .inr (by rw [List.getLast?_cons, hlast, Option.getD_some])
        · rw [List.cons_append, split, if_neg hc, hother other hslash, List.cons_append,
            List.cons_append]

/-- Whether a path starts at the root does not hang on the name at its end. -/
theorem isAbsolute_append {path : String} (hpath : path.toList = before ++ name)
    (hname : '/' ∉ name) : isAbsolute path = (before.head? == some '/') := by
  rw [isAbsolute, hpath]
  cases before with
  | cons c before => rfl
  | nil =>
    have hhead : name.head? ≠ some '/' := fun h => hname (List.mem_of_head? h)
    simpa using hhead

/-- A path has one last name. -/
theorem eq_of_append {before' name' : List Char} (h : before ++ name = before' ++ name')
    (hbefore : IsBefore before) (hbefore' : IsBefore before') (hname : '/' ∉ name)
    (hname' : '/' ∉ name') : name = name' := by
  -- What the one path has more of before its name ends in a slash, but is part of the other's name.
  have hmore : ∀ {start more rest : List Char}, IsBefore (start ++ more) → '/' ∉ more ++ rest →
      more = [] := by
    intro start more rest hstart hrest
    by_contra hne
    obtain ⟨c, hc⟩ := Option.ne_none_iff_exists'.1 (List.getLast?_eq_none_iff.not.2 hne)
    have hlast : (start ++ more).getLast? = some c := by
      rw [List.getLast?_append, hc, Option.some_or]
    rcases hstart with hnil | hslash
    · exact hne (List.append_eq_nil_iff.1 hnil).2
    · rw [hlast, Option.some.injEq] at hslash
      exact hrest (List.mem_append_left _ (hslash ▸ List.mem_of_getLast? hc))
  rcases List.append_eq_append_iff.1 h with ⟨more, rfl, rfl⟩ | ⟨more, rfl, rfl⟩
  · rw [hmore hbefore' hname, List.nil_append]
  · rw [hmore hbefore hname', List.nil_append]

/-! ## The last name of a path -/

/-- A name is neither a slash at the end of a path nor a step to the directory itself. -/
theorem trimBackward_name (h : IsName name) (rest : List Char) :
    trimBackward (name.reverse ++ rest) = name.reverse ++ rest := by
  obtain ⟨c, others, hname⟩ := List.exists_cons_of_ne_nil
    (List.reverse_eq_nil_iff.not.2 h.ne_nil)
  have hreverse : name = others.reverse ++ [c] := by
    rw [← List.reverse_reverse name, hname, List.reverse_cons]
  have hslash : '/' ≠ c ∧ '/' ∉ others := by
    have := h.noSlash
    simp_all
  rw [hname, List.cons_append, trimBackward, if_neg (Ne.symm hslash.1), if_neg]
  rintro ⟨rfl, hhead⟩
  cases others with
  | nil => exact h.ne_here hreverse
  | cons next others => exact hslash.2 (List.mem_of_head? hhead)

theorem splitLast_append {socket : String} (hsocket : socket.toList = before ++ name)
    (hbefore : IsBefore before) (h : IsName name) : splitLast socket = (before, name) := by
  have hname : ∀ c ∈ name.reverse, decide (c ≠ '/') = true := fun c hc =>
    decide_eq_true fun hslash => h.noSlash (hslash ▸ List.mem_reverse.1 hc)
  have hrest : ∀ c ∈ before.reverse.head?, decide (c ≠ '/') = false := by
    intro c hc
    rcases hbefore with rfl | hlast
    · cases hc
    · rw [List.head?_reverse, hlast] at hc
      cases hc
      rfl
  have htake : before.reverse.takeWhile (· ≠ '/') = [] := by
    cases hcs : before.reverse with
    | nil => rfl
    | cons c cs => rw [List.takeWhile_cons_of_neg (by simpa using hrest c (by rw [hcs]; rfl))]
  have hdrop : before.reverse.dropWhile (· ≠ '/') = before.reverse := by
    cases hcs : before.reverse with
    | nil => rfl
    | cons c cs => rw [List.dropWhile_cons_of_neg (by simpa using hrest c (by rw [hcs]; rfl))]
  rw [splitLast, hsocket, List.reverse_append, trimBackward_name h,
    List.takeWhile_append_of_pos hname, List.dropWhile_append_of_pos hname, htake, hdrop,
    List.append_nil, List.reverse_reverse, List.reverse_reverse]

theorem isBefore_splitLast (path : String) : IsBefore (splitLast path).1 := by
  rw [splitLast, IsBefore, List.reverse_eq_nil_iff, List.getLast?_reverse]
  generalize trimBackward path.toList.reverse = backward
  induction backward with
  | nil => exact .inl rfl
  | cons c backward ih =>
    rw [List.dropWhile_cons]
    split
    · exact ih
    · next hc => exact .inr (by simpa using hc)

theorem notMem_splitLast (path : String) : '/' ∉ (splitLast path).2 := by
  intro h
  simpa using List.mem_takeWhile_imp (List.mem_reverse.1 h)

theorem stem_ne_nil (h : name ≠ []) : stem name ≠ [] := by
  rw [stem]
  split
  · exact h
  · next dotted hdotted =>
    split
    · exact h
    · next hlength =>
      have hpos := List.length_pos_iff.2 hdotted
      rw [← List.length_pos_iff, List.length_dropLast]
      omega

/-- The name of a lock file has the stem that it was made of. -/
theorem stem_append_lock (h : name ≠ []) : stem (name ++ ".lock".toList) = name := by
  have hdotted : ((name ++ ".lock".toList).reverse.dropWhile (· ≠ '.')).reverse = name ++ ['.'] := by
    simp
  have hlength : (name ++ ['.']).length ≠ 1 := by simpa using h
  rw [stem, hdotted]
  split
  · next hnil => simp at hnil
  · rw [if_neg hlength, List.dropLast_concat]

theorem mem_of_mem_stem {c : Char} (h : c ∈ stem name) : c ∈ name := by
  have hdrop : ∀ d ∈ (name.reverse.dropWhile (· ≠ '.')).reverse, d ∈ name := fun d hd =>
    List.mem_reverse.1 ((List.dropWhile_sublist _).mem (List.mem_reverse.1 hd))
  rw [stem] at h
  split at h
  · exact h
  · split at h
    · exact h
    · exact hdrop c (List.dropLast_subset _ h)

/-- The lock file of a socket lies beside it and has its stem, unless nothing but a dot is left of
the socket's name. -/
theorem lockFile_append {socket : String} (hsocket : socket.toList = before ++ name)
    (hbefore : IsBefore before) (h : IsName name) :
    (lockFile socket).toList = before ++ if stem name = ['.'] then ['.', '.'] else lockName name := by
  have hnone : ¬ (name = [] ∨ name = ['.'] ∨ name = ['.', '.']) := by
    simp [h.ne_nil, h.ne_here, h.ne_up]
  rw [lockFile, fileName?, splitLast_append hsocket hbefore h, if_neg hnone]
  dsimp only
  rw [hsocket]
  split_ifs with hstem hdot hdot
  · rw [String.toList_ofList]
  · exact absurd hstem.1 hdot
  · exact absurd ⟨hdot, rfl⟩ hstem
  · rw [String.toList_ofList, lockName, List.append_assoc]

end Path

namespace Files

open VirtualTouchpad.Path (IsName IsBefore lockName)

variable {files : Files} {here location directory : Location} {parts : List (List Char)}
  {name next : List Char} {path socket : String}

/-! ## Other names in a directory -/

section Steps

variable {step : List Char} {steps : List (List Char)}

theorem reaches_stay_iff (hstep : step = [] ∨ step = ['.']) :
    Reaches files here (step :: steps) location ↔ Reaches files here steps location := by
  constructor
  · intro h
    cases h with
    | stay _ hothers => exact hothers
    | up => simp at hstep
    | down hname | last hname => exact absurd hstep hname
  · exact .stay hstep

theorem reaches_up_iff : Reaches files here (['.', '.'] :: steps) location ↔
    Reaches files here.dropLast steps location := by
  constructor
  · intro h
    cases h with
    | stay hstep => simp at hstep
    | up hothers => exact hothers
    | down _ hup | last _ hup => exact absurd rfl hup
  · exact .up

theorem reaches_down_iff (hname : ¬ (step = [] ∨ step = ['.'])) (hup : step ≠ ['.', '.'])
    (hsteps : steps ≠ []) : Reaches files here (step :: steps) location ↔
      ¬ 255 < (String.ofList step).utf8ByteSize ∧
      files.get? (here ++ [String.ofList step]) = some .directory ∧
      Reaches files (here ++ [String.ofList step]) steps location := by
  constructor
  · intro h
    cases h with
    | stay hstep => exact absurd hstep hname
    | up => exact absurd rfl hup
    | down _ _ hsize hdirectory hothers => exact ⟨hsize, hdirectory, hothers⟩
    | last => exact absurd rfl hsteps
  · rintro ⟨hsize, hdirectory, hothers⟩
    exact .down hname hup hsize hdirectory hothers

end Steps

/-- A path that ends in a name leads to the directory before the name, and there. -/
theorem reaches_append_iff : Reaches files here (parts ++ [name]) location ↔
    ∃ directory, files.walk here parts = .ok (.present directory .directory) ∧
      (name ≠ [] ∧ name ≠ ['.'] ∧ name ≠ ['.', '.']) ∧
      ¬ 255 < (String.ofList name).utf8ByteSize ∧ location = directory ++ [String.ofList name] := by
  induction parts generalizing here with
  | nil =>
    constructor
    · intro h
      cases h with
      | stay _ hothers | up hothers | down _ _ _ _ hothers => cases hothers
      | last hname hup hsize =>
        exact ⟨here, rfl, ⟨fun h => hname (.inl h), fun h => hname (.inr h), hup⟩, hsize, rfl⟩
    · rintro ⟨directory, hwalk, ⟨hnil, hhere, hup⟩, hsize, rfl⟩
      cases hwalk
      exact .last (not_or.2 ⟨hnil, hhere⟩) hup hsize
  | cons step parts ih =>
    rw [List.cons_append, walk]
    by_cases hstay : step = [] ∨ step = ['.']
    · rw [if_pos hstay, reaches_stay_iff hstay, ih]
    rw [if_neg hstay]
    by_cases hup : step = ['.', '.']
    · rw [if_pos hup, hup, reaches_up_iff, ih]
    rw [if_neg hup, reaches_down_iff hstay hup (by simp)]
    dsimp only
    by_cases hsize : 255 < (String.ofList step).utf8ByteSize
    · simp [hsize]
    rw [if_neg hsize, ih]
    -- What is no directory ends the path, or makes it fail.
    cases hnode : files.get? (here ++ [String.ofList step]) with
    | none =>
      cases parts.all (· = []) <;> simp
    | some node =>
      cases node with
      | directory => simp [hsize]
      | file | socket | nullDevice =>
        by_cases hnil : parts = []
        · simp [hnil]
        · cases parts.all (· = []) <;> simp [hnil]

/-- A path to a location is cut before its name, and with another name it leads to another place in
the same directory. -/
theorem Leads.exists_before (h : Leads files path location) :
    ∃ before name directory, path.toList = before ++ name ∧ IsBefore before ∧ IsName name ∧
      location = directory ++ [String.ofList name] ∧
      ∀ other next place, other.toList = before ++ next → '/' ∉ next → Leads files other place →
        IsName next ∧ place = directory ++ [String.ofList next] := by
  have hsplit := List.dropLast_concat_getLast (Path.split_ne_nil path.toList)
  have hreaches := h.reaches
  rw [← hsplit] at hreaches
  obtain ⟨before, hpath, hbefore, hother⟩ := Path.exists_before hsplit.symm
  obtain ⟨directory, hwalk, ⟨hnil, hhere, hup⟩, -, hlocation⟩ := reaches_append_iff.1 hreaches
  have hslash := Path.notMem_of_mem_split (List.getLast_mem (Path.split_ne_nil path.toList))
  refine ⟨before, _, directory, hpath, hbefore, ⟨hnil, hhere, hup, hslash⟩, hlocation, ?_⟩
  intro other next place heq hnext hleads
  have hreaches' := hleads.reaches
  have habsolute : Path.isAbsolute other = Path.isAbsolute path := by
    rw [Path.isAbsolute_append heq hnext, Path.isAbsolute_append hpath hslash]
  rw [heq, hother next hnext, reaches_append_iff, habsolute, hwalk] at hreaches'
  obtain ⟨_, hsame, ⟨hnil, hhere, hup⟩, -, rfl⟩ := hreaches'
  cases hsame
  exact ⟨⟨hnil, hhere, hup, hnext⟩, rfl⟩

/-- A path leads to one place. -/
theorem Leads.unique {other : Location} (h : Leads files path location)
    (hother : Leads files path other) : location = other := by
  obtain ⟨before, name, directory, hpath, -, hname, rfl, hplace⟩ := h.exists_before
  exact (hplace _ _ _ hpath hname.noSlash hother).2.symm

/-- The lock file of a socket lies beside it, and the two paths say whether it is the socket. -/
theorem Leads.of_lockFile {lock : Location} (h : Leads files socket location)
    (hlock : Leads files (Path.lockFile socket) lock) :
    ∃ directory name, location = directory ++ [String.ofList name] ∧
      lock = directory ++ [String.ofList (lockName name)] ∧
      (Path.lockFile socket = socket ↔ lockName name = name) := by
  obtain ⟨before, name, directory, hsocket, hbefore, hname, rfl, hother⟩ := h.exists_before
  have hpath := Path.lockFile_append hsocket hbefore hname
  by_cases hdot : Path.stem name = ['.']
  · rw [if_pos hdot] at hpath
    exact absurd rfl (hother _ _ _ hpath (by decide) hlock).1.ne_up
  · rw [if_neg hdot] at hpath
    refine ⟨directory, name, rfl, (hother _ _ _ hpath ?_ hlock).2, ?_⟩
    · simpa [lockName] using fun h => hname.noSlash (Path.mem_of_mem_stem h)
    · rw [← String.toList_inj, hpath, hsocket, List.append_cancel_left_eq]

/-- A lock file has a name that ends in `.lock`. -/
theorem Leads.exists_lockName (h : Leads files (Path.lockFile socket) location) :
    ∃ directory start, start ≠ [] ∧
      location = directory ++ [String.ofList (start ++ ".lock".toList)] := by
  obtain ⟨before, name, directory, hpath, hbefore, hname, rfl, -⟩ := h.exists_before
  have hnamed {other : List Char} (hslash : '/' ∉ other)
      (heq : (Path.lockFile socket).toList = (Path.splitLast socket).1 ++ other) : name = other :=
    Path.eq_of_append (hpath.symm.trans heq) hbefore (Path.isBefore_splitLast socket)
      hname.noSlash hslash
  rw [Path.lockFile, Path.fileName?] at hpath hnamed
  split_ifs at hpath hnamed with hnone
  · rw [Path.splitLast_append hpath hbefore hname] at hnone
    simp [hname.ne_nil, hname.ne_here, hname.ne_up] at hnone
  · dsimp only at hpath hnamed
    split_ifs at hnamed with hdot
    · exact absurd (hnamed (by decide) (String.toList_ofList)) hname.ne_up
    · refine ⟨directory, _, Path.stem_ne_nil fun hnil => hnone (.inl hnil), ?_⟩
      have hslash : '/' ∉ Path.stem (Path.splitLast socket).2 ++ ".lock".toList := by
        simpa using fun hmem => Path.notMem_splitLast socket (Path.mem_of_mem_stem hmem)
      rw [hnamed hslash (by rw [String.toList_ofList, List.append_assoc])]

/-- A socket where a lock file lies, and which has one, is its own lock file. -/
theorem Leads.lockFile_eq_self {other : String} {lock : Location} (h : Leads files socket location)
    (hlock : Leads files (Path.lockFile socket) lock)
    (hother : Leads files (Path.lockFile other) location) : Path.lockFile socket = socket := by
  obtain ⟨directory, name, rfl, -, hself⟩ := h.of_lockFile hlock
  obtain ⟨directory', start, hstart, hlocation⟩ := hother.exists_lockName
  obtain ⟨-, hname⟩ := List.append_inj' hlocation rfl
  rw [List.singleton_inj, String.ofList_inj] at hname
  rw [hself, hname, lockName, Path.stem_append_lock hstart]

theorem Leads.lock_eq {lock : Location} {name : String}
    (h : Leads files socket (directory ++ [name])) (hlock : Leads files (Path.lockFile socket) lock) :
    lock = directory ++ [String.ofList (lockName name.toList)] := by
  obtain ⟨before, name', hsocket, rfl, -⟩ := h.of_lockFile hlock
  obtain ⟨rfl, hname⟩ := List.append_inj' hsocket rfl
  rw [List.singleton_inj.1 hname, String.toList_ofList]

end Files

end VirtualTouchpad
