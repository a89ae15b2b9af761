/-
# Where paths lead

A path that leads to no directory ends in a name, and leads to a location with that
name (`leads_of_locate`); whether there is anything at the location does not matter
to the way there.

Where directories stay directories, a path leads to the same location ever after
(`Leads.of_keeps`), so it does where files are only made and changed (`Grows`).  The path of a lock
file never leads to the device that takes everything (`Leads.ne_null`).
-/
import Mathlib.Tactic.ByContra
import Mathlib.Tactic.SplitIfs
import VirtualTouchpad.Host.Files

namespace VirtualTouchpad

/-! ## The last name of a path -/

namespace Path

theorem split_ne_nil (cs : List Char) : split cs ≠ [] := by
  cases cs with
  | nil => simp [split]
  | cons c cs =>
    rw [split]
    split
    · simp
    · split <;> simp

/-- A path of one part is that part. -/
theorem eq_of_split {cs part : List Char} (h : split cs = [part]) : part = cs := by
  induction cs generalizing part with
  | nil => simpa [split, eq_comm] using h
  | cons c cs ih =>
    rw [split] at h
    split at h
    · exact absurd (List.cons.inj h).2 (split_ne_nil cs)
    · obtain ⟨start, parts, hparts⟩ := List.exists_cons_of_ne_nil (split_ne_nil cs)
      simp only [hparts, List.cons.injEq] at h
      obtain ⟨rfl, rfl⟩ := h
      rw [ih hparts]

/-- The last part of a path ends like the path. -/
theorem getLast?_of_getLast?_split {cs part : List Char} (h : (split cs).getLast? = some part)
    {c : Char} (hc : part.getLast? = some c) : cs.getLast? = some c := by
  induction cs generalizing part with
  | nil =>
    cases h
    cases hc
  | cons first cs ih =>
    obtain ⟨start, parts, hparts⟩ := List.exists_cons_of_ne_nil (split_ne_nil cs)
    have hlonger (hlast : (start :: parts).getLast? = some part) :
        (first :: cs).getLast? = some c := by
      rw [List.getLast?_cons, ih (by rw [hparts, hlast]) hc]
      rfl
    rw [split] at h
    split at h
    · rw [hparts, List.getLast?_cons_cons] at h
      exact hlonger h
    · simp only [hparts] at h
      cases parts with
      | nil =>
        cases h
        rwa [eq_of_split hparts] at hc
      | cons next parts =>
        rw [List.getLast?_cons_cons] at h
        exact hlonger (by rwa [List.getLast?_cons_cons])

/-- A path without a last name ends in a dot or a slash, if it does not end at once. -/
theorem getLast?_of_fileName?_none {path : String} (h : fileName? path = none) {c : Char}
    (hc : path.toList.getLast? = some c) : c = '/' ∨ c = '.' := by
  by_contra hnot
  obtain ⟨hslash, hdot⟩ := not_or.1 hnot
  obtain ⟨rest, hrest⟩ : ∃ rest, path.toList.reverse = c :: rest := by
    rw [← List.head?_reverse] at hc
    exact List.head?_eq_some_iff.1 hc
  have hname : (splitLast path).2 = (rest.takeWhile (· ≠ '/')).reverse ++ [c] := by
    simp [splitLast, hrest, trimBackward, hslash, hdot]
  have hends : ∀ name, (splitLast path).2 = name → name.getLast? = some c := by
    rintro _ rfl
    rw [hname, List.getLast?_concat]
  rw [fileName?] at h
  split_ifs at h with hnone
  rcases hnone with hnone | hnone | hnone <;>
    have hlast := hends _ hnone <;>
    simp [Ne.symm hdot] at hlast

/-- The path of a lock file ends in `.lock`, in a dot or in a slash. -/
theorem getLast?_lockFile {socket : String} {c : Char}
    (hc : (lockFile socket).toList.getLast? = some c) : c = 'k' ∨ c = '/' ∨ c = '.' := by
  rw [lockFile] at hc
  split at hc
  · next hname => exact .inr (getLast?_of_fileName?_none hname hc)
  · next name hname =>
    dsimp only at hc
    split_ifs at hc
    · rw [String.toList_ofList, List.getLast?_append] at hc
      cases hc
      exact .inr (.inr rfl)
    · rw [String.toList_ofList, List.getLast?_append] at hc
      cases hc
      exact .inl rfl

end Path

/-- Where a path leads that ends in a directory, or insists on one. -/
def Place.WantsDirectory : Place → Prop
  | .present _ node => node = .directory
  | .unfit => True
  | .vacant _ slash => slash

namespace Files

variable {files before after : Files} {location here : Location} {path : String}
  {steps : List (List Char)}

/-! ## Places -/

theorem get?_put (files : Files) (location other : Location) (node : Node) :
    (files.put location node).get? other
      = if other = location then some node else files.get? other := by
  by_cases h : other = location
  · simp [put, get?, h]
  · have hfind : (files.entries.filter (·.1 != location)).find? (·.1 == other)
        = files.entries.find? (·.1 == other) := by
      rw [List.find?_filter]
      congr 1
      funext entry
      by_cases hentry : entry.1 = other <;> simp [hentry, h]
    simp [put, get?, h, Ne.symm h, hfind]

@[simp] theorem get?_put_self (files : Files) (location : Location) (node : Node) :
    (files.put location node).get? location = some node := by
  rw [get?_put, if_pos rfl]

/-- What is put last stays. -/
@[simp] theorem put_put (files : Files) (location : Location) (old node : Node) :
    (files.put location old).put location node = files.put location node := by
  simp [put, List.filter_filter]

@[simp] theorem get?_withOpenings (files : Files) (openings : Nat) (location : Location) :
    { files with openings := openings }.get? location = files.get? location := rfl

/-- A place that can take a file: there is a file, or nothing. -/
def TakesFile (files : Files) (location : Location) : Prop :=
  files.get? location = none ∨
    ∃ content holder, files.get? location = some (.file content holder)

/-- Some places that can take a file have other files. -/
def Grows (before after : Files) : Prop :=
  ∀ location, after.get? location = before.get? location ∨
    before.TakesFile location ∧
      ∃ content holder, after.get? location = some (.file content holder)

theorem Grows.refl (files : Files) : Grows files files := fun _ => .inl rfl

theorem grows_put (h : files.TakesFile location) (content : List UInt8) (holder : Option Nat) :
    Grows files (files.put location (.file content holder)) := by
  intro other
  rw [get?_put]
  by_cases hother : other = location
  · rw [if_pos hother, hother]
    exact .inr ⟨h, content, holder, rfl⟩
  · exact .inl (if_neg hother)

theorem Grows.trans {files before after : Files} (h : Grows before files)
    (hafter : Grows files after) : Grows before after := by
  intro location
  rcases hafter location with hsame | ⟨htakes, hfile⟩
  · rcases h location with hsame' | ⟨htakes, hfile⟩
    · exact .inl (hsame.trans hsame')
    · exact .inr ⟨htakes, hsame ▸ hfile⟩
  · rcases h location with hsame | ⟨htakes', -⟩
    · exact .inr ⟨by rwa [TakesFile, ← hsame], hfile⟩
    · exact .inr ⟨htakes', hfile⟩

/-- What is no file stays what it is. -/
theorem Grows.get?_eq {node : Node} (h : Grows before after)
    (hnode : before.get? location = some node)
    (hfile : ∀ content holder, node ≠ .file content holder) : after.get? location = some node := by
  rcases h location with hsame | ⟨hnone | ⟨content, holder, heq⟩, -⟩
  · rw [hsame, hnode]
  · rw [hnode] at hnone
    cases hnone
  · rw [hnode] at heq
    cases heq
    exact absurd rfl (hfile content holder)

/-- What can take a file goes on so. -/
theorem Grows.takesFile (h : Grows before after) (htakes : before.TakesFile location) :
    after.TakesFile location := by
  rcases h location with hsame | ⟨-, hfile⟩
  · rwa [TakesFile, hsame]
  · exact .inr hfile

/-- Nothing becomes the device. -/
theorem Grows.nullDevice (h : Grows before after)
    (hdevice : after.get? location = some .nullDevice) :
    before.get? location = some .nullDevice := by
  rcases h location with hsame | ⟨-, _, _, hfile⟩
  · rw [← hsame, hdevice]
  · rw [hdevice] at hfile
    cases hfile

/-- Directories stay directories. -/
def KeepsDirectories (before after : Files) : Prop :=
  ∀ location, before.get? location = some .directory → after.get? location = some .directory

theorem KeepsDirectories.refl (files : Files) : KeepsDirectories files files := fun _ h => h

theorem Grows.keepsDirectories (h : Grows before after) : KeepsDirectories before after :=
  fun _ hdirectory => h.get?_eq hdirectory fun _ _ heq => nomatch heq

/-! ## Following paths -/

/-- What a path to a location that needs no directory there leads to. -/
def placeAt (files : Files) (location : Location) : Place :=
  match files.get? location with
  | none => .vacant location false
  | some node => .present location node

/-- Steps of a path that end in a name, at a location that is anything or nothing; all before are
directories. -/
inductive Reaches (files : Files) : Location → List (List Char) → Location → Prop
  | stay {here location : Location} {step : List Char} {steps : List (List Char)}
      (hstep : step = [] ∨ step = ['.']) (others : Reaches files here steps location) :
      Reaches files here (step :: steps) location
  | up {here location : Location} {steps : List (List Char)}
      (others : Reaches files here.dropLast steps location) :
      Reaches files here (['.', '.'] :: steps) location
  | down {here location : Location} {step : List Char} {steps : List (List Char)}
      (hname : ¬ (step = [] ∨ step = ['.'])) (hup : step ≠ ['.', '.'])
      (hsize : ¬ 255 < (String.ofList step).utf8ByteSize)
      (hdirectory : files.get? (here ++ [String.ofList step]) = some .directory)
      (others : Reaches files (here ++ [String.ofList step]) steps location) :
      Reaches files here (step :: steps) location
  | last {here : Location} {step : List Char} (hname : ¬ (step = [] ∨ step = ['.']))
      (hup : step ≠ ['.', '.']) (hsize : ¬ 255 < (String.ofList step).utf8ByteSize) :
      Reaches files here [step] (here ++ [String.ofList step])

namespace Reaches

/-- The location has the last name of the path. -/
theorem exists_name (h : Reaches files here steps location) :
    ∃ step, steps.getLast? = some step ∧ location.getLast? = some (String.ofList step) := by
  induction h with
  | stay _ _ ih | up _ ih | down _ _ _ _ _ ih =>
    obtain ⟨step, hlast, hname⟩ := ih
    exact ⟨step, by rw [List.getLast?_cons, hlast]; rfl, hname⟩
  | @last here step => exact ⟨step, rfl, by simp⟩

/-- A path goes on leading where it led. -/
theorem of_keeps (h : Reaches before here steps location) (hkeeps : KeepsDirectories before after) :
    Reaches after here steps location := by
  induction h with
  | stay hstep _ ih => exact .stay hstep ih
  | up _ ih => exact .up ih
  | down hname hup hsize hdirectory _ ih =>
    exact .down hname hup hsize (hkeeps _ hdirectory) ih
  | last hname hup hsize => exact .last hname hup hsize

/-- Following the path finds what there is. -/
theorem walk_eq (h : Reaches files here steps location) :
    files.walk here steps = .ok (files.placeAt location) := by
  induction h with
  | stay hstep _ ih => rw [walk, if_pos hstep, ih]
  | up _ ih => rw [walk, if_neg (by decide), if_pos rfl, ih]
  | down hname hup hsize hdirectory _ ih =>
    rw [walk, if_neg hname, if_neg hup]
    simp only [if_neg hsize, hdirectory, ih]
  | @last here step hname hup hsize =>
    rw [walk, if_neg hname, if_neg hup, placeAt]
    simp only [if_neg hsize]
    cases hnode : files.get? (here ++ [String.ofList step]) with
    | none => rfl
    | some node => cases node <;> rfl

end Reaches

/-- A path leads to a directory, or insists on one, or leads to where its last name is. -/
theorem reaches_of_walk {place : Place} (h : files.walk here steps = .ok place) :
    place.WantsDirectory ∨
      ∃ location, Reaches files here steps location ∧ place = files.placeAt location := by
  induction steps generalizing here with
  | nil =>
    cases h
    exact .inl rfl
  | cons step steps ih =>
    rw [walk] at h
    by_cases hstep : step = [] ∨ step = ['.']
    · rw [if_pos hstep] at h
      exact (ih h).imp_right fun ⟨location, hreaches, heq⟩ => ⟨location, .stay hstep hreaches, heq⟩
    rw [if_neg hstep] at h
    by_cases hup : step = ['.', '.']
    · rw [if_pos hup] at h
      subst hup
      exact (ih h).imp_right fun ⟨location, hreaches, heq⟩ => ⟨location, .up hreaches, heq⟩
    rw [if_neg hup] at h
    by_cases hsize : 255 < (String.ofList step).utf8ByteSize
    · simp only [if_pos hsize] at h
      cases h
    simp only [if_neg hsize] at h
    have hlast : steps = [] →
        Reaches files here (step :: steps) (here ++ [String.ofList step]) := by
      rintro rfl
      exact .last hstep hup hsize
    cases hnode : files.get? (here ++ [String.ofList step]) with
    | none =>
      simp only [hnode] at h
      split_ifs at h
      cases h
      by_cases hsteps : steps = []
      · exact .inr ⟨_, hlast hsteps, by simp [placeAt, hnode, hsteps]⟩
      · exact .inl (by simpa [Place.WantsDirectory] using hsteps)
    | some node =>
      cases node with
      | directory =>
        simp only [hnode] at h
        exact (ih h).imp_right fun ⟨location, hreaches, heq⟩ =>
          ⟨location, .down hstep hup hsize hnode hreaches, heq⟩
      | file | socket | nullDevice =>
        simp only [hnode] at h
        split_ifs at h with hsteps
        · cases h
          exact .inr ⟨_, hlast hsteps, by simp [placeAt, hnode]⟩
        · cases h
          exact .inl trivial

/-- A path of an allowed spelling that ends in a name, at a location that is anything or nothing. -/
structure Leads (files : Files) (path : String) (location : Location) : Prop where
  noNul : ¬ path.toList.contains '\x00'
  ne_empty : path ≠ ""
  short : ¬ 4096 ≤ path.utf8ByteSize
  reaches : Reaches files (if Path.isAbsolute path then [] else workingDirectory)
    (Path.split path.toList) location

theorem Leads.of_keeps (h : Leads before path location)
    (hkeeps : KeepsDirectories before after) : Leads after path location :=
  ⟨h.noNul, h.ne_empty, h.short, h.reaches.of_keeps hkeeps⟩

theorem Leads.of_grows (h : Leads before path location) (hgrows : Grows before after) :
    Leads after path location :=
  h.of_keeps hgrows.keepsDirectories

theorem Leads.locate_eq (h : Leads files path location) :
    files.locate path = .ok (files.placeAt location) := by
  rw [locate, if_neg h.noNul, if_neg h.ne_empty, if_neg h.short, h.reaches.walk_eq]

theorem leads_of_locate {place : Place} (h : files.locate path = .ok place) :
    place.WantsDirectory ∨
      ∃ location, Leads files path location ∧ place = files.placeAt location := by
  rw [locate] at h
  split at h
  · cases h
  · next hnul =>
    split at h
    · cases h
    · next hempty =>
      split at h
      · cases h
      · next hlong =>
        exact (reaches_of_walk h).imp_right fun ⟨location, hreaches, heq⟩ =>
          ⟨location, ⟨hnul, hempty, hlong, hreaches⟩, heq⟩

/-- A lock file is not the device that takes everything: it has another name. -/
theorem Leads.ne_null {socket : String} (h : Leads files (Path.lockFile socket) location) :
    location ≠ ["dev", "null"] := by
  rintro rfl
  obtain ⟨step, hlast, hname⟩ := h.reaches.exists_name
  have hstep : step = ['n', 'u', 'l', 'l'] := by
    have hchars := congrArg String.toList (Option.some.inj hname)
    rw [String.toList_ofList] at hchars
    exact hchars.symm
  subst hstep
  have hend := Path.getLast?_of_getLast?_split hlast rfl
  rcases Path.getLast?_lockFile hend with heq | heq | heq <;> exact absurd heq (by decide)

end Files

end VirtualTouchpad
