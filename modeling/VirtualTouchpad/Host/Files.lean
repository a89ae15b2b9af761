/-
# Files

A small file system: files, directories, sockets, and one device that takes
everything.  Relative paths start in the working directory.

A file may be locked by one opening of it at a time; openings are numbered.
-/
import VirtualTouchpad.Host.Errno
import VirtualTouchpad.Host.Path
import VirtualTouchpad.Text.Utf8

namespace VirtualTouchpad

/-! ## Places -/

/-- A place in the file system: the names on the way from the root. -/
abbrev Location := List String

/-- What a place holds. -/
inductive Node where
  /-- Bytes, and the opening that locks them. -/
  | file (content : List UInt8) (holder : Option Nat)
  | directory
  /-- A socket with its permission bits. -/
  | socket (mode : Nat)
  /-- The device that takes everything. -/
  | nullDevice
  deriving DecidableEq, Repr

/-- The places that are not empty, and the number of the next opening. -/
structure Files where
  entries : List (Location × Node)
  openings : Nat
  deriving Repr

/-- Where a path leads.  A slash at its end insists on a directory. -/
inductive Place where
  /-- To something. -/
  | present (location : Location) (node : Node)
  /-- To something that is no directory, with a slash after its name. -/
  | unfit
  /-- To a free place; `slash` says that a slash follows the name. -/
  | vacant (location : Location) (slash : Bool)
  deriving Repr

namespace Files

/-- The directory that relative paths start in. -/
def workingDirectory : Location := ["work"]

/-- A file system with an empty working directory. -/
def empty : Files where
  entries := [([], .directory), (workingDirectory, .directory), (["dev"], .directory),
    (["dev", "null"], .nullDevice), (["tmp"], .directory)]
  openings := 0

/-- What a place holds. -/
def get? (files : Files) (location : Location) : Option Node :=
  (files.entries.find? (·.1 == location)).map (·.2)

/-- The file system with something at a place. -/
def put (files : Files) (location : Location) (node : Node) : Files :=
  { files with entries := (location, node) :: files.entries.filter (·.1 != location) }

/-- The file system with nothing at a place. -/
def erase (files : Files) (location : Location) : Files :=
  { files with entries := files.entries.filter (·.1 != location) }

/-- Follows the steps of a path from a directory. -/
def walk (files : Files) : Location → List (List Char) → Except IoError Place
  | here, [] => .ok (.present here .directory)
  | here, step :: steps =>
    if step = [] ∨ step = ['.'] then walk files here steps
    else if step = ['.', '.'] then walk files here.dropLast steps
    else
      let name := String.ofList step
      let location := here ++ [name]
      if 255 < name.utf8ByteSize then .error (.os Errno.nameTooLong)
      else
        match files.get? location with
        | none =>
          if steps.all (· = []) then .ok (.vacant location !steps.isEmpty)
          else .error (.os Errno.noEntry)
        | some .directory => walk files location steps
        | some node =>
          if steps = [] then .ok (.present location node)
          else if steps.all (· = []) then .ok .unfit
          else .error (.os Errno.notDirectory)

/-- Where a path leads. -/
def locate (files : Files) (path : String) : Except IoError Place :=
  if path.toList.contains '\x00' then .error .nulInPath
  else if path = "" then .error (.os Errno.noEntry)
  else if 4096 ≤ path.utf8ByteSize then .error (.os Errno.nameTooLong)
  else files.walk (if Path.isAbsolute path then [] else workingDirectory) (Path.split path.toList)

/-! ## Reading and writing -/

/-- The bytes of a file. -/
def read (files : Files) (path : String) : Except IoError (List UInt8) := do
  match ← files.locate path with
  | .present _ (.file content _) => .ok content
  | .present _ .directory => .error (.os Errno.isDirectory)
  | .present _ (.socket _) => .error (.os Errno.noDevice)
  | .present _ .nullDevice => .ok []
  | .unfit => .error (.os Errno.notDirectory)
  | .vacant .. => .error (.os Errno.noEntry)

/-- The text of a file. -/
def readText (files : Files) (path : String) : Except IoError String := do
  match textOf? (← files.read path) with
  | some text => .ok text
  | none => .error .notText

/-- Gives a file new content, making it if need be; its lock stays. -/
def write (files : Files) (path : String) (content : List UInt8) : Files :=
  match files.locate path with
  | .ok (.present location (.file _ holder)) => files.put location (.file content holder)
  | .ok (.vacant location false) => files.put location (.file content none)
  | _ => files

/-- Opens something that is there for writing. -/
def openExisting (files : Files) (path : String) : Except IoError Unit := do
  match ← files.locate path with
  | .present _ (.file ..) => .ok ()
  | .present _ .directory => .error (.os Errno.isDirectory)
  | .present _ (.socket _) => .error (.os Errno.noDevice)
  | .present _ .nullDevice => .ok ()
  | .unfit => .error (.os Errno.notDirectory)
  | .vacant .. => .error (.os Errno.noEntry)

/-! ## Directories and sockets -/

/-- Makes a directory. -/
def makeDirectory (files : Files) (path : String) : Except IoError Files := do
  match ← files.locate path with
  | .present .. | .unfit => .error (.os Errno.alreadyExists)
  | .vacant location _ => .ok (files.put location .directory)

/-- Whether a path leads to a directory. -/
def isDirectory (files : Files) (path : String) : Bool :=
  match files.locate path with
  | .ok (.present _ .directory) => true
  | _ => false

/-- Makes a directory, unless it is there; otherwise the error. -/
def ensureDirectory (files : Files) (path : String) : Files × Option IoError :=
  match files.makeDirectory path with
  | .ok files => (files, none)
  | .error e => (files, if files.isDirectory path then none else some e)

/-- Makes a directory and those that it lies in; the number is a bound on the length of the path. -/
def makeDirectoriesIn : Nat → Files → String → Files × Option IoError
  | 0, files, _ => (files, none)
  | steps + 1, files, path =>
    if path = "" then (files, none)
    else
      match files.ensureDirectory path with
      | (files, some e) =>
        if e = .os Errno.noEntry then
          match makeDirectoriesIn steps files ((Path.parent? path).getD "") with
          | (files, none) => files.ensureDirectory path
          | (files, some e) => (files, some e)
        else (files, some e)
      | (files, none) => (files, none)

/-- Makes a directory and those that it lies in, if they are not there; the error says why not all
of them are there then. -/
def makeDirectories (files : Files) (path : String) : Files × Option IoError :=
  makeDirectoriesIn path.length files path

/-- Removes what a path leads to, unless it is a directory. -/
def remove (files : Files) (path : String) : Files :=
  match files.locate path with
  | .ok (.present location node) => if node = .directory then files else files.erase location
  | _ => files

/-- Binds a socket to a free place. -/
def bind (files : Files) (path : String) (mode : Nat) : Except IoError Files :=
  if 108 ≤ path.utf8ByteSize then .error .addressTooLong
  else do
    match ← files.locate path with
    | .present .. | .unfit => .error (.os Errno.addressInUse)
    | .vacant _ true => .error (.os Errno.noEntry)
    | .vacant location false => .ok (files.put location (.socket mode))

/-- The permission bits of a socket. -/
def mode? (files : Files) (path : String) : Option Nat :=
  match files.locate path with
  | .ok (.present _ (.socket mode)) => some mode
  | _ => none

/-- Whether a path leads to anything. -/
def exists? (files : Files) (path : String) : Bool :=
  match files.locate path with
  | .ok (.present ..) => true
  | _ => false

/-! ## Locks -/

/-- An opening of a file that may hold its lock. -/
structure Opening where
  number : Nat
  location : Location
  deriving DecidableEq, Repr

/-- Opens a file to lock it, making it if it is not there. -/
def openForLock (files : Files) (path : String) : Except IoError (Files × Opening) := do
  let opened (files : Files) (location : Location) : Files × Opening :=
    ({ files with openings := files.openings + 1 }, ⟨files.openings, location⟩)
  match ← files.locate path with
  | .present location (.file ..) => .ok (opened files location)
  | .present _ .directory => .error (.os Errno.isDirectory)
  | .present _ (.socket _) => .error (.os Errno.noDevice)
  | .present location .nullDevice => .ok (opened files location)
  | .unfit | .vacant _ true => .error (.os Errno.isDirectory)
  | .vacant location false => .ok (opened (files.put location (.file [] none)) location)

/-- Locks the file of an opening, if nobody holds it. -/
def tryLock (files : Files) (opening : Opening) : Option Files :=
  match files.get? opening.location with
  | some (.file content none) =>
    some (files.put opening.location (.file content (some opening.number)))
  | _ => none

/-- The content of the file of an opening. -/
def content (files : Files) (opening : Opening) : List UInt8 :=
  match files.get? opening.location with
  | some (.file content _) => content
  | _ => []

/-- Gives the file of an opening new content, if the opening holds it. -/
def replaceContent (files : Files) (opening : Opening) (content : List UInt8) : Files :=
  match files.get? opening.location with
  | some (.file _ (some holder)) =>
    if holder = opening.number then
      files.put opening.location (.file content (some holder))
    else files
  | _ => files

/-- Ends an opening, and with it the lock that it holds. -/
def close (files : Files) (opening : Opening) : Files :=
  match files.get? opening.location with
  | some (.file content (some holder)) =>
    if holder = opening.number then files.put opening.location (.file content none) else files
  | _ => files

end Files

end VirtualTouchpad
