/-
# Claims

A service claims its socket before it serves it: it locks the lock file that
belongs to the socket and writes its process number into it.  A claim on a
socket whose lock file is locked is refused, and the refusal names who the file
says has it.
-/
import VirtualTouchpad.Host.Files
import VirtualTouchpad.Text.Blank
import VirtualTouchpad.Touchpad.Config

namespace VirtualTouchpad.Service

/-- A socket that is claimed, and the opening of its lock file. -/
structure Claim where
  socket : String
  opening : Files.Opening
  deriving DecidableEq, Repr

namespace Claim

/-- Why a claim is refused. -/
inductive Refusal where
  /-- The lock file cannot be opened. -/
  | unopened (lockFile : String) (cause : IoError)
  /-- The lock file is locked; its content says by whom, unless it is blank. -/
  | taken (socket : String) (owner : String)
  deriving DecidableEq, Repr

/-- The wording of a refusal. -/
def Refusal.complaint : Refusal → Complaint
  | .unopened lockFile cause => ["Failed to open " ++ lockFile, cause.message]
  | .taken socket owner =>
    ["Touchpads on " ++ socket ++ " are already being served" ++
      if owner = "" then "" else " by pid " ++ owner]

/-- Who a lock file's content says has it: the text without blanks around it, or nothing if it is
no text. -/
def owner (content : List UInt8) : String :=
  match textOf? content with
  | some text => trimBlanks text
  | none => ""

/-- What a lock file holds while a process has it. -/
def record (pid : Nat) : List UInt8 := bytesOf (toString pid ++ "\n")

/-- Claims a socket for a process. -/
def take (files : Files) (socket : String) (pid : Nat) : Files × Except Refusal Claim :=
  let lockFile := Path.lockFile socket
  match files.openForLock lockFile with
  | .error cause => (files, .error (.unopened lockFile cause))
  | .ok (files, opening) =>
    match files.tryLock opening with
    | none => (files, .error (.taken socket (owner (files.content opening))))
    | some files => (files.replaceContent opening (record pid), .ok ⟨socket, opening⟩)

/-- Gives up a claim: the lock file is emptied and unlocked. -/
def release (files : Files) (claim : Claim) : Files :=
  (files.replaceContent claim.opening []).close claim.opening

end Claim

end VirtualTouchpad.Service
