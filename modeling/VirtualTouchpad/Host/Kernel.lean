/-
# The host

The operating system as far as input devices see it.  A path that starts with
`/dev/uinput` opens a new input device; the host keeps the list of all calls on
such devices, and the faults with which it is to meet some of them.

The number of a new device, and which call of a name is the next one, are read
off the calls so far.
-/
import VirtualTouchpad.Host.Files
import VirtualTouchpad.Input.Event

namespace VirtualTouchpad

/-! ## Calls -/

/-- The room for a device's name, a NUL at its end included. -/
def nameFieldSize : Nat := 80

/-- The field that holds a device's name: its bytes, and NULs up to the size of the field. -/
def nameField (name : String) : List UInt8 :=
  bytesOf name ++ List.replicate (nameFieldSize - (bytesOf name).length) 0

/-- A control request on an input device. -/
inductive Request where
  /-- Declares a type of events. -/
  | setEventType (eventType : UInt16)
  | setKey (code : UInt16)
  | setRelAxis (code : UInt16)
  | setAbsAxis (code : UInt16)
  | setProperty (property : UInt16)
  /-- Gives an absolute axis its range. -/
  | setupAxis (code : UInt16) (range : AxisRange)
  /-- Gives the device its identity. -/
  | setupDevice (bus vendor product version : UInt16) (name : List UInt8)
  | createDevice
  | destroyDevice
  deriving DecidableEq, Repr

/-- The name of a request. -/
def Request.name : Request → String
  | .setEventType _ => "UI_SET_EVBIT"
  | .setKey _ => "UI_SET_KEYBIT"
  | .setRelAxis _ => "UI_SET_RELBIT"
  | .setAbsAxis _ => "UI_SET_ABSBIT"
  | .setProperty _ => "UI_SET_PROPBIT"
  | .setupAxis .. => "UI_ABS_SETUP"
  | .setupDevice .. => "UI_DEV_SETUP"
  | .createDevice => "UI_DEV_CREATE"
  | .destroyDevice => "UI_DEV_DESTROY"

/-- How a write ended. -/
inductive WriteOutcome where
  /-- All bytes were taken. -/
  | whole
  /-- Only so many were taken. -/
  | short (count : Nat)
  | failed (code : Int)
  deriving DecidableEq, Repr

/-- A call on an input device; a failure code stands with a call that failed. -/
inductive KernelEvent where
  | opened (device : Nat) (path : String)
  | openFailed (path : String) (code : Int)
  | requested (device : Nat) (request : Request) (failure : Option Int)
  | written (device : Nat) (bytes : List UInt8) (outcome : WriteOutcome)
  | closed (device : Nat)
  deriving DecidableEq, Repr

namespace KernelEvent

/-- The name of the call. -/
def call : KernelEvent → String
  | .opened .. | .openFailed .. => "open"
  | .requested _ request _ => request.name
  | .written .. => "write"
  | .closed _ => "close"

/-- Whether the call opened a device. -/
def isOpening : KernelEvent → Bool
  | .opened .. => true
  | _ => false

end KernelEvent

/-! ## Faults -/

/-- How a call is made to go wrong. -/
inductive FaultEffect where
  | fails (code : Int)
  /-- A write takes at most so many bytes. -/
  | takes (count : Nat)
  deriving DecidableEq, Repr

/-- A call that is to go wrong: the `nth` call of that name, counted from one. -/
structure KernelFault where
  call : String
  nth : Nat
  effect : FaultEffect
  deriving DecidableEq, Repr

/-- The host: what is to go wrong, the calls so far, and the files. -/
structure Host where
  faults : List KernelFault
  events : List KernelEvent
  files : Files
  deriving Repr

namespace Host

/-- A host with some faults ahead and nothing done yet. -/
def new (faults : List KernelFault) : Host := ⟨faults, [], .empty⟩

/-- The host after one more call. -/
def record (host : Host) (event : KernelEvent) : Host :=
  { host with events := host.events ++ [event] }

/-- What the next call of a name is to go wrong with. -/
def nextEffect? (host : Host) (call : String) : Option FaultEffect :=
  let nth := host.events.countP (·.call == call) + 1
  (host.faults.find? fun fault => fault.call == call && fault.nth == nth).map (·.effect)

/-- The code that the next call of a name is to fail with. -/
def nextFailure? (host : Host) (call : String) : Option Int :=
  match host.nextEffect? call with
  | some (.fails code) => some code
  | _ => none

/-- The number of the next device. -/
def nextDevice (host : Host) : Nat := host.events.countP (·.isOpening)

/-! ## Opening -/

/-- What a path to a device node opens: an input device, or something else. -/
inductive Handle where
  | device (number : Nat)
  | other
  deriving DecidableEq, Repr

/-- Whether a path leads to input devices. -/
def isDevicePath (path : String) : Bool := "/dev/uinput".toList.isPrefixOf path.toList

/-- Opens an input device; a call that was interrupted is made again, at most so often. -/
def openDeviceIn : Nat → Host → String → Host × Except IoError Handle
  | tries, host, path =>
    match host.nextFailure? "open", tries with
    | none, _ => (host.record (.opened host.nextDevice path), .ok (.device host.nextDevice))
    | some code, 0 => (host.record (.openFailed path code), .error (.os code))
    | some code, tries + 1 =>
      let host := host.record (.openFailed path code)
      if code = Errno.interrupted then openDeviceIn tries host path
      else (host, .error (.os code))

/-- Opens a path as a device node. -/
def openNode (host : Host) (path : String) : Host × Except IoError Handle :=
  if path.toList.contains '\x00' then (host, .error .nulInPath)
  else if isDevicePath path then openDeviceIn host.faults.length host path
  else (host, (host.files.openExisting path).map fun _ => .other)

/-! ## Requests, writes and closing -/

/-- Makes a request on a device; the code is that of a failure. -/
def request (host : Host) (device : Nat) (request : Request) : Host × Option Int :=
  let failure := host.nextFailure? request.name
  (host.record (.requested device request failure), failure)

/-- Makes requests in order up to the first that fails, and gives that one and its code. -/
def requestAll (host : Host) (device : Nat) : List Request → Host × Option (Request × Int)
  | [] => (host, none)
  | r :: requests =>
    match host.request device r with
    | (host, none) => host.requestAll device requests
    | (host, some code) => (host, some (r, code))

/-- Closes a device. -/
def close (host : Host) (device : Nat) : Host := host.record (.closed device)

/-- Writes bytes to a device in at most so many calls: an interrupted call is made again, and
after a short one the rest is written. -/
def writeIn : Nat → Host → Nat → List UInt8 → Host × Option IoError
  | 0, host, _, _ => (host, none)
  | calls + 1, host, device, bytes =>
    if bytes = [] then (host, none)
    else
      match host.nextEffect? "write" with
      | none => (host.record (.written device bytes .whole), none)
      | some (.fails code) =>
        let host := host.record (.written device bytes (.failed code))
        if code = Errno.interrupted then writeIn calls host device bytes
        else (host, some (.os code))
      | some (.takes count) =>
        let taken := min count bytes.length
        let host := host.record (.written device bytes (.short taken))
        if taken = 0 then (host, some .wroteNothing)
        else writeIn calls host device (bytes.drop taken)

/-- Writes bytes to a device.  Every call but the last meets a fault of its own. -/
def write (host : Host) (device : Nat) (bytes : List UInt8) : Host × Option IoError :=
  writeIn (host.faults.length + 1) host device bytes

end Host

end VirtualTouchpad
