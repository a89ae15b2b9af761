/-
# Configurations

What a set of touchpads looks like: how many there are, what their devices are
called, how large they are, and where devices are made.  A configuration is read
from a JSON file whose missing fields have defaults.
-/
import VirtualTouchpad.Host.Files
import VirtualTouchpad.Json.Typed

namespace VirtualTouchpad

/-! ## Complaints -/

/-- Messages from the outermost to the innermost cause. -/
abbrev Complaint := List String

/-- The shape and the identity of a set of touchpads. -/
structure Config where
  devices : UInt64
  /-- The name of a device, with its number for each `{}`. -/
  nameTemplate : String
  width : Int32
  height : Int32
  /-- How many contacts a device declares. -/
  slots : Int32
  devicePath : String
  deriving DecidableEq, Repr

namespace Config

/-- Two square touchpads. -/
def standard : Config where
  devices := 2
  nameTemplate := "vr-virtual-touchpad-\x7b\x7d"
  width := 0x10000
  height := 0x10000
  slots := 2
  devicePath := "/dev/uinput"

/-! ## Names -/

/-- A text with another one for each `{}`, from left to right. -/
def fillBraces (filling : List Char) : List Char → List Char
  | '{' :: '}' :: rest => filling ++ fillBraces filling rest
  | c :: rest => c :: fillBraces filling rest
  | [] => []

/-- The name of the device with a number. -/
def deviceName (config : Config) (index : Nat) : String :=
  String.ofList (fillBraces (Nat.toDigits 10 index) config.nameTemplate.toList)

/-! ## Validity -/

/-- Why a configuration is refused. -/
inductive Invalid where
  | noTouchpads
  | emptySurface (width height : Int32)
  | noSlots
  deriving DecidableEq, Repr

/-- The wording of a refusal. -/
def Invalid.message : Invalid → String
  | .noTouchpads => "At least one touchpad is required"
  | .emptySurface width height =>
    "Touch surface " ++ toString width ++ "x" ++ toString height ++ " is empty"
  | .noSlots => "At least one touch slot is required"

/-- Refuses a configuration without touchpads, surface or slots. -/
def validate (config : Config) : Except Invalid Unit :=
  if config.devices = 0 then .error .noTouchpads
  else if config.width ≤ 0 ∨ config.height ≤ 0 then
    .error (.emptySurface config.width config.height)
  else if config.slots ≤ 0 then .error .noSlots
  else .ok ()

/-- The configuration with sizes and slots of at least one. -/
def clamped (config : Config) : Config :=
  { config with
    width := if config.width < 1 then 1 else config.width
    height := if config.height < 1 then 1 else config.height
    slots := if config.slots < 1 then 1 else config.slots }

/-! ## Reading -/

/-- The fields of a configuration that were read so far. -/
structure Draft where
  devices : Option UInt64 := none
  nameTemplate : Option String := none
  width : Option Int32 := none
  height : Option Int32 := none
  slots : Option Int32 := none
  devicePath : Option String := none

/-- The configuration of a draft, with the standard for what it lacks. -/
def Draft.config (draft : Draft) : Config where
  devices := draft.devices.getD standard.devices
  nameTemplate := draft.nameTemplate.getD standard.nameTemplate
  width := draft.width.getD standard.width
  height := draft.height.getD standard.height
  slots := draft.slots.getD standard.slots
  devicePath := draft.devicePath.getD standard.devicePath

/-- The shape of a configuration in JSON. -/
def shape : Json.RecordShape Draft Config where
  title := "struct TouchpadConfig"
  fields := [
    .keep "devices" Draft.devices Json.readUInt64 fun d v => { d with devices := some v },
    .keep "name_template" Draft.nameTemplate (Json.readText "a string")
      fun d v => { d with nameTemplate := some v },
    .keep "width" Draft.width Json.readInt32 fun d v => { d with width := some v },
    .keep "height" Draft.height Json.readInt32 fun d v => { d with height := some v },
    .keep "slots" Draft.slots Json.readInt32 fun d v => { d with slots := some v },
    .keep "uinput_path" Draft.devicePath (Json.readText "path string")
      fun d v => { d with devicePath := some v }]
  blank := {}
  finish := fun draft => .ok draft.config
  mayEndEarly := true

/-- The configuration that a JSON text gives. -/
def parse (input : Json.Bytes) : Except Json.Fault Config := Json.readAll shape.read input

/-- Loads a configuration from a file and refuses one that is not valid. -/
def load (files : Files) (path : String) : Except Complaint Config := do
  let text ← (files.readText path).mapError fun e =>
    ["Failed to read config " ++ path, e.message]
  let config ← (parse (bytesOf text)).mapError fun fault =>
    ["Failed to parse config " ++ path, fault.message]
  config.validate.mapError fun e => [e.message]
  .ok config

/-- The name of the environment variable that says where devices are made. -/
def devicePathVariable : String := "VTOUCHPAD_UINPUT"

/-- The configuration with the device path of the environment, if it has one. -/
def withEnvironment (config : Config) (devicePath : Option String) : Config :=
  { config with devicePath := devicePath.getD config.devicePath }

end Config

end VirtualTouchpad
