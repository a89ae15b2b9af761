/-
# Settings from arguments

The arguments of the manager's command: options with a value, given as
`--name value`, `--name=value`, `-n value`, `-nvalue` or `-n=value`, and two flags
that end the command.  There are no other arguments.

Arguments are taken from left to right.  The value that follows its option as an
argument of its own is looked at only when the next option comes, or the end; an
argument that is not known is refused before that.
-/
import VirtualTouchpad.CommandLine.Numeral
import VirtualTouchpad.Text.Terminal

namespace VirtualTouchpad.CommandLine

/-! ## Options -/

/-- The options that take a value. -/
inductive Key where
  /-- The socket to serve. -/
  | socket
  /-- The number from which a socket is named if none is given. -/
  | serial
  /-- The file with the configuration. -/
  | config
  /-- How many touchpads there are. -/
  | devices
  /-- Where devices are made. -/
  | devicePath
  deriving DecidableEq, Repr

namespace Key

/-- The long name of an option. -/
def name : Key → String
  | .socket => "socket"
  | .serial => "instance"
  | .config => "config"
  | .devices => "devices"
  | .devicePath => "uinput"

/-- The letter of an option, if it has one. -/
def letter? : Key → Option Char
  | .socket => some 's'
  | .serial => some 'i'
  | .config => some 'c'
  | .devices => some 'd'
  | .devicePath => none

/-- All options. -/
def all : List Key := [.socket, .serial, .config, .devices, .devicePath]

/-- How a complaint names an option. -/
def label (key : Key) : String := "--" ++ key.name ++ " <" ++ key.name.map Char.toUpper ++ ">"

end Key

/-- The flags, which end the command. -/
inductive Flag where
  | help
  | version
  deriving DecidableEq, Repr

namespace Flag

/-- The long name of a flag. -/
def name : Flag → String
  | .help => "help"
  | .version => "version"

/-- The letter of a flag. -/
def letter : Flag → Char
  | .help => 'h'
  | .version => 'V'

/-- All flags. -/
def all : List Flag := [.help, .version]

end Flag

/-! ## Faults -/

/-- Why arguments are refused. -/
inductive ArgumentFault where
  | unknown (argument : String)
  | valueMissing (key : Key)
  | valueUnneeded (flag : Flag) (value : String)
  | repeated (key : Key)
  | invalid (key : Key) (value reason : String)
  deriving DecidableEq, Repr

/-- The wording of a fault, with what a terminal shows of the arguments. -/
def ArgumentFault.message : ArgumentFault → String
  | .unknown argument => "unexpected argument '" ++ Terminal.shown argument ++ "' found"
  | .valueMissing key => "a value is required for '" ++ key.label ++ "' but none was supplied"
  | .valueUnneeded flag value =>
    "unexpected value '" ++ Terminal.shown value ++ "' for '--" ++ flag.name ++
      "' found; no more were expected"
  | .repeated key => "the argument '" ++ key.label ++ "' cannot be used multiple times"
  | .invalid key value reason =>
    "invalid value '" ++ Terminal.shown value ++ "' for '" ++ key.label ++ "': " ++ reason

/-- Why the reading of arguments ends early. -/
inductive Stop where
  | flag (flag : Flag)
  | fault (fault : ArgumentFault)
  deriving DecidableEq, Repr

/-! ## Settings -/

/-- The values that options were given. -/
structure Settings where
  socket : Option String := none
  serial : Option UInt32 := none
  config : Option String := none
  devices : Option UInt64 := none
  devicePath : Option String := none
  deriving DecidableEq, Repr

namespace Settings

/-- Whether an option was given a value. -/
def has (settings : Settings) : Key → Bool
  | .socket => settings.socket.isSome
  | .serial => settings.serial.isSome
  | .config => settings.config.isSome
  | .devices => settings.devices.isSome
  | .devicePath => settings.devicePath.isSome

/-- A path, which must not be empty. -/
def readPath (key : Key) (value : String) : Except ArgumentFault String :=
  if value = "" then .error (.valueMissing key) else .ok value

/-- A number of touchpads. -/
def readCount (key : Key) (value : String) : Except ArgumentFault UInt64 :=
  match readUnsigned (UInt64.size - 1) value with
  | .ok n => .ok (UInt64.ofNat n)
  | .error fault => .error (.invalid key value fault.message)

/-- A number that names a socket. -/
def readSerial (key : Key) (value : String) : Except ArgumentFault UInt32 :=
  match readSigned value with
  | .ok n =>
    if 0 ≤ n ∧ n < UInt32.size then .ok (UInt32.ofNat n.toNat)
    else .error (.invalid key value (toString n ++ " is not in 0..=4294967295"))
  | .error fault => .error (.invalid key value fault.message)

/-- Gives an option its value. -/
def store (settings : Settings) (key : Key) (value : String) : Except ArgumentFault Settings :=
  if settings.has key then .error (.repeated key)
  else
    match key with
    | .socket => (readPath key value).map fun v => { settings with socket := some v }
    | .serial => (readSerial key value).map fun v => { settings with serial := some v }
    | .config => (readPath key value).map fun v => { settings with config := some v }
    | .devices => (readCount key value).map fun v => { settings with devices := some v }
    | .devicePath => (readPath key value).map fun v => { settings with devicePath := some v }

end Settings

/-! ## Arguments -/

/-- An argument by its form. -/
inductive Argument where
  /-- The mark `--`, after which nothing is an option. -/
  | mark
  | long (name : String) (attached : Option String)
  | short (letter : Char) (attached : Option String)
  | plain (text : String)
  deriving DecidableEq, Repr

namespace Argument

/-- What is attached to a letter; an equals sign before it does not count. -/
def attachedTo : List Char → Option String
  | [] => none
  | '=' :: value => some (String.ofList value)
  | value => some (String.ofList value)

/-- A name, and what follows it after an equals sign. -/
def splitName (text : List Char) : String × Option String :=
  let name := String.ofList (text.takeWhile (· ≠ '='))
  match text.dropWhile (· ≠ '=') with
  | [] => (name, none)
  | _ :: value => (name, some (String.ofList value))

/-- The form of an argument. -/
def ofText (text : String) : Argument :=
  match text.toList with
  | ['-', '-'] => .mark
  | '-' :: '-' :: rest => .long (splitName rest).1 (splitName rest).2
  | '-' :: letter :: rest => .short letter (attachedTo rest)
  | _ => .plain text

end Argument

/-! ## Reading -/

/-- The reading of arguments: what was given so far, the option whose value is not looked at yet
or still to come, and whether the mark was passed. -/
structure Reading where
  settings : Settings := {}
  pending : Option (Key × Option String) := none
  marked : Bool := false

namespace Reading

/-- Looks at the value of the pending option. -/
def settle (reading : Reading) : Except Stop Reading :=
  match reading.pending with
  | none => .ok reading
  | some (key, none) => .error (.fault (.valueMissing key))
  | some (key, some value) =>
    match reading.settings.store key value with
    | .ok settings => .ok { reading with settings := settings, pending := none }
    | .error fault => .error (.fault fault)

/-- Takes an option, with its value if that is attached. -/
def takeKey (reading : Reading) (key : Key) (attached : Option String) : Except Stop Reading := do
  let reading ← reading.settle
  let reading := { reading with pending := some (key, attached) }
  if attached.isSome then reading.settle else .ok reading

/-- Takes a flag. -/
def takeFlag (reading : Reading) (flag : Flag) (attached : Option String) :
    Except Stop Reading :=
  match attached with
  | some value => .error (.fault (.valueUnneeded flag value))
  | none => do
    let _ ← reading.settle
    .error (.flag flag)

/-- Takes an argument that is not of the form of an option. -/
def takePlain (reading : Reading) (text : String) : Except Stop Reading :=
  match reading.pending, reading.marked with
  | some (key, none), false => .ok { reading with pending := some (key, some text) }
  | _, _ => .error (.fault (.unknown text))

/-- Takes an argument. -/
def take (reading : Reading) (text : String) : Except Stop Reading :=
  if reading.marked then reading.takePlain text
  else
    match Argument.ofText text with
    | .mark => .ok { reading with marked := true }
    | .plain text => reading.takePlain text
    | .long name attached =>
      match Key.all.find? (·.name == name), Flag.all.find? (·.name == name) with
      | some key, _ => reading.takeKey key attached
      | none, some flag => reading.takeFlag flag attached
      | none, none => .error (.fault (.unknown ("--" ++ name)))
    | .short letter attached =>
      match Key.all.find? (·.letter? == some letter), Flag.all.find? (·.letter == letter) with
      | some key, _ => reading.takeKey key attached
      | none, some flag => reading.takeFlag flag none
      | none, none => .error (.fault (.unknown ("-" ++ String.singleton letter)))

end Reading

/-- The settings that arguments give. -/
def Settings.parse (arguments : List String) : Except Stop Settings := do
  let reading ← arguments.foldlM Reading.take {}
  let reading ← reading.settle
  .ok reading.settings

end VirtualTouchpad.CommandLine
