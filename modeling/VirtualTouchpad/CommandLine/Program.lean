/-
# The manager's command

The command puts its configuration together, makes a rig of devices and serves
it.  What the arguments say wins over the environment, which wins over the
configuration file, which wins over the standard configuration.
-/
import VirtualTouchpad.CommandLine.Settings
import VirtualTouchpad.Service.Server

namespace VirtualTouchpad.CommandLine

open Service

/-- The name of the command. -/
def commandName : String := "vtouchpad-manager"

/-- What the command says about its version. -/
def versionText : String := commandName ++ " 0.1.0\n"

/-- What the command says about its arguments. -/
def helpText : String :=
  "Usage: " ++ commandName ++ " [OPTIONS]\n\nOptions:\n" ++
  "  -s, --socket <SOCKET>      Socket path for the manager\n" ++
  "  -i, --instance <INSTANCE>  Instance number (used to generate socket path) [default: 0]\n" ++
  "  -c, --config <CONFIG>      JSON touchpad configuration file\n" ++
  "  -d, --devices <DEVICES>    Number of touchpads, overriding the configuration\n" ++
  "      --uinput <UINPUT>      uinput node, overriding the configuration and " ++
  Config.devicePathVariable ++ "\n" ++
  "  -h, --help                 Print help\n" ++
  "  -V, --version              Print version\n"

/-- What the command knows of its process. -/
structure Environment where
  /-- Where devices are made, if the environment says so. -/
  devicePath : Option String
  user : Nat
  process : Nat
  deriving DecidableEq, Repr

/-! ## Endings -/

/-- How the command ends without serving. -/
inductive Ending where
  | flag (flag : Flag)
  | misused (fault : ArgumentFault)
  | failed (complaint : Complaint)
  deriving DecidableEq, Repr

namespace Ending

/-- The ending that the reading of arguments calls for. -/
def ofStop : Stop → Ending
  | .flag which => .flag which
  | .fault fault => .misused fault

/-- The exit code. -/
def code : Ending → UInt32
  | .flag _ => 0
  | .misused _ => 2
  | .failed _ => 1

/-- A text indented, with a first indentation and one for its later lines. -/
def indent (first later text : String) : String :=
  first ++ String.ofList (text.toList.flatMap fun c => if c = '\n' then c :: later.toList else [c])

/-- A cause with its number, if there are several. -/
def causeText (many : Bool) (index : Nat) (cause : String) : String :=
  if many then
    let number := toString index
    let gap := String.ofList (List.replicate (5 - number.length) ' ')
    indent (gap ++ number ++ ": ") "       " cause
  else indent "    " "    " cause

/-- A complaint and its causes. -/
def complaintText : Complaint → String
  | [] => ""
  | [message] => message
  | message :: causes =>
    let many := 1 < causes.length
    let texts := causes.zipIdx.map fun (cause, index) => "\n" ++ causeText many index cause
    message ++ "\n\nCaused by:" ++ String.join texts

/-- What goes to standard output. -/
def output : Ending → String
  | .flag .help => helpText
  | .flag .version => versionText
  | _ => ""

/-- What goes to standard error. -/
def errors : Ending → String
  | .flag _ => ""
  | .misused fault => "error: " ++ fault.message ++ "\n"
  | .failed complaint => "Error: " ++ complaintText complaint ++ "\n"

end Ending

/-! ## Starting -/

namespace Settings

/-- The socket to serve. -/
def socketPath (settings : Settings) (user : Nat) : String :=
  settings.socket.getD
    ("/run/user/" ++ toString user ++ "/vtouchpad-" ++ toString (settings.serial.getD 0))

/-- The configuration that the settings give. -/
def configuration (settings : Settings) (files : Files) (devicePath : Option String) :
    Except Complaint Config := do
  let config ← (settings.config.map (Config.load files)).getD (.ok .standard)
  let config := config.withEnvironment devicePath
  let config := { config with
    devices := settings.devices.getD config.devices
    devicePath := settings.devicePath.getD config.devicePath }
  config.validate.mapError fun e => [e.message]
  .ok config

/-- A server that listens, as the settings say. -/
def serve (settings : Settings) (host : Host) (environment : Environment) :
    Except Complaint Server := do
  let config ← settings.configuration host.files environment.devicePath
  let rig := Rig.new config (Rig.deviceFactory config) ⟨[], host⟩
  let server ← (Server.new rig (settings.socketPath environment.user) environment.process).2
  let (server, listening) := server.listen
  listening
  .ok server

end Settings

/-- Starts the command: it serves, or it ends. -/
def start (host : Host) (environment : Environment) (arguments : List String) :
    Except Ending Server := do
  let settings ← (Settings.parse arguments).mapError Ending.ofStop
  (settings.serve host environment).mapError Ending.failed

end VirtualTouchpad.CommandLine
