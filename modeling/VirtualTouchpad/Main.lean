/-
# The command line

The manager's command as a program.  It reads the configuration file that its
arguments name, and then serves one client on its standard streams: a line in is
a message, and a line out is the reply to it.
-/
import VirtualTouchpad.CommandLine.Program

namespace VirtualTouchpad.CommandLine

open Service

/-- The number that a text starts with. -/
def leadingNumber (text : String) : Nat :=
  (text.toList.takeWhile Char.isDigit).foldl (fun n c => 10 * n + (c.toNat - '0'.toNat)) 0

/-- What stands after the first occurrence of a mark. -/
def textAfter (mark text : String) : String := (text.splitOn mark)[1]?.getD ""

/-- What the process knows of itself. -/
def readEnvironment : IO Environment := do
  let devicePath ← IO.getEnv Config.devicePathVariable
  let process ← IO.FS.readFile "/proc/self/stat"
  let user ← IO.FS.readFile "/proc/self/status"
  return ⟨devicePath, leadingNumber (textAfter "Uid:\t" user), leadingNumber process⟩

/-- A host with the configuration file that the arguments name, if there is one. -/
def readHost (arguments : List String) : IO Host := do
  let host := Host.new []
  match (Settings.parse arguments).toOption.bind Settings.config with
  | none => return host
  | some path =>
    try
      let content ← IO.FS.readBinFile path
      let files := (host.files.makeDirectories ((Path.parent? path).getD "")).1
      return { host with files := files.write path content.data.toList }
    catch _ => return host

/-- The client on the standard streams. -/
def standardClient : ClientId := 0

/-- Writes replies, a line each. -/
def writeReplies (output : IO.FS.Stream) (replies : List Control.Reply) : IO Unit := do
  for reply in replies do
    output.write ⟨(replyLine reply).toArray⟩
  output.flush

/-- Serves lines until the stream ends or one of them is no text. -/
partial def serveLines (input output : IO.FS.Stream) (server : Server) : IO Server := do
  let line ← try input.getLine catch _ => pure ""
  if line.isEmpty then
    let (server, replies) := server.hangUp standardClient
    writeReplies output replies
    return server
  let (server, replies) := server.receive standardClient (bytesOf line)
  writeReplies output replies
  serveLines input output server

/-- Serves, or says why not; the result is the exit code. -/
def run (arguments : List String) : IO UInt32 := do
  match start (← readHost arguments) (← readEnvironment) arguments with
  | .error ending =>
    (← IO.getStdout).putStr ending.output
    (← IO.getStderr).putStr ending.errors
    return ending.code
  | .ok server =>
    let _ ← serveLines (← IO.getStdin) (← IO.getStdout) server
    return 0

end VirtualTouchpad.CommandLine

/-- The manager's command. -/
def main (arguments : List String) : IO UInt32 := VirtualTouchpad.CommandLine.run arguments
