/-
# Racks

A rack holds sinks of both kinds, numbered from zero, and the host that their
devices live on.  Sinks never leave a rack; one that its owner drops ends its
life there.
-/
import VirtualTouchpad.Sink.Device
import VirtualTouchpad.Sink.Recorder

namespace VirtualTouchpad

/-- A sink of either kind. -/
inductive Sink where
  | recorder (recorder : Recorder)
  | device (device : Device)
  deriving DecidableEq, Repr

namespace Sink

/-- The first error since the last reset. -/
def status : Sink → Option SinkError
  | .recorder r => r.status
  | .device d => d.status

/-- Forgets the error that was kept. -/
def resetStatus : Sink → Sink
  | .recorder r => .recorder r.resetStatus
  | .device d => .device d.resetStatus

/-- Makes a call. -/
def receive (host : Host) : Sink → Call → Host × Sink
  | .recorder r, call => (host, .recorder (r.receive call))
  | .device d, call =>
    let (host, d) := d.receive host call
    (host, .device d)

/-- Ends the life of a sink that nobody holds any more: a device is closed. -/
def drop (host : Host) : Sink → Host × Sink
  | .recorder r => (host, .recorder r)
  | .device d =>
    let (host, d) := d.close host
    (host, .device d)

/-- A description, for people. -/
def describe : Sink → String
  | .recorder r => r.describe
  | .device d => d.describe

/-- The recorder that a sink is. -/
def recorder? : Sink → Option Recorder
  | .recorder r => some r
  | .device _ => none

end Sink

/-- The number of a sink in its rack. -/
abbrev SinkId := Nat

/-- Sinks by number, and their host. -/
structure Rack where
  sinks : List Sink
  host : Host
  deriving Repr

namespace Rack

/-- Puts a sink into the rack and gives its number. -/
def add (rack : Rack) (sink : Sink) : Rack × SinkId :=
  ({ rack with sinks := rack.sinks ++ [sink] }, rack.sinks.length)

/-- Does something to one sink. -/
def update (rack : Rack) (id : SinkId) (act : Host → Sink → Host × Sink) : Rack :=
  match rack.sinks[id]? with
  | none => rack
  | some sink =>
    let (host, sink) := act rack.host sink
    ⟨rack.sinks.set id sink, host⟩

/-- Forgets the error that a sink keeps. -/
def resetStatus (rack : Rack) (id : SinkId) : Rack :=
  rack.update id fun host sink => (host, sink.resetStatus)

/-- Makes a call on a sink. -/
def send (rack : Rack) (id : SinkId) (call : Call) : Rack :=
  rack.update id fun host sink => sink.receive host call

/-- Makes calls on a sink in order. -/
def sendAll (rack : Rack) (id : SinkId) (calls : List Call) : Rack :=
  calls.foldl (·.send id ·) rack

/-- Ends the life of a sink. -/
def drop (rack : Rack) (id : SinkId) : Rack :=
  rack.update id fun host sink => sink.drop host

/-- The error that a sink keeps. -/
def status (rack : Rack) (id : SinkId) : Option SinkError := rack.sinks[id]?.bind Sink.status

/-- Resets a sink, makes calls on it, and gives the error that it keeps then. -/
def drive (rack : Rack) (id : SinkId) (calls : List Call) : Rack × Option SinkError :=
  let rack := (rack.resetStatus id).sendAll id calls
  (rack, rack.status id)

/-- The description of a sink. -/
def describe (rack : Rack) (id : SinkId) : String := (rack.sinks[id]?.map Sink.describe).getD ""

/-- The numbers of the recorders, in their order. -/
def recorderIds (rack : Rack) : List SinkId :=
  (List.range rack.sinks.length).filter fun id => (rack.sinks[id]?.bind Sink.recorder?).isSome

/-- Does something to a recorder. -/
def updateRecorder (rack : Rack) (id : SinkId) (act : Recorder → Recorder) : Rack :=
  rack.update id fun host sink =>
    match sink with
    | .recorder r => (host, .recorder (act r))
    | .device d => (host, .device d)

end Rack

end VirtualTouchpad
