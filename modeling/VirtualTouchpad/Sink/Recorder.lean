/-
# Recorders

A recorder is a sink that writes down its calls instead of making a device.  It
can be told to fail, and then meets every call but `close` with that failure.
-/
import VirtualTouchpad.Sink.Basic

namespace VirtualTouchpad

/-- The calls so far, the first failure since the last reset, and the failure that every call
meets. -/
structure Recorder where
  calls : List Call
  status : Option SinkError
  failure : Option SinkError
  deriving DecidableEq, Repr

namespace Recorder

/-- A recorder without calls that meets every call with the given failure. -/
def new (failure : Option SinkError) : Recorder := ⟨[], none, failure⟩

/-- Writes down a call. -/
def receive (recorder : Recorder) (call : Call) : Recorder :=
  { recorder with
    calls := recorder.calls ++ [call]
    status := if call = .close then recorder.status else recorder.status <|> recorder.failure }

/-- Forgets the failure that was kept. -/
def resetStatus (recorder : Recorder) : Recorder := { recorder with status := none }

/-- The recorder without its calls. -/
def drain (recorder : Recorder) : Recorder := { recorder with calls := [] }

/-- A description, for people. -/
def describe (recorder : Recorder) : String :=
  "recording sink: " ++ toString recorder.calls.length ++ " calls\n" ++
    match recorder.status with
    | some error => "status = " ++ error.message ++ "\n"
    | none => ""

end Recorder

end VirtualTouchpad
