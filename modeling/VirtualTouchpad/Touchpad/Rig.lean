/-
# Rigs

A rig is a row of touchpads that share a configuration, the rack with their
sinks, and the factory of new sinks.  A touchpad turns samples into frames: what
it remembers and what it sends are decided by `Pad` alone; the rig finds the
touchpad, checks the sample, and drives the sink.

Every frame ends with one `synReport`.
-/
import VirtualTouchpad.Sink.Rack
import VirtualTouchpad.Touchpad.Config
import VirtualTouchpad.Touchpad.Contact
import VirtualTouchpad.Touchpad.Failure
import VirtualTouchpad.Touchpad.Scaling

namespace VirtualTouchpad

/-! ## Touchpads -/

/-- The "back" button in a mask of buttons. -/
def backButton : UInt32 := 8

/-- The buttons that touchpads have. -/
def supportedButtons : UInt32 := backButton

/-- The slot of the one contact that is tracked. -/
def touchSlot : Int32 := 0

/-- The identity of that contact. -/
def touchTracking : Int32 := 0

/-- Who owns the sink of a touchpad. -/
inductive Ownership where
  /-- The touchpad, which drops it. -/
  | owned
  /-- Somebody else, who lent it. -/
  | lent
  deriving DecidableEq, Repr

/-- The word for an ownership. -/
def Ownership.word : Ownership → String
  | .owned => "owned"
  | .lent => "lent"

/-- What a touchpad remembers. -/
structure Pad where
  sink : Option (Ownership × SinkId)
  /-- The coordinates of the last sample with a sink. -/
  position : Option (Int32 × Int32)
  contact : Contact
  buttons : UInt32
  deriving DecidableEq, Repr

namespace Pad

/-- An unattached touchpad. -/
def initial : Pad := ⟨none, none, .hovering, 0⟩

/-- The frame for a sample at a position, after the change of contact. -/
def touchFrame (pad : Pad) (position : Int32 × Int32) : List Call :=
  let moved := Call.contact touchSlot touchTracking position.1 position.2
  match pad.contact with
  | .hovering | .continuing =>
    if pad.position = some position then [] else [moved, .synReport]
  | .starting => [moved, .key KeyCode.touch .press, .synReport]
  | .ending => [.key KeyCode.touch .release, .lift touchSlot, .synReport]

/-- The frame for a change of buttons. -/
def buttonFrame (pad : Pad) (buttons : UInt32) : List Call :=
  if (pad.buttons ^^^ buttons) &&& backButton ≠ 0 then
    [.key KeyCode.back (.ofBool (buttons &&& backButton ≠ 0)), .synReport]
  else []

end Pad

/-- The frame for wheel detents: an event per axis that moved. -/
def scrollFrame (x y : Int32) : List Call :=
  let moves :=
    (if x = 0 then [] else [Call.rel RelAxis.horizontalWheel x]) ++
    (if y = 0 then [] else [Call.rel RelAxis.wheel y])
  if moves = [] then [] else moves ++ [.synReport]

/-! ## Factories -/

/-- Where the sinks of a rig's own come from. -/
inductive Factory where
  /-- Recorders; each takes the next of the failures. -/
  | recorders (failures : List (Option SinkError))
  /-- Devices at a path. -/
  | devices (path : String)
  deriving Repr

/-- A new sink. -/
def Factory.make : Factory → Factory × Sink
  | .recorders failures => (.recorders failures.tail, .recorder (.new failures.head?.join))
  | .devices path => (.devices path, .device (.new path))

/-! ## Rigs -/

/-- Touchpads with their configuration, factory and rack. -/
structure Rig where
  config : Config
  factory : Factory
  pads : List Pad
  rack : Rack
  deriving Repr

namespace Rig

/-- A rig of unattached touchpads. -/
def new (config : Config) (factory : Factory) (rack : Rack) : Rig where
  config := config.clamped
  factory := factory
  pads := List.replicate config.devices.toNat .initial
  rack := rack

/-- The factory for the devices that a configuration asks for. -/
def deviceFactory (config : Config) : Factory := .devices config.devicePath

/-- The rig with another state of one touchpad. -/
def setPad (rig : Rig) (id : Nat) (pad : Pad) : Rig := { rig with pads := rig.pads.set id pad }

/-- The files of the rig's host. -/
def files (rig : Rig) : Files := rig.rack.host.files

/-- The rig with other files on its host. -/
def withFiles (rig : Rig) (files : Files) : Rig :=
  { rig with rack := { rig.rack with host := { rig.rack.host with files := files } } }

/-- What came of driving a sink. -/
def outcome (status : Option SinkError) : Outcome :=
  match status with
  | none => .ok ()
  | some error => .error (.sink error)

/-- Sends a frame to a touchpad's sink and remembers the touchpad's new state. -/
def sendFrame (rig : Rig) (id : Nat) (pad : Pad) (sink : SinkId) (frame : List Call) :
    Rig × Outcome :=
  let (rack, status) := rig.rack.drive sink frame
  ({ rig with rack := rack }.setPad id pad, outcome status)

/-! ### Samples -/

/-- The fault of a number outside its range. -/
def checkRange (axis : String) (value : Single) (inside : Single → Bool) (range : String) :
    Outcome :=
  if inside value then .ok () else .error (.outOfRange axis value range)

/-- A touch sample at a position in `[0, 1)` by `[0, 1)`; any positive pressure is a contact.  The
change of contact is remembered also without a sink. -/
def touch (rig : Rig) (id : Nat) (x y pressure : Single) : Rig × Outcome :=
  match rig.pads[id]? with
  | none => (rig, .error (.noSuchTouchpad id))
  | some pad =>
    match checkRange "x" x Single.isPosition "[0, 1)",
      checkRange "y" y Single.isPosition "[0, 1)" with
    | .error e, _ => (rig, .error e)
    | _, .error e => (rig, .error e)
    | .ok (), .ok () =>
      let position := (x.coordinate rig.config.width, y.coordinate rig.config.height)
      let pad := { pad with contact := pad.contact.next pressure.isPositive }
      match pad.sink with
      | none => (rig.setPad id pad, .error (.notAttached id))
      | some (_, sink) =>
        rig.sendFrame id { pad with position := some position } sink (pad.touchFrame position)

/-- The set of buttons that are pressed. -/
def buttonState (rig : Rig) (id : Nat) (buttons : UInt32) : Rig × Outcome :=
  match rig.pads[id]? with
  | none => (rig, .error (.noSuchTouchpad id))
  | some pad =>
    if pad.buttons = buttons then (rig, .ok ())
    else if buttons &&& ~~~supportedButtons ≠ 0 then (rig, .error (.unsupportedButtons buttons))
    else
      match pad.sink with
      | none => (rig, .error (.notAttached id))
      | some (_, sink) =>
        rig.sendFrame id { pad with buttons := buttons } sink (pad.buttonFrame buttons)

/-- A scroll sample with both amounts in `[-1, 1]`. -/
def scroll (rig : Rig) (id : Nat) (x y : Single) : Rig × Outcome :=
  match rig.pads[id]? with
  | none => (rig, .error (.noSuchTouchpad id))
  | some pad =>
    match checkRange "x" x Single.isScrollAmount "[-1, 1]",
      checkRange "y" y Single.isScrollAmount "[-1, 1]" with
    | .error e, _ => (rig, .error e)
    | _, .error e => (rig, .error e)
    | .ok (), .ok () =>
      match pad.sink with
      | none => (rig, .error (.notAttached id))
      | some (_, sink) => rig.sendFrame id pad sink (scrollFrame x.detents y.detents)

/-! ### Sinks -/

/-- Drops the sink of a touchpad if the touchpad owns it. -/
def dropOwned (rack : Rack) (pad : Pad) : Rack :=
  match pad.sink with
  | some (.owned, sink) => rack.drop sink
  | _ => rack

/-- Lends a sink to a touchpad, which drops one of its own. -/
def lend (rig : Rig) (id : Nat) (sink : SinkId) : Rig × Outcome :=
  match rig.pads[id]? with
  | none => (rig, .error (.noSuchTouchpad id))
  | some pad =>
    ({ rig with rack := dropOwned rig.rack pad }.setPad id { pad with sink := some (.lent, sink) },
      .ok ())

/-- Closes the sink of a touchpad, and drops it if the touchpad owns it. -/
def release (rack : Rack) (pad : Pad) : Rack :=
  match pad.sink with
  | none => rack
  | some (_, sink) => dropOwned (rack.send sink .close) pad

/-- Closes every sink and forgets everything. -/
def reset (rig : Rig) : Rig :=
  { rig with
    pads := rig.pads.map fun _ => .initial
    rack := rig.pads.foldl release rig.rack }

/-- Takes every touchpad down. -/
def detach (rig : Rig) : Rig × Outcome := (rig.reset, .ok ())

/-- The calls that configure a sink for a device name. -/
def bracket (config : Config) (name : String) : List Call :=
  [.configureBegin ⟨name, virtualBus, 0, 0, 1⟩,
    .configureProperty InputProperty.direct,
    .configureMultiTouch 0 0 (config.width - 1) (config.height - 1),
    .configureSlots config.slots,
    .configureKey KeyCode.touch,
    .configureKey KeyCode.back,
    .configureRel RelAxis.horizontalWheel,
    .configureRel RelAxis.wheel,
    .configureEnd]

/-- The sink of a touchpad, a new one of its own if it has none. -/
def ensureSink (rig : Rig) (id : Nat) (pad : Pad) : Rig × SinkId :=
  match pad.sink with
  | some (_, sink) => (rig, sink)
  | none =>
    let (factory, made) := rig.factory.make
    let (rack, sink) := rig.rack.add made
    let pad := { pad with sink := some (.owned, sink) }
    ({ rig with factory := factory, rack := rack }.setPad id pad, sink)

/-- Attaches one touchpad, and gives the error of its sink. -/
def attachOne (rig : Rig) (id : Nat) : Rig × Option SinkError :=
  match rig.pads[id]? with
  | none => (rig, none)
  | some pad =>
    let (rig, sink) := rig.ensureSink id pad
    let (rack, status) := rig.rack.drive sink (bracket rig.config (rig.config.deviceName id))
    ({ rig with rack := rack }, status)

/-- Attaches touchpads in order, and gives the first error. -/
def attachEach (rig : Rig) : List Nat → Rig × Option SinkError
  | [] => (rig, none)
  | id :: ids =>
    let (rig, first) := rig.attachOne id
    let (rig, later) := rig.attachEach ids
    (rig, first <|> later)

/-- Makes and configures the device of every touchpad; all are tried, and the first error is
the outcome. -/
def attach (rig : Rig) : Rig × Outcome :=
  let (rig, status) := rig.attachEach (List.range rig.pads.length)
  (rig, outcome status)

/-- Ends the rig: the sinks that its touchpads own are dropped. -/
def finish (rig : Rig) : Rack := rig.pads.foldl dropOwned rig.rack

/-! ### Describing -/

/-- A pair of coordinates. -/
def positionText : Option (Int32 × Int32) → String
  | none => "none"
  | some (x, y) => "(" ++ toString x ++ ", " ++ toString y ++ ")"

/-- The description of one touchpad and its sink. -/
def describePad (rack : Rack) (id : Nat) (pad : Pad) : String :=
  "[virtual touchpad " ++ toString id ++ "]\n" ++
  (match pad.sink with
    | none => "sink = none\n"
    | some (ownership, sink) =>
      "sink = " ++ ownership.word ++ "\ntouches = " ++ toString pad.contact.bits ++
      "\nlast_position = " ++ positionText pad.position ++
      "\nlast_buttons = 0x" ++ hexadecimalUpper pad.buttons.toNat ++ "\n" ++ rack.describe sink) ++
  "\n"

/-- A description of all touchpads, for people. -/
def describe (rig : Rig) : String :=
  String.join (rig.pads.zipIdx.map fun (pad, id) => describePad rig.rack id pad)

end Rig

/-! ## Runs -/

/-- A call on a rig. -/
inductive Action where
  | attach
  | detach
  | reset
  | touch (id : Nat) (x y pressure : Single)
  | buttons (id : Nat) (mask : UInt32)
  | scroll (id : Nat) (x y : Single)
  | lend (id : Nat) (sink : SinkId)
  deriving DecidableEq, Repr

namespace Rig

/-- Makes one call. -/
def act (rig : Rig) : Action → Rig × Outcome
  | .attach => rig.attach
  | .detach => rig.detach
  | .reset => (rig.reset, .ok ())
  | .touch id x y pressure => rig.touch id x y pressure
  | .buttons id mask => rig.buttonState id mask
  | .scroll id x y => rig.scroll id x y
  | .lend id sink => rig.lend id sink

/-- Makes calls in order, and gives their outcomes. -/
def run (rig : Rig) : List Action → Rig × List Outcome
  | [] => (rig, [])
  | action :: actions =>
    let (rig, outcome) := rig.act action
    let (rig, outcomes) := rig.run actions
    (rig, outcome :: outcomes)

end Rig

end VirtualTouchpad
