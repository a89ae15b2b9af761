/-
# Input devices as sinks

A `Device` is a sink that makes an input device of the host.  The calls between
`configureBegin` and `configureEnd` are collected in a `Declaration`; at
`configureEnd` the host's device is opened and made as declared.  Events are
collected in a frame, which is written as a whole.

A call that the stage does not admit, or whose code is too great, changes
nothing but the kept status.
-/
import VirtualTouchpad.Sink.Basic

namespace VirtualTouchpad

/-! ## Declarations -/

/-- What a device is declared to be. -/
structure Declaration where
  identity : Option DeviceIdentity
  properties : List UInt16
  keys : List UInt16
  relAxes : List UInt16
  absAxes : List (UInt16 × AxisRange)
  deriving DecidableEq, Repr

namespace Declaration

/-- Nothing is declared. -/
def empty : Declaration := ⟨none, [], [], [], []⟩

/-- A list with an element at its end, unless it has it already. -/
def insertNew (codes : List UInt16) (code : UInt16) : List UInt16 :=
  if code ∈ codes then codes else codes ++ [code]

/-- Absolute axes with the range of one of them set; a new one comes last. -/
def setRange : List (UInt16 × AxisRange) → UInt16 → AxisRange → List (UInt16 × AxisRange)
  | [], code, range => [(code, range)]
  | (c, r) :: axes, code, range =>
    if c = code then (c, range) :: axes else (c, r) :: setRange axes code range

/-- The requests that make a declared device: its types of events, what it can report, its
identity, and its making. -/
def requests (d : Declaration) (identity : DeviceIdentity) : List Request :=
  .setEventType EventType.syn ::
  ((if d.keys = [] then [] else [.setEventType EventType.key]) ++
  (if d.relAxes = [] then [] else [.setEventType EventType.rel]) ++
  (if d.absAxes = [] then [] else [.setEventType EventType.abs]) ++
  d.properties.map .setProperty ++ d.keys.map .setKey ++ d.relAxes.map .setRelAxis ++
  d.absAxes.flatMap (fun (code, range) => [.setAbsAxis code, .setupAxis code range]) ++
  [.setupDevice identity.bus identity.vendor identity.product identity.version
      (nameField identity.name),
    .createDevice])

end Declaration

/-! ## Devices -/

/-- The stages of a device, in their order. -/
inductive Stage where
  | new
  | configuring
  | ready
  | closed
  deriving DecidableEq, Repr

/-- The name of a stage. -/
def Stage.name : Stage → String
  | .new => "New"
  | .configuring => "Configuring"
  | .ready => "Ready"
  | .closed => "Closed"

/-- A sink for the device node at a path. -/
structure Device where
  path : String
  stage : Stage
  declaration : Declaration
  /-- The number of the host's device while there is one. -/
  node : Option Nat
  /-- The events of the frame that is not written yet. -/
  frame : List InputEvent
  /-- The slot that the events of contacts belong to. -/
  slot : Option Int32
  /-- The first error since the last reset. -/
  status : Option SinkError
  deriving DecidableEq, Repr

namespace Device

/-- A device that nothing was done with. -/
def new (path : String) : Device := ⟨path, .new, .empty, none, [], none, none⟩

/-- Keeps an error, unless there is one. -/
def latch (d : Device) (error : SinkError) : Device :=
  { d with status := d.status <|> some error }

/-- Forgets the error that was kept. -/
def resetStatus (d : Device) : Device := { d with status := none }

/-- Does something in one stage; in another it is out of sequence. -/
def during (d : Device) (stage : Stage) (act : Device → Device) : Device :=
  if d.stage = stage then act d else d.latch .sequencing

/-- Does something with a code up to the greatest; another one is an error. -/
def withCode (d : Device) (code greatest : UInt16) (error : UInt16 → SinkError)
    (act : Device → Device) : Device :=
  if greatest < code then d.latch (error code) else act d

/-! ### Declaring -/

/-- Begins to declare a device; its name and a NUL have to fit the field for it. -/
def configureBegin (d : Device) (identity : DeviceIdentity) : Device :=
  d.during .new fun d =>
    let size := identity.name.utf8ByteSize
    if nameFieldSize ≤ size then d.latch (.nameTooLong size)
    else { d with
      declaration := { Declaration.empty with identity := some identity }
      stage := .configuring }

/-- Declares an input property. -/
def configureProperty (d : Device) (property : UInt16) : Device :=
  d.during .configuring fun d =>
    d.withCode property InputProperty.greatest .propertyRange fun d =>
      { d with declaration :=
        { d.declaration with
          properties := Declaration.insertNew d.declaration.properties property } }

/-- Declares a key. -/
def configureKey (d : Device) (code : UInt16) : Device :=
  d.during .configuring fun d =>
    d.withCode code KeyCode.greatest .keyRange fun d =>
      { d with declaration :=
        { d.declaration with keys := Declaration.insertNew d.declaration.keys code } }

/-- Declares a relative axis. -/
def configureRel (d : Device) (axis : UInt16) : Device :=
  d.during .configuring fun d =>
    d.withCode axis RelAxis.greatest .relRange fun d =>
      { d with declaration :=
        { d.declaration with relAxes := Declaration.insertNew d.declaration.relAxes axis } }

/-- Declares an absolute axis, or gives it another range. -/
def configureAbs (d : Device) (axis : UInt16) (least greatest : Int32) : Device :=
  d.during .configuring fun d =>
    d.withCode axis AbsAxis.greatest .absRange fun d =>
      { d with declaration :=
        { d.declaration with
          absAxes := Declaration.setRange d.declaration.absAxes axis ⟨least, greatest⟩ } }

/-- Opens the node and makes the declared device. -/
def make (d : Device) (host : Host) : Host × Except SinkError Nat :=
  match d.declaration.identity with
  | none => (host, .error .sequencing)
  | some identity =>
    match host.openNode d.path with
    | (host, .error e) => (host, .error (.io "open uinput node" e))
    | (host, .ok .other) =>
      (host, .error (.io (Request.setEventType EventType.syn).name (.os Errno.notTerminal)))
    | (host, .ok (.device n)) =>
      match host.requestAll n (d.declaration.requests identity) with
      | (host, none) => (host, .ok n)
      | (host, some (r, code)) => (host.close n, .error (.io r.name (.os code)))

/-- Ends the declaration.  After an error there is no device to be had any more. -/
def configureEnd (d : Device) (host : Host) : Host × Device :=
  if d.stage ≠ .configuring then (host, d.latch .sequencing)
  else if d.status.isSome then (host, { d with stage := .closed })
  else
    match d.make host with
    | (host, .ok n) => (host, { d with stage := .ready, node := some n })
    | (host, .error e) => (host, { d with stage := .closed }.latch e)

/-! ### Reporting -/

/-- Puts an event into the frame. -/
def queue (d : Device) (eventType code : UInt16) (value : Int32) : Device :=
  { d with frame := d.frame ++ [⟨eventType, code, value⟩] }

/-- Makes a slot the current one, with an event if it is not. -/
def selectSlot (d : Device) (slot : Int32) : Device :=
  if d.slot = some slot then d
  else { d.queue EventType.abs AbsAxis.slot slot with slot := some slot }

/-- Reports a key. -/
def sendKey (d : Device) (code : UInt16) (state : KeyState) : Device :=
  d.during .ready fun d =>
    d.withCode code KeyCode.greatest .keyRange fun d => d.queue EventType.key code state.value

/-- Reports a relative movement. -/
def sendRel (d : Device) (axis : UInt16) (delta : Int32) : Device :=
  d.during .ready fun d =>
    d.withCode axis RelAxis.greatest .relRange fun d => d.queue EventType.rel axis delta

/-- Reports the position of a contact. -/
def sendContact (d : Device) (slot trackingId x y : Int32) : Device :=
  d.during .ready fun d =>
    (((d.selectSlot slot).queue EventType.abs AbsAxis.trackingId trackingId).queue
      EventType.abs AbsAxis.positionX x).queue EventType.abs AbsAxis.positionY y

/-- Ends a contact. -/
def sendLift (d : Device) (slot : Int32) : Device :=
  d.during .ready fun d => (d.selectSlot slot).queue EventType.abs AbsAxis.trackingId (-1)

/-- Ends the frame and writes it; afterwards it is empty, written or not. -/
def synReport (d : Device) (host : Host) : Host × Device :=
  if d.stage ≠ .ready then (host, d.latch .sequencing)
  else
    let bytes := (d.frame ++ [InputEvent.synReport]).flatMap InputEvent.bytes
    let d := { d with frame := [] }
    match d.node with
    | none => (host, d.latch .sequencing)
    | some n =>
      match host.write n bytes with
      | (host, none) => (host, d)
      | (host, some e) => (host, d.latch (.io "write uinput frame" e))

/-- Destroys the host's device, if there is one, and ends the sink's life. -/
def close (d : Device) (host : Host) : Host × Device :=
  let host :=
    match d.node with
    | none => host
    | some n => (host.request n .destroyDevice).1.close n
  (host, { d with node := none, frame := [], slot := none, stage := .closed })

/-- Makes a call. -/
def receive (d : Device) (host : Host) : Call → Host × Device
  | .configureBegin identity => (host, d.configureBegin identity)
  | .configureProperty property => (host, d.configureProperty property)
  | .configureKey code => (host, d.configureKey code)
  | .configureRel axis => (host, d.configureRel axis)
  | .configureMultiTouch x0 y0 x1 y1 =>
    (host, (d.configureAbs AbsAxis.positionX x0 x1).configureAbs AbsAxis.positionY y0 y1)
  | .configureSlots slots =>
    (host, (d.configureAbs AbsAxis.slot 0 (slots - 1)).configureAbs AbsAxis.trackingId 0 0xFFFF)
  | .configureEnd => d.configureEnd host
  | .key code state => (host, d.sendKey code state)
  | .rel axis delta => (host, d.sendRel axis delta)
  | .contact slot trackingId x y => (host, d.sendContact slot trackingId x y)
  | .lift slot => (host, d.sendLift slot)
  | .synReport => d.synReport host
  | .close => d.close host

/-! ### Describing -/

/-- A key code with at least three hexadecimal digits. -/
def keyText (code : UInt16) : String :=
  let digits := Nat.toDigits 16 code.toNat
  "0x" ++ String.ofList (List.replicate (3 - digits.length) '0' ++ digits)

/-- A description, for people. -/
def describe (d : Device) : String :=
  "uinput = " ++ d.path ++ "\nstate = " ++ d.stage.name ++ "\n" ++
  (match d.declaration.identity with
    | some identity => "name = " ++ identity.name ++ "\n"
    | none => "") ++
  "status = " ++ (match d.status with | some error => error.message | none => "ok") ++ "\n" ++
  "latest_slot = " ++ (match d.slot with | some slot => toString slot | none => "none") ++ "\n" ++
  "keys = [" ++ ", ".intercalate (d.declaration.keys.map keyText) ++ "]\n"

end Device

end VirtualTouchpad
