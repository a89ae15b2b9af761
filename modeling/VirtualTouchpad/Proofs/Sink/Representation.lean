/-
# What always holds of a device sink

The parts of a device sink depend on each other: the host's device and the stage, the
frame and the stage, the stage and the identity that was declared.  `Device.WellFormed`
says how, together with what the collected codes have in common.  A new sink is
well-formed, and so is every sink that a well-formed one becomes
(`Device.WellFormed.operate`), whatever the host does.

So there is room for the name when it is copied, long after its size was checked
(`isFieldOf_nameField`), and the sink is never without an identity or a device of the host
in a stage that needs one (`Device.WellFormed.inSequence`).
-/
import VirtualTouchpad.Proofs.Sink.Declarations
import VirtualTouchpad.Proofs.Sink.Errors

namespace VirtualTouchpad

/-! ## Codes -/

/-- Codes that were collected: none comes twice, and none is too great. -/
structure Collected (codes : List UInt16) (greatest : UInt16) : Prop where
  nodup : codes.Nodup
  le : ∀ code ∈ codes, code ≤ greatest

namespace Collected

variable {codes : List UInt16} {greatest : UInt16}

theorem nil (greatest : UInt16) : Collected [] greatest where
  nodup := List.nodup_nil
  le := by simp

theorem insertNew (h : Collected codes greatest) {code : UInt16} (hcode : code ≤ greatest) :
    Collected (Declaration.insertNew codes code) greatest where
  nodup := Declaration.nodup_insertNew h.nodup code
  le := by
    intro other hmem
    unfold Declaration.insertNew at hmem
    split at hmem
    · exact h.le other hmem
    · rcases List.mem_append.mp hmem with hmem | hmem
      · exact h.le other hmem
      · exact List.mem_singleton.mp hmem ▸ hcode

/-- Collecting more codes that are not too great. -/
theorem foldl_insertNew (h : Collected codes greatest) {later : List UInt16}
    (hlater : ∀ code ∈ later, code ≤ greatest) :
    Collected (later.foldl Declaration.insertNew codes) greatest := by
  induction later generalizing codes with
  | nil => exact h
  | cons code later ih =>
    exact ih (h.insertNew (hlater code List.mem_cons_self))
      fun other hmem => hlater other (List.mem_cons_of_mem _ hmem)

end Collected

namespace Declaration

/-- An axis is new among axes exactly if it is among those without their ranges. -/
theorem map_fst_setRange (axes : List (UInt16 × AxisRange)) (code : UInt16) (range : AxisRange) :
    (setRange axes code range).map (·.1) = insertNew (axes.map (·.1)) code := by
  induction axes with
  | nil => rfl
  | cons axis axes ih =>
    obtain ⟨other, old⟩ := axis
    rw [setRange]
    by_cases hcode : other = code
    · simp [hcode, insertNew]
    · rw [if_neg hcode, List.map_cons, ih]
      by_cases hmem : code ∈ axes.map (·.1)
      · simp [insertNew, hmem]
      · simp [insertNew, hmem, Ne.symm hcode]

theorem map_fst_foldl_setRange (axes later : List (UInt16 × AxisRange)) :
    (later.foldl (fun axes pair => setRange axes pair.1 pair.2) axes).map (·.1)
      = (later.map (·.1)).foldl insertNew (axes.map (·.1)) := by
  induction later generalizing axes with
  | nil => rfl
  | cons pair later ih => rw [List.foldl_cons, ih, map_fst_setRange, List.map_cons, List.foldl_cons]

/-- A declaration whose codes of each kind are in range and without repetitions. -/
structure WellFormed (d : Declaration) : Prop where
  properties : Collected d.properties InputProperty.greatest
  keys : Collected d.keys KeyCode.greatest
  relAxes : Collected d.relAxes RelAxis.greatest
  absAxes : Collected (d.absAxes.map (·.1)) AbsAxis.greatest

/-- A declaration of an identity alone. -/
theorem wellFormed_bare (identity : Option DeviceIdentity) :
    WellFormed { empty with identity := identity } where
  properties := .nil _
  keys := .nil _
  relAxes := .nil _
  absAxes := .nil _

/-- **One more call that declares something** keeps a declaration well-formed, if nothing is wrong
with what it carries. -/
theorem WellFormed.add {d : Declaration} (h : d.WellFormed) {call : Call}
    (hfault : call.fault? = none) : (d.add call).WellFormed := by
  constructor
  case properties =>
    refine h.properties.foldl_insertNew fun code hmem => ?_
    cases call with
    | configureProperty property =>
      obtain rfl : code = property := List.mem_singleton.mp hmem
      exact Call.le_of_excess?_eq_none hfault
    | _ => cases hmem
  case keys =>
    refine h.keys.foldl_insertNew fun code hmem => ?_
    cases call with
    | configureKey key =>
      obtain rfl : code = key := List.mem_singleton.mp hmem
      exact Call.le_of_excess?_eq_none hfault
    | _ => cases hmem
  case relAxes =>
    refine h.relAxes.foldl_insertNew fun code hmem => ?_
    cases call with
    | configureRel axis =>
      obtain rfl : code = axis := List.mem_singleton.mp hmem
      exact Call.le_of_excess?_eq_none hfault
    | _ => cases hmem
  case absAxes =>
    show Collected ((call.absAxes.foldl _ d.absAxes).map (·.1)) _
    rw [map_fst_foldl_setRange]
    refine h.absAxes.foldl_insertNew fun code hmem => ?_
    -- The axes of a call are fixed, and none of them is too great.
    cases call with
    | configureMultiTouch | configureSlots =>
      simp only [Call.absAxes, List.map_cons, List.map_nil, List.mem_cons, List.not_mem_nil,
        or_false] at hmem
      rcases hmem with rfl | rfl <;> decide
    | _ => cases hmem

end Declaration

/-! ## Events -/

/-- An event whose code is in range, if it is one of a key or of a relative axis. -/
structure InputEvent.InRange (event : InputEvent) : Prop where
  key : event.eventType = EventType.key → event.code ≤ KeyCode.greatest
  rel : event.eventType = EventType.rel → event.code ≤ RelAxis.greatest

theorem InputEvent.inRange_abs (code : UInt16) (value : Int32) :
    InRange ⟨EventType.abs, code, value⟩ where
  key := fun h => absurd h (by decide : EventType.abs ≠ EventType.key)
  rel := fun h => absurd h (by decide : EventType.abs ≠ EventType.rel)

/-- The events of a call are in range if its codes are. -/
theorem Call.inRange_events {call : Call} (h : call.InRange) (current : Option Int32)
    {event : InputEvent} (hmem : event ∈ call.events current) : event.InRange := by
  have hselecting : ∀ slot, event ∈ selecting current slot → event.InRange := by
    intro slot hmem
    unfold selecting at hmem
    split at hmem
    · cases hmem
    · rw [List.mem_singleton.mp hmem]
      exact InputEvent.inRange_abs _ _
  cases call with
  | key code state =>
    rw [List.mem_singleton.mp hmem]
    exact ⟨fun _ => h, fun h => absurd h (by decide : EventType.key ≠ EventType.rel)⟩
  | rel axis delta =>
    rw [List.mem_singleton.mp hmem]
    exact ⟨fun h => absurd h (by decide : EventType.rel ≠ EventType.key), fun _ => h⟩
  | contact slot trackingId x y =>
    rcases List.mem_append.mp hmem with hmem | hmem
    · exact hselecting slot hmem
    · simp only [List.mem_cons, List.not_mem_nil, or_false] at hmem
      rcases hmem with rfl | rfl | rfl <;> exact InputEvent.inRange_abs _ _
  | lift slot =>
    rcases List.mem_append.mp hmem with hmem | hmem
    · exact hselecting slot hmem
    · rw [List.mem_singleton.mp hmem]
      exact InputEvent.inRange_abs _ _
  | _ => cases hmem

/-- Nothing is wrong with what a call carries only if its codes are in range. -/
theorem Call.inRange_of_fault?_eq_none {call : Call} (h : call.fault? = none) : call.InRange := by
  cases call with
  | key | rel => exact le_of_excess?_eq_none h
  | _ => trivial

/-! ## Names -/

/-- Bytes copied to the start of a field, if there is room for them. -/
def copyInto? (field bytes : List UInt8) : Option (List UInt8) :=
  if bytes.length ≤ field.length then some (bytes ++ field.drop bytes.length) else none

/-- The field that a name was copied into when it was empty, with a NUL left at its end. -/
structure IsFieldOf (name : String) (field : List UInt8) : Prop where
  copied : copyInto? (List.replicate nameFieldSize 0) (bytesOf name) = some field
  length : field.length = nameFieldSize
  terminated : field.getLast? = some 0

/-- There is room for a name that fits, and for a NUL. -/
theorem isFieldOf_nameField {name : String} (h : name.utf8ByteSize < nameFieldSize) :
    IsFieldOf name (nameField name) := by
  have hlength : (bytesOf name).length = name.utf8ByteSize := by simp [bytesOf]
  constructor
  case copied =>
    have hroom : (bytesOf name).length ≤ (List.replicate nameFieldSize (0 : UInt8)).length := by
      rw [List.length_replicate]
      omega
    rw [copyInto?, if_pos hroom, List.drop_replicate, nameField]
  case length => exact (nameField_of_fitting h).1
  case terminated =>
    obtain ⟨more, hmore⟩ := Nat.exists_eq_add_of_lt h
    have hrest : nameFieldSize - (bytesOf name).length = more + 1 := by omega
    rw [nameField, hrest, List.replicate_succ', ← List.append_assoc, List.getLast?_concat]

/-- For a longer name there is no room. -/
example : copyInto? (List.replicate nameFieldSize 0) (List.replicate 81 0x78) = none := by decide

/-- A request hands over no name but in the field of one that fits. -/
def Request.NamesProperly (request : Request) : Prop :=
  ∀ bus vendor product version field, request = .setupDevice bus vendor product version field →
    ∃ name, IsFieldOf name field

theorem Declaration.namesProperly_requests (d : Declaration) {identity : DeviceIdentity}
    (h : identity.name.utf8ByteSize < nameFieldSize) {request : Request}
    (hmem : request ∈ d.requests identity) : request.NamesProperly := by
  rintro bus vendor product version field rfl
  have hfield : field = nameField identity.name := by
    simp only [requests, List.mem_cons, List.mem_append, List.mem_map, List.mem_flatMap] at hmem
    have hsetup : bus = identity.bus ∧ vendor = identity.vendor ∧ product = identity.product
        ∧ version = identity.version ∧ field = nameField identity.name := by simpa using hmem
    exact hsetup.2.2.2.2
  exact ⟨identity.name, hfield ▸ isFieldOf_nameField h⟩

namespace Device

/-! ## The parts of a sink -/

/-- What always holds of a device sink. -/
structure WellFormed (d : Device) : Prop where
  /-- There is a device of the host exactly while the sink is ready. -/
  equipped : d.node.isSome ↔ d.stage = .ready
  /-- Only while it is ready there are events in the frame, or is a slot the current one. -/
  reporting : d.frame ≠ [] ∨ d.slot.isSome → d.stage = .ready
  /-- From the beginning of the declaration to the end of the device there is an identity, with a
  name that fits. -/
  identified : d.stage = .configuring ∨ d.stage = .ready →
    ∃ identity, d.declaration.identity = some identity
      ∧ identity.name.utf8ByteSize < nameFieldSize
  declared : d.declaration.WellFormed
  queued : ∀ event ∈ d.frame, event.InRange

theorem wellFormed_new (path : String) : (new path).WellFormed where
  equipped := equipped_new path
  reporting := by simp [new]
  identified := by simp [new]
  declared := Declaration.wellFormed_bare none
  queued := by simp [new]

/-- A sink that is not ready, without a device of the host, events and a slot. -/
theorem wellFormed_idle {d : Device} (hstage : d.stage ≠ .ready) (hnode : d.node = none)
    (hframe : d.frame = []) (hslot : d.slot = none)
    (hidentified : d.stage = .configuring → ∃ identity, d.declaration.identity = some identity
      ∧ identity.name.utf8ByteSize < nameFieldSize)
    (hdeclared : d.declaration.WellFormed) : d.WellFormed where
  equipped := by simp [hnode, hstage]
  reporting := by simp [hframe, hslot]
  identified := fun h => hidentified (h.resolve_right hstage)
  declared := hdeclared
  queued := by simp [hframe]

namespace WellFormed

variable {d : Device}

/-- A sink that is not ready has no device of the host, no events and no slot. -/
theorem idle (h : d.WellFormed) (hstage : d.stage ≠ .ready) :
    d.node = none ∧ d.frame = [] ∧ d.slot = none := by
  refine ⟨?_, ?_, ?_⟩
  · exact Option.not_isSome_iff_eq_none.mp fun hsome => hstage (h.equipped.mp hsome)
  · exact Classical.byContradiction fun hframe => hstage (h.reporting (Or.inl hframe))
  · exact Option.not_isSome_iff_eq_none.mp fun hsome => hstage (h.reporting (Or.inr hsome))

/-- The status is no part of it. -/
theorem withStatus (h : d.WellFormed) (status : Option SinkError) :
    { d with status := status }.WellFormed :=
  ⟨h.equipped, h.reporting, h.identified, h.declared, h.queued⟩

theorem latch (h : d.WellFormed) (error : SinkError) : (d.latch error).WellFormed :=
  h.withStatus _

/-- The declaration begins, with a name that fits. -/
theorem begun (h : d.WellFormed) (hnew : d.stage = .new) {identity : DeviceIdentity}
    (hname : identity.name.utf8ByteSize < nameFieldSize) :
    { d with
      declaration := { Declaration.empty with identity := some identity }
      stage := .configuring }.WellFormed := by
  obtain ⟨hnode, hframe, hslot⟩ := h.idle (by simp [hnew])
  exact wellFormed_idle (by simp) hnode hframe hslot (fun _ => ⟨identity, rfl, hname⟩)
    (Declaration.wellFormed_bare (some identity))

/-- More is declared. -/
theorem declares (h : d.WellFormed) (hstage : d.stage = .configuring) {call : Call}
    (hfault : call.fault? = none) :
    { d with declaration := d.declaration.add call }.WellFormed := by
  have hnot : d.stage ≠ .ready := by simp [hstage]
  obtain ⟨hnode, hframe, hslot⟩ := h.idle hnot
  exact wellFormed_idle hnot hnode hframe hslot (fun hstage => h.identified (Or.inl hstage))
    (h.declared.add hfault)

/-- The declaration ends with a device of the host, or with the life of the sink. -/
theorem configureEnd (h : d.WellFormed) (hstage : d.stage = .configuring) (host : Host) :
    (d.configureEnd host).2.WellFormed := by
  obtain ⟨hnode, hframe, hslot⟩ := h.idle (by simp [hstage])
  have hclosed : { d with stage := .closed }.WellFormed :=
    wellFormed_idle (by simp) hnode hframe hslot (by simp) h.declared
  unfold Device.configureEnd
  rw [if_neg (not_not.mpr hstage)]
  split
  · exact hclosed
  · split
    · next n _ =>
      exact ⟨by simp, fun _ => rfl, fun _ => h.identified (Or.inl hstage), h.declared, h.queued⟩
    · exact hclosed.latch _

/-- Something is reported, with a code in range. -/
theorem report (h : d.WellFormed) (hready : d.stage = .ready) {call : Call}
    (hrange : call.InRange) : (d.report call).WellFormed where
  equipped := h.equipped
  reporting := fun _ => hready
  identified := h.identified
  declared := h.declared
  queued := by
    intro event hmem
    rcases List.mem_append.mp hmem with hmem | hmem
    · exact h.queued event hmem
    · exact Call.inRange_events hrange d.slot hmem

/-- The frame is written, or lost. -/
theorem synReport (h : d.WellFormed) (hready : d.stage = .ready) (host : Host) :
    (d.synReport host).2.WellFormed := by
  obtain ⟨n, hnode⟩ := Equipped.exists_node h.equipped hready
  rw [synReport_eq hready hnode]
  exact ⟨h.equipped, fun _ => hready, h.identified, h.declared, by simp⟩

theorem close (h : d.WellFormed) (host : Host) : (d.close host).2.WellFormed :=
  wellFormed_idle (by simp [Device.close]) rfl rfl rfl (by simp [Device.close]) h.declared

/-- **A call** keeps a sink well-formed, be it refused or not. -/
theorem receive (h : d.WellFormed) (host : Host) (call : Call) :
    (d.receive host call).2.WellFormed := by
  cases hrefused : call.refusal? d.stage with
  | some error =>
    rw [receive_of_refusal hrefused]
    exact h.latch error
  | none =>
    have hown : ∀ own, call.stage? = some own → d.stage = own ∧ call.fault? = none :=
      fun own hown => Call.eq_of_refusal?_eq_none hown hrefused
    cases call with
    | configureBegin identity =>
      obtain ⟨hnew, hfault⟩ := hown _ rfl
      have hname : ¬ nameFieldSize ≤ identity.name.utf8ByteSize := by
        intro hlong
        simp [Call.fault?, hlong] at hfault
      show (d.configureBegin identity).WellFormed
      rw [configureBegin, during_of_stage hnew]
      simp only [if_neg hname]
      exact h.begun hnew (Nat.lt_of_not_le hname)
    | configureProperty | configureKey | configureRel | configureMultiTouch | configureSlots =>
      obtain ⟨hstage, hfault⟩ := hown _ rfl
      rw [receive_declaring hstage host (by exact trivial) hfault]
      exact h.declares hstage hfault
    | configureEnd => exact h.configureEnd (hown _ rfl).1 host
    | key | rel | contact | lift =>
      obtain ⟨hready, hfault⟩ := hown _ rfl
      have hrange := Call.inRange_of_fault?_eq_none hfault
      rw [receive_report hready (by exact trivial) hrange]
      exact h.report hready hrange
    | synReport => exact h.synReport (hown _ rfl).1 host
    | close => exact h.close host

/-- **One step** keeps a sink well-formed. -/
theorem operate (h : d.WellFormed) (host : Host) (operation : Operation) :
    (d.operate host operation).2.WellFormed := by
  cases operation with
  | reset => exact h.withStatus none
  | drop => exact h.close host
  | call call => exact h.receive host call

/-- **Operations in any order** do. -/
theorem operateAll (h : d.WellFormed) (host : Host) (operations : List Operation) :
    (d.operateAll host operations).2.WellFormed := by
  induction operations generalizing d host with
  | nil => exact h
  | cons operation operations ih => exact ih (h.operate host operation) _

end WellFormed

end Device

/-! ## Names that are handed over -/

/-- The requests among some calls are all of a kind. -/
def AsksOnly (kind : Request → Prop) (events : List KernelEvent) : Prop :=
  ∀ n request failure, .requested n request failure ∈ events → kind request

namespace AsksOnly

variable {kind : Request → Prop} {events later : List KernelEvent}

theorem nil (kind : Request → Prop) : AsksOnly kind [] := by simp [AsksOnly]

theorem append (h : AsksOnly kind events) (hlater : AsksOnly kind later) :
    AsksOnly kind (events ++ later) := by
  intro n request failure hmem
  rcases List.mem_append.mp hmem with hmem | hmem
  · exact h n request failure hmem
  · exact hlater n request failure hmem

theorem mono {weaker : Request → Prop} (h : AsksOnly kind events)
    (hweaker : ∀ request, kind request → weaker request) : AsksOnly weaker events :=
  fun n request failure hmem => hweaker request (h n request failure hmem)

/-- Writes are no requests. -/
theorem of_writesTo {n : Nat} (h : ∀ event ∈ events, event.WritesTo n) : AsksOnly kind events := by
  intro m request failure hmem
  obtain ⟨bytes, outcome, hwritten⟩ := h _ hmem
  cases hwritten

end AsksOnly

namespace Host

/-- Opening a node asks for nothing. -/
theorem asks_openNode (host : Host) (path : String) (kind : Request → Prop) :
    ∃ new, (host.openNode path).1 = host.recordAll new ∧ AsksOnly kind new := by
  rcases host.openNode_spec path with ⟨result, hopen, -⟩ | hnode
  · exact ⟨[], by simp [hopen], .nil kind⟩
  · rw [hnode]
    obtain ⟨tries, ⟨n, hopen⟩ | ⟨code, hopen⟩⟩ := openDeviceIn_spec host.faults.length host path
    all_goals
      rw [hopen]
      refine ⟨_, rfl, fun m request failure hmem => ?_⟩
      simp [interrupted] at hmem

/-- Requests in order are no others than those. -/
theorem asks_requestAll (host : Host) (n : Nat) (requests : List Request) :
    ∃ new, (host.requestAll n requests).1 = host.recordAll new ∧ AsksOnly (· ∈ requests) new := by
  have hgranted : ∀ asked : List Request, AsksOnly (· ∈ asked) (granted n asked) := by
    intro asked m request failure hmem
    obtain ⟨r, hr, hevent⟩ := List.mem_map.mp hmem
    cases hevent
    exact hr
  rcases host.requestAll_spec n requests with hall | ⟨before, r, after, code, rfl, hfail⟩
  · exact ⟨_, by rw [hall], hgranted requests⟩
  · refine ⟨_, by rw [hfail], .append ((hgranted before).mono fun request hmem => ?_) ?_⟩
    · exact List.mem_append_left _ hmem
    · intro m request failure hmem
      cases List.mem_singleton.mp hmem
      simp

end Host

namespace Device

/-- Making a device asks for no more than was declared. -/
theorem asks_make (d : Device) (host : Host) {identity : DeviceIdentity}
    (hidentity : d.declaration.identity = some identity) :
    ∃ new, (d.make host).1 = host.recordAll new
      ∧ AsksOnly (· ∈ d.declaration.requests identity) new := by
  obtain ⟨opening, hopening, hnothing⟩ :=
    host.asks_openNode d.path (· ∈ d.declaration.requests identity)
  unfold make
  rw [hidentity]
  match hopen : host.openNode d.path with
  | (opened, .error e) | (opened, .ok .other) =>
    rw [hopen] at hopening
    exact ⟨opening, hopening, hnothing⟩
  | (opened, .ok (.device n)) =>
    obtain rfl : opened = host.recordAll opening := by
      rw [hopen] at hopening
      exact hopening
    obtain ⟨asked, hasked, hrequests⟩ :=
      (host.recordAll opening).asks_requestAll n (d.declaration.requests identity)
    rw [Host.recordAll_recordAll] at hasked
    simp only
    match hall : (host.recordAll opening).requestAll n (d.declaration.requests identity) with
    | (made, none) =>
      rw [hall] at hasked
      exact ⟨opening ++ asked, hasked, hnothing.append hrequests⟩
    | (made, some (r, code)) =>
      -- A request failed, so the device is closed again.
      obtain rfl : made = host.recordAll (opening ++ asked) := by
        rw [hall] at hasked
        exact hasked
      refine ⟨opening ++ asked ++ [.closed n], ?_, (hnothing.append hrequests).append ?_⟩
      · show (host.recordAll (opening ++ asked)).close n = _
        rw [Host.close, Host.record_eq, Host.recordAll_recordAll]
      · intro m request failure hmem
        cases List.mem_singleton.mp hmem

/-- Closing a device asks for no more than its end. -/
theorem asks_close (d : Device) (host : Host) :
    ∃ new, (d.close host).1 = host.recordAll new ∧ AsksOnly (· = .destroyDevice) new := by
  unfold close
  cases d.node with
  | none => exact ⟨[], by simp, .nil _⟩
  | some n =>
    refine ⟨[.requested n .destroyDevice (host.nextFailure? Request.destroyDevice.name),
      .closed n], ?_, ?_⟩
    · simp [Host.close, Host.request, Host.record_eq]
    · intro m request failure hmem
      simp only [List.mem_cons, List.not_mem_nil, or_false] at hmem
      rcases hmem with hmem | hmem <;> cases hmem
      rfl

namespace WellFormed

variable {d : Device}

/-- **One step** hands the host no name but in the field of one that fits. -/
theorem asks_operate (h : d.WellFormed) (host : Host) (operation : Operation) :
    ∃ new, (d.operate host operation).1 = host.recordAll new
      ∧ AsksOnly Request.NamesProperly new := by
  rcases d.host_operate host operation with hhost | ⟨hstage, hhost⟩ | ⟨-, n, -, hhost⟩ | hhost
  · exact ⟨[], by rw [hhost, Host.recordAll_nil], .nil _⟩
  · obtain ⟨identity, hidentity, hname⟩ := h.identified (Or.inl hstage)
    obtain ⟨new, hmake, hasked⟩ := d.asks_make host hidentity
    exact ⟨new, hhost.trans hmake, hasked.mono fun request hmem =>
      d.declaration.namesProperly_requests hname hmem⟩
  · obtain ⟨writes, hwrite, hwrites, -⟩ := host.write_spec n d.payload
    exact ⟨writes, hhost.trans hwrite, .of_writesTo hwrites⟩
  · obtain ⟨new, hclose, hasked⟩ := d.asks_close host
    refine ⟨new, hhost.trans hclose, hasked.mono ?_⟩
    rintro request rfl bus vendor product version field hsetup
    cases hsetup

/-- **Operations in any order** do so. -/
theorem asks_operateAll (h : d.WellFormed) (host : Host) (operations : List Operation) :
    ∃ new, (d.operateAll host operations).1 = host.recordAll new
      ∧ AsksOnly Request.NamesProperly new := by
  induction operations generalizing d host with
  | nil => exact ⟨[], by simp [Device.operateAll], .nil _⟩
  | cons operation operations ih =>
    obtain ⟨first, hfirst, hasked⟩ := h.asks_operate host operation
    obtain ⟨rest, hrest, hlater⟩ := ih (h.operate host operation) (d.operate host operation).1
    refine ⟨first ++ rest, ?_, hasked.append hlater⟩
    rw [Device.operateAll, hrest, hfirst, Host.recordAll_recordAll]

end WellFormed

/-! ## Calls in sequence -/

/-- Nothing that a call carries makes it out of sequence. -/
theorem fault?_ne_sequencing (call : Call) : call.fault? ≠ some .sequencing := by
  have hexcess : ∀ (code greatest : UInt16) (error : UInt16 → SinkError),
      error code ≠ .sequencing → Call.excess? code greatest error ≠ some .sequencing := by
    intro code greatest error hne hsome
    unfold Call.excess? at hsome
    split at hsome
    · exact hne (Option.some.inj hsome)
    · cases hsome
  cases call with
  | configureBegin identity =>
    simp only [Call.fault?]
    split <;> simp
  | configureProperty | configureKey | configureRel | key | rel => exact hexcess _ _ _ (by simp)
  | _ => simp [Call.fault?]

/-- A device that has an identity is not made out of sequence. -/
theorem make_ne_sequencing {d : Device} {identity : DeviceIdentity}
    (hidentity : d.declaration.identity = some identity) (host : Host) :
    (d.make host).2 ≠ .error .sequencing := by
  unfold make
  rw [hidentity]
  simp only
  split
  · simp
  · simp
  · split <;> simp

/-- What the host fails to do for a sink is not out of sequence. -/
theorem WellFormed.hostFailure?_ne_sequencing {d : Device} (h : d.WellFormed) (host : Host)
    {call : Call} (hown : ∀ own, call.stage? = some own → d.stage = own) :
    d.hostFailure? host call ≠ some .sequencing := by
  cases call with
  | configureEnd =>
    obtain ⟨identity, hidentity, -⟩ := h.identified (Or.inl (hown _ rfl))
    have hmake := make_ne_sequencing hidentity host
    intro hfailure
    simp only [hostFailure?] at hfailure
    split at hfailure
    · next error hstatus herror =>
      obtain rfl := Option.some.inj hfailure
      exact hmake herror
    · cases hfailure
  | synReport =>
    intro hfailure
    simp only [hostFailure?, Option.bind_eq_some_iff, Option.map_eq_some_iff] at hfailure
    obtain ⟨n, -, cause, -, hcause⟩ := hfailure
    cases hcause
  | _ => simp [hostFailure?]

/-- **A call in its own stage** leaves no error of being out of sequence. -/
theorem WellFormed.inSequence {d : Device} (h : d.WellFormed) (host : Host) {call : Call}
    (hown : ∀ own, call.stage? = some own → d.stage = own)
    (hstatus : d.status ≠ some .sequencing) :
    (d.receive host call).2.status ≠ some .sequencing := by
  have hrefusal : call.refusal? d.stage = call.fault? := by
    cases hstage : call.stage? with
    | none => simp [Call.refusal?, hstage]
    | some own => rw [hown own hstage, Call.refusal?_of_eq hstage]
  have hkept : (d.receive host call).2.status
      = (d.status <|> call.fault? <|> d.hostFailure? host call) := by
    have hoperate := status_operate h.equipped host (.call call)
    rw [if_neg (by simp), failure?, hrefusal] at hoperate
    exact hoperate
  rw [hkept]
  have hfault := fault?_ne_sequencing call
  have hfailure := h.hostFailure?_ne_sequencing host hown
  cases hkind : d.status with
  | some error => rwa [hkind] at hstatus
  | none =>
    cases hcarried : call.fault? with
    | some error => rwa [hcarried] at hfault
    | none => exact hfailure

/-! ## Runs -/

/-- **What always holds of a device sink**, whatever is done to it, in any order, and whatever the
faults of its host.  It is well-formed.  So a device is only made for an identity, whose name has
room in its field, with a NUL after it, and each name that the host gets is in such a field; a
frame is only written to a device of the host; and a call in its own stage never fails for being
out of sequence. -/
theorem parts_agree (path : String) (host : Host) (operations : List Operation) :
    let now := (new path).operateAll host operations
    now.2.WellFormed
    ∧ (now.2.stage = .configuring → ∃ identity, now.2.declaration.identity = some identity
      ∧ IsFieldOf identity.name (nameField identity.name)
      ∧ (now.2.make now.1).2 ≠ .error .sequencing)
    ∧ (now.2.stage = .ready → ∃ n, now.2.node = some n)
    ∧ (∃ new, now.1 = host.recordAll new ∧ AsksOnly Request.NamesProperly new)
    ∧ ∀ call : Call, (∀ own, call.stage? = some own → now.2.stage = own) →
      now.2.status ≠ some .sequencing →
      (now.2.receive now.1 call).2.status ≠ some .sequencing := by
  intro now
  have hnow : now.2.WellFormed := (wellFormed_new path).operateAll host operations
  refine ⟨hnow, fun hstage => ?_, fun hready => Equipped.exists_node hnow.equipped hready,
    (wellFormed_new path).asks_operateAll host operations,
    fun call hown hstatus => hnow.inSequence now.1 hown hstatus⟩
  obtain ⟨identity, hidentity, hname⟩ := hnow.identified (Or.inl hstage)
  exact ⟨identity, hidentity, isFieldOf_nameField hname, make_ne_sequencing hidentity now.1⟩

/-- A name that is too long is refused, and the declaration begins again with one that fits.  The
sink becomes ready, and has its device while a contact waits in its frame. -/
theorem parts_agree_after_long_name :
    let long : DeviceIdentity := ⟨String.ofList (List.replicate 80 'x'), virtualBus, 0, 0, 1⟩
    let pad : DeviceIdentity := ⟨"pad", virtualBus, 0, 0, 1⟩
    let operations : List Operation := [.call (.configureBegin long), .reset,
      .call (.configureBegin pad), .call (.configureKey 0x14A), .call (.configureKey 0x14A)]
    let reporting : List Operation := [.call .configureEnd, .call (.contact 1 7 10 20)]
    let declared := (new "/dev/uinput").operateAll (.new []) operations
    let made := (new "/dev/uinput").operateAll (.new []) (operations ++ reporting)
    declared.2.stage = .configuring ∧ declared.2.declaration.keys = [0x14A]
      ∧ (∃ identity, declared.2.declaration.identity = some identity ∧ identity = pad
        ∧ IsFieldOf identity.name (nameField identity.name))
      ∧ made.2.stage = .ready ∧ made.2.frame.length = 4 ∧ (∃ n, made.2.node = some n)
      ∧ (made.2.receive made.1 .synReport).2.status ≠ some .sequencing := by
  intro long pad operations reporting declared made
  subst made declared
  obtain ⟨-, hnamed, -⟩ := parts_agree "/dev/uinput" (.new []) operations
  obtain ⟨-, -, hequipped, -, hinSequence⟩ :=
    parts_agree "/dev/uinput" (.new []) (operations ++ reporting)
  obtain ⟨identity, hidentity, hfield, -⟩ := hnamed (by decide +kernel)
  refine ⟨by decide +kernel, by decide +kernel, ⟨identity, hidentity, ?_, hfield⟩,
    by decide +kernel, by decide +kernel, hequipped (by decide +kernel),
    hinSequence .synReport ?_ (by decide +kernel)⟩
  · refine Option.some.inj (hidentity.symm.trans ?_)
    decide +kernel
  · intro own hown
    obtain rfl : Stage.ready = own := Option.some.inj hown
    decide +kernel

end Device

end VirtualTouchpad
