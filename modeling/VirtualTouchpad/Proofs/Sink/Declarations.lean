/-
# Devices as they were declared

What a device is made of is a matter of the calls that declared it alone.  Each property,
key and relative axis is requested once, in the order of the first declarations
(`foldl_insertNew`), and each absolute axis once in that order, with the range of its last
declaration (`foldl_setRange`).

`Device.made_as_declared` says which requests the host gets for any declaring calls, and
that it gets none if a code is too great.
-/
import Mathlib.Data.List.Basic
import Mathlib.Data.List.Induction
import VirtualTouchpad.Proofs.Sink.Calls

namespace VirtualTouchpad

/-! ## Lists without repetitions -/

namespace Declaration

theorem eraseDups_concat (codes : List UInt16) (code : UInt16) :
    (codes ++ [code]).eraseDups = insertNew codes.eraseDups code := by
  rw [List.eraseDups_append, insertNew]
  by_cases hmem : code ∈ codes
  · rw [if_pos (List.mem_eraseDups.mpr hmem)]
    simp [List.removeAll, hmem]
  · rw [if_neg (fun h => hmem (List.mem_eraseDups.mp h))]
    simp [List.removeAll, hmem, List.eraseDups_cons]

theorem nodup_insertNew {codes : List UInt16} (h : codes.Nodup) (code : UInt16) :
    (insertNew codes code).Nodup := by
  unfold insertNew
  split
  · exact h
  · next hnew =>
    refine List.nodup_append.mpr ⟨h, by simp, ?_⟩
    rintro a ha b hb rfl
    exact hnew (List.mem_singleton.mp hb ▸ ha)

theorem nodup_eraseDups (codes : List UInt16) : codes.eraseDups.Nodup := by
  induction codes using List.reverseRecOn with
  | nil => exact List.nodup_nil
  | append_singleton codes code ih =>
    rw [eraseDups_concat]
    exact nodup_insertNew ih code

/-- **Codes that are new come last**: of codes in order each stays where it came first. -/
theorem foldl_insertNew (codes later : List UInt16) :
    later.foldl insertNew codes.eraseDups = (codes ++ later).eraseDups := by
  induction later generalizing codes with
  | nil => rw [List.foldl_nil, List.append_nil]
  | cons code later ih =>
    rw [List.foldl_cons, ← eraseDups_concat, ih, List.append_assoc]
    rfl

/-! ## Axes with their last ranges -/

/-- Absolute axes in the order of their first declarations, each as it was declared last. -/
def lastRanges (declared : List (UInt16 × AxisRange)) : List (UInt16 × AxisRange) :=
  (declared.map (·.1)).eraseDups.filterMap fun axis => declared.reverse.find? (·.1 = axis)

/-- Every axis that is declared has a last declaration. -/
theorem exists_last {declared : List (UInt16 × AxisRange)} {axis : UInt16}
    (h : axis ∈ declared.map (·.1)) :
    ∃ range, declared.reverse.find? (·.1 = axis) = some (axis, range) := by
  obtain ⟨pair, hmem, rfl⟩ := List.mem_map.mp h
  have hsome : (declared.reverse.find? (·.1 = pair.1)).isSome := by
    rw [List.find?_isSome]
    exact ⟨pair, List.mem_reverse.mpr hmem, by simp⟩
  obtain ⟨found, hfound⟩ := Option.isSome_iff_exists.mp hsome
  have hsame : found.1 = pair.1 := by simpa using List.find?_some hfound
  exact ⟨found.2, by rw [hfound, ← hsame]⟩

/-- No axis is lost, and none comes twice. -/
theorem map_fst_lastRanges (declared : List (UInt16 × AxisRange)) :
    (lastRanges declared).map (·.1) = (declared.map (·.1)).eraseDups := by
  have hall : ∀ axes : List UInt16, (∀ axis ∈ axes, axis ∈ declared.map (·.1)) →
      (axes.filterMap fun axis => declared.reverse.find? (·.1 = axis)).map (·.1) = axes := by
    intro axes haxes
    induction axes with
    | nil => rfl
    | cons axis axes ih =>
      obtain ⟨range, hlast⟩ := exists_last (haxes axis List.mem_cons_self)
      rw [List.filterMap_cons, hlast, List.map_cons,
        ih fun other hmem => haxes other (List.mem_cons_of_mem _ hmem)]
  exact hall _ fun axis hmem => List.mem_eraseDups.mp hmem

/-- Setting the range of one axis among others that are told by a function. -/
theorem setRange_filterMap {axes : List UInt16} (hnodup : axes.Nodup)
    {told : UInt16 → Option (UInt16 × AxisRange)}
    (htold : ∀ axis ∈ axes, ∃ range, told axis = some (axis, range)) (code : UInt16)
    (range : AxisRange) :
    setRange (axes.filterMap told) code range
      = (insertNew axes code).filterMap fun axis =>
          if code = axis then some (code, range) else told axis := by
  induction axes with
  | nil => simp [setRange, insertNew]
  | cons axis axes ih =>
    obtain ⟨hnot, hrest⟩ := List.nodup_cons.mp hnodup
    obtain ⟨old, hold⟩ := htold axis List.mem_cons_self
    have hothers := ih hrest fun other hmem => htold other (List.mem_cons_of_mem _ hmem)
    rw [List.filterMap_cons, hold, setRange]
    by_cases hcode : axis = code
    · -- The axis is declared already, and no other is the same.
      subst hcode
      rw [if_pos rfl, insertNew, if_pos List.mem_cons_self, List.filterMap_cons, if_pos rfl]
      refine congrArg _ (List.filterMap_congr fun other hmem => ?_)
      rw [if_neg]
      rintro rfl
      exact hnot hmem
    · have hinsert : insertNew (axis :: axes) code = axis :: insertNew axes code := by
        simp only [insertNew, List.mem_cons]
        by_cases hmem : code ∈ axes
        · simp [hmem]
        · simp [hmem, Ne.symm hcode]
      rw [if_neg hcode, hinsert, List.filterMap_cons, if_neg (Ne.symm hcode), hold, hothers]

/-- One more declaration of an axis. -/
theorem lastRanges_concat (declared : List (UInt16 × AxisRange)) (code : UInt16)
    (range : AxisRange) :
    lastRanges (declared ++ [(code, range)]) = setRange (lastRanges declared) code range := by
  have htold : ∀ axis ∈ (declared.map (·.1)).eraseDups, ∃ range,
      declared.reverse.find? (·.1 = axis) = some (axis, range) :=
    fun axis hmem => exists_last (List.mem_eraseDups.mp hmem)
  rw [lastRanges, lastRanges, setRange_filterMap (nodup_eraseDups _) htold, List.map_append,
    List.map_singleton, eraseDups_concat]
  refine List.filterMap_congr fun axis _ => ?_
  rw [List.reverse_append, List.reverse_singleton, List.singleton_append, List.find?_cons]
  by_cases hcode : code = axis <;> simp [hcode]

/-- **The last range counts**, and an axis that is new comes last. -/
theorem foldl_setRange (declared later : List (UInt16 × AxisRange)) :
    later.foldl (fun axes pair => setRange axes pair.1 pair.2) (lastRanges declared)
      = lastRanges (declared ++ later) := by
  induction later generalizing declared with
  | nil => rw [List.foldl_nil, List.append_nil]
  | cons pair later ih =>
    rw [List.foldl_cons, ← lastRanges_concat, ih, List.append_assoc]
    rfl

end Declaration

/-! ## What calls declare -/

namespace Call

/-- Whether a call declares something, with any code. -/
def Declares : Call → Prop
  | .configureProperty _ | .configureKey _ | .configureRel _ | .configureMultiTouch ..
  | .configureSlots _ => True
  | _ => False

/-- The input property that a call declares. -/
def property? : Call → Option UInt16
  | .configureProperty property => some property
  | _ => none

/-- The key that a call declares. -/
def key? : Call → Option UInt16
  | .configureKey code => some code
  | _ => none

/-- The relative axis that a call declares. -/
def relAxis? : Call → Option UInt16
  | .configureRel axis => some axis
  | _ => none

/-- The absolute axes that a call declares, with their ranges. -/
def absAxes : Call → List (UInt16 × AxisRange)
  | .configureMultiTouch x0 y0 x1 y1 =>
    [(AbsAxis.positionX, ⟨x0, x1⟩), (AbsAxis.positionY, ⟨y0, y1⟩)]
  | .configureSlots slots => [(AbsAxis.slot, ⟨0, slots - 1⟩), (AbsAxis.trackingId, ⟨0, 0xFFFF⟩)]
  | _ => []

end Call

/-- The requests for a device that calls declare: its types of events, what it can report, its
identity, and its making. -/
def setup (identity : DeviceIdentity) (calls : List Call) : List Request :=
  [.setEventType EventType.syn]
    ++ (if calls.any (·.key?.isSome) then [.setEventType EventType.key] else [])
    ++ (if calls.any (·.relAxis?.isSome) then [.setEventType EventType.rel] else [])
    ++ (if calls.any (·.absAxes ≠ []) then [.setEventType EventType.abs] else [])
    ++ (calls.filterMap Call.property?).eraseDups.map .setProperty
    ++ (calls.filterMap Call.key?).eraseDups.map .setKey
    ++ (calls.filterMap Call.relAxis?).eraseDups.map .setRelAxis
    ++ (Declaration.lastRanges (calls.flatMap Call.absAxes)).flatMap
        (fun (axis, range) => [.setAbsAxis axis, .setupAxis axis range])
    ++ [.setupDevice identity.bus identity.vendor identity.product identity.version
        (nameField identity.name), .createDevice]

namespace Declaration

/-- The declaration with what one more call declares. -/
def add (declaration : Declaration) (call : Call) : Declaration where
  identity := declaration.identity
  properties := call.property?.toList.foldl insertNew declaration.properties
  keys := call.key?.toList.foldl insertNew declaration.keys
  relAxes := call.relAxis?.toList.foldl insertNew declaration.relAxes
  absAxes :=
    call.absAxes.foldl (fun axes pair => setRange axes pair.1 pair.2) declaration.absAxes

/-- What calls declare together. -/
def ofCalls (identity : DeviceIdentity) (calls : List Call) : Declaration where
  identity := some identity
  properties := (calls.filterMap Call.property?).eraseDups
  keys := (calls.filterMap Call.key?).eraseDups
  relAxes := (calls.filterMap Call.relAxis?).eraseDups
  absAxes := lastRanges (calls.flatMap Call.absAxes)

theorem add_ofCalls (identity : DeviceIdentity) (calls : List Call) (call : Call) :
    (ofCalls identity calls).add call = ofCalls identity (calls ++ [call]) := by
  have hone : ∀ read : Call → Option UInt16,
      (read call).toList.foldl insertNew (calls.filterMap read).eraseDups
        = ((calls ++ [call]).filterMap read).eraseDups := by
    intro read
    rw [foldl_insertNew, List.filterMap_append]
    cases hread : read call <;> simp [hread]
  have haxes : call.absAxes.foldl (fun axes pair => setRange axes pair.1 pair.2)
      (lastRanges (calls.flatMap Call.absAxes))
        = lastRanges ((calls ++ [call]).flatMap Call.absAxes) := by
    rw [foldl_setRange, List.flatMap_append, List.flatMap_singleton]
  simp only [add, ofCalls, hone, haxes]

/-- **Calls that declare**, one after the other. -/
theorem foldl_add (identity : DeviceIdentity) (calls later : List Call) :
    later.foldl add (ofCalls identity calls) = ofCalls identity (calls ++ later) := by
  induction later generalizing calls with
  | nil => rw [List.foldl_nil, List.append_nil]
  | cons call later ih =>
    rw [List.foldl_cons, add_ofCalls, ih, List.append_assoc]
    rfl

theorem eraseDups_eq_nil_iff {codes : List UInt16} : codes.eraseDups = [] ↔ codes = [] := by
  cases codes <;> simp [List.eraseDups_cons]

/-- Nothing of a kind is declared exactly if no call does. -/
theorem eraseDups_filterMap_eq_nil_iff (read : Call → Option UInt16) (calls : List Call) :
    (calls.filterMap read).eraseDups = [] ↔ ¬ calls.any (fun call => (read call).isSome) := by
  rw [eraseDups_eq_nil_iff, List.filterMap_eq_nil_iff]
  simp

theorem lastRanges_eq_nil_iff (calls : List Call) :
    lastRanges (calls.flatMap Call.absAxes) = [] ↔ ¬ calls.any (·.absAxes ≠ []) := by
  rw [← List.map_eq_nil_iff (f := (·.1)), map_fst_lastRanges, eraseDups_eq_nil_iff,
    List.map_eq_nil_iff, List.flatMap_eq_nil_iff]
  simp

/-- The requests that make a declared device are those that its calls ask for. -/
theorem requests_ofCalls (identity : DeviceIdentity) (calls : List Call) :
    (ofCalls identity calls).requests identity = setup identity calls := by
  simp only [requests, ofCalls, setup, eraseDups_filterMap_eq_nil_iff, lastRanges_eq_nil_iff,
    ite_not]
  simp

end Declaration

namespace Device

/-! ## Declaring -/

/-- A device whose name fits begins to be declared. -/
theorem receive_configureBegin (path : String) (host : Host) {identity : DeviceIdentity}
    (hname : identity.name.utf8ByteSize < nameFieldSize) :
    (new path).receive host (.configureBegin identity)
      = (host, { new path with declaration := .ofCalls identity [], stage := .configuring }) := by
  have hnew : (new path).stage = .new := rfl
  refine congrArg (Prod.mk host) ((during_of_stage hnew _).trans ?_)
  simp only [Nat.not_le.mpr hname, if_false]
  rfl

section Declaring

variable {d : Device} (hstage : d.stage = .configuring)

include hstage

/-- **A call that declares something**, with codes in range. -/
theorem receive_declaring (host : Host) {call : Call} (hdeclares : call.Declares)
    (hfault : call.fault? = none) :
    d.receive host call = (host, { d with declaration := d.declaration.add call }) := by
  cases call with
  | configureProperty | configureKey | configureRel =>
    refine congrArg (Prod.mk host) ((during_of_stage hstage _).trans ?_)
    exact withCode_of_fitting hfault d _
  | configureMultiTouch | configureSlots =>
    have hstill : ∀ declaration : Declaration,
        { d with declaration := declaration }.stage = .configuring := fun _ => hstage
    simp only [receive]
    rw [configureAbs_eq hstage (by decide), configureAbs_eq (hstill _) (by decide)]
    rfl
  | _ => exact hdeclares.elim

/-- Calls that declare something, with codes in range. -/
theorem receiveAll_declaring (host : Host) {calls : List Call}
    (hcalls : ∀ call ∈ calls, call.Declares) (hfaults : ∀ call ∈ calls, call.fault? = none) :
    d.receiveAll host calls
      = (host, { d with declaration := calls.foldl Declaration.add d.declaration }) := by
  induction calls generalizing d with
  | nil => rfl
  | cons call calls ih =>
    rw [receiveAll, receive_declaring hstage host (hcalls call List.mem_cons_self)
      (hfaults call List.mem_cons_self)]
    exact ih (d := { d with declaration := d.declaration.add call }) hstage
      (fun later hmem => hcalls later (List.mem_cons_of_mem _ hmem))
      (fun later hmem => hfaults later (List.mem_cons_of_mem _ hmem))

/-- Calls that declare something, with any codes: the first error is kept. -/
theorem receiveAll_declaring_any (host : Host) {calls : List Call}
    (hcalls : ∀ call ∈ calls, call.Declares) :
    ∃ declaration, d.receiveAll host calls
      = (host, { d with
          declaration := declaration
          status := d.status <|> calls.findSome? Call.fault? }) := by
  induction calls generalizing d with
  | nil => exact ⟨d.declaration, by simp [receiveAll]⟩
  | cons call calls ih =>
    have hlater : ∀ later ∈ calls, later.Declares :=
      fun later hmem => hcalls later (List.mem_cons_of_mem _ hmem)
    have hdeclares := hcalls call List.mem_cons_self
    cases hfault : call.fault? with
    | none =>
      obtain ⟨declaration, hrest⟩ :=
        ih (d := { d with declaration := d.declaration.add call }) hstage hlater
      refine ⟨declaration, ?_⟩
      rw [receiveAll, receive_declaring hstage host hdeclares hfault, List.findSome?_cons, hfault]
      exact hrest
    | some error =>
      have hown : call.stage? = some d.stage := by
        rw [hstage]
        cases call <;> first | rfl | exact hdeclares.elim
      obtain ⟨declaration, hrest⟩ := ih (d := d.latch error) hstage hlater
      refine ⟨declaration, ?_⟩
      rw [receiveAll, receive_of_fault hown hfault, List.findSome?_cons, hfault]
      refine hrest.trans ?_
      cases hstatus : d.status <;> simp [latch, hstatus]

end Declaring

/-! ## Making -/

/-- Without faults a device that has a name is made, with the next number. -/
theorem make_of_no_faults {d : Device} {identity : DeviceIdentity}
    (hidentity : d.declaration.identity = some identity) {host : Host} (hfree : host.faults = [])
    (hdevice : Host.isDevicePath d.path = true) (hnul : '\x00' ∉ d.path.toList) :
    d.make host
      = (host.recordAll (.opened host.nextDevice d.path
          :: Host.granted host.nextDevice (d.declaration.requests identity)),
        .ok host.nextDevice) := by
  have hopen : (host.recordAll [.opened host.nextDevice d.path]).faults = [] := hfree
  rw [make, hidentity]
  simp only [Host.openNode_of_no_faults hfree hdevice hnul, Host.requestAll_of_no_faults hopen,
    Host.recordAll_recordAll]
  rfl

/-- Without faults and without an error so far, the sink is ready when the declaration ends. -/
theorem configureEnd_of_no_faults {d : Device} (hstage : d.stage = .configuring)
    (hstatus : d.status = none) {identity : DeviceIdentity}
    (hidentity : d.declaration.identity = some identity) {host : Host} (hfree : host.faults = [])
    (hdevice : Host.isDevicePath d.path = true) (hnul : '\x00' ∉ d.path.toList) :
    d.configureEnd host
      = (host.recordAll (.opened host.nextDevice d.path
          :: Host.granted host.nextDevice (d.declaration.requests identity)),
        { d with stage := .ready, node := some host.nextDevice }) := by
  simp [configureEnd, hstage, hstatus, make_of_no_faults hidentity hfree hdevice hnul]

end Device

/-- The field for a name that fits holds the name and then NULs, one at least. -/
theorem nameField_of_fitting {name : String} (h : name.utf8ByteSize < nameFieldSize) :
    (nameField name).length = nameFieldSize ∧ bytesOf name ++ [0] <+: nameField name
      ∧ ∀ byte ∈ (nameField name).drop name.utf8ByteSize, byte = 0 := by
  have hlength : (bytesOf name).length = name.utf8ByteSize := by simp [bytesOf]
  obtain ⟨more, hmore⟩ := Nat.exists_eq_add_of_lt h
  have hroom : nameFieldSize - (bytesOf name).length = more + 1 := by omega
  rw [nameField, hroom]
  refine ⟨?_, ⟨List.replicate more 0, ?_⟩, fun byte hmem => ?_⟩
  · rw [List.length_append, List.length_replicate]
    omega
  · rw [List.append_assoc, List.replicate_succ]
    rfl
  · rw [← hlength, List.drop_left] at hmem
    exact List.eq_of_mem_replicate hmem

namespace Device

/-- **A device is made as it was declared.**  A new sink gets an identity with a name that fits, calls
that declare something, and the end of the declaration.  If all codes are in range, a device is opened
and made with just the requests of `setup`, and the sink is ready; if not, nothing is asked of the
host, and the sink is closed and keeps the error of the first call whose code is too great. -/
theorem made_as_declared (path : String) {identity : DeviceIdentity}
    (hname : identity.name.utf8ByteSize < nameFieldSize) {calls : List Call}
    (hcalls : ∀ call ∈ calls, call.Declares) (host : Host) :
    let made := (new path).receiveAll host (.configureBegin identity :: (calls ++ [.configureEnd]))
    ((∀ call ∈ calls, call.fault? = none) → host.faults = [] → Host.isDevicePath path = true →
        '\x00' ∉ path.toList →
      made.1 = host.recordAll (.opened host.nextDevice path
          :: Host.granted host.nextDevice (setup identity calls))
        ∧ made.2.stage = .ready ∧ made.2.node = some host.nextDevice ∧ made.2.status = none
        ∧ (nameField identity.name).length = nameFieldSize
        ∧ bytesOf identity.name ++ [0] <+: nameField identity.name
        ∧ ∀ byte ∈ (nameField identity.name).drop identity.name.utf8ByteSize, byte = 0)
    ∧ ((∃ call ∈ calls, call.fault? ≠ none) →
      made.1 = host ∧ made.2.stage = .closed ∧ made.2.node = none
        ∧ ∃ error, calls.findSome? Call.fault? = some error ∧ made.2.status = some error) := by
  intro made
  let begun : Device := { new path with declaration := .ofCalls identity [], stage := .configuring }
  have hmade : made = (begun.receiveAll host calls).2.configureEnd (begun.receiveAll host calls).1 := by
    show (new path).receiveAll host _ = _
    rw [receiveAll, receive_configureBegin path host hname, receiveAll_append]
    rfl
  have hbegun : begun.stage = .configuring := rfl
  constructor
  · intro hfaults hfree hdevice hnul
    have hdeclared : begun.receiveAll host calls
        = (host, { begun with declaration := .ofCalls identity calls }) := by
      rw [receiveAll_declaring hbegun host hcalls hfaults, Declaration.foldl_add, List.nil_append]
    have hend := configureEnd_of_no_faults
      (d := { begun with declaration := .ofCalls identity calls }) hbegun rfl rfl hfree hdevice hnul
    rw [hmade, hdeclared, hend, Declaration.requests_ofCalls]
    exact ⟨rfl, rfl, rfl, rfl, nameField_of_fitting hname⟩
  · rintro ⟨call, hmem, hfault⟩
    have hfirst : (calls.findSome? Call.fault?).isSome := by
      rw [List.findSome?_isSome_iff]
      exact ⟨call, hmem, Option.isSome_iff_ne_none.mpr hfault⟩
    obtain ⟨error, herror⟩ := Option.isSome_iff_exists.mp hfirst
    obtain ⟨declaration, hdeclared⟩ := receiveAll_declaring_any hbegun host hcalls
    have hend : ({ begun with declaration := declaration, status := some error } : Device).configureEnd
        host = (host, { begun with
          declaration := declaration, status := some error, stage := .closed }) := by
      simp [configureEnd, hbegun]
    have hkept : (begun.status <|> calls.findSome? Call.fault?) = some error := herror
    rw [hmade, hdeclared, hkept, hend]
    exact ⟨rfl, rfl, rfl, error, herror, rfl⟩

/-- A key and the slots are declared twice: the key counts where it came first, the slots with their
second range.  With two codes that are too great behind them no device is made. -/
theorem made_as_declared_repeated :
    let identity : DeviceIdentity := ⟨"pad", virtualBus, 0, 0, 1⟩
    let calls : List Call := [.configureKey 0x14A, .configureSlots 2, .configureKey 0x116,
      .configureKey 0x14A, .configureRel 8, .configureSlots 5]
    let made := (new "/dev/uinput").receiveAll (.new [])
      (.configureBegin identity :: (calls ++ [.configureEnd]))
    let refused := (new "/dev/uinput").receiveAll (.new []) (.configureBegin identity ::
      ((calls ++ [.configureRel 0x20, .configureProperty 0x20]) ++ [.configureEnd]))
    (∀ call ∈ calls, call.Declares) ∧ identity.name.utf8ByteSize < nameFieldSize
      ∧ made.2.stage = .ready
      ∧ made.1.events = .opened 0 "/dev/uinput" :: Host.granted 0
        [.setEventType 0, .setEventType 1, .setEventType 2, .setEventType 3, .setKey 0x14A,
          .setKey 0x116, .setRelAxis 8, .setAbsAxis 0x2F, .setupAxis 0x2F ⟨0, 4⟩,
          .setAbsAxis 0x39, .setupAxis 0x39 ⟨0, 0xFFFF⟩,
          .setupDevice virtualBus 0 0 1 (nameField "pad"), .createDevice]
      ∧ refused.2.stage = .closed ∧ refused.2.status = some (.relRange 0x20)
      ∧ refused.1.events = [] := by
  intro identity calls made refused
  have hcalls : ∀ call ∈ calls, call.Declares := by simp [calls, Call.Declares]
  have hmore : ∀ call ∈ calls ++ [.configureRel 0x20, .configureProperty 0x20], call.Declares := by
    simp [calls, Call.Declares]
  have hname : identity.name.utf8ByteSize < nameFieldSize := by decide
  have hfaults : ∀ call ∈ calls, call.fault? = none := by decide
  obtain ⟨hmade, -⟩ := made_as_declared "/dev/uinput" hname hcalls (.new [])
  obtain ⟨hhost, hready, -⟩ := hmade hfaults rfl (by decide) (by decide)
  obtain ⟨-, hrefused⟩ := made_as_declared "/dev/uinput" hname hmore (.new [])
  obtain ⟨hkept, hclosed, -, error, hfirst, hstatus⟩ :=
    hrefused ⟨.configureRel 0x20, by simp, by decide⟩
  refine ⟨hcalls, hname, hready, ?_, hclosed, ?_, ?_⟩
  · exact (congrArg Host.events hhost).trans (by decide +kernel)
  · exact hstatus.trans (hfirst.symm.trans (by decide))
  · exact congrArg Host.events hkept

end Device

end VirtualTouchpad
