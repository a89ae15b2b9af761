/-
# The life of a device sink

Whatever is done to a device sink, in whatever order and with whatever faults, its
calls on the host follow one of the courses of `Life` (`Along.operate`).  Once it is
dropped there is no device left, so its life is a whole `Lifecycle`.
-/
import VirtualTouchpad.Proofs.Host.Lifecycle
import VirtualTouchpad.Proofs.Sink.Calls

namespace VirtualTouchpad

/-! ## Making a device -/

/-- The requests that come before the making of a device. -/
def Declaration.declaring (d : Declaration) (identity : DeviceIdentity) : List Request :=
  .setEventType EventType.syn ::
  ((if d.keys = [] then [] else [.setEventType EventType.key]) ++
  (if d.relAxes = [] then [] else [.setEventType EventType.rel]) ++
  (if d.absAxes = [] then [] else [.setEventType EventType.abs]) ++
  d.properties.map .setProperty ++ d.keys.map .setKey ++ d.relAxes.map .setRelAxis ++
  d.absAxes.flatMap (fun (code, range) => [.setAbsAxis code, .setupAxis code range]) ++
  [.setupDevice identity.bus identity.vendor identity.product identity.version
    (nameField identity.name)])

theorem Declaration.requests_eq (d : Declaration) (identity : DeviceIdentity) :
    d.requests identity = d.declaring identity ++ [.createDevice] := by
  simp [requests, declaring]

theorem Declaration.declares_of_mem {d : Declaration} {identity : DeviceIdentity} {r : Request}
    (h : r ∈ d.declaring identity) : r.Declares := by
  simp only [declaring, List.mem_cons, List.mem_append, List.mem_map, List.mem_flatMap] at h
  cases r with
  | createDevice => simp at h
  | destroyDevice => simp at h
  | _ => exact ⟨by simp, by simp⟩

/-- The requests before one that fails only declare. -/
theorem Declaration.declares_of_split {d : Declaration} {identity : DeviceIdentity}
    {before after : List Request} {r : Request}
    (h : d.requests identity = before ++ r :: after) :
    (∀ request ∈ before, request.Declares) ∧ r ≠ .destroyDevice := by
  rw [requests_eq] at h
  rcases List.append_eq_append_iff.mp h with ⟨between, hbefore, hrest⟩ | ⟨between, hdeclaring, hrest⟩
  · cases between with
    | nil =>
      rw [hbefore, List.append_nil]
      refine ⟨fun request hmem => declares_of_mem hmem, ?_⟩
      have hr : r = .createDevice := (List.cons_eq_cons.mp hrest).1.symm
      simp [hr]
    | cons request between => simp at hrest
  · refine ⟨fun request hmem => declares_of_mem (hdeclaring ▸ List.mem_append_left _ hmem), ?_⟩
    cases between with
    | nil =>
      have hr : r = .createDevice := (List.cons_eq_cons.mp hrest).1
      simp [hr]
    | cons request between =>
      obtain ⟨rfl, -⟩ := List.cons_eq_cons.mp hrest
      exact (declares_of_mem (hdeclaring ▸ by simp : r ∈ d.declaring identity)).2

namespace Device

/-- **Making a device** is the course of a life up to the living device, or to its end, and writes
nothing. -/
theorem make_spec (d : Device) (host : Host) :
    ∃ events, (d.make host).1 = host.recordAll events
      ∧ Life d.path (d.make host).2.toOption events ∧ ∀ event ∈ events, event.isWrite = false := by
  unfold make
  cases d.declaration.identity with
  | none => exact ⟨[], by simp, .unopened, by simp⟩
  | some identity =>
    rcases host.openNode_spec d.path with ⟨result, hopen, hnone⟩ | hnode
    · simp only [hopen]
      match result, hnone with
      | .error e, _ => exact ⟨[], by simp, .unopened, by simp⟩
      | .ok .other, _ => exact ⟨[], by simp, .unopened, by simp⟩
      | .ok (.device n), hnone => exact absurd rfl (hnone n)
    obtain ⟨tries, ⟨n, hopen⟩ | ⟨code, hopen⟩⟩ :=
      Host.openDeviceIn_spec host.faults.length host d.path
    · rw [← hnode] at hopen
      simp only [hopen]
      have hevents : ∀ requests later,
          Host.interrupted d.path tries ++ [.opened n d.path] ++ (Host.granted n requests ++ later)
            = opening d.path tries n requests ++ later := by
        simp [opening]
      rcases Host.requestAll_spec
          (host.recordAll (Host.interrupted d.path tries ++ [.opened n d.path])) n
          (d.declaration.requests identity)
        with hall | ⟨before, r, after, code, hsplit, hfail⟩
      · -- All requests succeeded, the making among them.
        refine ⟨opening d.path tries n (d.declaration.declaring identity)
          ++ [.requested n .createDevice none], ?_, ?_, ?_⟩
        · simp only [hall]
          rw [Host.recordAll_recordAll, Declaration.requests_eq, Host.granted, List.map_append]
          exact congrArg host.recordAll (hevents _ _)
        · simp only [hall]
          exact .living tries n (fun r hmem => Declaration.declares_of_mem hmem) (by simp)
        · intro event hmem
          rcases List.mem_append.mp hmem with hmem | hmem
          · exact not_write_of_mem_opening hmem
          · rw [List.mem_singleton.mp hmem]
            rfl
      · -- One failed, so the device is closed again.
        obtain ⟨hbefore, hnot⟩ := Declaration.declares_of_split hsplit
        refine ⟨opening d.path tries n before
          ++ [.requested n r (some code), .closed n], ?_, ?_, ?_⟩
        · simp only [hfail, Host.close]
          rw [Host.record_eq, Host.recordAll_recordAll, Host.recordAll_recordAll, ← hevents]
          simp
        · simp only [hfail]
          exact .abandoned tries n r code hbefore hnot
        · intro event hmem
          rcases List.mem_append.mp hmem with hmem | hmem
          · exact not_write_of_mem_opening hmem
          · simp only [List.mem_cons, List.not_mem_nil, or_false] at hmem
            rcases hmem with rfl | rfl <;> rfl
    · rw [← hnode] at hopen
      simp only [hopen]
      refine ⟨_, rfl, .refused tries code, fun event hmem => ?_⟩
      rcases List.mem_append.mp hmem with hmem | hmem
      · rw [List.eq_of_mem_replicate hmem]
        rfl
      · rw [List.mem_singleton.mp hmem]
        rfl

/-! ## Operations -/

/-- A device sink whose calls on the host so far are a course of life. -/
structure Along (path : String) (d : Device) (events : List KernelEvent) : Prop where
  located : d.path = path
  life : Life path d.node events
  /-- Nothing is asked of the host before the declaration ends. -/
  untouched : d.stage = .new ∨ d.stage = .configuring → events = []

theorem along_new (path : String) : Along path (.new path) [] where
  located := rfl
  life := .unopened
  untouched := fun _ => rfl

namespace Along

variable {path : String} {d : Device} {events : List KernelEvent}

/-- A device sink that asks nothing of the host goes on as it was. -/
theorem unasked {e : Device} (h : Along path d events) (hpath : e.path = d.path)
    (hnode : e.node = d.node)
    (hstage : e.stage = d.stage ∨ d.stage = .new ∧ e.stage = .configuring) :
    Along path e events where
  located := hpath.trans h.located
  life := hnode ▸ h.life
  untouched := fun hearly => by
    rcases hstage with hstage | ⟨hnew, -⟩
    · exact h.untouched (hstage ▸ hearly)
    · exact h.untouched (Or.inl hnew)

/-- Such a step adds nothing to the calls on the host. -/
theorem silent {e : Device} (h : Along path d events) (host : Host) (hpath : e.path = d.path)
    (hnode : e.node = d.node)
    (hstage : e.stage = d.stage ∨ d.stage = .new ∧ e.stage = .configuring) :
    ∃ new, host = host.recordAll new ∧ Along path e (events ++ new) := by
  refine ⟨[], by simp, ?_⟩
  rw [List.append_nil]
  exact h.unasked hpath hnode hstage

theorem configureEnd (h : Along path d events) (host : Host) :
    ∃ new, (d.configureEnd host).1 = host.recordAll new
      ∧ Along path (d.configureEnd host).2 (events ++ new) := by
  unfold Device.configureEnd
  split
  · exact h.silent host rfl rfl (Or.inl rfl)
  next hstage =>
  have hconfiguring : d.stage = .configuring := Classical.byContradiction hstage
  have hevents : events = [] := h.untouched (Or.inr hconfiguring)
  subst hevents
  split
  · refine ⟨[], by simp, h.located, h.life, ?_⟩
    simp
  · obtain ⟨new, hhost, hlife, -⟩ := d.make_spec host
    rw [h.located] at hlife
    match hmake : d.make host with
    | (made, .ok n) =>
      rw [hmake] at hhost hlife
      exact ⟨new, hhost, h.located, hlife, by simp⟩
    | (made, .error e) =>
      rw [hmake] at hhost hlife
      -- A life does not begin before the declaration ends, so there is no node to keep.
      have hnode : d.node = none := by
        cases hnode : d.node with
        | none => rfl
        | some n =>
          have hlife := h.life
          rw [hnode] at hlife
          generalize hnil : ([] : List KernelEvent) = events at hlife
          cases hlife with
          | living => simp [opening] at hnil
      refine ⟨new, hhost, h.located, ?_, by simp [latch]⟩
      show Life path d.node _
      rw [hnode]
      exact hlife

theorem synReport (h : Along path d events) (host : Host) :
    ∃ new, (d.synReport host).1 = host.recordAll new
      ∧ Along path (d.synReport host).2 (events ++ new) := by
  by_cases hready : d.stage = .ready
  · cases hnode : d.node with
    | none =>
      have hrefused : d.synReport host = (host, { d with frame := [] }.latch .sequencing) := by
        simp [Device.synReport, hready, hnode]
      rw [hrefused]
      exact h.silent host rfl rfl (Or.inl rfl)
    | some n =>
      obtain ⟨writes, hhost, hwrites, -⟩ := host.write_spec n d.payload
      have hlife : Life path (some n) events := hnode ▸ h.life
      rw [synReport_eq hready hnode]
      refine ⟨writes, hhost, h.located, ?_, by simp [hready]⟩
      show Life path d.node _
      rw [hnode]
      exact hlife.write hwrites
  · have hrefused : d.synReport host = (host, d.latch .sequencing) := by
      simp [Device.synReport, hready]
    rw [hrefused]
    exact h.silent host rfl rfl (Or.inl rfl)

theorem close (h : Along path d events) (host : Host) :
    ∃ new, (d.close host).1 = host.recordAll new
      ∧ Along path (d.close host).2 (events ++ new) := by
  unfold Device.close
  cases hnode : d.node with
  | none =>
    have hlife := h.life
    rw [hnode] at hlife
    exact ⟨[], by simp, h.located, by simpa using hlife, by simp⟩
  | some n =>
    have hlife : Life path (some n) events := hnode ▸ h.life
    refine ⟨[.requested n .destroyDevice (host.nextFailure? Request.destroyDevice.name), .closed n],
      ?_, h.located, hlife.close _, by simp⟩
    simp only [Host.close, Host.request, Host.record_eq, Host.recordAll_recordAll]
    rfl

/-- **One step**: an operation goes along a course of life. -/
theorem operate (h : Along path d events) (host : Host) (operation : Operation) :
    ∃ new, (d.operate host operation).1 = host.recordAll new
      ∧ Along path (d.operate host operation).2 (events ++ new) := by
  cases operation with
  | reset => exact h.silent host rfl rfl (Or.inl rfl)
  | drop => exact h.close host
  | call call =>
    show ∃ new, (d.receive host call).1 = host.recordAll new
      ∧ Along path (d.receive host call).2 (events ++ new)
    by_cases hquiet : call.IsQuiet
    · obtain ⟨hhost, hquietly⟩ := d.quiet_receive host hquiet
      rw [hhost]
      exact h.silent host hquietly.path hquietly.node hquietly.stage
    · cases call with
      | configureEnd => exact h.configureEnd host
      | synReport => exact h.synReport host
      | close => exact h.close host
      | _ => exact absurd ⟨by simp, by simp, by simp⟩ hquiet

end Along

/-! ## Whole lives -/

/-- Does operations to a device in order. -/
def operateAll (d : Device) (host : Host) : List Operation → Host × Device
  | [] => (host, d)
  | operation :: operations =>
    (d.operate host operation).2.operateAll (d.operate host operation).1 operations

theorem operateAll_append (d : Device) (host : Host) (operations later : List Operation) :
    d.operateAll host (operations ++ later)
      = (d.operateAll host operations).2.operateAll (d.operateAll host operations).1 later := by
  induction operations generalizing d host with
  | nil => rfl
  | cons operation operations ih => exact ih _ _

/-- Operations in any order go along a course of life. -/
theorem Along.operateAll {path : String} {d : Device} {events : List KernelEvent}
    (h : Along path d events) (host : Host) (operations : List Operation) :
    ∃ new, (d.operateAll host operations).1 = host.recordAll new
      ∧ Along path (d.operateAll host operations).2 (events ++ new) := by
  induction operations generalizing d host events with
  | nil => exact h.silent host rfl rfl (Or.inl rfl)
  | cons operation operations ih =>
    obtain ⟨first, hfirst, halong⟩ := h.operate host operation
    obtain ⟨rest, hrest, hlater⟩ := ih halong (d.operate host operation).1
    refine ⟨first ++ rest, ?_, ?_⟩
    · rw [Device.operateAll, hrest, hfirst, Host.recordAll_recordAll]
    · rw [← List.append_assoc]
      exact hlater

/-- A sink that is closed for good. -/
structure Over (d : Device) : Prop where
  stage : d.stage = .closed
  node : d.node = none

theorem over_close (d : Device) (host : Host) : (d.close host).2.Over := ⟨rfl, rfl⟩

/-- Nothing opens a sink again that is closed for good. -/
theorem Over.operate {d : Device} (h : d.Over) (host : Host) (operation : Operation) :
    (d.operate host operation).2.Over := by
  cases operation with
  | reset => exact ⟨h.stage, h.node⟩
  | drop => exact over_close d host
  | call call =>
    show (d.receive host call).2.Over
    by_cases hquiet : call.IsQuiet
    · obtain ⟨-, hquietly⟩ := d.quiet_receive host hquiet
      refine ⟨?_, hquietly.node.trans h.node⟩
      rcases hquietly.stage with hstage | ⟨hnew, -⟩
      · exact hstage.trans h.stage
      · exact absurd (hnew.symm.trans h.stage) (by decide)
    · cases call with
      | configureEnd => exact ⟨by simp [receive, configureEnd, h.stage, latch],
          by simp [receive, configureEnd, h.stage, latch, h.node]⟩
      | synReport => exact ⟨by simp [receive, synReport, h.stage, latch],
          by simp [receive, synReport, h.stage, latch, h.node]⟩
      | close => exact over_close d host
      | _ => exact absurd ⟨by simp, by simp, by simp⟩ hquiet

/-! ## Sinks that are ready -/

/-- A sink has a device of the host exactly while it is ready. -/
def Equipped (d : Device) : Prop := d.node.isSome ↔ d.stage = .ready

theorem equipped_new (path : String) : (new path).Equipped := by simp [Equipped, new]

/-- A sink that is closed has none. -/
theorem Over.equipped {d : Device} (h : d.Over) : d.Equipped := by
  simp [Equipped, h.stage, h.node]

namespace Equipped

variable {d : Device}

theorem exists_node (h : d.Equipped) (hready : d.stage = .ready) : ∃ n, d.node = some n :=
  Option.isSome_iff_exists.mp (h.mpr hready)

/-- What keeps the stage and the device keeps a sink equipped. -/
theorem kept {e : Device} (h : d.Equipped) (hstage : e.stage = d.stage)
    (hnode : e.node = d.node) : e.Equipped := by
  rw [Equipped, hstage, hnode]
  exact h

theorem configureEnd (h : d.Equipped) (host : Host) : (d.configureEnd host).2.Equipped := by
  unfold Device.configureEnd
  split
  · exact h.kept rfl rfl
  next hstage =>
  have hconfiguring : d.stage = .configuring := Classical.byContradiction hstage
  -- There is no device before the declaration ends.
  have hnone : d.node.isSome = false := by
    rw [← Bool.not_eq_true]
    intro hsome
    exact absurd (h.mp hsome) (by simp [hconfiguring])
  split
  · simp [Equipped, hnone]
  · split
    · simp [Equipped]
    · simp [Equipped, latch, hnone]

theorem synReport (h : d.Equipped) (host : Host) : (d.synReport host).2.Equipped := by
  unfold Device.synReport
  split
  · exact h.kept rfl rfl
  · simp only
    split
    · exact h.kept rfl rfl
    · split <;> exact h.kept rfl rfl

/-- **One step** keeps a sink equipped. -/
theorem operate (h : d.Equipped) (host : Host) (operation : Operation) :
    (d.operate host operation).2.Equipped := by
  cases operation with
  | reset => exact h.kept rfl rfl
  | drop => exact (over_close d host).equipped
  | call call =>
    show (d.receive host call).2.Equipped
    by_cases hquiet : call.IsQuiet
    · obtain ⟨-, hquietly⟩ := d.quiet_receive host hquiet
      rcases hquietly.stage with hstage | ⟨hnew, hconfiguring⟩
      · exact h.kept hstage hquietly.node
      · have hready : d.node.isSome ↔ d.stage = .ready := h
        rw [Equipped, hquietly.node, hready, hconfiguring, hnew]
        decide
    · cases call with
      | configureEnd => exact h.configureEnd host
      | synReport => exact h.synReport host
      | close => exact (over_close d host).equipped
      | _ => exact absurd ⟨by simp, by simp, by simp⟩ hquiet

/-- **Operations in any order** do. -/
theorem operateAll (h : d.Equipped) (host : Host) (operations : List Operation) :
    (d.operateAll host operations).2.Equipped := by
  induction operations generalizing d host with
  | nil => exact h
  | cons operation operations ih => exact ih (h.operate host operation) _

end Equipped

/-! ## The end of a life -/

/-- **The whole life of a sink** that is used in any way and then dropped. -/
theorem lifecycle_operateAll (path : String) (faults : List KernelFault) (files : Files)
    (operations : List Operation) :
    Lifecycle path
      ((new path).operateAll ⟨faults, [], files⟩ (operations ++ [.drop])).1.events := by
  obtain ⟨events, hhost, halong⟩ :=
    (along_new path).operateAll ⟨faults, [], files⟩ (operations ++ [.drop])
  have hover : ((new path).operateAll ⟨faults, [], files⟩ (operations ++ [.drop])).2.Over := by
    rw [operateAll_append]
    exact over_close _ _
  have hlife := halong.life
  rw [hover.node] at hlife
  rw [hhost]
  exact hlife.lifecycle

end Device

/-! ## Lives in a rack -/

/-- A sink of a rack is a device sink whose calls on the host so far are a course of life. -/
def Rack.HasAlong (rack : Rack) (path : String) (id : SinkId) (events : List KernelEvent) : Prop :=
  ∃ d, rack.sinks[id]? = some (.device d) ∧ d.Along path events

/-- A sink of a rack is a device sink that is closed for good. -/
def Rack.HasOver (rack : Rack) (id : SinkId) : Prop :=
  ∃ d : Device, rack.sinks[id]? = some (.device d) ∧ d.Over

namespace Effect

/-- The sink that an operation is done to. -/
def target? : Effect → Option SinkId
  | .added _ => none
  | .done id _ => some id

end Effect

namespace Rack

/-- The calls on the host that effects on one sink make. -/
def eventsOf (id : SinkId) (rack : Rack) : List Effect → List KernelEvent
  | [] => []
  | effect :: effects =>
    (if effect.target? = some id then
      (rack.perform effect).host.events.drop rack.host.events.length
    else []) ++ (rack.perform effect).eventsOf id effects

theorem eventsOf_append (id : SinkId) (rack : Rack) (effects later : List Effect) :
    rack.eventsOf id (effects ++ later)
      = rack.eventsOf id effects ++ (rack.performAll effects).eventsOf id later := by
  induction effects generalizing rack with
  | nil => rfl
  | cons effect effects ih => simp [eventsOf, ih]

theorem eventsOf_cons (id : SinkId) (rack : Rack) (effect : Effect) (effects : List Effect) :
    rack.eventsOf id (effect :: effects)
      = rack.eventsOf id [effect] ++ (rack.perform effect).eventsOf id effects :=
  eventsOf_append id rack [effect] effects

theorem eventsOf_singleton (id : SinkId) (rack : Rack) (effect : Effect) :
    rack.eventsOf id [effect]
      = if effect.target? = some id then
          (rack.perform effect).host.events.drop rack.host.events.length
        else [] := List.append_nil _

variable {rack : Rack} {path : String} {id : SinkId} {events : List KernelEvent}

/-- An effect takes a sink along its course, with the calls that it makes on that sink. -/
theorem HasAlong.perform (h : rack.HasAlong path id events) (effect : Effect) :
    (rack.perform effect).HasAlong path id (events ++ rack.eventsOf id [effect]) := by
  obtain ⟨d, hd, halong⟩ := h
  have hlt : id < rack.sinks.length := (List.getElem?_eq_some_iff.mp hd).1
  rw [eventsOf_singleton]
  cases effect with
  | added sink =>
    refine ⟨d, ?_, by simpa [Effect.target?] using halong⟩
    simp [Rack.perform, add, List.getElem?_append_left hlt, hd]
  | done other operation =>
    by_cases hid : other = id
    · subst hid
      obtain ⟨new, hhost, hnew⟩ := halong.operate rack.host operation
      refine ⟨(d.operate rack.host operation).2, ?_, ?_⟩
      · simp [Rack.perform, update_of_getElem? hd, Sink.operate_device, hlt]
      · simpa [Effect.target?, Rack.perform, update_of_getElem? hd, Sink.operate_device, hhost]
          using hnew
    · refine ⟨d, ?_, by simpa [Effect.target?, hid] using halong⟩
      rw [Rack.perform, getElem?_update_of_ne hid, hd]

theorem HasAlong.performAll (h : rack.HasAlong path id events) (effects : List Effect) :
    (rack.performAll effects).HasAlong path id (events ++ rack.eventsOf id effects) := by
  induction effects generalizing rack events with
  | nil => simpa [eventsOf] using h
  | cons effect effects ih =>
    have hstep := ih (h.perform effect)
    rw [List.append_assoc, ← eventsOf_cons] at hstep
    exact hstep

/-- No effect asks the host for a sink that is not there. -/
theorem eventsOf_absent (h : rack.sinks.length ≤ id) (effect : Effect) :
    rack.eventsOf id [effect] = [] := by
  rw [eventsOf_singleton]
  split
  · next htarget =>
    cases effect with
    | added sink => cases htarget
    | done other operation =>
      obtain rfl : other = id := Option.some.inj htarget
      rw [Rack.perform, update_of_length_le h, List.drop_length]
  · rfl

/-- **Every sink that is put into a rack goes along a course of life**, from its making on, if all
that are put into it are new devices. -/
theorem along_performAll (h : rack.sinks.length ≤ id) {effects : List Effect}
    (hadded : ∀ sink, .added sink ∈ effects → sink = .device (.new path)) :
    (rack.performAll effects).sinks.length ≤ id ∧ rack.eventsOf id effects = []
    ∨ (rack.performAll effects).HasAlong path id (rack.eventsOf id effects) := by
  induction effects generalizing rack with
  | nil => exact Or.inl ⟨h, rfl⟩
  | cons effect effects ih =>
    have hsplit : rack.eventsOf id (effect :: effects) = (rack.perform effect).eventsOf id effects := by
      rw [eventsOf_cons, eventsOf_absent h, List.nil_append]
    rw [hsplit, performAll_cons]
    by_cases hstill : (rack.perform effect).sinks.length ≤ id
    · exact ih hstill fun sink hmem => hadded sink (List.mem_cons_of_mem _ hmem)
    · -- This effect is the making of the sink.
      right
      have hnew : (rack.perform effect).HasAlong path id [] := by
        cases effect with
        | done other operation => exact absurd (length_sinks_update rack other _ ▸ h) hstill
        | added sink =>
          obtain rfl := hadded sink List.mem_cons_self
          have hid : id = rack.sinks.length := by
            simp only [Rack.perform, add, List.length_append, List.length_singleton] at hstill
            exact Nat.le_antisymm (Nat.le_of_lt_succ (Nat.not_le.mp hstill)) h
          refine ⟨.new path, ?_, Device.along_new path⟩
          simp [Rack.perform, add, hid]
      exact hnew.performAll effects

/-! ### Sinks that are closed for good -/

theorem HasOver.perform (h : rack.HasOver id) (effect : Effect) :
    (rack.perform effect).HasOver id := by
  obtain ⟨d, hd, hover⟩ := h
  have hlt : id < rack.sinks.length := (List.getElem?_eq_some_iff.mp hd).1
  cases effect with
  | added sink => exact ⟨d, by simp [Rack.perform, add, List.getElem?_append_left hlt, hd], hover⟩
  | done other operation =>
    by_cases hid : other = id
    · subst hid
      refine ⟨(d.operate rack.host operation).2, ?_, hover.operate rack.host operation⟩
      simp [Rack.perform, update_of_getElem? hd, Sink.operate_device, hlt]
    · exact ⟨d, by rw [Rack.perform, getElem?_update_of_ne hid, hd], hover⟩

theorem HasOver.performAll (h : rack.HasOver id) (effects : List Effect) :
    (rack.performAll effects).HasOver id := by
  induction effects generalizing rack with
  | nil => exact h
  | cons effect effects ih => exact ih (h.perform effect)

/-- A device sink that is dropped at some time is closed for good in the end. -/
theorem HasAlong.over (h : rack.HasAlong path id events) {effects : List Effect}
    (hdrop : .done id .drop ∈ effects) : (rack.performAll effects).HasOver id := by
  obtain ⟨before, after, rfl⟩ := List.append_of_mem hdrop
  rw [performAll_append, performAll_cons]
  obtain ⟨d, hd, -⟩ := h.performAll before
  have hlt := (List.getElem?_eq_some_iff.mp hd).1
  refine HasOver.performAll ⟨(d.close (rack.performAll before).host).2, ?_, d.over_close _⟩ after
  simp [Rack.perform, update_of_getElem? hd, Sink.operate_device, hlt, Device.operate]

/-- A life that is over is a lifecycle. -/
theorem HasAlong.lifecycle (h : rack.HasAlong path id events) (hover : rack.HasOver id) :
    Lifecycle path events := by
  obtain ⟨d, hd, halong⟩ := h
  obtain ⟨e, he, hend⟩ := hover
  rw [hd] at he
  obtain rfl : d = e := Sink.device.inj (Option.some.inj he)
  have hlife := halong.life
  rw [hend.node] at hlife
  exact hlife.lifecycle

end Rack

end VirtualTouchpad
