/-
# After the end

An interrupted service takes no new clients, resets the touchpads and ends.  Its
handlers are not told of that: they serve the clients that are connected, and an
`Attach` of one of those attaches the touchpads again (`exists_attached_after_end`).

So what is left of the reset is its turn (`attached_since_reset`): the touchpads are
attached exactly if the last command since then that attaches or detaches them
attaches them.
-/
import VirtualTouchpad.Proofs.Service.Turns
import VirtualTouchpad.Proofs.Touchpad.Trace

namespace VirtualTouchpad

/-! ## Attached touchpads -/

namespace Rig

/-- All touchpads have sinks, or none has one. -/
def AllAttached (attached : Bool) (rig : Rig) : Prop :=
  ∀ pad ∈ rig.pads, pad.sink.isSome = attached

theorem allAttached_reset (rig : Rig) : rig.reset.AllAttached false := by
  intro pad hpad
  obtain ⟨_, _, rfl⟩ := List.mem_map.1 hpad
  rfl

/-- An action does to all touchpads what it does to each. -/
theorem allAttached_act {rig : Rig} {action : Action} {attached : Bool}
    (h : ∀ pad ∈ rig.pads, ∀ fresh id,
      (pad.after rig.config fresh id action).sink.isSome = attached) :
    (rig.act action).1.AllAttached attached := by
  intro pad hmem
  obtain ⟨before, hbefore, fresh, id, rfl⟩ := mem_pads_act hmem
  exact h before hbefore fresh id

theorem allAttached_attach (rig : Rig) : rig.attach.1.AllAttached true := by
  show (rig.act .attach).1.AllAttached true
  refine allAttached_act fun pad _ _ _ => ?_
  cases hsink : pad.sink <;> simp [Pad.after, hsink]

end Rig

/-- Whether a command attaches touchpads or detaches them, if it does one of both. -/
def Control.Command.attaches? : Control.Command → Option Bool
  | .attach => some true
  | .detach => some false
  | .ping | .touch .. | .buttons .. | .scroll .. | .dump => none

namespace Service

open Control
open Json (Bytes)

/-- A command attaches the touchpads, detaches them or leaves them as they are. -/
theorem allAttached_perform {rig : Rig} {attached : Bool} (h : rig.AllAttached attached)
    (command : Command) :
    (perform rig command).1.AllAttached (command.attaches?.getD attached) := by
  cases command with
  | ping | dump => exact h
  | attach => exact Rig.allAttached_attach rig
  | detach => exact Rig.allAttached_reset rig
  | touch touchpad x y pressure =>
    show (rig.act (.touch touchpad.toNat x y pressure)).1.AllAttached attached
    refine Rig.allAttached_act fun pad hpad _ _ => ?_
    rw [Pad.after]
    split <;> exact h pad hpad
  | buttons touchpad mask =>
    show (rig.act (.buttons touchpad.toNat mask)).1.AllAttached attached
    refine Rig.allAttached_act fun pad hpad _ _ => ?_
    rw [Pad.after]
    split <;> exact h pad hpad
  | scroll touchpad x y =>
    show (rig.act (.scroll touchpad.toNat x y)).1.AllAttached attached
    exact Rig.allAttached_act fun pad hpad _ _ => h pad hpad

/-- Whether a turn attaches touchpads or detaches them, if it does one of both. -/
def Turn.attaches? : Turn → Option Bool
  | .line _ text =>
    match Message.parse text with
    | .ok message => message.command.attaches?
    | .error _ => none
  | .reset => some false

/-- Whether the last turn that attaches touchpads or detaches them attaches them. -/
def lastSwitch? (turns : List Turn) : Option Bool := (turns.filterMap Turn.attaches?).getLast?

theorem lastSwitch?_cons (turn : Turn) (turns : List Turn) :
    lastSwitch? (turn :: turns) = (lastSwitch? turns).or turn.attaches? := by
  cases hturn : turn.attaches? with
  | none => simp [lastSwitch?, hturn]
  | some attached => cases hlast : lastSwitch? turns <;> simp_all [lastSwitch?, List.getLast?_cons]

theorem allAttached_turn {rig : Rig} {attached : Bool} (h : rig.AllAttached attached)
    (turn : Turn) : (turn.after rig).AllAttached (turn.attaches?.getD attached) := by
  cases turn with
  | reset => exact Rig.allAttached_reset rig
  | line client text =>
    rw [Turn.after, Turn.attaches?]
    cases hparse : Message.parse text with
    | ok message =>
      rw [answer_message hparse]
      exact allAttached_perform h message.command
    | error fault =>
      rw [answer_fault hparse]
      exact h

/-- **The last switch decides** whether touchpads are attached. -/
theorem allAttached_afterTurns {rig : Rig} {attached : Bool} (h : rig.AllAttached attached)
    (turns : List Turn) : (afterTurns rig turns).AllAttached ((lastSwitch? turns).getD attached) := by
  induction turns generalizing rig attached with
  | nil => exact h
  | cons turn turns ih =>
    have hlater := ih (allAttached_turn h turn)
    rw [← Option.getD_or, ← lastSwitch?_cons] at hlater
    exact hlater

/-! ## Who comes when -/

variable {rig : Rig} {shared mid final ended : Shared} {event : Event}
  {events more : List Event} {client : ClientId} {text : Bytes}

/-- Whether a worker at this stage is done with what it did to the touchpads; the service then is
past its reset. -/
def Stage.isDone : Stage → Bool
  | .leaving _ | .telling _ | .gone _ => true
  | _ => false

/-- A handler is there once its client came. -/
theorem Step.present (hstep : Step shared event final)
    (h : final.stage (.handler client) ≠ .absent) :
    shared.stage (.handler client) ≠ .absent ∨ event = .connect client := by
  cases hstep with
  | @connect c hopen hnew =>
    by_cases hc : c = client
    · exact .inr (congrArg _ hc)
    · simp only [Shared.stage_move, Worker.handler.injEq, Ne.symm hc, if_false] at h
      exact .inl h
  | stir => exact .inl h
  | read hstage | hangUp hstage | accept hstage | refuse hstage | interrupt hstage | acquire hstage
  | begin hstage | finish hstage | release hstage | reply hstage | lose hstage | stop hstage =>
    rw [Shared.stage_move] at h
    split at h
    · next heq =>
      rw [heq, hstage]
      exact .inl fun heq => nomatch heq
    · exact .inl h

/-- A line has its turn when its handler is there. -/
theorem Step.present_of_turn (hstep : Step shared event final)
    (h : event.turn? = some (.line client text)) : shared.stage (.handler client) ≠ .absent := by
  cases hstep with
  | connect | read | hangUp | accept | interrupt | acquire | begin | stir | release | reply | lose
  | stop => cases h
  | refuse hstage hparse =>
    cases h
    rw [hstage]
    intro heq
    cases heq
  | @finish task found hstage =>
    cases task with
    | reset => cases h
    | command c line message =>
      cases h
      rw [Task.worker] at hstage
      rw [hstage]
      intro heq
      cases heq

/-- Once it has reset the touchpads, the service takes nobody, and it never goes back. -/
theorem Step.isDone (hstep : Step shared event final) (h : (shared.stage .service).isDone) :
    (final.stage .service).isDone ∧ ∀ client, event ≠ .connect client := by
  cases hstep with
  | connect hopen =>
    rw [hopen] at h
    cases h
  | interrupt hstage =>
    rw [hstage] at h
    cases h
  | read | hangUp | accept | refuse | reply | lose | stir => exact ⟨h, fun _ heq => nomatch heq⟩
  | acquire hstage | begin hstage =>
    refine ⟨?_, fun _ heq => nomatch heq⟩
    rw [Shared.stage_move]
    split
    · next heq =>
      rw [heq, hstage] at h
      cases h
    · exact h
  | finish | release | stop =>
    refine ⟨?_, fun _ heq => nomatch heq⟩
    rw [Shared.stage_move]
    split
    · rfl
    · exact h

/-- The service gets that far by a reset. -/
theorem Step.finish_of_isDone (hstep : Step shared event final)
    (hnot : ¬ (shared.stage .service).isDone) (h : (final.stage .service).isDone) :
    event = .finish .reset ∧ ∃ found : Rig, final.rig = found.reset := by
  cases hstep with
  | connect | read | hangUp | accept | refuse | reply | lose | stir => exact absurd h hnot
  | interrupt =>
    rw [Shared.stage_move, if_pos rfl] at h
    cases h
  | acquire | begin =>
    rw [Shared.stage_move] at h
    split at h
    · cases h
    · exact absurd h hnot
  | @finish task found hstage =>
    cases task with
    | reset => exact ⟨rfl, found, rfl⟩
    | command c line message => exact absurd h hnot
  | release hstage =>
    rw [Shared.stage_move] at h
    split at h
    · next heq =>
      rw [heq, hstage] at hnot
      exact absurd rfl hnot
    · exact absurd h hnot
  | stop hstage =>
    rw [hstage] at hnot
    exact absurd rfl hnot

namespace Run

theorem present (h : Run shared events final) (hthere : final.stage (.handler client) ≠ .absent) :
    shared.stage (.handler client) ≠ .absent ∨ .connect client ∈ events := by
  induction h with
  | nil => exact .inl hthere
  | cons first _ ih =>
    rcases ih hthere with hmid | hcame
    · exact (first.present hmid).imp_right fun heq => List.mem_cons.2 (.inl heq.symm)
    · exact .inr (List.mem_cons_of_mem _ hcame)

theorem present_of_turn (h : Run shared events final)
    (hturn : .line client text ∈ turnsOf events) :
    shared.stage (.handler client) ≠ .absent ∨ .connect client ∈ events := by
  induction h with
  | nil => cases hturn
  | @cons _ _ _ event events first _ ih =>
    rw [turnsOf, List.mem_filterMap] at hturn
    obtain ⟨taken, hmem, htaken⟩ := hturn
    rcases List.mem_cons.1 hmem with rfl | hlater
    · exact .inl (first.present_of_turn htaken)
    · rcases ih (List.mem_filterMap.2 ⟨taken, hlater, htaken⟩) with hmid | hcame
      · exact (first.present hmid).imp_right fun heq => List.mem_cons.2 (.inl heq.symm)
      · exact .inr (List.mem_cons_of_mem _ hcame)

theorem isDone (h : Run shared events final) (hdone : (shared.stage .service).isDone) :
    (final.stage .service).isDone ∧ ∀ client, .connect client ∉ events := by
  induction h with
  | nil => exact ⟨hdone, fun _ => List.not_mem_nil⟩
  | cons first _ ih =>
    obtain ⟨hmid, hfirst⟩ := first.isDone hdone
    obtain ⟨hfinal, hlater⟩ := ih hmid
    refine ⟨hfinal, fun client hmem => ?_⟩
    rcases List.mem_cons.1 hmem with heq | hmem
    · exact hfirst client heq.symm
    · exact hlater client hmem

/-- A service that is past its reset has reset the touchpads at some moment. -/
theorem exists_reset (h : Run shared events final) (hnot : ¬ (shared.stage .service).isDone)
    (hdone : (final.stage .service).isDone) :
    ∃ earlier since mid, events = earlier ++ .finish .reset :: since
      ∧ Run shared (earlier ++ [.finish .reset]) mid ∧ Run mid since final
      ∧ (mid.stage .service).isDone ∧ ∃ found : Rig, mid.rig = found.reset := by
  induction h with
  | nil => exact absurd hdone hnot
  | @cons shared next final event events first others ih =>
    by_cases hnext : (next.stage .service).isDone
    · obtain ⟨rfl, hfound⟩ := first.finish_of_isDone hnot hnext
      exact ⟨[], events, next, rfl, .cons first (.nil next), others, hnext, hfound⟩
    · obtain ⟨earlier, since, mid, rfl, hearlier, hsince, hmid⟩ := ih hnext hdone
      exact ⟨event :: earlier, since, mid, rfl, .cons first hearlier, hsince, hmid⟩

end Run

/-! ## What is left of the reset -/

/-- What is known of the touchpads since a service has reset them. -/
structure SinceReset (rig : Rig) (earlier since : List Event) (shared : Shared) : Prop where
  /-- All touchpads are without sinks then. -/
  unattached : ∃ mid, Run (.start rig) (earlier ++ [.finish .reset]) mid ∧
    mid.rig.AllAttached false ∧ Run mid since shared
  /-- No clients are taken any more. -/
  closed : ∀ client, .connect client ∉ since
  /-- All that is done for a client is done for one that was there. -/
  known : ∀ client text, .line client text ∈ turnsOf since → .connect client ∈ earlier
  /-- Touchpads are attached again only by a command. -/
  settled : shared.Settled → shared.rig.AllAttached ((lastSwitch? (turnsOf since)).getD false)
  found : ∀ worker task found, shared.stage worker = .working task found →
    found.AllAttached ((lastSwitch? (turnsOf since)).getD false)

/-- Whatever was done before a reset, the last switch since then decides. -/
theorem allAttached_turnsOf (rig : Rig) (earlier later : List Event) :
    (afterTurns rig (turnsOf (earlier ++ .finish .reset :: later))).AllAttached
      ((lastSwitch? (turnsOf later)).getD false) := by
  rw [turnsOf_append, afterTurns_append]
  exact allAttached_afterTurns (Rig.allAttached_reset _) _

/-- **After the end** of an interrupted service the touchpads are as the reset left them, until a
client that was there attaches them again. -/
theorem attached_since_reset (h : Run (.start rig) events ended)
    (hended : ended.stage .service = .gone none) (hmore : Run ended more shared) :
    ∃ earlier since, events = earlier ++ .finish .reset :: since ∧
      SinceReset rig earlier (since ++ more) shared := by
  have hdone : (ended.stage .service).isDone := by rw [hended]; rfl
  obtain ⟨earlier, since, mid, rfl, hearlier, hsince, hmid, found, hfound⟩ :=
    h.exists_reset (fun heq => nomatch heq) hdone
  have hlater : Run mid (since ++ more) shared := hsince.append hmore
  have hclosed := (hlater.isDone hmid).2
  have hunattached : mid.rig.AllAttached false := hfound ▸ Rig.allAttached_reset found
  have hall : Along rig (earlier ++ .finish .reset :: (since ++ more)) shared := by
    simpa using ((Along.start rig).run h).run hmore
  have hattached := allAttached_turnsOf rig earlier (since ++ more)
  refine ⟨earlier, since, rfl, ⟨mid, hearlier, hunattached, hlater⟩, hclosed, ?_, ?_, ?_⟩
  · intro client text hturn
    have hthere := (hlater.present_of_turn hturn).resolve_right (hclosed client)
    have hcame := (hearlier.present hthere).resolve_left fun hstart => hstart rfl
    simpa using hcame
  · intro hsettled
    rw [hall.stands.settled hsettled]
    exact hattached
  · intro worker task found hworking
    rw [hall.stands.found worker task found hworking]
    exact hattached

/-! ## Attached again -/

theorem Shared.AtRest.settled (h : shared.AtRest) : shared.Settled := by
  intro worker
  have hworker := h worker
  cases hstage : shared.stage worker <;> simp_all [Stage.remaining, Stage.isWorking]

/-- A client that is connected can attach all touchpads whenever nobody else does anything. -/
theorem exists_attached (hidle : shared.stage (.handler client) = .idle)
    (hfree : shared.holder = none) (hrest : shared.AtRest) :
    ∃ more final, Run shared more final ∧ final.AtRest ∧ final.rig.AllAttached true
      ∧ final.rig.pads.length = shared.rig.pads.length := by
  let attach : Message := ⟨"b", .attach⟩
  have htext : isText (messageLine attach) := isSome_textOf?_line (printable_message attach)
  have hparse : Message.parse (messageLine attach) = .ok attach :=
    (reads_back.1 attach trivial).parse_line
  refine ⟨_, _, run_visit hidle hfree htext, hrest, ?_⟩
  rw [answer_message hparse]
  exact ⟨Rig.allAttached_attach shared.rig, Rig.length_pads_act shared.rig .attach⟩

/-- **Nobody stops the handlers**: a client that is connected when the service is interrupted can
attach the touchpads after its end. -/
theorem exists_attached_after_end (rig : Rig) :
    ∃ events ended more shared, Run (.start rig) events ended
      ∧ ended.stage .service = .gone none ∧ Run ended more shared ∧ shared.AtRest
      ∧ shared.rig.AllAttached true ∧ shared.rig.pads.length = rig.pads.length := by
  have hrun : ∃ ended, Run (.start rig) [.connect 0, .interrupt, .acquire .reset, .begin .reset,
      .finish .reset, .release .service, .stop] ended ∧ ended.stage (.handler 0) = .idle
      ∧ ended.stage .service = .gone none ∧ ended.holder = none ∧ ended.rig = rig.reset
      ∧ ended.AtRest := by
    refine ⟨_, .cons (.connect rfl rfl) <| .cons (.interrupt rfl) <| .cons (.acquire rfl rfl) <|
      .cons (.begin rfl) <| .cons (.finish rfl) <| .cons (.release rfl) <| .cons (.stop rfl) <|
      .nil _, rfl, rfl, rfl, rfl, fun worker => ?_⟩
    simp only [Shared.stage_move, Shared.start, Task.worker]
    split_ifs <;> rfl
  obtain ⟨ended, hended, hidle, hgone, hfree, hrig, hrest⟩ := hrun
  obtain ⟨more, shared, hmore, hfinal, hattached, hlength⟩ := exists_attached hidle hfree hrest
  refine ⟨_, ended, more, shared, hended, hgone, hmore, hfinal, hattached, ?_⟩
  rw [hlength, hrig]
  exact Rig.length_pads_act rig .reset

/-- After the end of a service with a touchpad that was attached again, all is known. -/
theorem attached_since_reset_late :
    let rig := Rig.new { Config.standard with devices := 1 } (.recorders []) ⟨[], .new []⟩
    ∃ events ended more shared, Run (.start rig) events ended
      ∧ ended.stage .service = .gone none ∧ Run ended more shared ∧ shared.rig.AllAttached true
      ∧ ∃ earlier since, events = earlier ++ .finish .reset :: since
        ∧ SinceReset rig earlier (since ++ more) shared := by
  intro rig
  obtain ⟨events, ended, more, shared, hrun, hended, hmore, -, hattached, -⟩ :=
    exists_attached_after_end rig
  exact ⟨events, ended, more, shared, hrun, hended, hmore, hattached,
    attached_since_reset hrun hended hmore⟩

/-- Once the service has ended, the touchpads are unattached for good. -/
def StaysUnattached (rig : Rig) : Prop :=
  ∀ events ended more shared, Run (.start rig) events ended → ended.stage .service = .gone none →
    Run ended more shared → shared.Settled → shared.rig.AllAttached false

/-- The end is final for no touchpads but those that there are not. -/
theorem not_staysUnattached (h : rig.pads ≠ []) : ¬ StaysUnattached rig := by
  intro hstays
  obtain ⟨events, ended, more, shared, hrun, hended, hmore, hrest, hattached, hlength⟩ :=
    exists_attached_after_end rig
  obtain ⟨pad, hpad⟩ := List.exists_mem_of_ne_nil shared.rig.pads fun hnil =>
    h (List.length_eq_zero_iff.1 (hlength.symm.trans (congrArg List.length hnil)))
  have hunattached := hstays events ended more shared hrun hended hmore hrest.settled pad hpad
  rw [hattached pad hpad] at hunattached
  cases hunattached

theorem not_staysUnattached_one_touchpad :
    ¬ StaysUnattached
      (Rig.new { Config.standard with devices := 1 } (.recorders []) ⟨[], .new []⟩) :=
  not_staysUnattached fun hnil => nomatch hnil

end Service

end VirtualTouchpad
