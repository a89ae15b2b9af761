/-
# Commands take turns

However the handlers of the clients get in each other's way, it is as if the lines
that they read had been answered one after another (`linearizable`).  A line that is
no message has its turn when it is refused, any other when its command is finished;
so a line has its turn after it was read and before its reply is written, and the
lines of one client have theirs in the order in which they were read.

`Step.lines`, `Step.replies` and `Step.touchpads` say what one step does to the
account of a client and to the touchpads; `Explains` is the account of a whole run.
-/
import VirtualTouchpad.Control.Client
import VirtualTouchpad.Proofs.Control.RoundTrip
import VirtualTouchpad.Proofs.Service.Interleaving

namespace VirtualTouchpad.Service

open Control
open Json (Bytes Fault)

/-! ## Turns one after another -/

/-- What takes a turn: a line of a client, or the reset of an interrupted service. -/
inductive Turn where
  | line (client : ClientId) (line : Bytes)
  | reset
  deriving DecidableEq, Repr

namespace Turn

/-- The touchpads after a turn. -/
def after (rig : Rig) : Turn → Rig
  | .line _ text => (answer rig text).1
  | .reset => rig.reset

/-- The line of a client that takes the turn. -/
def lineOf? (client : ClientId) : Turn → Option Bytes
  | .line c text => if c = client then some text else none
  | .reset => none

/-- The reply that a client gets for a turn. -/
def replyTo? (client : ClientId) (rig : Rig) : Turn → Option Reply
  | .line c text => if c = client then some (answer rig text).2 else none
  | .reset => none

end Turn

/-- The touchpads after turns one after another. -/
def afterTurns (rig : Rig) (turns : List Turn) : Rig := turns.foldl Turn.after rig

/-- The lines of a client among some turns. -/
def linesOf (client : ClientId) (turns : List Turn) : List Bytes :=
  turns.filterMap (Turn.lineOf? client)

/-- The replies that a client gets for turns one after another. -/
def repliesOf (client : ClientId) (rig : Rig) : List Turn → List Reply
  | [] => []
  | turn :: turns => (turn.replyTo? client rig).toList ++ repliesOf client (turn.after rig) turns

theorem afterTurns_append (rig : Rig) (turns later : List Turn) :
    afterTurns rig (turns ++ later) = afterTurns (afterTurns rig turns) later :=
  List.foldl_append

theorem linesOf_append (client : ClientId) (turns later : List Turn) :
    linesOf client (turns ++ later) = linesOf client turns ++ linesOf client later :=
  List.filterMap_append

theorem repliesOf_append (client : ClientId) (rig : Rig) (turns later : List Turn) :
    repliesOf client rig (turns ++ later)
      = repliesOf client rig turns ++ repliesOf client (afterTurns rig turns) later := by
  induction turns generalizing rig with
  | nil => rfl
  | cons turn turns ih =>
    simp only [List.cons_append, repliesOf, ih, List.append_assoc]
    rfl

/-! ## What happens in a run -/

/-- The turn that a task takes when it is finished. -/
def Task.turn : Task → Turn
  | .command client line _ => .line client line
  | .reset => .reset

namespace Event

/-- The turn that is taken in an event. -/
def turn? : Event → Option Turn
  | .refuse client line => some (.line client line)
  | .finish task => some task.turn
  | _ => none

/-- The line of a client that is read in an event. -/
def lineOf? (client : ClientId) : Event → Option Bytes
  | .read c line => if c = client then some line else none
  | _ => none

/-- The reply that is written to a client in an event. -/
def replyTo? (client : ClientId) : Event → Option Reply
  | .reply c written => if c = client then some written else none
  | _ => none

end Event

/-- The turns that are taken in a run. -/
def turnsOf (events : List Event) : List Turn := events.filterMap Event.turn?

/-- The lines of a client that are read in a run. -/
def linesRead (client : ClientId) (events : List Event) : List Bytes :=
  events.filterMap (Event.lineOf? client)

/-- The replies that are written to a client in a run. -/
def repliesWritten (client : ClientId) (events : List Event) : List Reply :=
  events.filterMap (Event.replyTo? client)

/-- How often a service is interrupted in a run. -/
def interrupts (events : List Event) : Nat := events.count .interrupt

theorem turnsOf_append (events later : List Event) :
    turnsOf (events ++ later) = turnsOf events ++ turnsOf later :=
  List.filterMap_append

namespace Stage

/-- The line that a handler at this stage is busy with, and that has not had its turn. -/
def unfinished? : Stage → Option Bytes
  | .heard line => some line
  | .waiting task | .entered task | .working task _ =>
    match task with
    | .command _ line _ => some line
    | .reset => none
  | _ => none

/-- The reply of a handler at this stage that is not written, and never will be if it is gone. -/
def untold? : Stage → Option Reply
  | .leaving told | .telling told | .gone told => told
  | _ => none

/-- How many tasks a worker at this stage still has to finish. -/
def owed : Stage → Nat
  | .waiting _ | .entered _ | .working .. => 1
  | _ => 0

end Stage

/-- A run comes to the same as turns one after another: for every client, they are the lines that
were read from it in their order, but for one that its handler is still busy with, and their replies
are those that were written to it in their order, but for one that is not written; and the touchpads
are as the turns leave them, whenever nobody is at them.  They are reset once for each interrupt,
unless that is still to be done. -/
structure Explains (rig : Rig) (events : List Event) (turns : List Turn) (shared : Shared) : Prop
    where
  lines : ∀ client, linesRead client events
    = linesOf client turns ++ (shared.stage (.handler client)).unfinished?.toList
  replies : ∀ client, repliesOf client rig turns
    = repliesWritten client events ++ (shared.stage (.handler client)).untold?.toList
  touchpads : shared.Settled → shared.rig = afterTurns rig turns
  resets : interrupts events = turns.count .reset + (shared.stage .service).owed

/-! ## One step -/

variable {rig : Rig} {shared final : Shared} {event : Event} {events : List Event}

/-- A line is read, has its turn or is still in work. -/
theorem Step.lines (hstep : Step shared event final) (client : ClientId) :
    (shared.stage (.handler client)).unfinished?.toList ++ (event.lineOf? client).toList
      = (event.turn?.bind (Turn.lineOf? client)).toList
        ++ (final.stage (.handler client)).unfinished?.toList := by
  cases hstep with
  | @connect c _ h | @read c _ h | @hangUp c h | @accept c _ _ h | @refuse c _ _ h | @reply c _ h
  | @lose c _ h =>
    by_cases hc : c = client
    · subst hc
      simp [h, Event.lineOf?, Event.turn?, Turn.lineOf?, Stage.unfinished?]
    · simp [hc, Ne.symm hc, Event.lineOf?, Event.turn?, Turn.lineOf?]
  | interrupt | stop | stir => simp [Event.lineOf?, Event.turn?]
  | @acquire task h | @begin task h | @finish task _ h =>
    cases task with
    | reset => simp [Task.worker, Task.turn, Event.lineOf?, Event.turn?, Turn.lineOf?]
    | command c line message =>
      by_cases hc : c = client
      · subst hc
        rw [Task.worker] at h
        simp [h, Task.worker, Task.turn, Event.lineOf?, Event.turn?, Turn.lineOf?,
          Stage.unfinished?]
      · simp [hc, Ne.symm hc, Task.worker, Task.turn, Event.lineOf?, Event.turn?, Turn.lineOf?]
  | @release worker told h =>
    by_cases hworker : worker = .handler client
    · subst hworker
      simp [h, Event.lineOf?, Event.turn?, Stage.unfinished?]
    · simp [Ne.symm hworker, Event.lineOf?, Event.turn?]

/-- The service is interrupted, resets the touchpads or still has to. -/
theorem Step.resets (hstep : Step shared event final) :
    (shared.stage .service).owed + [event].count .interrupt
      = event.turn?.toList.count .reset + (final.stage .service).owed := by
  cases hstep with
  | connect | read | hangUp | accept | refuse | reply | lose | stir => simp [Event.turn?]
  | interrupt h | stop h => simp [h, Event.turn?, Stage.owed]
  | @acquire task h | @begin task h | @finish task _ h =>
    cases task with
    | command => simp [Task.worker, Task.turn, Event.turn?]
    | reset =>
      rw [Task.worker] at h
      simp [h, Task.worker, Task.turn, Event.turn?, Stage.owed]
  | @release worker told h =>
    by_cases hworker : worker = .service
    · subst hworker
      simp [h, Event.turn?, Stage.owed]
    · simp [Ne.symm hworker, Event.turn?]

/-- Where the touchpads stand: they are in a given state if nobody is at them, and were found in it
if somebody is. -/
structure StandsAt (rig : Rig) (shared : Shared) : Prop where
  settled : shared.Settled → shared.rig = rig
  found : ∀ worker task found, shared.stage worker = .working task found → found = rig

/-- A finished task makes of the touchpads what its turn does. -/
theorem Task.after_turn {task : Task} (hread : task.IsRead) (rig : Rig) :
    task.turn.after rig = (task.carryOut rig).1 := by
  cases task with
  | reset => rfl
  | command client line message => rw [turn, Turn.after, answer_message hread, carryOut]

/-- What is told of a finished task is the reply to its turn. -/
theorem Task.replyTo?_turn {client : ClientId} {line : Bytes} {message : Message}
    (hread : (Task.command client line message).IsRead) (rig : Rig) :
    (Task.command client line message).turn.replyTo? client rig
      = ((Task.command client line message).carryOut rig).2 := by
  rw [turn, Turn.replyTo?, if_pos rfl, answer_message hread, carryOut]

/-- A reply is to a line that has its turn, and is written or still to be written. -/
theorem Step.replies (hstep : Step shared event final) (hsound : Sound shared)
    (hstands : StandsAt rig shared) (client : ClientId) :
    (shared.stage (.handler client)).untold?.toList
        ++ (event.turn?.bind (Turn.replyTo? client rig)).toList
      = (event.replyTo? client).toList ++ (final.stage (.handler client)).untold?.toList := by
  cases hstep with
  | @connect c _ h | @read c _ h | @hangUp c h | @accept c _ _ h | @reply c _ h | @lose c _ h =>
    by_cases hc : c = client
    · subst hc
      simp [h, Event.replyTo?, Event.turn?, Stage.untold?]
    · simp [hc, Ne.symm hc, Event.replyTo?, Event.turn?]
  | @refuse c line fault h hparse =>
    by_cases hc : c = client
    · subst hc
      simp [h, answer_fault hparse, Event.replyTo?, Event.turn?, Turn.replyTo?, Stage.untold?]
    · simp [hc, Ne.symm hc, Event.replyTo?, Event.turn?, Turn.replyTo?]
  | interrupt | stop | stir => simp [Event.replyTo?, Event.turn?]
  | @acquire task h | @begin task h =>
    by_cases hworker : task.worker = .handler client
    · rw [hworker] at h
      simp [h, hworker, Event.replyTo?, Event.turn?, Stage.untold?]
    · simp [Ne.symm hworker, Event.replyTo?, Event.turn?]
  | @finish task found h =>
    obtain rfl : found = rig := hstands.found _ _ _ h
    have hfits := hsound.fits task.worker
    rw [h] at hfits
    cases task with
    | reset => simp [Task.worker, Task.turn, Event.replyTo?, Event.turn?, Turn.replyTo?]
    | command c line message =>
      by_cases hc : c = client
      · subst hc
        rw [Task.worker] at h
        simp [h, Task.worker, Task.replyTo?_turn hfits.2, Event.replyTo?, Event.turn?, Stage.untold?]
      · simp [hc, Ne.symm hc, Task.worker, Task.turn, Event.replyTo?, Event.turn?, Turn.replyTo?]
  | @release worker told h =>
    by_cases hworker : worker = .handler client
    · subst hworker
      simp [h, Event.replyTo?, Event.turn?, Stage.untold?]
    · simp [Ne.symm hworker, Event.replyTo?, Event.turn?]

namespace StandsAt

/-- The touchpads stand where they stood when a worker goes somewhere else than to them. -/
theorem move (h : StandsAt rig shared) {worker : Worker} {stage : Stage}
    (hfrom : (shared.stage worker).isWorking = false) (hto : stage.isWorking = false) :
    StandsAt rig (shared.move worker stage) where
  settled := fun hsettled => by
    refine h.settled fun other => ?_
    by_cases hother : other = worker
    · rw [hother, hfrom]
    · have hstays := hsettled other
      rwa [Shared.stage_move, if_neg hother] at hstays
  found := fun other task found hworking => by
    by_cases hother : other = worker
    · rw [Shared.stage_move, if_pos hother] at hworking
      rw [hworking] at hto
      cases hto
    · rw [Shared.stage_move, if_neg hother] at hworking
      exact h.found other task found hworking

/-- Who is at the touchpads does not depend on who has the lock. -/
theorem withHolder (h : StandsAt rig shared) (holder : Option Worker) :
    StandsAt rig { shared with holder := holder } :=
  ⟨h.settled, h.found⟩

end StandsAt

/-- **One step, one turn at most**: the touchpads stand where the turn leaves them. -/
theorem Step.touchpads (hstep : Step shared event final) (hsound : Sound shared)
    (hstands : StandsAt rig shared) : StandsAt (afterTurns rig event.turn?.toList) final := by
  cases hstep with
  | connect _ h | read h | hangUp h | accept h | interrupt h | reply h | lose h | stop h =>
    exact hstands.move (by rw [h]; rfl) rfl
  | @refuse c line fault h hparse =>
    have hafter : afterTurns rig (Event.refuse c line).turn?.toList = rig := by
      simp [afterTurns, Event.turn?, Turn.after, answer_fault hparse]
    rw [hafter]
    exact hstands.move (by rw [h]; rfl) rfl
  | acquire h => exact (hstands.withHolder _).move (by rw [h]; rfl) rfl
  | release h => exact (hstands.withHolder _).move (by rw [h]; rfl) rfl
  | @begin task h =>
    have hin : (shared.stage task.worker).isInside := by rw [h]; rfl
    have hothers := fun other (hne : other ≠ task.worker) => hsound.isWorking_eq_false hin hne
    have hnow : shared.rig = rig := hstands.settled fun other => by
      by_cases hother : other = task.worker
      · rw [hother, h]
        rfl
      · exact hothers other hother
    refine ⟨fun hsettled => ?_, fun other t found hworking => ?_⟩
    · have hworker := hsettled task.worker
      rw [Shared.stage_move, if_pos rfl] at hworker
      cases hworker
    · rw [Shared.stage_move] at hworking
      split at hworking
      · cases hworking
        exact hnow
      · exact hstands.found other t found hworking
  | @stir task _ rig' h =>
    refine ⟨fun hsettled => ?_, hstands.found⟩
    have hworker := hsettled task.worker
    simp only [h] at hworker
    cases hworker
  | @finish task found h =>
    obtain rfl : found = rig := hstands.found _ _ _ h
    have hin : (shared.stage task.worker).isInside := by rw [h]; rfl
    have hfits := hsound.fits task.worker
    rw [h] at hfits
    have hafter : afterTurns found (Event.finish task).turn?.toList = (task.carryOut found).1 :=
      Task.after_turn hfits.2 found
    rw [hafter]
    refine ⟨fun _ => rfl, fun other t found' hworking => ?_⟩
    rw [Shared.stage_move] at hworking
    split at hworking
    · cases hworking
    · next hother =>
      have hnot := hsound.isWorking_eq_false hin hother
      simp only at hworking
      rw [hworking] at hnot
      cases hnot

/-! ## Whole runs -/

/-- A run so far, its turns and where they leave the touchpads. -/
structure Along (rig : Rig) (events : List Event) (shared : Shared) : Prop where
  sound : Sound shared
  stands : StandsAt (afterTurns rig (turnsOf events)) shared
  explains : Explains rig events (turnsOf events) shared

namespace Along

theorem start (rig : Rig) : Along rig [] (.start rig) where
  sound := sound_start rig
  stands := ⟨fun _ => rfl, fun worker _ _ h => by
    simp only [Shared.start] at h
    split at h <;> cases h⟩
  explains := ⟨fun _ => rfl, fun _ => rfl, fun _ => rfl, rfl⟩

/-- **The account is kept by every step.** -/
theorem step (h : Along rig events shared) (hstep : Step shared event final) :
    Along rig (events ++ [event]) final := by
  have hturns : turnsOf (events ++ [event]) = turnsOf events ++ event.turn?.toList := by
    rw [turnsOf_append]
    cases hturn : event.turn? <;> simp [turnsOf, hturn]
  have hstands : StandsAt (afterTurns rig (turnsOf (events ++ [event]))) final := by
    rw [hturns, afterTurns_append]
    exact hstep.touchpads h.sound h.stands
  refine ⟨hstep.sound h.sound, hstands, fun client => ?_, fun client => ?_, hstands.settled, ?_⟩
  · have hread : linesRead client (events ++ [event])
        = linesRead client events ++ (event.lineOf? client).toList := by
      cases hline : event.lineOf? client <;> simp [linesRead, hline]
    have hturn : linesOf client event.turn?.toList
        = (event.turn?.bind (Turn.lineOf? client)).toList := by
      cases hturn : event.turn? with
      | none => rfl
      | some turn => cases hline : turn.lineOf? client <;> simp [linesOf, hline]
    rw [hread, h.explains.lines, List.append_assoc, hstep.lines, hturns, linesOf_append, hturn,
      List.append_assoc]
  · have hwritten : repliesWritten client (events ++ [event])
        = repliesWritten client events ++ (event.replyTo? client).toList := by
      cases hreply : event.replyTo? client <;> simp [repliesWritten, hreply]
    have hturn : ∀ rig, repliesOf client rig event.turn?.toList
        = (event.turn?.bind (Turn.replyTo? client rig)).toList := fun rig => by
      cases hturn : event.turn? <;> simp [repliesOf]
    rw [hwritten, hturns, repliesOf_append, h.explains.replies, hturn, List.append_assoc,
      hstep.replies h.sound h.stands, List.append_assoc]
  · rw [interrupts, List.count_append, hturns, List.count_append, ← interrupts,
      h.explains.resets, Nat.add_assoc, hstep.resets, Nat.add_assoc]

/-- **The account is kept by every run.** -/
theorem run (h : Along rig events shared) {more : List Event} (hrun : Run shared more final) :
    Along rig (events ++ more) final := by
  induction hrun generalizing events with
  | nil => rwa [List.append_nil]
  | cons first _ ih =>
    rw [List.append_cons]
    exact ih (h.step first)

end Along

/-- Who works only on what was begun reads no lines. -/
theorem linesRead_of_isWork {more : List Event} (h : ∀ event ∈ more, event.isWork)
    (client : ClientId) : linesRead client more = [] := by
  refine List.filterMap_eq_nil_iff.2 fun event hmem => ?_
  cases event with
  | read => cases h _ hmem
  | _ => rfl

theorem unfinished?_of_remaining {stage : Stage} (h : stage.remaining = 0) :
    stage.unfinished? = none := by
  cases stage <;> first | rfl | cases h

/-- An order of turns that a run comes to: its first turns are what the run comes to at any moment
before, and once all that is begun is brought to its end, as it can be, every line that was read has
had its turn. -/
structure IsOrder (rig : Rig) (events : List Event) (order : List Turn) (shared : Shared) : Prop
    where
  explains : Explains rig events order shared
  before : ∀ earlier later mid, events = earlier ++ later → Run (.start rig) earlier mid →
    Run mid later shared → ∃ first, first <+: order ∧ Explains rig earlier first mid
  completes : ∃ more final later, Run shared more final ∧ final.AtRest ∧
    (∀ event ∈ more, event.isWork) ∧ Explains rig (events ++ more) (order ++ later) final ∧
    ∀ client, linesRead client events = linesOf client (order ++ later)

/-- **Commands of concurrent clients take turns**: whatever the workers do in whatever order, there
is one order of turns that explains the replies and the touchpads, from the first event to the last.
-/
theorem linearizable (h : Run (.start rig) events shared) :
    ∃ order, IsOrder rig events order shared := by
  have halong : Along rig events shared := (Along.start rig).run h
  refine ⟨turnsOf events, halong.explains, fun earlier later mid heq hearlier hlater => ?_, ?_⟩
  · refine ⟨turnsOf earlier, ?_, ((Along.start rig).run hearlier).explains⟩
    rw [heq, turnsOf_append]
    exact List.prefix_append ..
  · obtain ⟨more, final, hmore, hrest, hwork⟩ :=
      halong.sound.exists_rest (h.fewBusy (fewBusy_start rig))
    have hexplains := (halong.run hmore).explains
    rw [turnsOf_append] at hexplains
    refine ⟨more, final, turnsOf more, hmore, hrest, hwork, hexplains, fun client => ?_⟩
    have hlines := hexplains.lines client
    rw [unfinished?_of_remaining (hrest _), linesRead, List.filterMap_append, ← linesRead,
      ← linesRead, linesRead_of_isWork hwork] at hlines
    simpa using hlines

/-- One client asks for a description while another attaches: the description is given first, and
told last. -/
theorem linearizable_two_clients :
    let rig := Rig.new .standard (.recorders []) ⟨[], .new []⟩
    let attach : Message := ⟨"a", .attach⟩
    let dump : Message := ⟨"b", .dump⟩
    let first : Task := .command 1 (messageLine dump) dump
    let second : Task := .command 0 (messageLine attach) attach
    let events : List Event := [.connect 0, .connect 1, .read 0 (messageLine attach),
      .read 1 (messageLine dump), .accept 1 (messageLine dump), .accept 0 (messageLine attach),
      .acquire first, .begin first, .stir first, .finish first, .release (.handler 1),
      .acquire second, .begin second, .stir second, .finish second, .release (.handler 0),
      .reply 0 ⟨"a", (perform rig .attach).2⟩, .reply 1 ⟨"b", (perform rig .dump).2⟩]
    ∃ shared, Run (.start rig) events shared ∧ ∃ order, IsOrder rig events order shared := by
  intro rig attach dump first second events
  have htext : ∀ message, isText (messageLine message) := fun message =>
    isSome_textOf?_line (printable_message message)
  have hattach : Message.parse (messageLine attach) = .ok attach :=
    (reads_back.1 attach trivial).parse_line
  have hdump : Message.parse (messageLine dump) = .ok dump :=
    (reads_back.1 dump trivial).parse_line
  have hrun : ∃ shared, Run (.start rig) events shared := by
    clear_value rig
    refine ⟨_, .cons (.connect rfl rfl) <| .cons (.connect rfl rfl) <|
      .cons (.read rfl (htext attach)) <| .cons (.read rfl (htext dump)) <|
      .cons (.accept rfl hdump) <| .cons (.accept rfl hattach) <|
      .cons (.acquire rfl rfl) <| .cons (.begin rfl) <| .cons (.stir rig rfl) <|
      .cons (.finish rfl) <| .cons (.release rfl) <|
      .cons (.acquire rfl rfl) <| .cons (.begin rfl) <| .cons (.stir rig rfl) <|
      .cons (.finish rfl) <| .cons (.release rfl) <|
      .cons (.reply rfl) <| .cons (.reply rfl) <| .nil _⟩
  obtain ⟨shared, hshared⟩ := hrun
  exact ⟨shared, hshared, linearizable hshared⟩

end VirtualTouchpad.Service
