/-
# Handlers side by side

Each connection has a handler of its own, and all handlers work on the same
touchpads.  A handler reads a line.  If the line is a message it waits for the lock
of the touchpads, carries the command out, gives the lock back and writes the
reply; if not, it writes a refusal and needs no lock.  The service itself is one
worker more: once it is interrupted it takes no new clients, waits for the lock and
resets the touchpads.

The workers take their steps in any order.  A worker needs some time at the
touchpads: it finds them in some state, they may look like anything while it works
(`Step.stir`), and it leaves what it made of the state that it found.  So nothing
but the lock keeps the workers from spoiling each other's work.

* `Sound`: who has the lock is at the touchpads, and nobody else is (`Run.sound`);
* `Sound.exists_rest`: whatever is begun can be brought to its end;
* `run_visit`: a handler that is not disturbed does what `answer` says.
-/
import Mathlib.Algebra.Order.BigOperators.Group.Finset
import VirtualTouchpad.Proofs.Service.Stream

namespace VirtualTouchpad.Service

open Control
open Json (Bytes Fault)

/-! ## Workers and their tasks -/

/-- Who works on the touchpads: the handler of a client's connection, or the service itself. -/
inductive Worker where
  | handler (client : ClientId)
  | service
  deriving DecidableEq, Repr

/-- What a worker does to the touchpads. -/
inductive Task where
  /-- The command of a message, which came in a line of a client. -/
  | command (client : ClientId) (line : Bytes) (message : Message)
  | reset
  deriving DecidableEq, Repr

namespace Task

/-- Whose task it is. -/
def worker : Task → Worker
  | .command client .. => .handler client
  | .reset => .service

/-- What a task makes of the touchpads, and what is to be told of it. -/
def carryOut (rig : Rig) : Task → Rig × Option Reply
  | .command _ _ message =>
    let (rig, answer) := perform rig message.command
    (rig, some ⟨message.id, answer⟩)
  | .reset => (rig.reset, none)

/-- A message is what its line says. -/
def IsRead : Task → Prop
  | .command _ line message => Message.parse line = .ok message
  | .reset => True

end Task

/-- Where a worker stands. -/
inductive Stage where
  /-- A handler whose client has not come yet. -/
  | absent
  /-- A handler waits for a line, the service for an interrupt. -/
  | idle
  | heard (line : Bytes)
  /-- Waits for the lock. -/
  | waiting (task : Task)
  /-- Has the lock. -/
  | entered (task : Task)
  /-- Is at the touchpads, which it found in some state. -/
  | working (task : Task) (found : Rig)
  /-- Is done with the touchpads, and still has the lock. -/
  | leaving (told : Option Reply)
  /-- Has no lock, and may still have something to tell. -/
  | telling (told : Option Reply)
  /-- Has ended; the reply that it could not write is lost. -/
  | gone (untold : Option Reply)

namespace Stage

/-- Whether a worker at this stage has the lock. -/
def isInside : Stage → Bool
  | .entered _ | .working .. | .leaving _ => true
  | _ => false

/-- Whether a worker at this stage is at the touchpads. -/
def isWorking : Stage → Bool
  | .working .. => true
  | _ => false

/-- The number of steps to the end of what a worker at this stage has begun. -/
def remaining : Stage → Nat
  | .heard _ => 6
  | .waiting _ => 5
  | .entered _ => 4
  | .working .. => 3
  | .leaving _ => 2
  | .telling _ => 1
  | .absent | .idle | .gone _ => 0

/-- A worker at this stage has a task of its own, and a reply if it is a handler. -/
def Fits (worker : Worker) : Stage → Prop
  | .heard _ => worker ≠ .service
  | .waiting task | .entered task | .working task _ => task.worker = worker ∧ task.IsRead
  | .leaving told | .telling told => told.isSome ↔ worker ≠ .service
  | .absent | .idle | .gone _ => True

theorem isInside_of_isWorking {stage : Stage} (h : stage.isWorking) : stage.isInside := by
  cases stage <;> first | rfl | cases h

end Stage

/-! ## Steps -/

/-- What happens while a service runs. -/
inductive Event where
  | connect (client : ClientId)
  | read (client : ClientId) (line : Bytes)
  | hangUp (client : ClientId)
  | accept (client : ClientId) (line : Bytes)
  | refuse (client : ClientId) (line : Bytes)
  | interrupt
  | acquire (task : Task)
  | begin (task : Task)
  | stir (task : Task)
  | finish (task : Task)
  | release (worker : Worker)
  | reply (client : ClientId) (reply : Reply)
  | lose (client : ClientId)
  | stop
  deriving DecidableEq, Repr

/-- Whether an event belongs to the work on what was begun: nobody comes, asks or goes. -/
def Event.isWork : Event → Bool
  | .accept .. | .refuse .. | .acquire _ | .begin _ | .finish _ | .release _ | .reply .. | .stop =>
    true
  | _ => false

/-- The touchpads that workers share, who has their lock, and where each worker stands. -/
structure Shared where
  rig : Rig
  holder : Option Worker
  stage : Worker → Stage

namespace Shared

/-- A service that takes clients, and has none yet. -/
def start (rig : Rig) : Shared where
  rig := rig
  holder := none
  stage := fun worker => if worker = .service then .idle else .absent

/-- One worker goes to another stage. -/
def move (shared : Shared) (worker : Worker) (stage : Stage) : Shared :=
  { shared with stage := Function.update shared.stage worker stage }

/-- Nobody is at the touchpads. -/
def Settled (shared : Shared) : Prop := ∀ worker, (shared.stage worker).isWorking = false

/-- Nobody has anything to do but to wait for clients. -/
def AtRest (shared : Shared) : Prop := ∀ worker, (shared.stage worker).remaining = 0

@[simp] theorem rig_move (shared : Shared) (worker : Worker) (stage : Stage) :
    (shared.move worker stage).rig = shared.rig := rfl

@[simp] theorem holder_move (shared : Shared) (worker : Worker) (stage : Stage) :
    (shared.move worker stage).holder = shared.holder := rfl

@[simp] theorem stage_move (shared : Shared) (worker other : Worker) (stage : Stage) :
    (shared.move worker stage).stage other = if other = worker then stage else shared.stage other :=
  Function.update_apply ..

end Shared

/-- One step of one worker. -/
inductive Step : Shared → Event → Shared → Prop
  /-- Clients are taken until the service is interrupted. -/
  | connect {shared : Shared} {client : ClientId} (hopen : shared.stage .service = .idle)
      (hnew : shared.stage (.handler client) = .absent) :
      Step shared (.connect client) (shared.move (.handler client) .idle)
  /-- A line that is a text is read. -/
  | read {shared : Shared} {client : ClientId} {line : Bytes}
      (h : shared.stage (.handler client) = .idle) (htext : isText line) :
      Step shared (.read client line) (shared.move (.handler client) (.heard line))
  /-- A stream ends, or goes on with a line that is no text. -/
  | hangUp {shared : Shared} {client : ClientId} (h : shared.stage (.handler client) = .idle) :
      Step shared (.hangUp client) (shared.move (.handler client) (.gone none))
  | accept {shared : Shared} {client : ClientId} {line : Bytes} {message : Message}
      (h : shared.stage (.handler client) = .heard line)
      (hparse : Message.parse line = .ok message) :
      Step shared (.accept client line)
        (shared.move (.handler client) (.waiting (.command client line message)))
  | refuse {shared : Shared} {client : ClientId} {line : Bytes} {fault : Fault}
      (h : shared.stage (.handler client) = .heard line)
      (hparse : Message.parse line = .error fault) :
      Step shared (.refuse client line)
        (shared.move (.handler client) (.telling (some (rejection line fault))))
  | interrupt {shared : Shared} (h : shared.stage .service = .idle) :
      Step shared .interrupt (shared.move .service (.waiting .reset))
  /-- The lock is given to one of those who wait for it, once nobody has it. -/
  | acquire {shared : Shared} {task : Task} (h : shared.stage task.worker = .waiting task)
      (hfree : shared.holder = none) :
      Step shared (.acquire task)
        ({ shared with holder := some task.worker }.move task.worker (.entered task))
  | begin {shared : Shared} {task : Task} (h : shared.stage task.worker = .entered task) :
      Step shared (.begin task) (shared.move task.worker (.working task shared.rig))
  /-- The touchpads may look like anything while somebody is at them. -/
  | stir {shared : Shared} {task : Task} {found : Rig} (rig : Rig)
      (h : shared.stage task.worker = .working task found) :
      Step shared (.stir task) { shared with rig := rig }
  | finish {shared : Shared} {task : Task} {found : Rig}
      (h : shared.stage task.worker = .working task found) :
      Step shared (.finish task)
        ({ shared with rig := (task.carryOut found).1 }.move task.worker
          (.leaving (task.carryOut found).2))
  | release {shared : Shared} {worker : Worker} {told : Option Reply}
      (h : shared.stage worker = .leaving told) :
      Step shared (.release worker) ({ shared with holder := none }.move worker (.telling told))
  | reply {shared : Shared} {client : ClientId} {reply : Reply}
      (h : shared.stage (.handler client) = .telling (some reply)) :
      Step shared (.reply client reply) (shared.move (.handler client) .idle)
  /-- A reply cannot be written, and the handler ends. -/
  | lose {shared : Shared} {client : ClientId} {reply : Reply}
      (h : shared.stage (.handler client) = .telling (some reply)) :
      Step shared (.lose client) (shared.move (.handler client) (.gone (some reply)))
  | stop {shared : Shared} (h : shared.stage .service = .telling none) :
      Step shared .stop (shared.move .service (.gone none))

/-- Steps one after another. -/
inductive Run : Shared → List Event → Shared → Prop
  | nil (shared : Shared) : Run shared [] shared
  | cons {shared mid final : Shared} {event : Event} {events : List Event}
      (first : Step shared event mid) (others : Run mid events final) :
      Run shared (event :: events) final

variable {shared mid final : Shared} {event : Event} {events : List Event} {client : ClientId}
  {line : Bytes} {worker : Worker} {task : Task} {told : Option Reply}

namespace Run

theorem append {more : List Event} (h : Run shared events mid) (hmore : Run mid more final) :
    Run shared (events ++ more) final := by
  induction h with
  | nil => exact hmore
  | cons first _ ih => exact .cons first (ih hmore)

end Run

/-! ## The lock -/

/-- Exactly the worker that has the lock is inside, and every worker is at a stage of its own. -/
structure Sound (shared : Shared) : Prop where
  exclusive : ∀ worker, shared.holder = some worker ↔ (shared.stage worker).isInside
  fits : ∀ worker, (shared.stage worker).Fits worker

theorem sound_start (rig : Rig) : Sound (.start rig) where
  exclusive := fun worker => by
    simp only [Shared.start]
    split <;> simp [Stage.isInside]
  fits := fun worker => by
    simp only [Shared.start]
    split <;> trivial

namespace Sound

/-- Two workers are never inside at once. -/
theorem eq_of_isInside (h : Sound shared) {other : Worker} (hin : (shared.stage worker).isInside)
    (hother : (shared.stage other).isInside) : worker = other :=
  Option.some.inj (((h.exclusive worker).2 hin).symm.trans ((h.exclusive other).2 hother))

/-- While a worker is inside, nobody else is at the touchpads. -/
theorem isWorking_eq_false (h : Sound shared) {other : Worker}
    (hin : (shared.stage worker).isInside) (hne : other ≠ worker) :
    (shared.stage other).isWorking = false := by
  rw [← Bool.not_eq_true]
  exact fun hworking => hne (h.eq_of_isInside (Stage.isInside_of_isWorking hworking) hin)

/-- A worker may go wherever it fits, if it does not enter or leave. -/
theorem move (h : Sound shared) {stage : Stage} (hfits : stage.Fits worker)
    (hinside : stage.isInside = (shared.stage worker).isInside) : Sound (shared.move worker stage) where
  exclusive := fun other => by
    rw [Shared.holder_move, Shared.stage_move, h.exclusive other]
    split
    · next heq => rw [heq, hinside]
    · rfl
  fits := fun other => by
    rw [Shared.stage_move]
    split
    · next heq => exact heq ▸ hfits
    · exact h.fits other

/-- The touchpads may change under the lock. -/
theorem withRig (h : Sound shared) (rig : Rig) : Sound { shared with rig := rig } :=
  ⟨h.exclusive, h.fits⟩

/-- What is told of a task fits its worker. -/
theorem isSome_carryOut (task : Task) (found : Rig) :
    (task.carryOut found).2.isSome ↔ task.worker ≠ .service := by
  cases task <;> simp [Task.carryOut, Task.worker]

/-- Who waits enters when the lock is free. -/
theorem enter (h : Sound shared) (hstage : shared.stage task.worker = .waiting task)
    (hfree : shared.holder = none) :
    Sound ({ shared with holder := some task.worker }.move task.worker (.entered task)) where
  exclusive := fun other => by
    have hout : (shared.stage other).isInside = false := by
      rw [← Bool.not_eq_true, ← h.exclusive other, hfree]
      exact fun heq => nomatch heq
    rw [Shared.holder_move, Shared.stage_move]
    by_cases hother : other = task.worker
    · simp [hother, Stage.isInside]
    · simp [hother, hout, Ne.symm hother]
  fits := fun other => by
    have hfits := h.fits task.worker
    rw [hstage] at hfits
    rw [Shared.stage_move]
    split
    · next heq => exact heq ▸ hfits
    · exact h.fits other

/-- Who leaves gives the lock back. -/
theorem leave (h : Sound shared) (hstage : shared.stage worker = .leaving told) :
    Sound ({ shared with holder := none }.move worker (.telling told)) where
  exclusive := fun other => by
    have hin : (shared.stage worker).isInside := by
      rw [hstage]
      rfl
    rw [Shared.holder_move, Shared.stage_move]
    by_cases hother : other = worker
    · simp [hother, Stage.isInside]
    · have hout : (shared.stage other).isInside = false := by
        rw [← Bool.not_eq_true]
        exact fun hinside => hother (h.eq_of_isInside hinside hin)
      simp [hother, hout]
  fits := fun other => by
    have hfits := h.fits worker
    rw [hstage] at hfits
    rw [Shared.stage_move]
    split
    · next heq => exact heq ▸ hfits
    · exact h.fits other

end Sound

/-- **The lock keeps the workers apart**, step by step. -/
theorem Step.sound (hstep : Step shared event final) (h : Sound shared) :
    Sound final := by
  -- Only `acquire` and `release` change who is inside.
  cases hstep with
  | connect hopen hnew => exact h.move trivial (by rw [hnew]; rfl)
  | read hstage htext => exact h.move (fun heq => nomatch heq) (by rw [hstage]; rfl)
  | hangUp hstage => exact h.move trivial (by rw [hstage]; rfl)
  | accept hstage hparse => exact h.move ⟨rfl, hparse⟩ (by rw [hstage]; rfl)
  | refuse hstage hparse =>
    exact h.move (iff_of_true rfl fun heq => nomatch heq) (by rw [hstage]; rfl)
  | interrupt hstage => exact h.move ⟨rfl, trivial⟩ (by rw [hstage]; rfl)
  | acquire hstage hfree => exact h.enter hstage hfree
  | @begin task hstage =>
    have hfits := h.fits task.worker
    rw [hstage] at hfits
    exact h.move hfits (by rw [hstage]; rfl)
  | stir rig hstage => exact h.withRig rig
  | @finish task found hstage =>
    exact (h.withRig _).move (Sound.isSome_carryOut task found) (by rw [hstage]; rfl)
  | release hstage => exact h.leave hstage
  | reply hstage => exact h.move trivial (by rw [hstage]; rfl)
  | lose hstage => exact h.move trivial (by rw [hstage]; rfl)
  | stop hstage => exact h.move trivial (by rw [hstage]; rfl)

theorem Run.sound (hrun : Run shared events final) (h : Sound shared) :
    Sound final := by
  induction hrun with
  | nil => exact h
  | cons first _ ih => exact ih (first.sound h)

/-! ## Coming to rest -/

/-- Only some workers have anything to do. -/
def FewBusy (shared : Shared) : Prop :=
  ∃ workers : Finset Worker, ∀ worker ∉ workers, (shared.stage worker).remaining = 0

/-- A step is one worker's. -/
theorem Step.exists_worker (hstep : Step shared event final) :
    ∃ worker, ∀ other, other ≠ worker → final.stage other = shared.stage other := by
  cases hstep with
  | stir => exact ⟨.service, fun _ _ => rfl⟩
  | _ => exact ⟨_, fun other hne => (Shared.stage_move ..).trans (if_neg hne)⟩

theorem Step.fewBusy (hstep : Step shared event final) (h : FewBusy shared) :
    FewBusy final := by
  obtain ⟨workers, hworkers⟩ := h
  obtain ⟨worker, hothers⟩ := hstep.exists_worker
  refine ⟨insert worker workers, fun other hout => ?_⟩
  rw [Finset.mem_insert, not_or] at hout
  rw [hothers other hout.1, hworkers other hout.2]

theorem fewBusy_start (rig : Rig) : FewBusy (.start rig) := by
  refine ⟨∅, fun worker _ => ?_⟩
  simp only [Shared.start]
  split <;> rfl

theorem Run.fewBusy (hrun : Run shared events final) (h : FewBusy shared) :
    FewBusy final := by
  induction hrun with
  | nil => exact h
  | cons first _ ih => exact ih (first.fewBusy h)

namespace Sound

/-- A worker inside can always go on. -/
theorem exists_step_inside (h : Sound shared) (hin : (shared.stage worker).isInside) :
    ∃ event rig holder stage,
      Step shared event ({ shared with rig := rig, holder := holder }.move worker stage) ∧
        event.isWork ∧ stage.remaining < (shared.stage worker).remaining := by
  have hfits := h.fits worker
  cases hstage : shared.stage worker with
  | entered task =>
    rw [hstage] at hfits
    obtain ⟨rfl, -⟩ := hfits
    exact ⟨.begin task, _, _, _, .begin hstage, rfl, by simp [Stage.remaining]⟩
  | working task found =>
    rw [hstage] at hfits
    obtain ⟨rfl, -⟩ := hfits
    exact ⟨.finish task, _, _, _, .finish hstage, rfl, by simp [Stage.remaining]⟩
  | leaving told => exact ⟨.release worker, _, _, _, .release hstage, rfl, by simp [Stage.remaining]⟩
  | absent | idle | heard | waiting | telling | gone =>
    rw [hstage] at hin
    cases hin

/-- A worker with something to do can go on when nobody has the lock. -/
theorem exists_step_outside (h : Sound shared) (hfree : shared.holder = none)
    (hbusy : (shared.stage worker).remaining ≠ 0) :
    ∃ event rig holder stage,
      Step shared event ({ shared with rig := rig, holder := holder }.move worker stage) ∧
        event.isWork ∧ stage.remaining < (shared.stage worker).remaining := by
  have hfits := h.fits worker
  have hout : ¬ (shared.stage worker).isInside := fun hin =>
    nomatch hfree.symm.trans ((h.exclusive worker).2 hin)
  cases hstage : shared.stage worker with
  | heard line =>
    rw [hstage] at hfits
    cases worker with
    | service => exact absurd rfl hfits
    | handler client =>
      cases hparse : Message.parse line with
      | ok message =>
        exact ⟨.accept client line, _, _, _, .accept hstage hparse, rfl, by simp [Stage.remaining]⟩
      | error fault =>
        exact ⟨.refuse client line, _, _, _, .refuse hstage hparse, rfl, by simp [Stage.remaining]⟩
  | waiting task =>
    rw [hstage] at hfits
    obtain ⟨rfl, -⟩ := hfits
    exact ⟨.acquire task, _, _, _, .acquire hstage hfree, rfl, by simp [Stage.remaining]⟩
  | telling told =>
    rw [hstage] at hfits
    cases worker with
    | service =>
      obtain rfl : told = none := by simpa [Stage.Fits] using hfits
      exact ⟨.stop, _, _, _, .stop hstage, rfl, by simp [Stage.remaining]⟩
    | handler client =>
      obtain ⟨reply, rfl⟩ : ∃ reply, told = some reply := by
        simpa [Stage.Fits, Option.isSome_iff_exists] using hfits
      exact ⟨.reply client reply, _, _, _, .reply hstage, rfl, by simp [Stage.remaining]⟩
  | entered | working | leaving =>
    rw [hstage] at hout
    exact absurd rfl hout
  | absent | idle | gone =>
    rw [hstage] at hbusy
    exact absurd rfl hbusy

/-- Unless all is at rest, some worker can go on with what it has begun. -/
theorem exists_step (h : Sound shared) (hbusy : ¬ shared.AtRest) :
    ∃ worker event rig holder stage,
      Step shared event ({ shared with rig := rig, holder := holder }.move worker stage) ∧
        event.isWork ∧ stage.remaining < (shared.stage worker).remaining := by
  cases hholder : shared.holder with
  | some worker => exact ⟨worker, h.exists_step_inside ((h.exclusive worker).1 hholder)⟩
  | none =>
    obtain ⟨worker, hworker⟩ := not_forall.1 hbusy
    exact ⟨worker, h.exists_step_outside hholder hworker⟩

/-- **Whatever is begun can be brought to its end**, without anything new. -/
theorem exists_rest (h : Sound shared) (hfew : FewBusy shared) :
    ∃ more final, Run shared more final ∧ final.AtRest ∧ ∀ event ∈ more, event.isWork := by
  obtain ⟨workers, hworkers⟩ := hfew
  -- Each step makes the steps that the busy workers have left fewer.
  induction hn : ∑ worker ∈ workers, (shared.stage worker).remaining using Nat.strong_induction_on
    generalizing shared with
  | _ n ih =>
    by_cases hrest : shared.AtRest
    · exact ⟨[], shared, .nil shared, hrest, by simp⟩
    obtain ⟨worker, event, rig, holder, stage, hstep, hwork, hless⟩ := h.exists_step hrest
    have hmem : worker ∈ workers := by
      by_contra hout
      rw [hworkers worker hout] at hless
      exact Nat.not_lt_zero _ hless
    have hfewer : ∑ other ∈ workers,
        (({ shared with rig := rig, holder := holder }.move worker stage).stage other).remaining
          < n := by
      rw [← hn]
      refine Finset.sum_lt_sum (fun other _ => ?_) ⟨worker, hmem, ?_⟩
      · rw [Shared.stage_move]
        split
        · next heq => exact heq ▸ hless.le
        · exact le_rfl
      · rw [Shared.stage_move, if_pos rfl]
        exact hless
    have hothers : ∀ other ∉ workers,
        (({ shared with rig := rig, holder := holder }.move worker stage).stage other).remaining
          = 0 := by
      intro other hout
      have hne : other ≠ worker := fun heq => hout (heq ▸ hmem)
      rw [Shared.stage_move, if_neg hne]
      exact hworkers other hout
    obtain ⟨more, final, hrun, hfinal, hall⟩ := ih _ hfewer (hstep.sound h) hothers rfl
    exact ⟨event :: more, final, .cons hstep hrun, hfinal, List.forall_mem_cons.2 ⟨hwork, hall⟩⟩

end Sound

/-! ## A handler by itself -/

/-- What happens while a client's line is answered, from its reading to the reply, if nothing
disturbs the handler. -/
def visit (rig : Rig) (client : ClientId) (line : Bytes) : List Event :=
  .read client line ::
    ((match Message.parse line with
      | .ok message =>
        let task := Task.command client line message
        [.accept client line, .acquire task, .begin task, .finish task, .release (.handler client)]
      | .error _ => [.refuse client line]) ++ [.reply client (answer rig line).2])

/-- **A handler that is not disturbed** answers a line as `answer` does. -/
theorem run_visit (hidle : shared.stage (.handler client) = .idle) (hfree : shared.holder = none)
    (htext : isText line) :
    Run shared (visit shared.rig client line) { shared with rig := (answer shared.rig line).1 } := by
  obtain ⟨rig, holder, stage⟩ := shared
  obtain rfl : holder = none := hfree
  -- All that happens are changes of this handler's stage, of the holder and of the touchpads.
  let here (rig : Rig) (holder : Option Worker) (at' : Stage) : Shared :=
    ⟨rig, holder, Function.update stage (.handler client) at'⟩
  have hstage : ∀ rig holder at', (here rig holder at').stage (.handler client) = at' :=
    fun _ _ _ => Function.update_self ..
  have hmove : ∀ rig holder at' next, (here rig holder at').move (.handler client) next
      = here rig holder next := fun _ _ _ _ => by simp [here, Shared.move]
  have hback : ∀ rig, here rig none .idle = ⟨rig, none, stage⟩ := fun rig => by
    rw [← hidle]
    simp [here]
  have hread : Step ⟨rig, none, stage⟩ (.read client line) (here rig none (.heard line)) :=
    .read hidle htext
  have hreply : ∀ rig reply, Step (here rig none (.telling (some reply))) (.reply client reply)
      ⟨rig, none, stage⟩ := fun rig reply => by
    have hstep := Step.reply (hstage rig none (.telling (some reply)))
    rwa [hmove, hback] at hstep
  cases hparse : Message.parse line with
  | error fault =>
    have hrefuse : Step (here rig none (.heard line)) (.refuse client line)
        (here rig none (.telling (some (rejection line fault)))) := by
      have hstep := Step.refuse (hstage rig none (.heard line)) hparse
      rwa [hmove] at hstep
    rw [visit, hparse, answer_fault hparse]
    exact .cons hread (.cons hrefuse (.cons (hreply ..) (.nil _)))
  | ok message =>
    let task := Task.command client line message
    have haccept : Step (here rig none (.heard line)) (.accept client line)
        (here rig none (.waiting task)) := by
      have hstep := Step.accept (hstage rig none (.heard line)) hparse
      rwa [hmove] at hstep
    have hacquire : Step (here rig none (.waiting task)) (.acquire task)
        (here rig (some (.handler client)) (.entered task)) := by
      rw [← hmove rig (some (.handler client)) (.waiting task)]
      exact .acquire (hstage rig none (.waiting task)) rfl
    have hbegin : Step (here rig (some (.handler client)) (.entered task)) (.begin task)
        (here rig (some (.handler client)) (.working task rig)) := by
      rw [← hmove rig (some (.handler client)) (.entered task) (.working task rig)]
      exact .begin (hstage rig (some (.handler client)) (.entered task))
    have hfinish : Step (here rig (some (.handler client)) (.working task rig)) (.finish task)
        (here (task.carryOut rig).1 (some (.handler client)) (.leaving (task.carryOut rig).2)) := by
      rw [← hmove (task.carryOut rig).1 (some (.handler client)) (.working task rig)]
      exact .finish (hstage rig (some (.handler client)) (.working task rig))
    have hrelease : ∀ rig told, Step (here rig (some (.handler client)) (.leaving told))
        (.release (.handler client)) (here rig none (.telling told)) := fun rig told => by
      rw [← hmove rig none (.leaving told)]
      exact .release (hstage rig (some (.handler client)) (.leaving told))
    rw [visit, hparse, answer_message hparse]
    exact .cons hread (.cons haccept (.cons hacquire (.cons hbegin (.cons hfinish
      (.cons (hrelease ..) (.cons (hreply ..) (.nil _)))))))

end VirtualTouchpad.Service
