/-
# Calls over a connection and calls on the touchpads

A client that calls the methods of a running server one after another gets what
it would get from the touchpads themselves, and leaves them as it would
(`remote_agrees`).  There is one exception: the touchpads take a touch whose
pressure is a NaN or an infinity, but no message can tell such a pressure, so the
server refuses it.  Where the touchpads would refuse the touch for another
reason, that makes no difference.

`heard` says what a call comes to, `callOver_heard` that one call over the
connection comes to that, and the run is an induction over the calls.
-/
import VirtualTouchpad.Proofs.Control.Nulls
import VirtualTouchpad.Proofs.Numeric.Ranges
import VirtualTouchpad.Proofs.Service.Stream
import VirtualTouchpad.Control.Client

namespace VirtualTouchpad.Service

open Control
open Json (Bytes Fault Printable Value)

/-! ## Calls on the touchpads -/

/-- A call of a client's method on the touchpads themselves. -/
def direct (rig : Rig) : Command → Rig × Except TouchpadFailure String
  | .ping => (rig, .ok "")
  | .attach => silent rig.attach
  | .detach => silent rig.detach
  | .touch touchpad x y pressure => silent (rig.touch touchpad.toNat x y pressure)
  | .buttons touchpad mask => silent (rig.buttonState touchpad.toNat mask)
  | .scroll touchpad x y => silent (rig.scroll touchpad.toNat x y)
  | .dump => (rig, .ok rig.describe)
where
  /-- A call that gives no text. -/
  silent : Rig × Outcome → Rig × Except TouchpadFailure String :=
    fun (rig, outcome) => (rig, outcome.map fun () => "")

/-- Whether the touchpads would take a touch whose pressure no message can tell. -/
def unheard (rig : Rig) : Command → Bool
  | .touch touchpad x y pressure =>
    !decide pressure.IsFinite && decide (touchpad.toNat < rig.pads.length) &&
      x.isPosition && y.isPosition
  | _ => false

/-- Calls on the touchpads in order, with the texts or the kinds of failures that they give.  Those
to `skip` are refused and not made. -/
def runExcept (skip : Rig → Command → Bool) (rig : Rig) :
    List Command → Rig × List (Except FailureKind String)
  | [] => (rig, [])
  | command :: commands =>
    let (rig, result) :=
      if skip rig command then (rig, .error .invalidArgument)
      else
        let (rig, result) := direct rig command
        (rig, result.mapError TouchpadFailure.kind)
    let (rig, results) := runExcept skip rig commands
    (rig, result :: results)

/-! ## Calls over a connection -/

/-- A call over a connection: the client's message goes to the server, and the client reads what
the server replies. -/
def callOver (server : Server) (number : ClientId) (client : Client) (id : String)
    (command : Command) : Server × Client × CallResult :=
  let (server, replies) := server.receive number (messageLine ⟨id, command⟩)
  let (client, result) :=
    client.call id command (replies.flatMap replyLine) (server.hasClosed number)
  (server, client, result)

/-- Calls over a connection in order, each with an identity. -/
def runOver (server : Server) (number : ClientId) (client : Client) :
    List (String × Command) → Server × List CallResult
  | [] => (server, [])
  | (id, command) :: calls =>
    let (server, client, result) := callOver server number client id command
    let (server, results) := runOver server number client calls
    (server, result :: results)

/-- A result over a connection tells what came of a call: the same text, or a refusal of the same
kind. -/
def Tells : CallResult → Except FailureKind String → Prop
  | .ok text, .ok expected => text = expected
  | .error (.refused kind _), .error expected => kind = expected
  | _, _ => False

/-- Calls over a connection give what the same calls on the touchpads give, but for those to skip,
and do to the touchpads what those do. -/
def AgreesExcept (skip : Rig → Command → Bool) (server : Server) (number : ClientId)
    (calls : List (String × Command)) : Prop :=
  let remote := runOver server number .connected calls
  let here := runExcept skip server.rig (calls.map (·.2))
  remote.1.rig = here.1 ∧ List.Forall₂ Tells remote.2 here.2

/-! ## What a call comes to -/

/-- What a call over a connection comes to. -/
def heard (rig : Rig) (command : Command) : Rig × Except FailureKind String :=
  if unheard rig command then (rig, .error .invalidArgument)
  else ((direct rig command).1, (direct rig command).2.mapError TouchpadFailure.kind)

/-- What is told of an outcome. -/
theorem tells_ofOutcome (command : Command) (outcome : Outcome) :
    Tells (command.result (.ofOutcome outcome))
      ((outcome.map fun () => "").mapError TouchpadFailure.kind) := by
  cases outcome with
  | ok => cases command <;> rfl
  | error failure => cases command <;> rfl

/-- The server does what the call on the touchpads does, and tells what it gives. -/
theorem perform_direct (rig : Rig) (command : Command) :
    (perform rig command).1 = (direct rig command).1 ∧
      Tells (command.result (perform rig command).2)
        ((direct rig command).2.mapError TouchpadFailure.kind) := by
  cases command with
  | ping => exact ⟨rfl, rfl⟩
  | dump => exact ⟨rfl, rfl⟩
  | detach => exact ⟨rfl, tells_ofOutcome .detach (.ok ())⟩
  | attach | touch | buttons | scroll => exact ⟨rfl, tells_ofOutcome _ _⟩

/-! ## Floats that are no numbers -/

/-- Of two numbers not both in range the first that is not is refused. -/
theorem checkRange_error (axis other range : String) {x y : Single} {inside : Single → Bool}
    (h : ¬ (inside x = true ∧ inside y = true)) :
    ∃ failure, failure.kind = .invalidArgument ∧
      (Rig.checkRange axis x inside range = .error failure ∨
        Rig.checkRange axis x inside range = .ok () ∧
          Rig.checkRange other y inside range = .error failure) := by
  by_cases hx : inside x = true
  · have hy : ¬ inside y = true := fun hy => h ⟨hx, hy⟩
    exact ⟨.outOfRange other y range, rfl, .inr ⟨if_pos hx, if_neg hy⟩⟩
  · exact ⟨.outOfRange axis x range, rfl, .inl (if_neg hx)⟩

/-- The touchpads refuse a float that is no number, but for a pressure. -/
theorem direct_of_not_isFinite {rig : Rig} {command : Command} (h : ¬ command.IsFinite)
    (hheard : unheard rig command = false) :
    ∃ failure, failure.kind = .invalidArgument ∧ direct rig command = (rig, .error failure) := by
  cases command with
  | touch touchpad x y pressure =>
    cases hpad : rig.pads[touchpad.toNat]? with
    | none =>
      refine ⟨.noSuchTouchpad touchpad.toNat, rfl, ?_⟩
      simp [direct, direct.silent, Rig.touch, hpad, Except.map]
    | some pad =>
      have hnot : ¬ (x.isPosition = true ∧ y.isPosition = true) := by
        rintro ⟨hx, hy⟩
        have hpressure : ¬ pressure.IsFinite := fun hpressure =>
          h ⟨Single.isFinite_of_isPosition hx, Single.isFinite_of_isPosition hy, hpressure⟩
        have hlt := (List.getElem?_eq_some_iff.1 hpad).1
        simp [unheard, hpressure, hlt, hx, hy] at hheard
      obtain ⟨failure, hkind, hcheck⟩ := checkRange_error "x" "y" "[0, 1)" hnot
      refine ⟨failure, hkind, ?_⟩
      rcases hcheck with hx | ⟨hx, hy⟩
      · simp [direct, direct.silent, Rig.touch, hpad, hx, Except.map]
      · simp [direct, direct.silent, Rig.touch, hpad, hx, hy, Except.map]
  | scroll touchpad x y =>
    cases hpad : rig.pads[touchpad.toNat]? with
    | none =>
      refine ⟨.noSuchTouchpad touchpad.toNat, rfl, ?_⟩
      simp [direct, direct.silent, Rig.scroll, hpad, Except.map]
    | some pad =>
      have hnot : ¬ (x.isScrollAmount = true ∧ y.isScrollAmount = true) := fun ⟨hx, hy⟩ =>
        h ⟨Single.isFinite_of_isScrollAmount hx, Single.isFinite_of_isScrollAmount hy⟩
      obtain ⟨failure, hkind, hcheck⟩ := checkRange_error "x" "y" "[-1, 1]" hnot
      refine ⟨failure, hkind, ?_⟩
      rcases hcheck with hx | ⟨hx, hy⟩
      · simp [direct, direct.silent, Rig.scroll, hpad, hx, Except.map]
      · simp [direct, direct.silent, Rig.scroll, hpad, hx, hy, Except.map]
  | ping | attach | detach | buttons | dump => exact absurd trivial h

theorem heard_of_isFinite {command : Command} (h : command.IsFinite) (rig : Rig) :
    heard rig command =
      ((direct rig command).1, (direct rig command).2.mapError TouchpadFailure.kind) := by
  cases command with
  | touch => simp [heard, unheard, h.2.2]
  | ping | attach | detach | buttons | scroll | dump => rfl

/-- Of a command with a float that is no number nothing is heard but that it is refused. -/
theorem heard_of_not_isFinite {command : Command} (h : ¬ command.IsFinite) (rig : Rig) :
    heard rig command = (rig, .error .invalidArgument) := by
  rw [heard]
  cases hunheard : unheard rig command with
  | true => rfl
  | false =>
    obtain ⟨failure, hkind, hdirect⟩ := direct_of_not_isFinite h hunheard
    rw [hdirect, ← hkind]
    rfl

/-! ## One call -/

/-- A running server on one of whose connections nothing is unfinished. -/
structure Ready (server : Server) (number : ClientId) : Prop where
  running : server.claim.isSome
  opened : server.connection number = .opened

/-- A server answers a line at once, if it is a text. -/
theorem receive_text {server : Server} {number : ClientId} (h : Ready server number) {body : Bytes}
    (hbody : newline ∉ body) (htext : isText (body ++ [newline]) = true) :
    let received := server.receive number (body ++ [newline])
    Ready received.1 number ∧
      received.1.rig = (answer server.rig (body ++ [newline])).1 ∧
      received.2 = [(answer server.rig (body ++ [newline])).2] := by
  intro received
  obtain ⟨hserved, hreplies⟩ := Server.served_update h.running number
    fun connection rig => connection.receive rig (body ++ [newline])
  have hlines : splitLines (body ++ [newline]) = ([body ++ [newline]], []) :=
    splitLines_line hbody []
  have hreceive : Connection.opened.receive server.rig (body ++ [newline]) =
      (.opened, (answer server.rig (body ++ [newline])).1,
        [(answer server.rig (body ++ [newline])).2]) := by
    simp [Connection.opened, Connection.receive_listening, hlines, answerLines_eq, readable, htext,
      answered, repliesTo]
  rw [h.opened, hreceive] at hserved hreplies
  have hclaim : received.1.claim = server.claim := hserved.claim
  exact ⟨⟨hclaim ▸ h.running, hserved.connection⟩, hserved.rig, hreplies⟩

/-- A server answers a line without controls at once. -/
theorem receive_line {server : Server} {number : ClientId} (h : Ready server number)
    {written : Bytes} (hwritten : Printable written) :
    let received := server.receive number (written ++ [newline])
    Ready received.1 number ∧
      received.1.rig = (answer server.rig (written ++ [newline])).1 ∧
      received.2 = [(answer server.rig (written ++ [newline])).2] :=
  receive_text h (newline_notMem_of_printable hwritten) (isSome_textOf?_line hwritten)

/-- A client takes a line as the reply to its call. -/
theorem call_reply (id : String) (command : Command) (answer : Answer) :
    Client.connected.call id command (replyLine ⟨id, answer⟩) false =
      (.connected, command.result answer) := by
  have hprintable := printable_reply ⟨id, answer⟩
  have hline := firstLine_line (newline_notMem_of_printable hprintable) []
  obtain ⟨text, htext⟩ := Option.isSome_iff_exists.1 (isSome_textOf?_line hprintable)
  have hparse := (readsBack_of_takes hprintable (takes_reply ⟨id, answer⟩)).parse_line
  have hread : Client.readReply id (replyLine ⟨id, answer⟩) = .ok answer := by
    have hreply : Reply.parse (replyLine ⟨id, answer⟩) = .ok ⟨id, answer⟩ := hparse
    rw [← replyLine] at htext
    simp only [Client.readReply, htext, hreply, if_true]
  have hawait : (Client.connected.arrive (replyLine ⟨id, answer⟩) false).awaitReply id =
      (.connected, .ok answer) := by
    obtain ⟨b, tail, hcons⟩ : ∃ b tail, replyLine ⟨id, answer⟩ = b :: tail := ⟨_, _, rfl⟩
    rw [← replyLine, hcons] at hline
    rw [hcons] at hread ⊢
    simp [Client.connected, Client.arrive, Client.awaitReply, hline, hread]
  simp only [Client.call, hawait]
  rfl

/-- The server carries out the command of a message whose floats are numbers. -/
theorem answer_of_isFinite (message : Message) (h : message.command.IsFinite) (rig : Rig) :
    answer rig (messageLine message) =
      ((perform rig message.command).1, ⟨message.id, (perform rig message.command).2⟩) :=
  answer_message (readsBack_of_takes (printable_message message) (takes_message h)).parse_line rig

/-- The server refuses a message with a float that is no number, and still knows whose it is. -/
theorem answer_of_not_isFinite (message : Message) (h : ¬ message.command.IsFinite) (rig : Rig) :
    answer rig (messageLine message) = (rig, ⟨message.id, .failed .invalidArgument
      ("Malformed command: " ++ nullFault.message)⟩) := by
  obtain ⟨command, hvalue⟩ := exists_parse_message message
  have hid : claimedId (messageLine message) = message.id := by
    rw [claimedId, messageLine, hvalue]
    rfl
  rw [messageLine] at hid ⊢
  rw [answer_fault (parse_message_of_null h), rejection, hid]

/-- What the server answers to a call's message is what the call gives. -/
theorem callOver_of_answer {server : Server} {number : ClientId} (h : Ready server number)
    {id : String} {command : Command} {rig : Rig} {found : Answer}
    (hanswer : answer server.rig (messageLine ⟨id, command⟩) = (rig, ⟨id, found⟩)) :
    let called := callOver server number .connected id command
    Ready called.1 number ∧ called.2.1 = .connected ∧ called.1.rig = rig ∧
      called.2.2 = command.result found := by
  obtain ⟨hready, hrig, hreplies⟩ := receive_line h (printable_message ⟨id, command⟩)
  rw [← messageLine, hanswer] at hrig hreplies
  have hopen : (server.receive number (messageLine ⟨id, command⟩)).1.hasClosed number = false := by
    rw [Server.hasClosed, messageLine, hready.opened]
    rfl
  have hcalled : callOver server number .connected id command =
      ((server.receive number (messageLine ⟨id, command⟩)).1, .connected, command.result found) := by
    simp only [callOver, hreplies, hopen, List.flatMap_singleton, call_reply]
  rw [hcalled]
  exact ⟨hready, rfl, hrig, rfl⟩

/-- One call over a connection comes to what is heard of it. -/
theorem callOver_heard {server : Server} {number : ClientId} (h : Ready server number)
    (id : String) (command : Command) :
    let called := callOver server number .connected id command
    Ready called.1 number ∧ called.2.1 = .connected ∧
      called.1.rig = (heard server.rig command).1 ∧
      Tells called.2.2 (heard server.rig command).2 := by
  by_cases hfinite : command.IsFinite
  · obtain ⟨hready, hclient, hrig, hresult⟩ :=
      callOver_of_answer h (answer_of_isFinite ⟨id, command⟩ hfinite server.rig)
    obtain ⟨hdone, htells⟩ := perform_direct server.rig command
    rw [heard_of_isFinite hfinite]
    exact ⟨hready, hclient, hrig.trans hdone, by rw [hresult]; exact htells⟩
  · obtain ⟨hready, hclient, hrig, hresult⟩ :=
      callOver_of_answer h (answer_of_not_isFinite ⟨id, command⟩ hfinite server.rig)
    rw [heard_of_not_isFinite hfinite]
    refine ⟨hready, hclient, hrig, ?_⟩
    rw [hresult]
    cases command <;> rfl

/-! ## Runs -/

theorem runExcept_cons (rig : Rig) (command : Command) (commands : List Command) :
    runExcept unheard rig (command :: commands) =
      ((runExcept unheard (heard rig command).1 commands).1,
        (heard rig command).2 :: (runExcept unheard (heard rig command).1 commands).2) := by
  rw [runExcept, heard]

/-- **Calls over a connection are calls on the touchpads**: a running server and a client on a new
connection give the results of the same calls on the touchpads, and leave the touchpads and their
sinks as those do; but for touches with a pressure that no message can tell. -/
theorem remote_agrees {server : Server} {number : ClientId} (h : Ready server number)
    (calls : List (String × Command)) : AgreesExcept unheard server number calls := by
  induction calls generalizing server with
  | nil => exact ⟨rfl, .nil⟩
  | cons call calls ih =>
    obtain ⟨id, command⟩ := call
    obtain ⟨hready, hclient, hrig, htells⟩ := callOver_heard h id command
    obtain ⟨hafter, hresults⟩ := ih hready
    rw [AgreesExcept, List.map_cons, runExcept_cons, ← hrig]
    simp only [runOver, hclient]
    exact ⟨hafter, .cons htells hresults⟩

/-- Attaching, a touch whose pressure is a NaN, scrolling by an infinity, and asking for a
description. -/
theorem remote_agrees_nan :
    let server : Server := ⟨"control.sock", some ⟨"control.sock", 0, ["work", "control.lock"]⟩,
      .new .standard (.recorders []) ⟨[], .new []⟩, []⟩
    let half : Single := .ofMagnitude .single false 0x3F000000
    let calls : List (String × Command) := [("a", .attach), ("b", .touch 0 half half (.nan .single)),
      ("c", .scroll 0 (.infinity .single true) half), ("d", .dump)]
    Ready server 0 ∧ AgreesExcept unheard server 0 calls := by
  intro server half calls
  have hready : Ready server 0 := ⟨rfl, rfl⟩
  exact ⟨hready, remote_agrees hready calls⟩

/-- A touch that is not heard of and that the touchpads take makes a difference. -/
theorem not_agrees_of_unheard {server : Server} {number : ClientId} (h : Ready server number)
    (id : String) {command : Command} (hunheard : unheard server.rig command = true) {text : String}
    (htaken : (direct server.rig command).2 = .ok text) :
    ¬ AgreesExcept (fun _ _ => false) server number [(id, command)] := by
  rintro ⟨-, hresults⟩
  obtain ⟨-, -, -, hrefused⟩ := callOver_heard h id command
  have hgiven : Tells (callOver server number .connected id command).2.2
      ((direct server.rig command).2.mapError TouchpadFailure.kind) :=
    (List.forall₂_cons.1 hresults).1
  rw [heard, if_pos hunheard] at hrefused
  rw [htaken] at hgiven
  cases hresult : (callOver server number .connected id command).2.2 with
  | ok text =>
    rw [hresult] at hrefused
    exact hrefused
  | error failure =>
    rw [hresult] at hgiven
    cases failure <;> exact hgiven

/-- An attached touchpad takes a touch whose pressure is infinite, but not from a client. -/
theorem remote_disagrees_infinite :
    let server : Server := ⟨"control.sock", some ⟨"control.sock", 0, ["work", "control.lock"]⟩,
      (Rig.new .standard (.recorders []) ⟨[], .new []⟩).attach.1, []⟩
    let half : Single := .ofMagnitude .single false 0x3F000000
    let calls : List (String × Command) := [("a", .touch 0 half half (.infinity .single false))]
    Ready server 0 ∧ ¬ AgreesExcept (fun _ _ => false) server 0 calls := by
  intro server half calls
  have hready : Ready server 0 := ⟨rfl, rfl⟩
  have hunheard : unheard server.rig (.touch 0 half half (.infinity .single false)) = true := by
    decide +kernel
  have htaken : (direct server.rig (.touch 0 half half (.infinity .single false))).2 = .ok "" := by
    decide +kernel
  exact ⟨hready, not_agrees_of_unheard hready "a" hunheard htaken⟩

end VirtualTouchpad.Service
