/-
# A connection is a stream of lines

Whatever the pieces in which a client's bytes arrive, a running server answers the lines of
the whole stream, in order, up to the first that is no text (`line_by_line`): it is as if
each line were answered by itself, in the state that the earlier ones left.

Lines are answered alike in one go or in two (`answerLines_append`), and a connection keeps
the unfinished line, so bytes in two pieces do what they do in one (`receive_append`).
-/
import VirtualTouchpad.Proofs.Control.Lines
import VirtualTouchpad.Service.Server

namespace VirtualTouchpad.Service

open Control
open Json (Bytes Fault)

/-! ## Answering lines -/

/-- The rig after lines were answered in order. -/
def answered (rig : Rig) (lines : List Bytes) : Rig :=
  lines.foldl (fun rig line => (answer rig line).1) rig

/-- The replies to lines that are answered in order. -/
def repliesTo (rig : Rig) : List Bytes → List Reply
  | [] => []
  | line :: lines => (answer rig line).2 :: repliesTo (answer rig line).1 lines

/-- Whether a line is a text. -/
def isText (line : Bytes) : Bool := (textOf? line).isSome

/-- The lines before the first that is no text. -/
def readable (lines : List Bytes) : List Bytes := lines.takeWhile isText

theorem answered_cons (rig : Rig) (line : Bytes) (lines : List Bytes) :
    answered rig (line :: lines) = answered (answer rig line).1 lines := rfl

theorem length_repliesTo (rig : Rig) (lines : List Bytes) :
    (repliesTo rig lines).length = lines.length := by
  induction lines generalizing rig with
  | nil => rfl
  | cons line lines ih => simp [repliesTo, ih]

/-- Each reply is the one to its line in the state that the lines before it left. -/
theorem getElem?_repliesTo (rig : Rig) (lines : List Bytes) (k : Nat) :
    (repliesTo rig lines)[k]?
      = lines[k]?.map fun line => (answer (answered rig (lines.take k)) line).2 := by
  induction lines generalizing rig k with
  | nil => rfl
  | cons line lines ih =>
    cases k with
    | zero => rfl
    | succ k => simp [repliesTo, ih, answered_cons]

/-- One more line does to the rig what it does by itself. -/
theorem answered_take_succ (rig : Rig) {lines : List Bytes} {k : Nat} {line : Bytes}
    (h : lines[k]? = some line) :
    answered rig (lines.take (k + 1)) = (answer (answered rig (lines.take k)) line).1 := by
  rw [List.take_add_one, h, answered, List.foldl_append]
  rfl

/-- A line that is a message: its command is carried out. -/
theorem answer_message {line : Bytes} {message : Message} (h : Message.parse line = .ok message)
    (rig : Rig) : answer rig line
      = ((perform rig message.command).1, ⟨message.id, (perform rig message.command).2⟩) := by
  simp [answer, h]

/-- A line that is no message: it is refused, and nothing is done. -/
theorem answer_fault {line : Bytes} {fault : Fault} (h : Message.parse line = .error fault)
    (rig : Rig) : answer rig line = (rig, rejection line fault) := by
  simp [answer, h]

/-- **Lines are answered one by one**, up to the first that is no text. -/
theorem answerLines_eq (rig : Rig) (lines : List Bytes) :
    answerLines rig lines
      = (answered rig (readable lines), repliesTo rig (readable lines), lines.all isText) := by
  induction lines generalizing rig with
  | nil => rfl
  | cons line lines ih =>
    cases htext : isText line with
    | true =>
      have hsome : (textOf? line).isNone = false := by simpa [isText] using htext
      simp [answerLines, hsome, ih, readable, htext, answered_cons, repliesTo]
    | false =>
      have hnone : (textOf? line).isNone = true := by simpa [isText] using htext
      simp [answerLines, hnone, readable, htext, answered, repliesTo]

/-- Lines in two parts: the second one is answered if all of the first are texts. -/
theorem answerLines_append (rig : Rig) (lines later : List Bytes) :
    answerLines rig (lines ++ later)
      = if lines.all isText then
          ((answerLines (answerLines rig lines).1 later).1,
            (answerLines rig lines).2.1 ++ (answerLines (answerLines rig lines).1 later).2.1,
            (answerLines (answerLines rig lines).1 later).2.2)
        else answerLines rig lines := by
  induction lines generalizing rig with
  | nil => rfl
  | cons line lines ih =>
    cases htext : isText line with
    | true =>
      have hsome : (textOf? line).isNone = false := by simpa [isText] using htext
      simp only [List.cons_append, answerLines, hsome, Bool.false_eq_true, if_false, ih,
        List.all_cons, htext, Bool.true_and]
      split <;> rfl
    | false =>
      have hnone : (textOf? line).isNone = true := by simpa [isText] using htext
      simp [answerLines, hnone, htext]

/-! ## One connection -/

namespace Connection

/-- What a connection does with some bytes, in terms of the lines that they finish. -/
theorem receive_listening (unfinished : Bytes) (rig : Rig) (bytes : Bytes) :
    (listening unfinished).receive rig bytes
      = (if (splitLines (unfinished ++ bytes)).1.all isText then
            listening (splitLines (unfinished ++ bytes)).2
          else closed,
        (answerLines rig (splitLines (unfinished ++ bytes)).1).1,
        (answerLines rig (splitLines (unfinished ++ bytes)).1).2.1) := by
  simp [receive, answerLines_eq]

/-- **Bytes in two pieces** do what they do in one. -/
theorem receive_append (connection : Connection) (rig : Rig) (bytes more : Bytes) :
    connection.receive rig (bytes ++ more)
      = (((connection.receive rig bytes).1.receive (connection.receive rig bytes).2.1 more).1,
        ((connection.receive rig bytes).1.receive (connection.receive rig bytes).2.1 more).2.1,
        (connection.receive rig bytes).2.2
          ++ ((connection.receive rig bytes).1.receive
            (connection.receive rig bytes).2.1 more).2.2) := by
  cases connection with
  | closed => rfl
  | listening unfinished =>
    rw [receive_listening, receive_listening, ← List.append_assoc, splitLines_append,
      answerLines_append, List.all_append]
    cases hall : (splitLines (unfinished ++ bytes)).1.all isText with
    | true => simp [receive_listening]
    | false => simp [receive]

/-- No bytes do nothing. -/
theorem receive_nil {unfinished : Bytes} (h : newline ∉ unfinished) (rig : Rig) :
    (listening unfinished).receive rig [] = (listening unfinished, rig, []) := by
  rw [receive_listening, List.append_nil, splitLines_of_not_mem h]
  rfl

/-- A connection that holds nothing but an unfinished line. -/
def IsSound : Connection → Prop
  | .listening unfinished => newline ∉ unfinished
  | .closed => True

theorem isSound_receive {connection : Connection} (h : connection.IsSound) (rig : Rig)
    (bytes : Bytes) : (connection.receive rig bytes).1.IsSound := by
  cases connection with
  | closed => exact h
  | listening unfinished =>
    rw [receive_listening]
    dsimp only
    split
    · exact newline_notMem_splitLines _
    · trivial

theorem receiveAll_cons (connection : Connection) (rig : Rig) (bytes : Bytes)
    (pieces : List Bytes) : connection.receiveAll rig (bytes :: pieces)
      = (((connection.receive rig bytes).1.receiveAll (connection.receive rig bytes).2.1 pieces).1,
        ((connection.receive rig bytes).1.receiveAll (connection.receive rig bytes).2.1 pieces).2.1,
        (connection.receive rig bytes).2.2 ++ ((connection.receive rig bytes).1.receiveAll
          (connection.receive rig bytes).2.1 pieces).2.2) := rfl

/-- **Bytes in any pieces** do what they do in one. -/
theorem receiveAll_eq {connection : Connection} (h : connection.IsSound) (rig : Rig)
    (pieces : List Bytes) :
    connection.receiveAll rig pieces = connection.receive rig pieces.flatten := by
  induction pieces generalizing connection rig with
  | nil =>
    cases connection with
    | closed => rfl
    | listening unfinished => exact (receive_nil h rig).symm
  | cons bytes pieces ih =>
    rw [List.flatten_cons, receive_append, receiveAll_cons, ih (isSound_receive h rig bytes)]

theorem isSound_opened : opened.IsSound := by simp [opened, IsSound]

/-- A new connection that takes a whole stream answers its lines. -/
theorem finish_receiveAll_opened (rig : Rig) (pieces : List Bytes) :
    let received := opened.receiveAll rig pieces
    let finished := received.1.finish received.2.1
    finished.2.1 = answered rig (readable (allLines pieces.flatten))
      ∧ received.2.2 ++ finished.2.2 = repliesTo rig (readable (allLines pieces.flatten)) := by
  intro received finished
  have hreceived : received = opened.receive rig pieces.flatten :=
    receiveAll_eq isSound_opened rig pieces
  have hall := answerLines_append rig (splitLines pieces.flatten).1
    (if (splitLines pieces.flatten).2 = [] then [] else [(splitLines pieces.flatten).2])
  rw [← allLines_split, answerLines_eq] at hall
  rw [opened, receive_listening, List.nil_append] at hreceived
  -- Either the rest is still to be answered, or the connection is closed already.
  cases htexts : (splitLines pieces.flatten).1.all isText with
  | true =>
    simp only [htexts, if_true] at hall hreceived
    have hfinished : finished = finish received.1 received.2.1 := rfl
    rw [hreceived] at hfinished ⊢
    simp only [finish] at hfinished
    rw [hfinished]
    simp only [Prod.mk.injEq] at hall
    exact ⟨hall.1.symm, hall.2.1.symm⟩
  | false =>
    simp only [htexts, Bool.false_eq_true, if_false] at hall hreceived
    have hfinished : finished = finish received.1 received.2.1 := rfl
    rw [hreceived] at hfinished ⊢
    simp only [finish] at hfinished
    rw [hfinished, ← hall]
    simp

end Connection

/-! ## One client of a server -/

namespace Server

/-- Takes bytes from a client in pieces. -/
def receiveAll (server : Server) (client : ClientId) : List Bytes → Server × List Reply
  | [] => (server, [])
  | bytes :: pieces =>
    let (server, replies) := server.receive client bytes
    let (server, later) := server.receiveAll client pieces
    (server, replies ++ later)

/-- Takes a client's whole stream: its bytes in pieces, and then its end. -/
def serve (server : Server) (client : ClientId) (pieces : List Bytes) : Server × List Reply :=
  let (server, replies) := server.receiveAll client pieces
  let (server, last) := server.hangUp client
  (server, replies ++ last)

theorem receiveAll_cons (server : Server) (client : ClientId) (bytes : Bytes)
    (pieces : List Bytes) : server.receiveAll client (bytes :: pieces)
      = (((server.receive client bytes).1.receiveAll client pieces).1,
        (server.receive client bytes).2
          ++ ((server.receive client bytes).1.receiveAll client pieces).2) := rfl

/-- A server after it did something to a client's connection: the rig and the connection are new,
and all else is as it was. -/
structure Served (client : ClientId) (before after : Server) (connection : Connection) (rig : Rig) :
    Prop where
  socket : after.socket = before.socket
  claim : after.claim = before.claim
  rig : after.rig = rig
  connection : after.connection client = connection
  others : after.connections.filter (·.1 != client) = before.connections.filter (·.1 != client)

/-- A running server never settles, so a client's bytes do what its connection makes of them. -/
theorem served_update {server : Server} (hrunning : server.claim.isSome) (client : ClientId)
    (act : Connection → Rig → Connection × Rig × List Reply) :
    Served client server (server.update client act).1 (act (server.connection client) server.rig).1
        (act (server.connection client) server.rig).2.1
      ∧ (server.update client act).2 = (act (server.connection client) server.rig).2.2 := by
  have hclaim : server.claim.isNone = false := by
    rwa [Option.isNone_eq_false_iff]
  have hupdate : (server.update client act).1
      = { server with rig := (act (server.connection client) server.rig).2.1 }.setConnection client
          (act (server.connection client) server.rig).1 := by
    simp [update, settle, isDeserted, setConnection, hclaim]
  refine ⟨?_, rfl⟩
  rw [hupdate]
  constructor <;> simp [setConnection, connection]

theorem served_receiveAll {server : Server} (hrunning : server.claim.isSome) (client : ClientId)
    (pieces : List Bytes) :
    Served client server (server.receiveAll client pieces).1
        ((server.connection client).receiveAll server.rig pieces).1
        ((server.connection client).receiveAll server.rig pieces).2.1
      ∧ (server.receiveAll client pieces).2
        = ((server.connection client).receiveAll server.rig pieces).2.2 := by
  induction pieces generalizing server with
  | nil => exact ⟨⟨rfl, rfl, rfl, rfl, rfl⟩, rfl⟩
  | cons bytes pieces ih =>
    obtain ⟨hstep, hreplies⟩ := served_update hrunning client fun connection rig =>
      connection.receive rig bytes
    have hrunning' : (server.receive client bytes).1.claim.isSome := by
      rw [receive, hstep.claim]
      exact hrunning
    obtain ⟨hlater, hmore⟩ := ih hrunning'
    rw [receive, hstep.connection, hstep.rig] at hlater hmore
    refine ⟨⟨?_, ?_, hlater.rig, hlater.connection, ?_⟩, ?_⟩
    · exact hlater.socket.trans hstep.socket
    · exact hlater.claim.trans hstep.claim
    · exact hlater.others.trans hstep.others
    · rw [receiveAll_cons, Connection.receiveAll_cons, receive, hreplies, hmore]

/-- Serving a client's whole stream, in terms of its connection. -/
theorem serve_running {server : Server} (hrunning : server.claim.isSome) (client : ClientId)
    (pieces : List Bytes) :
    let received := (server.connection client).receiveAll server.rig pieces
    let finished := received.1.finish received.2.1
    server.serve client pieces
      = ({ server with rig := finished.2.1 }.forget client, received.2.2 ++ finished.2.2) := by
  intro received finished
  obtain ⟨hreceived, hreplies⟩ := served_receiveAll hrunning client pieces
  have hrunning' : (server.receiveAll client pieces).1.claim.isSome := by
    rw [hreceived.claim]
    exact hrunning
  obtain ⟨hended, hlast⟩ := served_update hrunning' client Connection.finish
  rw [hreceived.connection, hreceived.rig] at hended hlast
  have hforget : ∀ after : Server, Served client (server.receiveAll client pieces).1 after
      finished.1 finished.2.1 →
      after.forget client = { server with rig := finished.2.1 }.forget client := by
    intro after hafter
    have hothers := hafter.others.trans hreceived.others
    have hclaim := hafter.claim.trans hreceived.claim
    have hsocket := hafter.socket.trans hreceived.socket
    simp only [forget, hothers, hclaim, hsocket, hafter.rig]
  show (((server.receiveAll client pieces).1.update client Connection.finish).1.forget client,
    (server.receiveAll client pieces).2
      ++ ((server.receiveAll client pieces).1.update client Connection.finish).2) = _
  rw [hforget _ hended, hreplies, hlast]

/-- A client's connection is closed once a finished line of what it sent is no text. -/
theorem hasClosed_receiveAll {server : Server} (hrunning : server.claim.isSome) {client : ClientId}
    (hnew : server.connection client = .opened) (pieces : List Bytes) :
    (server.receiveAll client pieces).1.hasClosed client = true
      ↔ ∃ line ∈ (splitLines pieces.flatten).1, textOf? line = none := by
  have hconnection := (served_receiveAll hrunning client pieces).1.connection
  rw [hnew, Connection.receiveAll_eq Connection.isSound_opened, Connection.opened,
    Connection.receive_listening, List.nil_append] at hconnection
  rw [hasClosed, hconnection]
  cases htexts : (splitLines pieces.flatten).1.all isText with
  | true =>
    have hnone : ¬ ∃ line ∈ (splitLines pieces.flatten).1, textOf? line = none := by
      rintro ⟨line, hmem, hnone⟩
      have htext := List.all_eq_true.mp htexts line hmem
      simp [isText, hnone] at htext
    simp [hnone]
  | false =>
    obtain ⟨line, hmem, htext⟩ := List.all_eq_false.mp htexts
    simp only [Bool.false_eq_true, if_false, beq_self_eq_true, true_iff]
    exact ⟨line, hmem, by simpa [isText] using htext⟩

/-- **A connection is a stream of lines**: whatever the pieces in which a client's stream comes, a
running server answers its lines in order up to the first that is no text, each in the state that
the lines before it left.  A line that is no message is refused and changes nothing.  The
connection is closed at a line that is no text, and what follows it has no effect. -/
theorem line_by_line {server : Server} (hrunning : server.claim.isSome) {client : ClientId}
    (hnew : server.connection client = .opened) (pieces : List Bytes) :
    let lines := allLines pieces.flatten
    let taken := readable lines
    let replies := (server.serve client pieces).2
    Lined pieces.flatten lines
      ∧ (server.serve client pieces).1.rig = answered server.rig taken
      ∧ replies.length = taken.length
      ∧ (∀ k line, taken[k]? = some line →
          let before := answered server.rig (taken.take k)
          let after := answered server.rig (taken.take (k + 1))
          (∀ message, Message.parse line = .ok message →
              after = (perform before message.command).1
                ∧ replies[k]? = some ⟨message.id, (perform before message.command).2⟩)
            ∧ ∀ fault, Message.parse line = .error fault →
              after = before ∧ replies[k]? = some ⟨claimedId line,
                .failed .invalidArgument ("Malformed command: " ++ fault.message)⟩)
      ∧ ((server.receiveAll client pieces).1.hasClosed client = true
          ↔ ∃ line ∈ (splitLines pieces.flatten).1, textOf? line = none)
      ∧ ∀ others : List Bytes, others.flatten = pieces.flatten →
          server.serve client others = server.serve client pieces := by
  intro lines taken replies
  have hserve : ∀ pieces, server.serve client pieces
      = ({ server with rig := answered server.rig (readable (allLines pieces.flatten)) }.forget
          client, repliesTo server.rig (readable (allLines pieces.flatten))) := by
    intro pieces
    obtain ⟨hrig, hreplies⟩ := Connection.finish_receiveAll_opened server.rig pieces
    rw [serve_running hrunning, hnew, hrig, hreplies]
  have hreplies : replies = repliesTo server.rig taken := by
    simp only [replies, hserve, taken, lines]
  refine ⟨lined_allLines _, by rw [hserve]; rfl, ?_, ?_, hasClosed_receiveAll hrunning hnew pieces, ?_⟩
  · rw [hreplies, length_repliesTo]
  · intro k line hline before after
    have hafter : after = (answer before line).1 := answered_take_succ server.rig hline
    have hreply : replies[k]? = some (answer before line).2 := by
      rw [hreplies, getElem?_repliesTo, hline]
      rfl
    constructor
    · intro message hmessage
      rw [hafter, hreply, answer_message hmessage]
      exact ⟨rfl, rfl⟩
    · intro fault hfault
      rw [hafter, hreply, answer_fault hfault]
      exact ⟨rfl, rfl⟩
  · intro others hsame
    rw [hserve, hserve, hsame]

/-- A message cut inside a word, an empty line, a line cut inside a character, and a message after
bytes that are no text: three replies, and the connection is closed. -/
theorem line_by_line_cut :
    let server : Server := ⟨"control.sock", some ⟨"control.sock", 0, ["work", "control.lock"]⟩,
      .new .standard (.recorders []) ⟨[], .new []⟩, []⟩
    let pieces := [bytesOf "\x7b\"id\":\"a\",\"comm", bytesOf "and\":\"Attach\"\x7d\n\n" ++ [0xC3],
      [0xA9, newline, 0xFF, newline], bytesOf "\x7b\"id\":\"b\",\"command\":\"Ping\"\x7d\n"]
    server.claim.isSome ∧ server.connection 0 = .opened ∧ (server.serve 0 pieces).2.length = 3
      ∧ (server.receiveAll 0 pieces).1.hasClosed 0 = true := by
  intro server pieces
  have hrunning : server.claim.isSome := rfl
  have hnew : server.connection 0 = .opened := rfl
  obtain ⟨-, -, hlength, -, hclosed, -⟩ := line_by_line hrunning hnew pieces
  refine ⟨hrunning, hnew, hlength.trans (by decide +kernel), hclosed.mpr ?_⟩
  exact ⟨[0xFF, newline], by decide +kernel, by decide +kernel⟩

end Server

end VirtualTouchpad.Service
