/-
# Conversations

A client makes call after call over one connection, while bytes arrive and the stream
may end at any time.  The lines of the stream are taken in order, at most one by each
call, and only a reply with the identity of the call decides what the call gives
(`own_replies_only`).  So a line that was there before a call was made never does, as
long as nobody knows identities before they are used.

What carries this from one call to the next is the unread rest: its finished lines are
finished lines of the stream so far (`exists_past`).
-/
import VirtualTouchpad.Control.Client
import VirtualTouchpad.Proofs.Control.Lines

namespace VirtualTouchpad.Control

open Json (Bytes)

/-! ## Calls over one connection -/

/-- What happens at the client's end of a connection. -/
inductive ClientEvent where
  /-- Bytes arrive between two calls, and the stream may end after them. -/
  | arrival (bytes : Bytes) (ends : Bool)
  /-- A call is made.  Bytes arrive until it returns, and the stream may end after them. -/
  | call (id : String) (command : Command) (bytes : Bytes) (ends : Bool)
  deriving DecidableEq, Repr

namespace ClientEvent

/-- The bytes that arrive. -/
def bytes : ClientEvent → Bytes
  | .arrival bytes _ | .call _ _ bytes _ => bytes

/-- Whether the stream ends. -/
def ends : ClientEvent → Bool
  | .arrival _ ends | .call _ _ _ ends => ends

/-- The identity of the message that is sent. -/
def id? : ClientEvent → Option String
  | .arrival .. => none
  | .call id .. => some id

end ClientEvent

/-- All that arrives until the stream ends. -/
def arrivals : List ClientEvent → Bytes
  | [] => []
  | event :: events => event.bytes ++ if event.ends then [] else arrivals events

/-- The identities that are used, in order. -/
def issued (events : List ClientEvent) : List String := events.filterMap ClientEvent.id?

/-- One call that returned. -/
structure Turn where
  id : String
  command : Command
  /-- The client when the call was made. -/
  before : Client
  /-- What arrived until it returned. -/
  arriving : Bytes
  after : Client
  result : CallResult

namespace Turn

/-- What the call could read: after the end of the stream nothing arrives. -/
def there (turn : Turn) : Bytes :=
  turn.before.unread ++ if turn.before.ended then [] else turn.arriving

/-- What the call took of that: all but what it left. -/
def taken (turn : Turn) : Bytes :=
  turn.there.take (turn.there.length - turn.after.unread.length)

/-- Whether the call ended in success or with an error of the service. -/
def IsSettled (turn : Turn) : Prop :=
  (∃ text, turn.result = .ok text) ∨ ∃ kind message, turn.result = .error (.refused kind message)

end Turn

namespace Client

/-- Whether a call has nothing to return with: no line, and no end of the stream. -/
def Waits (client : Client) : Prop := newline ∉ client.unread ∧ client.ended = false

instance (client : Client) : Decidable client.Waits :=
  inferInstanceAs (Decidable (_ ∧ _))

/-- A call and what came of it. -/
def turn (client : Client) (id : String) (command : Command) (bytes : Bytes) (ends : Bool) : Turn :=
  let returned := client.call id command bytes ends
  ⟨id, command, client, bytes, returned.1, returned.2⟩

/-- The calls that return.  One that waits for ever is the last one. -/
def converse (client : Client) : List ClientEvent → List Turn
  | [] => []
  | .arrival bytes ends :: events => (client.arrive bytes ends).converse events
  | .call id command bytes ends :: events =>
    if (client.arrive bytes ends).Waits then []
    else
      client.turn id command bytes ends ::
        (client.turn id command bytes ends).after.converse events

end Client

/-! ## One call -/

namespace Client

variable {client : Client} {id : String} {command : Command} {bytes : Bytes} {ends : Bool}

/-- After the end of the stream nothing is sent and nothing is read. -/
theorem turn_of_ended (h : client.ended = true) :
    client.turn id command bytes ends
      = ⟨id, command, client, bytes, client, .error (.unsent (.os Errno.brokenPipe))⟩ := by
  simp only [turn, call, h, if_true]

/-- A call takes the first line that there is. -/
theorem turn_of_line {body rest : Bytes} (hended : client.ended = false)
    (hbody : newline ∉ body) (hthere : client.unread ++ bytes = body ++ newline :: rest) :
    client.turn id command bytes ends
      = ⟨id, command, client, bytes, ⟨rest, ends⟩,
          (readReply id (body ++ [newline])).bind command.result⟩ := by
  have hline := firstLine_line hbody rest
  obtain ⟨b, tail, hcons⟩ : ∃ b tail, body ++ [newline] = b :: tail :=
    List.exists_cons_of_ne_nil (by simp)
  rw [hcons] at hline ⊢
  simp [turn, call, arrive, awaitReply, hended, hthere, hline]

/-- Without a newline a call takes all that there is. -/
theorem turn_of_rest (hended : client.ended = false) (hrest : newline ∉ client.unread ++ bytes) :
    client.turn id command bytes ends
      = ⟨id, command, client, bytes, ⟨[], ends⟩,
          if client.unread ++ bytes = [] then .error .disconnected
          else (readReply id (client.unread ++ bytes)).bind command.result⟩ := by
  have hline := firstLine_of_not_mem hrest
  cases hthere : client.unread ++ bytes with
  | nil =>
    rw [hthere] at hline
    simp only [turn, call, arrive, awaitReply, hended, hthere, hline, Bool.false_or,
      Bool.false_eq_true, if_false, if_true]
    rfl
  | cons b tail =>
    rw [hthere] at hline
    simp [turn, call, arrive, awaitReply, hended, hthere, hline]

end Client

/-- How a call takes what it takes. -/
inductive Turn.Course (turn : Turn) : Prop
  /-- After the end of the stream there is nothing to take. -/
  | ended (hended : turn.before.ended = true) (hafter : turn.after = turn.before)
      (hresult : turn.result = .error (.unsent (.os Errno.brokenPipe)))
  /-- The first line. -/
  | line {body : Bytes} (hended : turn.before.ended = false) (hbody : newline ∉ body)
      (hthere : turn.there = body ++ newline :: turn.after.unread)
      (hresult : turn.result
        = (Client.readReply turn.id (body ++ [newline])).bind turn.command.result)
  /-- What is left at the end of the stream. -/
  | rest (hended : turn.before.ended = false) (hbody : newline ∉ turn.there)
      (hafter : turn.after = ⟨[], true⟩)
      (hresult : turn.result = if turn.there = [] then .error .disconnected
        else (Client.readReply turn.id turn.there).bind turn.command.result)

/-- A call that returns takes one of these courses. -/
theorem Client.course {client : Client} {bytes : Bytes} {ends : Bool}
    (h : ¬ (client.arrive bytes ends).Waits) (id : String) (command : Command) :
    (client.turn id command bytes ends).Course ∧
      (client.turn id command bytes ends).after.ended = (client.ended || ends) := by
  cases hended : client.ended with
  | true =>
    rw [turn_of_ended hended]
    exact ⟨.ended hended rfl rfl, hended⟩
  | false =>
    by_cases hmem : newline ∈ client.unread ++ bytes
    · obtain ⟨body, rest, hthere, hbody⟩ := List.eq_append_cons_of_mem hmem
      rw [turn_of_line hended hbody hthere]
      exact ⟨.line hended hbody (by simpa [Turn.there, hended] using hthere) rfl, rfl⟩
    · obtain rfl : ends = true := by
        rw [Waits, not_and] at h
        simpa [arrive, hended] using h hmem
      rw [turn_of_rest hended hmem]
      refine ⟨.rest hended ?_ rfl ?_, rfl⟩ <;> simp [Turn.there, hended, hmem]

namespace Turn.Course

variable {turn : Turn}

/-- Nothing is lost: what a call does not take it leaves. -/
theorem there_eq (h : turn.Course) : turn.there = turn.taken ++ turn.after.unread := by
  have hsuffix : turn.after.unread <:+ turn.there := by
    cases h with
    | ended hended hafter => simp [there, hended, hafter]
    | @line body _ _ hthere =>
      exact ⟨body ++ [newline], by simp [hthere]⟩
    | rest _ _ hafter => simp [hafter]
  obtain ⟨start, hstart⟩ := hsuffix
  simp [taken, ← hstart]

theorem taken_of_ended (h : turn.Course) (hended : turn.before.ended = true) :
    turn.taken = [] := by
  cases h with
  | ended _ hafter => simp [taken, there, hended, hafter]
  | line hopen => simp [hended] at hopen
  | rest hopen => simp [hended] at hopen

theorem taken_of_line {body : Bytes} (hthere : turn.there = body ++ newline :: turn.after.unread) :
    turn.taken = body ++ [newline] := by
  have hline : turn.there = (body ++ [newline]) ++ turn.after.unread := by simp [hthere]
  rw [taken, hline, List.length_append, Nat.add_sub_cancel, List.take_left]

theorem taken_of_rest (hafter : turn.after.unread = []) : turn.taken = turn.there := by
  simp [taken, hafter]

end Turn.Course

/-- A line that is taken as the answer to a message is a reply with its identity. -/
theorem Client.reply_of_readReply {id : String} {line : Bytes} {answer : Answer}
    (h : readReply id line = .ok answer) :
    (textOf? line).isSome ∧ Reply.parse line = .ok ⟨id, answer⟩ := by
  rw [readReply] at h
  split at h
  · cases h
  · next text htext =>
    refine ⟨by simp [htext], ?_⟩
    split at h
    · cases h
    · next reply hreply =>
      split at h
      · next hid =>
        cases h
        rw [hreply, ← hid]
      · cases h

/-- The refusal of a line is no refusal of the service. -/
theorem Client.ne_refused_of_readReply {id : String} {line : Bytes} {failure : CallFailure}
    (h : readReply id line = .error failure) (kind : FailureKind) (message : String) :
    failure ≠ .refused kind message := by
  rintro rfl
  rw [readReply] at h
  split at h
  · cases h
  · split at h
    · cases h
    · split at h <;> cases h

/-- What a reply has to be that decides what a call gives. -/
structure Turn.DecidedBy (turn : Turn) (answer : Answer) : Prop where
  text : (textOf? turn.taken).isSome
  own : Reply.parse turn.taken = .ok ⟨turn.id, answer⟩
  result : turn.result = turn.command.result answer

/-- Only a reply with the identity of the call settles it. -/
theorem Turn.Course.decided {turn : Turn} (h : turn.Course) (hsettled : turn.IsSettled) :
    ∃ answer, turn.DecidedBy answer := by
  -- A call that read a line is settled by the answer in it, if it is settled.
  have hread : ∀ line, turn.taken = line →
      turn.result = (Client.readReply turn.id line).bind turn.command.result →
      ∃ answer, turn.DecidedBy answer := by
    rintro _ rfl hresult
    cases hline : Client.readReply turn.id turn.taken with
    | ok answer =>
      obtain ⟨htext, hown⟩ := Client.reply_of_readReply hline
      rw [hline] at hresult
      exact ⟨answer, htext, hown, hresult⟩
    | error failure =>
      rw [hline] at hresult
      rcases hsettled with ⟨text, hok⟩ | ⟨kind, message, hrefused⟩
      · rw [hresult] at hok
        cases hok
      · rw [hresult] at hrefused
        cases hrefused
        exact absurd rfl (Client.ne_refused_of_readReply hline kind message)
  cases h with
  | ended _ _ hresult => rcases hsettled with ⟨_, h⟩ | ⟨_, _, h⟩ <;> simp [hresult] at h
  | line _ _ hthere hresult => exact hread _ (taken_of_line hthere) hresult
  | rest _ _ hafter hresult =>
    split at hresult
    · rcases hsettled with ⟨_, h⟩ | ⟨_, _, h⟩ <;> simp [hresult] at h
    · exact hread _ (taken_of_rest (by rw [hafter])) hresult

/-! ## Conversations -/

namespace Client

/-- Each turn of a conversation is a call that returned. -/
theorem course_of_mem {client : Client} {events : List ClientEvent} {turn : Turn}
    (h : turn ∈ client.converse events) :
    turn.Course ∧ (client.ended = true → turn.before.ended = true) := by
  induction events generalizing client with
  | nil => cases h
  | cons event events ih =>
    cases event with
    | arrival bytes ends =>
      obtain ⟨hcourse, hended⟩ := ih h
      exact ⟨hcourse, fun hclient => hended (by simp [arrive, hclient])⟩
    | call id command bytes ends =>
      rw [converse] at h
      split at h
      · cases h
      · next hreturns =>
        obtain ⟨hcourse, hafter⟩ := course hreturns id command
        rcases List.mem_cons.1 h with rfl | hlater
        · exact ⟨hcourse, fun hclient => hclient⟩
        · obtain ⟨hcourse', hended⟩ := ih hlater
          exact ⟨hcourse', fun hclient => hended (by rw [hafter, hclient, Bool.true_or])⟩

/-- After the end of the stream no call takes anything. -/
theorem taken_of_ended {client : Client} (h : client.ended = true) (events : List ClientEvent) :
    ((client.converse events).map Turn.taken).filter (· ≠ []) = [] := by
  rw [List.filter_eq_nil_iff]
  intro taken hmem
  obtain ⟨turn, hturn, rfl⟩ := List.mem_map.1 hmem
  obtain ⟨hcourse, hended⟩ := course_of_mem hturn
  simp [hcourse.taken_of_ended (hended h)]

/-- The calls take the first lines of what is unread and of what arrives. -/
theorem taken_isPrefix {client : Client} (h : client.ended = false) (events : List ClientEvent) :
    ((client.converse events).map Turn.taken).filter (· ≠ [])
      <+: allLines (client.unread ++ arrivals events) := by
  induction events generalizing client with
  | nil => simp [converse]
  | cons event events ih =>
    -- What the later calls take, when the stream ends with this event and when it does not.
    have hlater : ∀ (after : Client) (ends : Bool), after.ended = ends →
        ((after.converse events).map Turn.taken).filter (· ≠ [])
          <+: allLines (after.unread ++ if ends then [] else arrivals events) := by
      intro after ends hended
      cases ends with
      | true =>
        rw [taken_of_ended hended]
        exact List.nil_prefix
      | false => exact ih hended
    cases event with
    | arrival bytes ends =>
      rw [converse, arrivals, ← List.append_assoc]
      exact hlater (client.arrive bytes ends) ends (by simp [arrive, h])
    | call id command bytes ends =>
      rw [converse]
      split
      · exact List.nil_prefix
      · next hreturns =>
        obtain ⟨hcourse, hended⟩ := course hreturns id command
        rw [arrivals, ← List.append_assoc, List.map_cons, ClientEvent.bytes, ClientEvent.ends]
        have hthere : (client.turn id command bytes ends).there = client.unread ++ bytes := by
          simp [Turn.there, turn, h]
        cases hcourse with
        | ended hbegan => cases h.symm.trans hbegan
        | @line body _ hbody hline =>
          rw [Turn.Course.taken_of_line hline, ← hthere, hline, List.append_assoc,
            List.cons_append, allLines_line hbody, List.filter_cons_of_pos (by simp)]
          exact (List.prefix_cons_inj _).2 (hlater _ ends (by rw [hended, h, Bool.false_or]))
        | rest _ hbody hafter =>
          obtain rfl : ends = true := by simpa [hafter, h] using hended.symm
          rw [hafter, Turn.Course.taken_of_rest (by rw [hafter]), hthere]
          rw [hthere] at hbody
          rw [if_pos rfl, List.append_nil, allLines_of_not_mem hbody, List.filter_cons,
            taken_of_ended rfl]
          by_cases hnone : client.unread ++ bytes = [] <;> simp [hnone]

/-- What is unread when a call is made are the last finished lines that arrived before. -/
theorem exists_past {client : Client} {events : List ClientEvent} {turn : Turn}
    (h : turn ∈ client.converse events) :
    ∃ past bytes ends future, events = past ++ .call turn.id turn.command bytes ends :: future ∧
      (turn.before.ended = false → ∀ line ∈ (splitLines turn.before.unread).1,
        line ∈ (splitLines (client.unread ++ arrivals past)).1) := by
  induction events generalizing client with
  | nil => cases h
  | cons event events ih =>
    cases event with
    | arrival bytes ends =>
      obtain ⟨past, later, closes, future, rfl, hlines⟩ := ih h
      refine ⟨.arrival bytes ends :: past, later, closes, future, rfl, fun hopen line hline => ?_⟩
      have harrived := hlines hopen line hline
      cases ends with
      | true =>
        have hlater : turn ∈ (client.arrive bytes true).converse _ := h
        have hended := (course_of_mem hlater).2 (by simp [arrive])
        rw [hopen] at hended
        cases hended
      | false => simpa [arrivals, arrive, ClientEvent.bytes, ClientEvent.ends] using harrived
    | call id command bytes ends =>
      rw [converse] at h
      split at h
      · cases h
      · next hreturns =>
        obtain ⟨hcourse, hafter⟩ := course hreturns id command
        rcases List.mem_cons.1 h with rfl | hlater
        · refine ⟨[], bytes, ends, events, rfl, fun _ line hline => ?_⟩
          rw [arrivals, List.append_nil]
          exact hline
        · obtain ⟨past, later, closes, future, rfl, hlines⟩ := ih hlater
          refine ⟨.call id command bytes ends :: past, later, closes, future, rfl,
            fun hopen line hline => ?_⟩
          have hrest := hlines hopen line hline
          -- The stream did not end with this call, so the call took a whole line.
          have hon : client.ended = false ∧ ends = false := by
            rw [← Bool.or_eq_false_iff, ← hafter, Bool.eq_false_iff]
            intro hended
            rw [(course_of_mem hlater).2 hended] at hopen
            cases hopen
          obtain ⟨hclient, rfl⟩ := hon
          have hthere : (client.turn id command bytes false).there = client.unread ++ bytes := by
            simp [Turn.there, Client.turn, hclient]
          cases hcourse with
          | ended hbegan => cases hclient.symm.trans hbegan
          | @line body _ hbody hline =>
            have hstream : client.unread ++ arrivals (.call id command bytes false :: past)
                = body ++ newline ::
                  ((client.turn id command bytes false).after.unread ++ arrivals past) := by
              rw [arrivals, ← List.append_assoc]
              show client.unread ++ bytes ++ arrivals past = _
              rw [← hthere, hline, List.append_assoc, List.cons_append]
            rw [hstream, splitLines_line hbody]
            exact List.mem_cons_of_mem _ hrest
          | rest _ _ hnone =>
            rw [hnone, hclient] at hafter
            cases hafter

end Client

/-! ## Own replies -/

/-- Nobody knows an identity before it is used: a line that has arrived when some calls are made
carries the identity of a later one only if one of those had it too. -/
def Unforeseen (events : List ClientEvent) : Prop :=
  ∀ past future, events = past ++ future → ∀ line ∈ (splitLines (arrivals past)).1,
    ∀ reply, Reply.parse line = .ok reply → reply.id ∈ issued future → reply.id ∈ issued past

/-- Each call has its own reply or none. -/
structure OwnReplies (events : List ClientEvent) : Prop where
  /-- Nothing is lost: what a call does not take it leaves for the next. -/
  kept : ∀ turn ∈ Client.connected.converse events, turn.there = turn.taken ++ turn.after.unread
  /-- The calls take the lines of the stream in order, each one line or nothing. -/
  ordered : ((Client.connected.converse events).map Turn.taken).filter (· ≠ [])
    <+: allLines (arrivals events)
  /-- A call is settled only by a reply with its own identity, as the answer says. -/
  own : ∀ turn ∈ Client.connected.converse events, turn.IsSettled →
    ∃ answer, turn.DecidedBy answer
  /-- A call that finds a line there from before fails. -/
  surplus : ∀ turn ∈ Client.connected.converse events, newline ∈ turn.before.unread →
    ¬ turn.IsSettled

/-- The line that a call takes if one is there already. -/
theorem Turn.Course.taken_mem {turn : Turn} (h : turn.Course) (hended : turn.before.ended = false)
    (hmem : newline ∈ turn.before.unread) : turn.taken ∈ (splitLines turn.before.unread).1 := by
  obtain ⟨body, rest, hunread, hbody⟩ := List.eq_append_cons_of_mem hmem
  have hthere : turn.there = body ++ newline :: (rest ++ turn.arriving) := by
    simp [there, hended, hunread]
  have htaken : turn.taken = body ++ [newline] := by
    cases h with
    | ended hbegan => simp [hended] at hbegan
    | rest _ hnone => simp [hthere] at hnone
    | @line start _ hstart hline =>
      have hfirst := firstLine_line hbody (rest ++ turn.arriving)
      rw [← hthere, hline, firstLine_line hstart] at hfirst
      rw [taken_of_line hline, (Prod.mk.inj hfirst).1]
  rw [htaken, hunread, splitLines_line hbody]
  exact List.mem_cons_self

/-- **Own replies only**, whatever the other side sends and whenever it ends the stream. -/
theorem own_replies_only {events : List ClientEvent} (hdistinct : (issued events).Nodup)
    (hunforeseen : Unforeseen events) : OwnReplies events where
  kept := fun _ hturn => (Client.course_of_mem hturn).1.there_eq
  ordered := Client.taken_isPrefix rfl events
  own := fun _ hturn => (Client.course_of_mem hturn).1.decided
  surplus := by
    intro turn hturn hmem hsettled
    obtain ⟨hcourse, -⟩ := Client.course_of_mem hturn
    obtain ⟨answer, -, hown, -⟩ := hcourse.decided hsettled
    obtain ⟨past, bytes, ends, future, hevents, hlines⟩ := Client.exists_past hturn
    have hopen : turn.before.ended = false := by
      cases hended : turn.before.ended with
      | false => rfl
      | true =>
        rw [hcourse.taken_of_ended hended] at hown
        cases hown
    -- The line had arrived by then, so an earlier call used the identity that it carries.
    have harrived := hlines hopen _ (hcourse.taken_mem hopen hmem)
    have hissued : turn.id ∈ issued past :=
      hunforeseen past _ hevents turn.taken harrived _ hown (by simp [issued, ClientEvent.id?])
    rw [hevents, issued, List.filterMap_append, ← issued, List.nodup_append] at hdistinct
    exact hdistinct.2.2 _ hissued turn.id (by simp [ClientEvent.id?]) rfl

/-- The line that answers a ping. -/
def pongLine (id : String) : Bytes := (⟨id, .pong⟩ : Reply).write ++ [newline]

/-- A call that is answered twice, and the next one, which finds the surplus answer. -/
def answeredTwice : List ClientEvent :=
  [.call "A" .ping (pongLine "A" ++ pongLine "A") false, .call "B" .ping [] false]

theorem own_replies_only_surplus :
    (issued answeredTwice).Nodup ∧ Unforeseen answeredTwice ∧ OwnReplies answeredTwice ∧
      (Client.connected.converse answeredTwice).map Turn.result
        = [.ok "", .error (.foreign "B" "A")] := by
  have hdistinct : (issued answeredTwice).Nodup := by decide
  have hunforeseen : Unforeseen answeredTwice := by
    intro past future hevents line hline reply hreply hid
    cases past with
    | nil => cases hline
    | cons first past =>
      obtain ⟨rfl, hrest⟩ := List.cons.inj hevents
      cases past with
      | nil =>
        -- Both lines that are there when the second call is made carry the first identity.
        have hlines : (splitLines (arrivals [.call "A" .ping (pongLine "A" ++ pongLine "A") false])).1
            = [pongLine "A", pongLine "A"] := by decide +kernel
        rw [hlines] at hline
        have hparse : Reply.parse (pongLine "A") = .ok ⟨"A", .pong⟩ := rfl
        obtain rfl : line = pongLine "A" := by simpa using hline
        rw [hparse] at hreply
        cases hreply
        exact List.mem_cons_self
      | cons second past =>
        obtain ⟨rfl, hnone⟩ := List.cons.inj hrest
        obtain ⟨-, rfl⟩ := List.append_eq_nil_iff.1 hnone.symm
        cases hid
  exact ⟨hdistinct, hunforeseen, own_replies_only hdistinct hunforeseen, rfl⟩

end VirtualTouchpad.Control
