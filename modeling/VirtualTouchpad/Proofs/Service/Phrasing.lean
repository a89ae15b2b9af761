/-
# Requests in any layout

What a server does with a request does not depend on how the request is spelled: whatever
text spells a message, sent as a line, has the message carried out and answered, and a text
that gives a known member twice is refused (`answers_any_layout`).  A newline among the
blanks ends the line, though, and what is sent are then two lines (`cut_at_newline`).
-/
import VirtualTouchpad.Proofs.Control.Phrasing
import VirtualTouchpad.Proofs.Service.Remote

namespace VirtualTouchpad.Service

open Control
open Json

section Lines

variable {server : Server} {number : ClientId} {text : String}

theorem blank_newline : Blank [newline] := by decide

theorem isText_line (text : String) : isText (bytesOf text ++ [newline]) = true := by
  have hline : bytesOf text ++ [newline] = bytesOf (text ++ "\n") := by
    rw [bytesOf_append]
    rfl
  rw [isText, hline, textOf?_bytesOf]
  rfl

/-- A line that spells a message has it carried out and answered. -/
theorem receive_of_spellsMessage {message : Message} (h : Ready server number)
    (hline : newline ∉ bytesOf text) (hspells : SpellsMessage message (bytesOf text)) :
    let received := server.receive number (bytesOf text ++ [newline])
    let done := perform server.rig message.command
    Ready received.1 number ∧ received.1.rig = done.1 ∧ received.2 = [⟨message.id, done.2⟩] := by
  have hparse := parse_of_spells (hspells.append_blank blank_newline)
  have hreceived := receive_text h hline (isText_line text)
  rwa [answer_message hparse] at hreceived

/-- A line that gives a member twice is refused. -/
theorem receive_of_spellsRepetition (h : Ready server number) (hline : newline ∉ bytesOf text)
    (hspells : SpellsRepetition (bytesOf text)) :
    let received := server.receive number (bytesOf text ++ [newline])
    Ready received.1 number ∧ received.1.rig = server.rig
      ∧ ∃ fault, received.2 = [rejection (bytesOf text ++ [newline]) fault] := by
  obtain ⟨fault, hfault⟩ := parse_of_spellsRepetition (hspells.append_blank blank_newline)
  have hreceived := receive_text h hline (isText_line text)
  rw [answer_fault hfault] at hreceived
  obtain ⟨hready, hrig, hreplies⟩ := hreceived
  exact ⟨hready, hrig, fault, hreplies⟩

end Lines

/-- **Requests are read independently of their layout.**  Each text that spells a message is read as
exactly that message; and a running server that is sent the text as a line, which it is if there is
no newline in it, carries out just that message and answers it.  A text that gives a known member
twice is not read, and a server refuses its line and changes nothing. -/
theorem answers_any_layout :
    (∀ (message : Message) (text : String), SpellsMessage message (bytesOf text) →
      Message.parse (bytesOf text) = .ok message
        ∧ ∀ (server : Server) (number : ClientId), Ready server number → newline ∉ bytesOf text →
          let received := server.receive number (bytesOf text ++ [newline])
          let done := perform server.rig message.command
          Ready received.1 number ∧ received.1.rig = done.1 ∧ received.2 = [⟨message.id, done.2⟩])
    ∧ ∀ text : String, SpellsRepetition (bytesOf text) →
      (∃ fault, Message.parse (bytesOf text) = .error fault)
        ∧ ∀ (server : Server) (number : ClientId), Ready server number → newline ∉ bytesOf text →
          let received := server.receive number (bytesOf text ++ [newline])
          Ready received.1 number ∧ received.1.rig = server.rig
            ∧ ∃ fault, received.2 = [rejection (bytesOf text ++ [newline]) fault] := by
  refine ⟨fun message text hspells => ⟨parse_of_spells hspells, fun server number h hline => ?_⟩,
    fun text hspells => ⟨parse_of_spellsRepetition hspells, fun server number h hline => ?_⟩⟩
  · exact receive_of_spellsMessage h hline hspells
  · exact receive_of_spellsRepetition h hline hspells

/-- The key of the identity, with an escape in it. -/
theorem spellsText_id : SpellsText "id" (bytesOf "\\u0069d") := by
  have hunit : SpellsUnit 'i'.toNat (bytesOf "0069") :=
    .digits (a := 0) (b := 0) (c := 6) (d := 9) (.inl rfl) (.inl rfl) (.inl rfl) (.inl rfl)
  have hi : SpellsText "i" (ascii '\\' :: ascii 'u' :: bytesOf "0069") := .cons (.unit hunit) .nil
  have hd : SpellsText "d" (bytesOf "d") := spellsText_self (by decide)
  exact hi.append hd

/-- A scroll by a half and a quarter, with an unknown argument and the members out of order. -/
theorem spellsMessage_scroll : SpellsMessage
    ⟨"a", .scroll 1 (.ofMagnitude .single false 0x3F000000) (.ofMagnitude .single false 0x3E800000)⟩
    (bytesOf "\x7b\"command\":\x7b\"Scroll\":\x7b\"y\":25e-2,\"t\":[null],\"x\":0.5,\"touchpad\":1\x7d\x7d,\"\\u0069d\":\"a\"\x7d") := by
  have hhalf : SpellsSingle (.ofMagnitude .single false 0x3F000000) (bytesOf "0.5") :=
    ⟨⟨⟨false, [0], [5], none⟩, ⟨by simp, by simp, by simp, by simp⟩, Numeral.spells_text _⟩,
      by decide +kernel⟩
  have hquarter : SpellsSingle (.ofMagnitude .single false 0x3E800000) (bytesOf "25e-2") :=
    ⟨⟨⟨false, [2, 5], [], some (true, [2])⟩, ⟨by simp, by simp, by simp, by simp⟩,
      Numeral.spells_text _⟩, by decide +kernel⟩
  have htouchpad : bytesOf "1" = writeNat (1 : UInt64).toNat := by decide +kernel
  have hunknown : Phrase .value (bytesOf "[null]") :=
    .list (.element ⟨[], bytesOf "null", [], by decide, by decide⟩ (.word (by decide)))
  have hid : SpellsQuoted "a" (bytesOf "\"a\"") := ⟨_, spellsText_self (by decide), by decide⟩
  let arguments : List NamedMember :=
    [.bare "y" (spellsText_self (by decide)) (bytesOf "25e-2"),
      .bare "t" (spellsText_self (by decide)) (bytesOf "[null]"),
      .bare "x" (spellsText_self (by decide)) (bytesOf "0.5"),
      .bare "touchpad" (spellsText_self (by decide)) (bytesOf "1")]
  let scroll : ObjectText := ⟨arguments.map NamedMember.toMemberText, [], by decide⟩
  let named : NamedMember := .bare "Scroll" (spellsText_self (by decide)) scroll.text
  let command : ObjectText := ⟨[named.toMemberText], [], by decide⟩
  let members : List NamedMember :=
    [.bare "command" (spellsText_self (by decide)) command.text,
      .bare "id" spellsText_id (bytesOf "\"a\"")]
  let object : ObjectText := ⟨members.map NamedMember.toMemberText, [], by decide⟩
  have hcommand : SpellsCommand (.scroll 1 (.ofMagnitude .single false 0x3F000000)
      (.ofMagnitude .single false 0x3E800000)) command.text := by
    have hknown : ("Scroll", [.touchpad, .x, .y]) ∈ Command.expected := by decide
    refine .record rfl hknown rfl named.spells_key ⟨scroll, arguments, rfl, rfl, ?_, ?_⟩
    · rw [Arguments.names_given]
      decide
    · simp [arguments, NamedMember.bare, Arguments.given, Arguments.Spells, Argument.name, hhalf,
        hquarter, hunknown, htouchpad]
  refine ⟨⟨[], object.text, [], by decide, by decide⟩, by decide +kernel, object, members, rfl, rfl,
    by decide, ?_⟩
  simp [members, NamedMember.bare, Message.given, hid, hcommand]

/-- An identity that is given twice, once with an escape in its key. -/
theorem spellsRepetition_id : SpellsRepetition
    (bytesOf "\x7b\"id\":\"a\",\"\\u0069d\":\"b\",\"command\":\"Ping\"\x7d") := by
  have htext : ∀ text ∈ ["a", "b", "Ping"], Phrase .value (inQuotes (bytesOf text)) := by
    intro text hmem
    refine .text (spellsText_self ?_).quotable
    revert text
    decide
  let first : NamedMember := .bare "id" (spellsText_self (by decide)) (inQuotes (bytesOf "a"))
  let second : NamedMember := .bare "id" spellsText_id (inQuotes (bytesOf "b"))
  let third : NamedMember :=
    .bare "command" (spellsText_self (by decide)) (inQuotes (bytesOf "Ping"))
  let object : ObjectText :=
    ⟨[first.toMemberText, second.toMemberText, third.toMemberText], [], by decide⟩
  have hobject : object.WellFormed :=
    List.forall_mem_cons.2 ⟨⟨first.spells_key.quotable, htext "a" (by simp)⟩,
      List.forall_mem_cons.2 ⟨⟨second.spells_key.quotable, htext "b" (by simp)⟩,
        List.forall_mem_singleton.2 ⟨third.spells_key.quotable, htext "Ping" (by simp)⟩⟩⟩
  have htwice : [first.toMemberText, second.toMemberText].Sublist object.members :=
    List.sublist_append_left _ [third.toMemberText]
  exact ⟨⟨[], object.text, [], by decide, by decide⟩, by decide +kernel, object, rfl, hobject,
    .inl ⟨"id", by decide, _, _, htwice, first.spells_key, second.spells_key⟩⟩

/-- The scroll is carried out, and the identity that is given twice is refused. -/
theorem answers_any_layout_scroll :
    let server : Server := ⟨"control.sock", some ⟨"control.sock", 0, ["work", "control.lock"]⟩,
      .new .standard (.recorders []) ⟨[], .new []⟩, []⟩
    let text := "\x7b\"command\":\x7b\"Scroll\":\x7b\"y\":25e-2,\"t\":[null],\"x\":0.5,\"touchpad\":1\x7d\x7d,\"\\u0069d\":\"a\"\x7d"
    let twice := "\x7b\"id\":\"a\",\"\\u0069d\":\"b\",\"command\":\"Ping\"\x7d"
    (∃ answer, (server.receive 0 (bytesOf text ++ [newline])).2 = [⟨"a", answer⟩])
      ∧ ∃ fault, (server.receive 0 (bytesOf twice ++ [newline])).2
          = [rejection (bytesOf twice ++ [newline]) fault] := by
  intro server text twice
  have hready : Ready server 0 := ⟨rfl, rfl⟩
  obtain ⟨hreads, hrefuses⟩ := answers_any_layout
  obtain ⟨-, hanswers⟩ := hreads _ text spellsMessage_scroll
  obtain ⟨-, hrefused⟩ := hrefuses twice spellsRepetition_id
  obtain ⟨-, -, hreplies⟩ := hanswers server 0 hready (by decide +kernel)
  exact ⟨⟨_, hreplies⟩, (hrefused server 0 hready (by decide +kernel)).2.2⟩

/-- **A newline ends a line**, also one among the blanks of a message: a server that is sent the
text of a ping in two lines answers each of them, and neither as a ping. -/
theorem cut_at_newline :
    let server : Server := ⟨"control.sock", some ⟨"control.sock", 0, ["work", "control.lock"]⟩,
      .new .standard (.recorders []) ⟨[], .new []⟩, []⟩
    let text := "\x7b\"id\":\"a\",\n\"command\":\"Ping\"\x7d"
    let replies := (server.receive 0 (bytesOf text ++ [newline])).2
    SpellsMessage ⟨"a", .ping⟩ (bytesOf text) ∧ Ready server 0 ∧ replies.length = 2
      ∧ ∀ reply ∈ replies, reply.answer ≠ .pong := by
  intro server text replies
  have hid : SpellsQuoted "a" (bytesOf "\"a\"") := ⟨_, spellsText_self (by decide), by decide⟩
  have hping : SpellsCommand .ping (bytesOf "\"Ping\"") := by
    have hknown : ("Ping", .ping) ∈ Command.words := by decide
    exact .name hknown ⟨_, spellsText_self (by decide), by decide⟩
  let members : List NamedMember :=
    [.bare "id" (spellsText_self (by decide)) (bytesOf "\"a\""),
      { NamedMember.bare "command" (spellsText_self (by decide)) (bytesOf "\"Ping\"") with
        before := [newline]
        blank_before := by decide }]
  let object : ObjectText := ⟨members.map NamedMember.toMemberText, [], by decide⟩
  have hspells : SpellsMessage ⟨"a", .ping⟩ (bytesOf text) := by
    refine ⟨⟨[], object.text, [], by decide, by decide⟩, by decide +kernel, object, members, rfl,
      rfl, by decide, ?_⟩
    simp [members, NamedMember.bare, Message.given, hid, hping]
  exact ⟨hspells, ⟨rfl, rfl⟩, by decide +kernel, by decide +kernel⟩

end VirtualTouchpad.Service
