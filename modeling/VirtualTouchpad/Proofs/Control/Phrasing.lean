/-
# Messages in any layout

What a message may look like on the wire (`SpellsMessage`): an object with its identity and
its command, in any order and with any blanks, texts and keys in any spelling, and anything
else among its members, the command's arguments alike.  Each such text is read as the message
(`parse_of_spells`).

Each record only tells what it remembers of the members that it has seen; the reading itself
is in `takes_record_of_spells`.
-/
import VirtualTouchpad.Proofs.Control.Fields
import VirtualTouchpad.Proofs.Json.Repetitions
import VirtualTouchpad.Proofs.Json.Spellings

namespace VirtualTouchpad.Control

open Json

/-! ## Arguments -/

/-- The texts of a float: numbers that are read as it. -/
def SpellsSingle (x : Single) (text : Bytes) : Prop :=
  (∃ n : Numeral, n.WellFormed ∧ n.Spells text) ∧ readAll readSingle text = .ok x

/-- A float is taken from each of its texts. -/
theorem takes_single {x : Single} {text : Bytes} (h : SpellsSingle x text) :
    Takes readSingle text x := by
  obtain ⟨⟨n, hwell, hspells⟩, hread⟩ := h
  have hscan := scanNumeral_of_spells (.ended .value) hwell hspells endsNumber_nil
  rw [List.append_nil] at hscan
  cases hvalue : n.value with
  | ok number =>
    have htakes : Takes readSingle text number.single := takes_of_spells hwell hspells hvalue rfl
    have hsame : readAll readSingle (text ++ []) = .ok number.single := readAll_of_takes htakes rfl
    rw [List.append_nil, hread] at hsame
    cases hsame
    exact htakes
  | error fault =>
    obtain ⟨b, tail, rfl, hstart, hblank⟩ := exists_start_of_spells hwell hspells
    simp [readAll, readSingle, readNumeric, hblank, hstart, readNumber, hscan, hvalue, bind,
      Except.bind] at hread

namespace Arguments

theorem fieldsIgnoreBlanks (expected : List Argument) :
    FieldsIgnoreBlanks (expected.map Argument.field) := by
  refine List.forall_mem_map.2 fun argument _ draft => ?_
  cases argument <;> simp only [Argument.field]
  case touchpad => exact ignoresBlanks_keep ignoresBlanks_readUInt64 draft
  case x | y | pressure => exact ignoresBlanks_keep ignoresBlanks_readSingle draft
  case mask => exact ignoresBlanks_keep ignoresBlanks_readUInt32 draft

/-- The texts of an argument's value. -/
def Spells (arguments : Arguments) : Argument → Bytes → Prop
  | .touchpad, text => ∃ touchpad ∈ arguments.touchpad, text = writeNat touchpad.toNat
  | .x, text => ∃ x ∈ arguments.x, SpellsSingle x text
  | .y, text => ∃ y ∈ arguments.y, SpellsSingle y text
  | .pressure, text => ∃ pressure ∈ arguments.pressure, SpellsSingle pressure text
  | .mask, text => ∃ mask ∈ arguments.mask, text = writeNat mask.toNat

/-- The arguments that were seen. -/
def seenOf (arguments : Arguments) (seen : List String) : Arguments where
  touchpad := ifSeen Argument.touchpad.name seen arguments.touchpad
  x := ifSeen Argument.x.name seen arguments.x
  y := ifSeen Argument.y.name seen arguments.y
  pressure := ifSeen Argument.pressure.name seen arguments.pressure
  mask := ifSeen Argument.mask.name seen arguments.mask

section Fields

variable {arguments : Arguments} {argument : Argument} {text : Bytes}

theorem taken_field {seen : List String} (h : argument.name ∉ seen) :
    argument.field.taken (arguments.seenOf seen) = false := by
  cases argument <;> exact congrArg Option.isSome (ifSeen_of_notMem h)

/-- The field of an argument adds it to what was seen. -/
theorem takes_field (h : arguments.Spells argument text) (seen : List String) :
    Takes (argument.field.read (arguments.seenOf seen)) text
      (arguments.seenOf (argument.name :: seen)) := by
  have hstored : ∀ {α : Type} {value : α} {found : Option α}, value ∈ found → some value = found :=
    fun hmem => (Option.mem_def.1 hmem).symm
  cases argument with
  | touchpad =>
    obtain ⟨touchpad, hsome, rfl⟩ := h
    simp only [Argument.field, touchpadField]
    refine takes_keep_of_eq (takes_uint64 touchpad) ?_
    simp [seenOf, ifSeen_cons_self, ifSeen_cons_of_ne, hstored hsome, Argument.name]
  | mask =>
    obtain ⟨mask, hsome, rfl⟩ := h
    simp only [Argument.field, maskField]
    refine takes_keep_of_eq (takes_uint32 mask) ?_
    simp [seenOf, ifSeen_cons_self, ifSeen_cons_of_ne, hstored hsome, Argument.name]
  | x | y | pressure =>
    obtain ⟨x, hsome, hspells⟩ := h
    simp only [Argument.field, xField, yField, pressureField]
    refine takes_keep_of_eq (takes_single hspells) ?_
    simp [seenOf, ifSeen_cons_self, ifSeen_cons_of_ne, hstored hsome, Argument.name]

end Fields

/-- The arguments that a command is given, with the texts of their values. -/
def given (arguments : Arguments) (expected : List Argument) : List (String × (Bytes → Prop)) :=
  expected.map fun argument => (argument.name, arguments.Spells argument)

theorem names_given (arguments : Arguments) (expected : List Argument) :
    (arguments.given expected).map Prod.fst = expected.map Argument.name := by
  simp [given]

/-- All that the reader of some arguments remembers is which it has seen. -/
theorem collects {shape : RecordShape Arguments Command} {expected : List Argument}
    {arguments : Arguments} {command : Command} (hfields : shape.fields = expected.map Argument.field)
    (hblank : shape.blank = {}) (hfinish : shape.finish arguments = .ok command)
    (hall : ∀ seen, (∀ argument ∈ expected, argument.name ∈ seen) → arguments.seenOf seen = arguments) :
    Collects shape (expected.map Argument.name) (arguments.given expected) arguments.seenOf
      command where
  known := by
    rw [hfields, List.map_map]
    exact List.map_congr_left fun argument _ => argument.name_field
  ignoresBlanks := hfields ▸ fieldsIgnoreBlanks expected
  start := by
    rw [hblank]
    simp [seenOf, ifSeen]
  step := by
    intro seen pair hpair hfresh text htext
    obtain ⟨argument, hargument, rfl⟩ := List.mem_map.1 hpair
    rw [hfields]
    exact ⟨argument.field, Argument.find?_field hargument, taken_field hfresh, takes_field htext seen⟩
  finish := by
    intro seen hperm
    rw [names_given] at hperm
    rw [hall seen fun argument hmem => hperm.mem_iff.2 (List.mem_map_of_mem hmem), hfinish]

end Arguments

/-! ## Commands -/

/-- The alternatives that are a name alone. -/
def Command.words : List (String × Command) :=
  [("Ping", .ping), ("Attach", .attach), ("Detach", .detach), ("Dump", .dump)]

/-- The alternatives that have arguments, and what these are. -/
def Command.expected : List (String × List Argument) :=
  [("Touch", [.touchpad, .x, .y, .pressure]), ("ButtonState", [.touchpad, .mask]),
    ("Scroll", [.touchpad, .x, .y])]

/-- The name of a command that has arguments, and their values. -/
def Command.arguments? : Command → Option (String × Arguments)
  | .touch touchpad x y pressure =>
    some ("Touch", { touchpad := touchpad, x := x, y := y, pressure := pressure })
  | .buttons touchpad mask => some ("ButtonState", { touchpad := touchpad, mask := mask })
  | .scroll touchpad x y => some ("Scroll", { touchpad := touchpad, x := x, y := y })
  | .ping | .attach | .detach | .dump => none

/-- The texts of a command: its name, or an object that gives its name the arguments. -/
inductive SpellsCommand (command : Command) : Bytes → Prop
  | name {name : String} {text : Bytes} (known : (name, command) ∈ Command.words)
      (spells : SpellsQuoted name text) : SpellsCommand command text
  | null {name : String} {object : ObjectText} {member : MemberText}
      (known : (name, command) ∈ Command.words) (only : object.members = [member])
      (key : SpellsText name member.key) (value : member.value = bytesOf "null") :
      SpellsCommand command object.text
  | record {name : String} {arguments : Arguments} {expected : List Argument} {object : ObjectText}
      {member : MemberText} (found : command.arguments? = some (name, arguments))
      (known : (name, expected) ∈ Command.expected) (only : object.members = [member])
      (key : SpellsText name member.key)
      (value : SpellsRecord (expected.map Argument.name) (arguments.given expected) member.value) :
      SpellsCommand command object.text

theorem find?_words {name : String} {command : Command} (h : (name, command) ∈ Command.words) :
    Command.variants.find? (·.name == name) = some (.plain name command) := by
  simp only [Command.words, List.mem_cons, Prod.mk.injEq, List.not_mem_nil, or_false] at h
  rcases h with ⟨rfl, rfl⟩ | ⟨rfl, rfl⟩ | ⟨rfl, rfl⟩ | ⟨rfl, rfl⟩ <;> rfl

theorem nodup_expected :
    ∀ entry ∈ Command.expected, (entry.2.map Argument.name).Nodup := by
  decide

/-- The record of an alternative that has arguments. -/
theorem exists_shape {name : String} {expected : List Argument}
    (h : (name, expected) ∈ Command.expected) : ∃ shape : RecordShape Arguments Command,
      Command.variants.find? (·.name == name) = some (.record name shape.read)
      ∧ shape.fields = expected.map Argument.field
      ∧ ∀ command arguments, command.arguments? = some (name, arguments) →
          Collects shape (expected.map Argument.name) (arguments.given expected) arguments.seenOf
            command := by
  simp only [Command.expected, List.mem_cons, Prod.mk.injEq, List.not_mem_nil, or_false] at h
  rcases h with ⟨rfl, rfl⟩ | ⟨rfl, rfl⟩ | ⟨rfl, rfl⟩
  on_goal 1 => refine ⟨Arguments.touchShape, rfl, rfl, fun command arguments hfound => ?_⟩
  on_goal 2 => refine ⟨Arguments.buttonShape, rfl, rfl, fun command arguments hfound => ?_⟩
  on_goal 3 => refine ⟨Arguments.scrollShape, rfl, rfl, fun command arguments hfound => ?_⟩
  -- Only the command of that name is found, and all of its arguments are required.
  all_goals
    cases command <;> simp [Command.arguments?] at hfound
    subst hfound
    refine Arguments.collects rfl rfl rfl fun seen hseen => ?_
    simp only [List.forall_mem_cons] at hseen
    simp [Arguments.seenOf, ifSeen, hseen]

/-- **A command is read** from each of its texts. -/
theorem takes_of_spellsCommand {command : Command} {text : Bytes} (h : SpellsCommand command text) :
    Takes Command.read text command := by
  rw [read_eq_readChoice]
  cases h with
  | name known spells =>
    obtain ⟨inside, hspells, rfl⟩ := spells
    exact takes_choice_of_text (find?_words known) hspells
  | @null name _ _ known only key value =>
    refine takes_choice_of_object (find?_words known) (ignoresBlanks_plain name command) only key ?_
    rw [value]
    exact takes_null name command
  | record found known only key value =>
    obtain ⟨shape, hvariant, -, hcollects⟩ := exists_shape known
    refine takes_choice_of_object hvariant (ignoresBlanks_record shape) only key ?_
    refine takes_record_of_spells (hcollects _ _ found) ?_ value
    rw [Arguments.names_given]
    exact nodup_expected _ known

/-! ## Messages -/

/-- The members of a message, with the texts of their values. -/
def Message.given (message : Message) : List (String × (Bytes → Prop)) :=
  [("id", SpellsQuoted message.id), ("command", SpellsCommand message.command)]

/-- The texts of a message. -/
def SpellsMessage (message : Message) : Bytes → Prop :=
  Alone (SpellsRecord (message.given.map Prod.fst) message.given)

/-- The members of a message that were seen. -/
def Message.seenOf (message : Message) (seen : List String) : MessageDraft where
  id := ifSeen "id" seen (some message.id)
  command := ifSeen "command" seen (some message.command)

/-- All that the reader of a message remembers is which members it has seen. -/
theorem collects_message (message : Message) :
    Collects Message.shape ["id", "command"] message.given message.seenOf message where
  known := rfl
  ignoresBlanks := by
    refine List.forall_mem_cons.2 ⟨fun draft => ?_, List.forall_mem_singleton.2 fun draft => ?_⟩
    · exact ignoresBlanks_keep (ignoresBlanks_readText _) draft
    · exact ignoresBlanks_keep (ignoresBlanks_choice _) draft
  start := rfl
  step := by
    intro seen field hfield hfresh text htext
    simp only [Message.given, List.mem_cons, List.not_mem_nil, or_false] at hfield
    rcases hfield with rfl | rfl
    · refine ⟨_, rfl, congrArg Option.isSome (ifSeen_of_notMem hfresh), ?_⟩
      refine takes_keep_of_eq (takes_of_spellsQuoted htext _) ?_
      simp [Message.seenOf, ifSeen_cons_self, ifSeen_cons_of_ne]
    · refine ⟨_, rfl, congrArg Option.isSome (ifSeen_of_notMem hfresh), ?_⟩
      refine takes_keep_of_eq (takes_of_spellsCommand htext) ?_
      simp [Message.seenOf, ifSeen_cons_self, ifSeen_cons_of_ne]
  finish := by
    intro seen hperm
    have hid : "id" ∈ seen := hperm.mem_iff.2 (by simp [Message.given])
    have hcommand : "command" ∈ seen := hperm.mem_iff.2 (by simp [Message.given])
    simp only [Message.shape, Message.seenOf, ifSeen_of_mem hid, ifSeen_of_mem hcommand,
      RecordField.require, bind, Except.bind]

/-- **A message is read** from each of its texts. -/
theorem parse_of_spells {message : Message} {text : Bytes} (h : SpellsMessage message text) :
    Message.parse text = .ok message :=
  readAll_of_alone h (ignoresBlanks_record Message.shape) fun _ hspells =>
    takes_record_of_spells (collects_message message) (by simp [Message.given]) hspells

/-! ## Members given twice -/

/-- An argument that was read is kept, and the others are too. -/
theorem latches_arguments (expected : List Argument) : Latches (expected.map Argument.field) := by
  refine List.forall_mem_map.2 fun argument _ draft next input rest h => ?_
  rw [List.forall_mem_map]
  cases argument <;>
  · obtain ⟨_, -, heq⟩ := map_eq_ok.1 h
    cases heq
    refine ⟨rfl, fun other _ htaken => ?_⟩
    cases other <;> first | rfl | exact htaken

theorem latches_message : Latches Message.shape.fields := by
  have hfields : Message.shape.fields = [idField, commandField] := rfl
  rw [hfields]
  refine List.forall_mem_cons.2 ⟨?_, List.forall_mem_singleton.2 ?_⟩ <;>
  · intro draft next input rest h
    obtain ⟨_, -, heq⟩ := map_eq_ok.1 h
    cases heq
    refine ⟨rfl, List.forall_mem_cons.2 ⟨?_, List.forall_mem_singleton.2 ?_⟩⟩ <;> intro htaken <;>
      first | rfl | exact htaken

/-- The object of a command gives a name twice, or gives an argument twice in the object of its
name. -/
def RepeatsArgument (object : ObjectText) : Prop :=
  object.WellFormed ∧
    (object.GivesTwice (Command.variants.map Variant.name)
      ∨ ∃ member ∈ object.members, ∃ name expected, (name, expected) ∈ Command.expected
        ∧ SpellsText name member.key ∧ ∃ arguments : ObjectText, arguments.text = member.value
          ∧ arguments.WellFormed ∧ arguments.GivesTwice (expected.map Argument.name))

/-- An object gives the identity or the command of a message twice, or the command's object gives
a member twice. -/
def RepeatsMember (object : ObjectText) : Prop :=
  object.WellFormed ∧
    (object.GivesTwice ["id", "command"]
      ∨ ∃ member ∈ object.members, SpellsText "command" member.key
        ∧ ∃ command : ObjectText, command.text = member.value ∧ RepeatsArgument command)

/-- The texts of well-formed objects that give a known member of a message twice. -/
def SpellsRepetition : Bytes → Prop :=
  Alone fun text => ∃ object : ObjectText, object.text = text ∧ RepeatsMember object

section Repetitions

variable {object : ObjectText} {rest after : Bytes}

/-- A record that was read gives no known member twice. -/
theorem not_givesTwice_of_read {α δ : Type} {shape : RecordShape δ α} {value : α}
    {names : List String} (hspan : FieldsSpan shape.fields) (hlatch : Latches shape.fields)
    (hnames : ∀ name ∈ names, ∃ field, shape.fields.find? (·.name == name) = some field)
    (hobject : object.WellFormed) (h : shape.read (object.text ++ rest) = .ok (value, after)) :
    ¬ object.GivesTwice names := by
  rintro ⟨name, hname, first, second, hmembers, hfirst, hsecond⟩
  obtain ⟨final, hadmitted⟩ := admitted_of_read hspan hobject h
  obtain ⟨field, hfield⟩ := hnames name hname
  exact hadmitted.not_twice hlatch hfield hmembers hfirst hsecond

/-- **A command that was read** gives nothing twice. -/
theorem not_repeatsArgument_of_read {command : Command}
    (h : Command.read (object.text ++ rest) = .ok (command, after)) : ¬ RepeatsArgument object := by
  rintro ⟨hobject, hrepeats⟩
  rw [read_eq_readChoice] at h
  obtain ⟨member, name, variant, tail, hmembers, ⟨colon, hkey⟩, hvariant, -, hbody⟩ :=
    member_of_readChoice spanning_variant hobject h
  rcases hrepeats with ⟨_, _, first, second, htwice, -, -⟩
    | ⟨sole, hsole, known, expected, hexpected, hspells, arguments, htext, harguments, htwice⟩
  · rw [hmembers] at htwice
    exact absurd htwice.length_le (by simp)
  · rw [hmembers, List.mem_singleton] at hsole
    subst hsole
    cases hkey.symm.trans (textLiteral_of_spells hspells colon)
    obtain ⟨shape, hshape, hfields, -⟩ := exists_shape hexpected
    cases hvariant.symm.trans hshape
    have hread : shape.read (arguments.text ++ (sole.behind ++ tail))
        = .ok (command, sole.behind ++ tail) := by
      rw [htext, ← (ignoresBlanks_record shape).eq_of_blank sole.blank_ahead]
      simpa [Padded.text, Variant.body] using hbody
    refine not_givesTwice_of_read (hfields ▸ fieldsSpan_arguments expected)
      (hfields ▸ latches_arguments expected) (List.forall_mem_map.2 fun argument hargument => ?_)
      harguments hread htwice
    exact ⟨argument.field, hfields ▸ Argument.find?_field hargument⟩

/-- **A message that was read** gives nothing twice. -/
theorem not_repeatsMember_of_read {message : Message}
    (h : Message.shape.read (object.text ++ rest) = .ok (message, after)) :
    ¬ RepeatsMember object := by
  rintro ⟨hobject, htwice | ⟨member, hmember, hspells, command, htext, hrepeats⟩⟩
  · refine not_givesTwice_of_read fieldsSpan_message latches_message ?_ hobject h htwice
    simp [find?_fields]
  · obtain ⟨final, hadmitted⟩ := admitted_of_read fieldsSpan_message hobject h
    have hfield : Message.shape.fields.find? (·.name == "command") = some commandField := rfl
    obtain ⟨before, next, tail, -, hread⟩ := hadmitted.read hmember hspells hfield
    obtain ⟨⟨found, behind⟩, hcommand, -⟩ := map_eq_ok.1 hread
    have hblanks : IgnoresBlanks Command.read := ignoresBlanks_choice _
    rw [Padded.text, List.append_assoc, List.append_assoc, hblanks.eq_of_blank member.blank_ahead,
      ← htext] at hcommand
    exact not_repeatsArgument_of_read hcommand hrepeats

/-- **What gives a member twice is no message.** -/
theorem parse_of_spellsRepetition {text : Bytes} (h : SpellsRepetition text) :
    ∃ fault, Message.parse text = .error fault := by
  obtain ⟨padded, rfl, object, htext, hrepeats⟩ := h
  cases hparse : Message.parse padded.text with
  | error fault => exact ⟨fault, rfl⟩
  | ok message =>
    obtain ⟨rest, hread⟩ := exists_rest_of_readAll hparse
    rw [Padded.text, (ignoresBlanks_record Message.shape).eq_of_blank padded.blank_ahead,
      ← htext] at hread
    exact absurd hrepeats (not_repeatsMember_of_read hread)

end Repetitions

end VirtualTouchpad.Control
