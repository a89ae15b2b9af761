/-
# The fields of a message

What a message is made of, for its readers: a text and a command, which is a name alone or
an object with a record of arguments.  Each of these is one value, whoever reads it.
-/
import VirtualTouchpad.Control.Wire
import VirtualTouchpad.Proofs.Json.Extents

namespace VirtualTouchpad.Control

open Json

/-! ## Arguments -/

/-- What a command may be given. -/
inductive Argument where
  | touchpad
  | x
  | y
  | pressure
  | mask
  deriving DecidableEq

/-- The field of an argument. -/
def Argument.field : Argument → RecordField Arguments
  | .touchpad => Arguments.touchpadField
  | .x => Arguments.xField
  | .y => Arguments.yField
  | .pressure => Arguments.pressureField
  | .mask => Arguments.maskField

/-- What an argument is called. -/
def Argument.name : Argument → String
  | .touchpad => "touchpad"
  | .x => "x"
  | .y => "y"
  | .pressure => "pressure"
  | .mask => "buttons"

theorem Argument.name_injective : Function.Injective name := by
  intro argument other
  cases argument <;> cases other <;> decide

theorem Argument.name_field (argument : Argument) : argument.field.name = argument.name := by
  cases argument <;> rfl

theorem Argument.find?_field {argument : Argument} {expected : List Argument} (h : argument ∈ expected) :
    (expected.map Argument.field).find? (·.name == argument.name) = some argument.field := by
  induction expected with
  | nil => cases h
  | cons first expected ih =>
    rw [List.map_cons]
    by_cases hfirst : first = argument
    · subst hfirst
      exact List.find?_cons_of_pos (beq_iff_eq.2 first.name_field)
    · have hname : (first.field.name == argument.name) = false := by
        rw [Argument.name_field]
        exact beq_eq_false_iff_ne.2 (Argument.name_injective.ne hfirst)
      rw [List.find?_cons, hname]
      exact ih ((List.mem_cons.1 h).resolve_left (Ne.symm hfirst))

/-- An argument is one value. -/
theorem fieldsSpan_arguments (expected : List Argument) :
    FieldsSpan (expected.map Argument.field) := by
  refine List.forall_mem_map.2 fun argument _ draft => ?_
  cases argument <;> simp only [Argument.field]
  case touchpad => exact spanning_keep spanning_readUInt64 draft
  case x | y | pressure => exact spanning_keep spanning_readSingle draft
  case mask => exact spanning_keep spanning_readUInt32 draft

/-! ## Commands -/

/-- The alternatives of a command. -/
def Command.variants : List (Variant Command) :=
  [.plain "Ping" .ping, .plain "Attach" .attach, .plain "Detach" .detach,
    .record "Touch" Arguments.touchShape.read, .record "ButtonState" Arguments.buttonShape.read,
    .record "Scroll" Arguments.scrollShape.read, .plain "Dump" .dump]

theorem read_eq_readChoice : Command.read = readChoice Command.variants := rfl

/-- What an alternative is given is one value. -/
theorem spanning_variant : ∀ variant ∈ Command.variants, Spanning variant.body := by
  have hplain : ∀ name command, Spanning (Variant.body (.plain name command : Variant Command)) :=
    fun _ command => (spanning_readNull "unit").map fun _ => command
  intro variant hmem
  simp only [Command.variants, List.mem_cons, List.not_mem_nil, or_false] at hmem
  rcases hmem with rfl | rfl | rfl | rfl | rfl | rfl | rfl
  · exact hplain ..
  · exact hplain ..
  · exact hplain ..
  · exact spanning_record (fieldsSpan_arguments [.touchpad, .x, .y, .pressure])
  · exact spanning_record (fieldsSpan_arguments [.touchpad, .mask])
  · exact spanning_record (fieldsSpan_arguments [.touchpad, .x, .y])
  · exact hplain ..

/-- A command is one value. -/
theorem spanning_command : Spanning Command.read := spanning_choice spanning_variant

/-! ## Messages -/

/-- The field of a message's identity. -/
def idField : RecordField MessageDraft :=
  .keep "id" MessageDraft.id readString fun draft id => { draft with id := some id }

/-- The field of a message's command. -/
def commandField : RecordField MessageDraft :=
  .keep "command" MessageDraft.command Command.read fun draft command =>
    { draft with command := some command }

/-- A message has no other fields. -/
theorem find?_fields (name : String) : Message.shape.fields.find? (·.name == name)
    = if name = "id" then some idField else if name = "command" then some commandField else none := by
  have hfields : Message.shape.fields = [idField, commandField] := rfl
  have hid : idField.name = "id" := rfl
  have hcommand : commandField.name = "command" := rfl
  rw [hfields, List.find?_cons, List.find?_cons, hid, hcommand]
  by_cases h : name = "id"
  · simp [h]
  · by_cases hname : name = "command"
    · simp [hname]
    · rw [beq_eq_false_iff_ne.2 (Ne.symm h), beq_eq_false_iff_ne.2 (Ne.symm hname), if_neg h,
        if_neg hname]
      rfl

theorem fieldsSpan_message : FieldsSpan Message.shape.fields := by
  intro field hmem draft
  have hfields : Message.shape.fields = [idField, commandField] := rfl
  simp only [hfields, List.mem_cons, List.not_mem_nil, or_false] at hmem
  rcases hmem with rfl | rfl
  · exact spanning_keep (spanning_readText _) draft
  · exact spanning_keep spanning_command draft

end VirtualTouchpad.Control
