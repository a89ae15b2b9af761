/-
# Configuration files

A configuration file may give any of the fields, in any order and with anything else among
them, or the first few of them as a list.  What the reader remembers of a text is which
fields it has seen (`draftOf`), so the configuration is the one of the file where the file
gives it and the standard elsewhere (`partly`), and it is loaded if it is valid.
-/
import Mathlib.Data.Finset.Basic
import VirtualTouchpad.Proofs.Json.Layouts
import VirtualTouchpad.Touchpad.Config

namespace VirtualTouchpad

open Json

/-! ## Fields -/

/-- The fields of a configuration. -/
inductive Config.Field where
  | devices
  | nameTemplate
  | width
  | height
  | slots
  | devicePath
  deriving DecidableEq

namespace Config

/-- The fields, as they are declared. -/
def Field.all : List Field := [.devices, .nameTemplate, .width, .height, .slots, .devicePath]

/-- What a field is called in a file. -/
def Field.name : Field → String
  | .devices => "devices"
  | .nameTemplate => "name_template"
  | .width => "width"
  | .height => "height"
  | .slots => "slots"
  | .devicePath => "uinput_path"

theorem Field.mem_all (field : Field) : field ∈ all := by
  cases field <;> decide

theorem Field.nodup_names : (all.map name).Nodup := by decide

theorem Field.name_injective : Function.Injective name := by
  intro field other
  cases field <;> cases other <;> decide

/-- The reader of a field. -/
def Field.reader (field : Field) : RecordField Draft :=
  match field with
  | .devices =>
    .keep field.name Draft.devices readUInt64 fun draft value => { draft with devices := some value }
  | .nameTemplate =>
    .keep field.name Draft.nameTemplate (readText "a string")
      fun draft value => { draft with nameTemplate := some value }
  | .width =>
    .keep field.name Draft.width readInt32 fun draft value => { draft with width := some value }
  | .height =>
    .keep field.name Draft.height readInt32 fun draft value => { draft with height := some value }
  | .slots =>
    .keep field.name Draft.slots readInt32 fun draft value => { draft with slots := some value }
  | .devicePath =>
    .keep field.name Draft.devicePath (readText "path string")
      fun draft value => { draft with devicePath := some value }

theorem fields_eq : shape.fields = Field.all.map Field.reader := rfl

theorem find?_fields (field : Field) :
    shape.fields.find? (·.name == field.name) = some field.reader := by
  cases field <;> rfl

/-! ## Spellings -/

section Spellings

variable (config : Config)

/-- The texts of a field's value. -/
def Spells : Field → Bytes → Prop
  | .devices, text => text = writeNat config.devices.toNat
  | .nameTemplate, text => SpellsQuoted config.nameTemplate text
  | .width, text => text = bytesOf (toString config.width.toInt)
  | .height, text => text = bytesOf (toString config.height.toInt)
  | .slots, text => text = bytesOf (toString config.slots.toInt)
  | .devicePath, text => SpellsQuoted config.devicePath text

/-- The texts of objects that give some fields of a configuration, in any order, and anything else
besides. -/
def SpellsObject (given : Finset Field) : Bytes → Prop :=
  Alone (SpellsRecord (Field.all.map Field.name)
    ((Field.all.filter (· ∈ given)).map fun field => (field.name, config.Spells field)))

/-- The texts of lists of a configuration's first fields. -/
def SpellsFirst (count : Nat) : Bytes → Prop :=
  Alone (SpellsList ((Field.all.take count).map config.Spells))

/-- A configuration where it is given, and the standard elsewhere. -/
def partly (given : Finset Field) : Config where
  devices := if .devices ∈ given then config.devices else standard.devices
  nameTemplate := if .nameTemplate ∈ given then config.nameTemplate else standard.nameTemplate
  width := if .width ∈ given then config.width else standard.width
  height := if .height ∈ given then config.height else standard.height
  slots := if .slots ∈ given then config.slots else standard.slots
  devicePath := if .devicePath ∈ given then config.devicePath else standard.devicePath

/-- The draft of the fields that were seen. -/
def draftOf (seen : List String) : Draft where
  devices := ifSeen (Field.name .devices) seen (some config.devices)
  nameTemplate := ifSeen (Field.name .nameTemplate) seen (some config.nameTemplate)
  width := ifSeen (Field.name .width) seen (some config.width)
  height := ifSeen (Field.name .height) seen (some config.height)
  slots := ifSeen (Field.name .slots) seen (some config.slots)
  devicePath := ifSeen (Field.name .devicePath) seen (some config.devicePath)

end Spellings

section Reading

variable {config : Config} {field : Field} {text : Bytes}

theorem Spells.startsValue (h : config.Spells field text) : StartsValue text := by
  cases field with
  | devices => exact h ▸ startsValue_writeNat _
  | nameTemplate | devicePath =>
    obtain ⟨inside, -, rfl⟩ := h
    exact startsValue_inQuotes inside
  | width | height | slots => exact h ▸ startsValue_toString _

/-- The reader of a field adds it to what was seen. -/
theorem takes_reader (h : config.Spells field text) (seen : List String) :
    Takes (field.reader.read (config.draftOf seen)) text (config.draftOf (field.name :: seen)) := by
  cases field <;> simp only [Field.reader]
  case devices =>
    refine h ▸ takes_keep_of_eq (takes_uint64 _) ?_
    simp [draftOf, ifSeen_cons_self, ifSeen_cons_of_ne, Field.name]
  case nameTemplate | devicePath =>
    refine takes_keep_of_eq (takes_of_spellsQuoted h _) ?_
    simp [draftOf, ifSeen_cons_self, ifSeen_cons_of_ne, Field.name]
  case width | height | slots =>
    refine h ▸ takes_keep_of_eq (takes_int32 _) ?_
    simp [draftOf, ifSeen_cons_self, ifSeen_cons_of_ne, Field.name]

theorem taken_reader {seen : List String} (h : field.name ∉ seen) :
    field.reader.taken (config.draftOf seen) = false := by
  cases field <;> exact congrArg Option.isSome (ifSeen_of_notMem h)

theorem fieldsIgnoreBlanks : FieldsIgnoreBlanks shape.fields := by
  rw [fields_eq]
  refine List.forall_mem_map.2 fun field _ draft => ?_
  cases field <;> simp only [Field.reader]
  case devices => exact ignoresBlanks_keep ignoresBlanks_readUInt64 draft
  case nameTemplate | devicePath => exact ignoresBlanks_keep (ignoresBlanks_readText _) draft
  case width | height | slots => exact ignoresBlanks_keep ignoresBlanks_readInt32 draft

/-- A draft of the given fields is the configuration that is partly the given one. -/
theorem config_draftOf {seen : List String} {given : Finset Field}
    (h : ∀ field, field.name ∈ seen ↔ field ∈ given) :
    (config.draftOf seen).config = config.partly given := by
  simp only [Draft.config, draftOf, partly, getD_ifSeen, h]

end Reading

section Loading

variable (config : Config) (given : Finset Field)

/-- All that the reader of a configuration remembers is which fields it has seen. -/
theorem collects : Collects shape (Field.all.map Field.name)
    ((Field.all.filter (· ∈ given)).map fun field => (field.name, config.Spells field))
    config.draftOf (config.partly given) where
  known := rfl
  ignoresBlanks := fieldsIgnoreBlanks
  start := rfl
  step := by
    intro seen pair hpair hfresh text htext
    obtain ⟨field, -, rfl⟩ := List.mem_map.1 hpair
    exact ⟨field.reader, find?_fields field, taken_reader hfresh, takes_reader htext seen⟩
  finish := by
    intro seen hperm
    have hseen : ∀ field : Field, field.name ∈ seen ↔ field ∈ given := by
      intro field
      rw [hperm.mem_iff, List.map_map]
      refine (List.mem_map_of_injective Field.name_injective).trans ?_
      simp [Field.mem_all]
    exact congrArg Except.ok (config_draftOf hseen)

theorem takes_object {text : Bytes} (h : SpellsRecord (Field.all.map Field.name)
    ((Field.all.filter (· ∈ given)).map fun field => (field.name, config.Spells field)) text) :
    Takes shape.read text (config.partly given) := by
  refine takes_record_of_spells (config.collects given) ?_ h
  rw [List.map_map]
  exact (Field.nodup_names.sublist (List.filter_sublist.map _))

/-- The elements of a list are the values of the first fields. -/
theorem lines {fields : List Field} {elements : List Padded}
    (h : List.Forall₂ (fun spells element => spells element.value) (fields.map config.Spells)
      elements) (others : List Field) (seen : List String) :
    Lines ((fields ++ others).map Field.reader) (config.draftOf seen) elements
      (config.draftOf ((fields.map Field.name).reverse ++ seen)) := by
  induction fields generalizing elements seen with
  | nil =>
    cases h
    exact .nil _ _
  | cons field fields ih =>
    cases h with
    | cons hfirst hothers =>
      rw [List.map_cons, List.reverse_cons, List.append_assoc, List.singleton_append]
      exact .cons hfirst.startsValue (takes_reader hfirst seen) (ih hothers _)

theorem takes_first {config : Config} {count : Nat} {text : Bytes}
    (h : SpellsList ((Field.all.take count).map config.Spells) text) :
    Takes shape.read text (config.partly (Field.all.take count).toFinset) := by
  obtain ⟨list, rfl, helements⟩ := h
  have hlines := config.lines helements (Field.all.drop count) []
  rw [List.take_append_drop, ← fields_eq, List.append_nil] at hlines
  refine takes_of_lines hlines rfl (congrArg Except.ok (config_draftOf fun field => ?_))
  rw [List.mem_reverse, List.mem_map_of_injective Field.name_injective, List.mem_toFinset]

end Loading

/-- What is valid has at least one touchpad, a surface and a slot. -/
theorem validate_eq_ok_iff (config : Config) : config.validate = .ok () ↔
    1 ≤ config.devices ∧ 1 ≤ config.width ∧ 1 ≤ config.height ∧ 1 ≤ config.slots := by
  have hdevices : 1 ≤ config.devices ↔ ¬ config.devices = 0 := by
    rw [UInt64.le_iff_toNat_le, ← UInt64.toNat_inj, UInt64.toNat_zero, UInt64.toNat_one]
    omega
  have hsize : ∀ n : Int32, 1 ≤ n ↔ ¬ n ≤ 0 := by
    intro n
    rw [Int32.le_iff_toInt_le, Int32.le_iff_toInt_le, Int32.toInt_zero, Int32.toInt_one]
    omega
  rw [hdevices, hsize, hsize, hsize, validate]
  by_cases hnone : config.devices = 0
  · simp only [hnone, if_true, not_true, false_and, reduceCtorEq]
  by_cases hempty : config.width ≤ 0 ∨ config.height ≤ 0
  · rw [if_neg hnone, if_pos hempty]
    simp only [reduceCtorEq, false_iff]
    exact fun h => hempty.elim h.2.1 h.2.2.1
  rw [if_neg hnone, if_neg hempty]
  split
  · next hslots =>
    simp only [reduceCtorEq, false_iff]
    exact fun h => h.2.2.2 hslots
  · next hslots =>
    obtain ⟨hwidth, hheight⟩ := not_or.1 hempty
    exact iff_of_true rfl ⟨hnone, hwidth, hheight, hslots⟩

/-- **Partial configuration files.**  A file that gives some fields of a configuration, as an object
in any order and with anything else besides, or the first few as a list, is read as the
configuration that is the given one there and the standard elsewhere; and it is loaded if that has
at least one touchpad, a surface and a slot, and refused if not. -/
theorem load_partial (config : Config) (given : Finset Field) {files : Files} {path text : String}
    (hfile : files.readText path = .ok text)
    (hspells : config.SpellsObject given (bytesOf text)
      ∨ ∃ count ≤ 6, given = (Field.all.take count).toFinset
          ∧ config.SpellsFirst count (bytesOf text)) :
    let loaded := config.partly given
    parse (bytesOf text) = .ok loaded
      ∧ if 1 ≤ loaded.devices ∧ 1 ≤ loaded.width ∧ 1 ≤ loaded.height ∧ 1 ≤ loaded.slots then
          load files path = .ok loaded
        else ∃ invalid, loaded.validate = .error invalid
          ∧ load files path = .error [invalid.message] := by
  intro loaded
  have hparse : parse (bytesOf text) = .ok loaded := by
    rcases hspells with hobject | ⟨count, -, rfl, hfirst⟩
    · exact readAll_of_alone hobject (ignoresBlanks_record shape) fun _ => config.takes_object given
    · exact readAll_of_alone hfirst (ignoresBlanks_record shape) fun _ => takes_first
  have hload : load files path
      = (loaded.validate.mapError fun invalid => [invalid.message]).map fun _ => loaded := by
    simp only [load, hfile, hparse, Except.mapError, bind, Except.bind]
    cases loaded.validate <;> rfl
  refine ⟨hparse, ?_⟩
  rw [hload]
  have hiff := loaded.validate_eq_ok_iff
  cases hvalid : loaded.validate with
  | ok =>
    rw [if_pos (hiff.1 hvalid)]
    rfl
  | error invalid =>
    have hnot : ¬ loaded.validate = .ok () := by simp [hvalid]
    rw [if_neg (hnot ∘ hiff.2)]
    exact ⟨invalid, rfl, rfl⟩

/-- The name of the slots, with its last letter escaped. -/
theorem spellsText_slots : SpellsText "slots" (bytesOf "slot\\u0073") := by
  have hunit : SpellsUnit 's'.toNat (bytesOf "0073") :=
    .digits (a := 0) (b := 0) (c := 7) (d := 3) (.inl rfl) (.inl rfl) (.inl rfl) (.inl rfl)
  have hslot : SpellsText "slot" (bytesOf "slot") := spellsText_self (by decide)
  have hs : SpellsText "s" (ascii '\\' :: ascii 'u' :: bytesOf "0073") := .cons (.unit hunit) .nil
  exact hslot.append hs

/-- An unknown member first, and a key with an escape in it: five slots are given. -/
theorem load_partial_slots :
    let text := "\x7b \"x\": [null],\"slot\\u0073\" :5\x7d\n"
    let files := Files.empty.put ["work", "pads.json"] (.file (bytesOf text) none)
    load files "pads.json" = .ok { standard with slots := 5 } := by
  intro text files
  have hfile : files.readText "pads.json" = .ok text := by
    have hread : files.read "pads.json" = .ok (bytesOf text) := by decide +kernel
    simp only [Files.readText, hread, textOf?_bytesOf, bind, Except.bind]
  let unknown : NamedMember :=
    { NamedMember.bare "x" (spellsText_self (by decide)) (bytesOf "[null]") with
      before := bytesOf " "
      blank_before := by decide
      ahead := bytesOf " "
      blank_ahead := by decide }
  let slots : NamedMember :=
    { NamedMember.bare "slots" spellsText_slots (bytesOf "5") with
      between := bytesOf " "
      blank_between := by decide }
  let object : ObjectText := ⟨[unknown.toMemberText, slots.toMemberText], [], by decide⟩
  have hunknown : Phrase .value (bytesOf "[null]") :=
    .list (.element ⟨[], bytesOf "null", [], by decide, by decide⟩ (.word (by decide)))
  have hspells : Config.SpellsObject { standard with slots := 5 } {.slots} (bytesOf text) := by
    refine ⟨⟨[], object.text, bytesOf "\n", by decide, by decide⟩, by decide +kernel,
      object, [unknown, slots], rfl, rfl, by decide, ?_⟩
    rw [List.forall_mem_cons, List.forall_mem_singleton, if_neg (by decide), if_pos (by decide)]
    refine ⟨hunknown, ?_⟩
    have hgiven : Field.all.filter (· ∈ ({.slots} : Finset Field)) = [.slots] := by decide
    rw [hgiven, List.map_singleton, List.forall_mem_singleton]
    exact fun _ => rfl
  exact (load_partial _ _ hfile (.inl hspells)).2

end Config

end VirtualTouchpad
