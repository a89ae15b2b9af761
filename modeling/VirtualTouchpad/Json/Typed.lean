/-
# Values of a known shape

Readers that know what to expect.  The first thing wrong in the text is what
they complain about: `mismatch` names a value of another shape, after reading it
far enough to know that it is one.

A record is an object of its fields in any order, or a list of them in order; a
choice is a name alone, or an object with that one key.
-/
import VirtualTouchpad.Json.Skip

namespace VirtualTouchpad.Json

/-! ## Values without parts -/

/-- The fault of a value where `expected` was asked for. -/
def mismatch (expected : String) (input : Bytes) : Fault :=
  let wrong (found : Except Fault Found) : Fault :=
    match found with
    | .ok found => .wrongType found expected
    | .error fault => fault
  match dropBlanks input with
  | [] => .ended .value
  | b :: rest =>
    if b = ascii 'n' then wrong ((finishWord (bytesOf "ull") rest).map fun _ => .null)
    else if b = ascii 't' then wrong ((finishWord (bytesOf "rue") rest).map fun _ => .boolean true)
    else if b = ascii 'f' then
      wrong ((finishWord (bytesOf "alse") rest).map fun _ => .boolean false)
    else if b = ascii '-' ∨ isDigitByte b then
      wrong ((readNumber (b :: rest)).map fun (number, _) => number.found)
    else if b = ascii '"' then wrong ((textLiteral rest).map fun (text, _) => .text text)
    else if b = ascii '[' then .wrongType .sequence expected
    else if b = ascii '{' then .wrongType .map expected
    else .expectedValue

/-- A text. -/
def readText (expected : String) : Reader String := fun input =>
  match dropBlanks input with
  | [] => .error (.ended .value)
  | b :: rest =>
    if b = ascii '"' then textLiteral rest else .error (mismatch expected (b :: rest))

/-- A value that says nothing: `null`. -/
def readNull (expected : String) : Reader Unit := fun input =>
  match dropBlanks input with
  | [] => .error (.ended .value)
  | b :: rest =>
    if b = ascii 'n' then (finishWord (bytesOf "ull") rest).map fun rest => ((), rest)
    else .error (mismatch expected (b :: rest))

/-- A number, and what `accept` makes of it. -/
def readNumeric {α : Type} (expected : String) (accept : Number → Except Fault α) : Reader α :=
  fun input =>
    match dropBlanks input with
    | [] => .error (.ended .value)
    | b :: rest =>
      if b = ascii '-' ∨ isDigitByte b then do
        let (number, rest) ← readNumber (b :: rest)
        let value ← accept number
        .ok (value, rest)
      else .error (mismatch expected (b :: rest))

/-- A whole number below `bound`. -/
def readUnsigned (expected : String) (bound : Nat) : Reader Nat :=
  readNumeric expected fun
    | .whole n => if n < bound then .ok n else .error (.wrongValue (.integer n) expected)
    | .negative n => .error (.wrongValue (.integer (-(n : Int))) expected)
    | .floating x => .error (.wrongType (.floating x) expected)

/-- A whole number of at most 64 bits. -/
def readUInt64 : Reader UInt64 := fun input =>
  (readUnsigned "usize" UInt64.size input).map fun (n, rest) => (UInt64.ofNat n, rest)

/-- A whole number of at most 32 bits. -/
def readUInt32 : Reader UInt32 := fun input =>
  (readUnsigned "u32" UInt32.size input).map fun (n, rest) => (UInt32.ofNat n, rest)

/-- A signed number of 32 bits. -/
def readInt32 : Reader Int32 :=
  readNumeric "i32" fun
    | .whole n =>
      if n < 0x80000000 then .ok (Int32.ofInt n) else .error (.wrongValue (.integer n) "i32")
    | .negative n =>
      if n ≤ 0x80000000 then .ok (Int32.ofInt (-(n : Int)))
      else .error (.wrongValue (.integer (-(n : Int))) "i32")
    | .floating x => .error (.wrongType (.floating x) "i32")

/-- The 32-bit float nearest to a number. -/
def Number.single : Number → Single
  | .whole n => .ofInt .single n
  | .negative n => .ofInt .single (-(n : Int))
  | .floating x => x.convert .single

/-- A 32-bit float. -/
def readSingle : Reader Single := readNumeric "f32" fun number => .ok number.single

/-! ## Steps through lists and objects -/

/-- Where a list or an object stands before its next entry: at one more entry, or past its end. -/
inductive Next where
  | entry (rest : Bytes)
  | closed (rest : Bytes)

/-- The next step of a list; `first` says that no element came before. -/
def nextElement (first : Bool) (input : Bytes) : Except Fault Next :=
  match dropBlanks input with
  | [] => .error (.ended .list)
  | b :: rest =>
    if b = ascii ']' then .ok (.closed rest)
    else if first then .ok (.entry (b :: rest))
    else if b = ascii ',' then
      match dropBlanks rest with
      | [] => .error (.ended .value)
      | c :: after => if c = ascii ']' then .error .trailingComma else .ok (.entry (c :: after))
    else .error .expectedListComma

/-- The end of a list that has all its elements. -/
def closeList (input : Bytes) : Except Fault Bytes :=
  match dropBlanks input with
  | [] => .error (.ended .list)
  | b :: rest =>
    if b = ascii ']' then .ok rest
    else if b = ascii ',' ∧ (dropBlanks rest).head? = some (ascii ']') then .error .trailingComma
    else .error .trailingCharacters

/-- The next step of an object; an entry stands after the quotation mark that opens its key. -/
def nextKey (first : Bool) (input : Bytes) : Except Fault Next :=
  match dropBlanks input with
  | [] => .error (.ended .object)
  | b :: rest =>
    if b = ascii '}' then .ok (.closed rest)
    else if first then
      if b = ascii '"' then .ok (.entry rest) else .error .keyNotText
    else if b = ascii ',' then
      match dropBlanks rest with
      | [] => .error (.ended .value)
      | c :: after =>
        if c = ascii '"' then .ok (.entry after)
        else if c = ascii '}' then .error .trailingComma
        else .error .keyNotText
    else .error .expectedObjectComma

/-! ## Records -/

/-- A field of a record whose values so far are kept in a draft. -/
structure RecordField (δ : Type) where
  name : String
  /-- Whether the draft has the field. -/
  taken : δ → Bool
  /-- Reads the field's value into the draft. -/
  read : δ → Reader δ

namespace RecordField

variable {δ α : Type}

/-- A field whose value the draft keeps once it was read. -/
def keep (name : String) (kept : δ → Option α) (read : Reader α) (store : δ → α → δ) :
    RecordField δ where
  name := name
  taken := fun draft => (kept draft).isSome
  read := fun draft input => (read input).map fun (value, rest) => (store draft value, rest)

/-- The value of a field that a record must have. -/
def require (name : String) (value : Option α) : Except Fault α :=
  match value with
  | some value => .ok value
  | none => .error (.missingField name)

end RecordField

/-- The shape of a record. -/
structure RecordShape (δ α : Type) where
  /-- What a complaint calls it. -/
  title : String
  fields : List (RecordField δ)
  blank : δ
  /-- The record of a draft, or the first field that it lacks. -/
  finish : δ → Except Fault α
  /-- Whether a list of the fields may end early. -/
  mayEndEarly : Bool := false

/-- What a list of a record's fields should have been. -/
def RecordShape.listTitle {δ α : Type} (shape : RecordShape δ α) : String :=
  let n := shape.fields.length
  shape.title ++ " with " ++ toString n ++ (if n = 1 then " element" else " elements")

/-- Reads fields in their order into a draft; `index` counts those before. -/
def readElements {δ α : Type} (shape : RecordShape δ α) :
    List (RecordField δ) → Nat → δ → Reader δ
  | [], _, draft => fun input => (closeList input).map fun rest => (draft, rest)
  | field :: fields, index, draft => fun input => do
    match ← nextElement (index = 0) input with
    | .closed rest =>
      if shape.mayEndEarly then .ok (draft, rest)
      else .error (.wrongLength index shape.listTitle)
    | .entry rest => do
      let (draft, rest) ← field.read draft rest
      readElements shape fields (index + 1) draft rest

/-- Reads the members of an object into a draft, in at most so many steps. -/
def readMembers {δ : Type} (fields : List (RecordField δ)) : Nat → Bool → δ → Reader δ
  | 0, _, _ => fun _ => .error (.ended .object)
  | steps + 1, first, draft => fun input => do
    match ← nextKey first input with
    | .closed rest => .ok (draft, rest)
    | .entry rest => do
      let (name, rest) ← textLiteral rest
      match fields.find? (·.name == name) with
      | none => do
        let rest ← skipValue (← dropColon rest)
        readMembers fields steps false draft rest
      | some field =>
        if field.taken draft then .error (.duplicateField name)
        else do
          let (draft, rest) ← field.read draft (← dropColon rest)
          readMembers fields steps false draft rest

/-- Reads a record. -/
def RecordShape.read {δ α : Type} (shape : RecordShape δ α) : Reader α := fun input =>
  match dropBlanks input with
  | [] => .error (.ended .value)
  | b :: rest =>
    if b = ascii '[' then do
      let (draft, rest) ← readElements shape shape.fields 0 shape.blank rest
      .ok (← shape.finish draft, rest)
    else if b = ascii '{' then do
      let (draft, rest) ← readMembers shape.fields (rest.length + 1) true shape.blank rest
      .ok (← shape.finish draft, rest)
    else .error (mismatch shape.title (b :: rest))

/-! ## Choices -/

/-- One of the alternatives of a choice. -/
inductive Variant (α : Type) where
  /-- A name alone. -/
  | plain (name : String) (value : α)
  /-- A name with a record. -/
  | record (name : String) (read : Reader α)

namespace Variant

variable {α : Type}

/-- The name of an alternative. -/
def name : Variant α → String
  | .plain name _ => name
  | .record name _ => name

/-- The alternative, given by its name alone. -/
def alone : Variant α → Except Fault α
  | .plain _ value => .ok value
  | .record .. => .error (.wrongType .unitVariant "struct variant")

/-- Reads what stands after the name and the colon. -/
def body : Variant α → Reader α
  | .plain _ value => fun input => (readNull "unit" input).map fun (_, rest) => (value, rest)
  | .record _ read => read

end Variant

/-- Reads the name of an alternative. -/
def readVariant {α : Type} (variants : List (Variant α)) : Reader (Variant α) := fun input => do
  let (name, rest) ← readText "variant identifier" input
  match variants.find? (·.name == name) with
  | some variant => .ok (variant, rest)
  | none => .error (.unknownVariant name (variants.map Variant.name))

/-- The only key of an object, which must be there; what stands from its quotation mark on. -/
def openKey (input : Bytes) : Except Fault Bytes :=
  match dropBlanks input with
  | [] => .error (.ended .object)
  | b :: rest =>
    if b = ascii '"' then .ok (b :: rest)
    else if b = ascii '}' then .error .expectedValue
    else .error .keyNotText

/-- Reads one of some alternatives. -/
def readChoice {α : Type} (variants : List (Variant α)) : Reader α := fun input =>
  match dropBlanks input with
  | [] => .error (.ended .value)
  | b :: rest =>
    if b = ascii '"' then do
      let (variant, rest) ← readVariant variants (b :: rest)
      .ok (← variant.alone, rest)
    else if b = ascii '{' then do
      let (variant, rest) ← readVariant variants (← openKey rest)
      let (value, rest) ← variant.body (← dropColon rest)
      match dropBlanks rest with
      | [] => .error (.ended .object)
      | c :: after => if c = ascii '}' then .ok (value, after) else .error .expectedValue
    else .error .expectedValue

/-! ## Whole texts -/

/-- Reads a whole text: nothing but blanks may follow the value. -/
def readAll {α : Type} (read : Reader α) (input : Bytes) : Except Fault α := do
  let (value, rest) ← read input
  match dropBlanks rest with
  | [] => .ok value
  | _ :: _ => .error .trailingCharacters

end VirtualTouchpad.Json
