import RunGate.Toml.Value
import RunGate.Decimal.Shortest
import RunGate.Text.Quoted
import RunGate.Calendar.Reader
import RunGate.Table

/-! Reading typed data out of TOML values, and the faults found on the way. Tables are read in the
order of their keys, and the first fault is the one reported. -/

namespace RunGate

open Toml (Value)

inductive ShapeFault
  | wrongType (found expected : String)
  | tooLarge (number : Int)
  | tooShort (length : Nat) (expected : String) (fields : Nat)
  | missing (field : String)
  | unknownVariant (found : String) (known : List String)
  | date (fault : Calendar.ReadFault)
  | unreadable
  | notVariant
  | wrongVariantCount (several : Bool)
  | notEmpty (expected : String)
  | noTable (found : String)
deriving DecidableEq

/-- Names in backticks: two joined by "or", more listed after "one of". -/
def Shape.alternatives (names : List String) : String :=
  let quote (name : String) := "`" ++ name ++ "`"
  match names with
  | [first, second] => "expected " ++ quote first ++ " or " ++ quote second
  | [only] => "expected " ++ quote only
  | _ => "expected one of " ++ ", ".intercalate (names.map quote)

def ShapeFault.message : ShapeFault → String
  | wrongType found expected => "invalid type: " ++ found ++ ", expected " ++ expected
  | tooLarge number => "invalid value: integer `" ++ toString number ++ "`, expected i32"
  | tooShort length expected fields =>
    "invalid length " ++ toString length ++ ", expected " ++ expected ++ " with " ++
      toString fields ++ " elements"
  | missing field => "missing field `" ++ field ++ "`"
  | unknownVariant found known => "unknown variant `" ++ found ++ "`, " ++ Shape.alternatives known
  | date fault => fault.message
  | unreadable => "number overflowed"
  | notVariant => "wanted string or table"
  | wrongVariantCount false => "wanted exactly 1 element, found 0 elements"
  | wrongVariantCount true => "wanted exactly 1 element, more than 1 element"
  | notEmpty expected => "expected empty " ++ expected
  | noTable found => "expected table, found " ++ found

namespace Shape

/-- What is said to have been found where another type was expected. -/
def describe : Value → String
  | .text value => "string " ++ Text.quoted value
  | .integer value => "integer `" ++ toString value ++ "`"
  | .float value => "floating point `" ++ value.text ++ "`"
  | .unreadable => "number"
  | .boolean value => "boolean `" ++ (if value then "true" else "false") ++ "`"
  | .moment _ => "map"
  | .array _ => "sequence"
  | .table _ => "map"

def typeName : Value → String
  | .text _ => "string"
  | .integer _ => "integer"
  | .float _ => "float"
  | .unreadable => "number"
  | .boolean _ => "boolean"
  | .moment _ => "datetime"
  | .array _ => "array"
  | .table _ => "table"

def mismatch {α : Type} (value : Value) (expected : String) : Except ShapeFault α :=
  .error (.wrongType (describe value) expected)

/-- A value that nobody asks for. It is looked at all the same. -/
def skip (value : Value) : Except ShapeFault Unit :=
  if value.isReadable then .ok () else .error .unreadable

def text : Value → Except ShapeFault String
  | .text value => .ok value
  | value => mismatch value "a string"

def boolean : Value → Except ShapeFault Bool
  | .boolean value => .ok value
  | value => mismatch value "a boolean"

def integer : Value → Except ShapeFault Int
  | .integer value =>
    if -2147483648 ≤ value ∧ value ≤ 2147483647 then .ok value else .error (.tooLarge value)
  | value => mismatch value "i32"

def date : Value → Except ShapeFault Instant
  | .text value =>
    match Instant.read value with
    | .ok instant => .ok instant
    | .error fault => .error (.date fault)
  | value => mismatch value "an RFC 3339 formatted date and time string"

def list {α : Type} (item : Value → Except ShapeFault α) : Value → Except ShapeFault (List α)
  | .array items => items.mapM item
  | value => mismatch value "a sequence"

def pick {α : Type} (name : α → String) (all : List α) (found : String) : Except ShapeFault α :=
  match all.find? (name · == found) with
  | some constant => .ok constant
  | none => .error (.unknownVariant found (all.map name))

/-- What may stand beside the name of a constant: an empty table or an empty array. -/
def nothing : Value → Except ShapeFault Unit
  | .array [] => .ok ()
  | .array _ => .error (.notEmpty "array")
  | .table [] => .ok ()
  | .table _ => .error (.notEmpty "table")
  | value => .error (.noTable (typeName value))

/-- One of several constants, given by its name or as the only key of a table. -/
def variant {α : Type} (name : α → String) (all : List α) : Value → Except ShapeFault α
  | .text found => pick name all found
  | .table [] => .error (.wrongVariantCount false)
  | .table [(found, value)] => do
    let constant ← pick name all found
    nothing value
    pure constant
  | .table _ => .error (.wrongVariantCount true)
  | _ => .error .notVariant

/-- How a record is read: what messages call it, how each field takes its value, in the order in
which an array would list the fields, and which fields have no default. -/
structure Record (α : Type) where
  title : String
  fields : List (String × (α → Value → Except ShapeFault α))
  required : List String

/-- Take the entries of a table in the order of their keys; those of unknown keys are skipped. -/
def Record.takeEntries {α : Type} (record : Record α) :
    List (String × Value) → α → Except ShapeFault α
  | [], draft => .ok draft
  | (key, value) :: rest, draft =>
    match record.fields.lookup key with
    | none => do
      skip value
      record.takeEntries rest draft
    | some put => do record.takeEntries rest (← put draft value)

/-- Take the items of an array as the fields in order. What is left off must not be required; nobody
looks at items beyond the fields. -/
def Record.takeItems {α : Type} (record : Record α) :
    List (String × (α → Value → Except ShapeFault α)) → List Value → α → Except ShapeFault α
  | [], _, draft => .ok draft
  | (field, _) :: rest, [], draft =>
    if record.required.contains field then
      .error (.tooShort (record.fields.length - (rest.length + 1)) record.title
        record.fields.length)
    else record.takeItems rest [] draft
  | (_, put) :: rest, value :: values, draft => do
    record.takeItems rest values (← put draft value)

/-- Fill a record from a table or from an array of its fields, on top of its defaults. -/
def Record.fill {α : Type} (record : Record α) (defaults : α) : Value → Except ShapeFault α
  | .table entries => do
    let filled ← record.takeEntries (Table.ofList entries).entries defaults
    match record.required.find? fun field => !entries.any (·.1 == field) with
    | some field => .error (.missing field)
    | none => .ok filled
  | .moment _ =>
    match record.required with
    | field :: _ => .error (.missing field)
    | [] => .ok defaults
  | .array items => record.takeItems record.fields items defaults
  | value => mismatch value record.title

end Shape

end RunGate
