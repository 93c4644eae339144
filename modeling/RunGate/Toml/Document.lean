import RunGate.Toml.Quote
import RunGate.Toml.Scalar
import RunGate.Toml.Tree

/-! The reader of TOML documents, version 1.1. -/

namespace RunGate.Toml

/-- Letters, digits, underscore and hyphen of ASCII, which a key may hold without quotes. -/
def isBareKey (c : Char) : Bool :=
  c.isAlphanum || c == '_' || c == '-'

def simpleKey (text : List Char) : Option (String × List Char) :=
  match text.takeWhile isBareKey with
  | [] => shortString text
  | bare => some (String.ofList bare, text.dropWhile isBareKey)

/-- The steps of a key with dots, the number bounding their count. -/
def keySteps : Nat → Reader (List String)
  | 0, _ => none
  | bound + 1, text => do
    let (step, rest) ← simpleKey (skipSpaces text)
    match skipSpaces rest with
    | '.' :: more => do
      let (steps, after) ← keySteps bound more
      some (step :: steps, after)
    | after => some ([step], after)

/-- How many steps a key may have. -/
def stepLimit : Nat := 80

/-- A key: the path to its table, and its last step. -/
def key : Reader (List String × String) := fun text => do
  let (steps, rest) ← keySteps stepLimit text
  let last ← steps.getLast?
  some ((steps.dropLast, last), rest)

/-- The items of an array after its bracket or after a comma, the number bounding their count. -/
def items (value : Reader Value) : Nat → Reader (List Value)
  | 0, _ => none
  | bound + 1, text => do
    match ← skipLines false text with
    | ']' :: rest => some ([], rest)
    | start => do
      let (item, rest) ← value start
      match ← skipLines false rest with
      | ',' :: more => do
        let (others, after) ← items value bound more
        some (item :: others, after)
      | ']' :: after => some ([item], after)
      | _ => none

/-- A key, an equals sign and a value; `skip` drops what may stand around the equals sign. -/
def assignment (skip : List Char → Option (List Char)) (value : Reader Value) :
    Reader ((List String × String) × Value) := fun text => do
  let (key, rest) ← key text
  let '=' :: rest ← skip rest | none
  let (value, rest) ← value (← skip rest)
  some ((key, value), rest)

/-- The entries of an inline table after its brace or after a comma, the number bounding their
count. -/
def inlineEntries (value : Reader Value) : Nat → Entries → Reader Entries
  | 0, _, _ => none
  | bound + 1, entries, text => do
    match ← skipLines false text with
    | '\x7d' :: rest => some (entries, rest)
    | start => do
      let (((path, key), content), rest) ← assignment (skipLines false) value start
      let entries ← entries.assign path key content
      match ← skipLines false rest with
      | ',' :: more => inlineEntries value bound entries more
      | '\x7d' :: after => some (entries, after)
      | _ => none

/-- How deep arrays and inline tables may lie in one another. -/
def depthLimit : Nat := 80

/-- A value that lies at most so deep. -/
def value : Nat → Reader Value
  | 0, text =>
    match text with
    | [] => none
    | c :: _ =>
      if c == '[' || c == '\x7b' then none
      else if c == '"' || c == '\'' then
        (anyString text).map fun (content, rest) => (.text content, rest)
      else scalar text
  | depth + 1, text =>
    match text with
    | '[' :: rest =>
      (items (value depth) (text.length + 1) rest).map fun (content, after) =>
        (.array content, after)
    | '\x7b' :: rest =>
      (inlineEntries (value depth) (text.length + 1) [] rest).map fun (entries, after) =>
        (.table (Node.finishedEntries entries), after)
    | _ => value depth text

/-- A document read so far: its root, and the header that the next keys belong to. -/
structure Draft where
  root : Entries
  header : List String

def headerLine (repeated : Bool) (draft : Draft) (text : List Char) :
    Option (Draft × List Char) := do
  let ((path, last), rest) ← key text
  let rest ← match repeated, rest with
    | false, ']' :: after => some after
    | true, ']' :: ']' :: after => some after
    | _, _ => none
  let root ← if repeated then draft.root.addTable path last else draft.root.openTable path last
  let rest ← endLine rest
  some (⟨root, path ++ [last]⟩, rest)

def line (draft : Draft) (text : List Char) : Option (Draft × List Char) :=
  match skipSpaces text with
  | '[' :: '[' :: rest => headerLine true draft rest
  | '[' :: rest => headerLine false draft rest
  | start =>
    match endLine start with
    | some rest => some (draft, rest)
    | none => do
      let (((path, last), content), rest) ← assignment (some ∘ skipSpaces) (value depthLimit) start
      let root ← draft.root.assignUnder draft.header path last content
      let rest ← endLine rest
      some (⟨root, draft.header⟩, rest)

/-- The lines of a document, the number bounding their count. -/
def lines : Nat → Draft → List Char → Option Entries
  | _, draft, [] => some draft.root
  | 0, _, _ => none
  | bound + 1, draft, text => do
    let (draft, rest) ← line draft text
    lines bound draft rest

/-- Read a document, with or without a byte order mark in front. -/
def read (document : String) : Option (List (String × Value)) :=
  let text := match document.toList with
    | '\ufeff' :: rest => rest
    | text => text
  (lines (text.length + 1) ⟨[], []⟩ text).map Node.finishedEntries

end RunGate.Toml
