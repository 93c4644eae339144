import RunGate.Decimal.Binary

namespace RunGate.Toml

/-- A value. A date or time is kept as its text. -/
inductive Value
  | text (value : String)
  /-- An integer of at most 128 bits. -/
  | integer (value : Int)
  | float (value : Decimal.Binary)
  /-- A word in the place of a number, for which there is none or only one that is too large. A
  document may hold it where nobody looks at it. -/
  | unreadable
  | boolean (value : Bool)
  | moment (text : String)
  | array (items : List Value)
  | table (entries : List (String × Value))

def fitsWord (value : Int) : Bool :=
  -9223372036854775808 ≤ value && value ≤ 9223372036854775807

/-- An integer of 128 bits, with a sign or without. -/
def fitsDoubleWords (value : Int) : Bool :=
  -170141183460469231731687303715884105728 ≤ value &&
    value ≤ 340282366920938463463374607431768211455

mutual

/-- Whether every value that holds no others passes a test. -/
def Value.every (test : Value → Bool) : Value → Bool
  | .array items => Value.everyItem test items
  | .table entries => Value.everyEntry test entries
  | single => test single

def Value.everyItem (test : Value → Bool) : List Value → Bool
  | [] => true
  | item :: rest => item.every test && Value.everyItem test rest

def Value.everyEntry (test : Value → Bool) : List (String × Value) → Bool
  | [] => true
  | (_, value) :: rest => value.every test && Value.everyEntry test rest

end

/-- Whether one can look at the value and at everything in it. -/
def Value.isReadable (value : Value) : Bool :=
  value.every fun
    | .unreadable => false
    | _ => true

/-- Whether the value can be kept: everything in it is readable and no integer takes more than 64
bits. -/
def Value.isKept (value : Value) : Bool :=
  value.every fun
    | .unreadable => false
    | .integer number => fitsWord number
    | _ => true

/-- A reader takes something off the front of a text, or refuses the text. -/
abbrev Reader (α : Type) := List Char → Option (α × List Char)

/-- Space and tab, the white space within a line. -/
def isSpace (c : Char) : Bool :=
  c == ' ' || c == '\t'

/-- What strings and comments may hold as it stands: anything but control characters, and tabs. -/
def isPlain (c : Char) : Bool :=
  c == '\t' || (' ' ≤ c && c != '\x7f')

def skipSpaces (text : List Char) : List Char :=
  text.dropWhile isSpace

def lineBreak : List Char → Option (List Char)
  | '\n' :: rest => some rest
  | '\r' :: '\n' :: rest => some rest
  | _ => none

/-- Drop white space, line breaks and comments, as between the items of an array. -/
def skipLines (inComment : Bool) : List Char → Option (List Char)
  | [] => some []
  | '\n' :: rest => skipLines false rest
  | '\r' :: '\n' :: rest => skipLines false rest
  | c :: rest =>
    if inComment then if isPlain c then skipLines true rest else none
    else if isSpace c then skipLines false rest
    else if c == '#' then skipLines true rest
    else some (c :: rest)

/-- The end of a line: white space, perhaps a comment, and a line break or the end of the text. -/
def endLine (text : List Char) : Option (List Char) :=
  let rest := match skipSpaces text with
    | '#' :: comment => comment.dropWhile isPlain
    | other => other
  if rest.isEmpty then some [] else lineBreak rest

end RunGate.Toml
