import RunGate.Digits
import RunGate.Toml.Value

namespace RunGate.Toml

/-- The character whose code point stands in front of the text, in so many hexadecimal digits. -/
def codePoint (count : Nat) (text : List Char) : Option Char :=
  let digits := text.take count
  let code := Digits.value 16 digits
  if digits.length = count ∧ digits.all Digits.isHex ∧ code.isValidChar then some (Char.ofNat code)
  else none

/-- The character that an escape stands for, and how many characters follow the backslash. -/
def escape : List Char → Option (Char × Nat)
  | 'b' :: _ => some ('\x08', 1)
  | 't' :: _ => some ('\t', 1)
  | 'n' :: _ => some ('\n', 1)
  | 'f' :: _ => some ('\x0c', 1)
  | 'r' :: _ => some ('\r', 1)
  | 'e' :: _ => some ('\x1b', 1)
  | '"' :: _ => some ('"', 1)
  | '\\' :: _ => some ('\\', 1)
  | 'x' :: rest => (codePoint 2 rest).map fun c => (c, 3)
  | 'u' :: rest => (codePoint 4 rest).map fun c => (c, 5)
  | 'U' :: rest => (codePoint 8 rest).map fun c => (c, 9)
  | _ => none

/-- A basic string after its opening quote; the count says how many characters are left of an
escape that was already taken. -/
def basic : Nat → Reader (List Char)
  | _, [] => none
  | left + 1, _ :: rest => basic left rest
  | 0, '"' :: rest => some ([], rest)
  | 0, '\\' :: rest => do
    let (c, length) ← escape rest
    let (content, after) ← basic length rest
    some (c :: content, after)
  | 0, c :: rest => do
    if !isPlain c then none
    let (content, after) ← basic 0 rest
    some (c :: content, after)

def literal (text : List Char) : Option (List Char × List Char) :=
  match text.dropWhile fun c => isPlain c && c != '\'' with
  | '\'' :: rest => some (text.takeWhile fun c => isPlain c && c != '\'', rest)
  | _ => none

/-- How many characters of white space and line breaks stand in front. -/
def gapLength : List Char → Nat
  | '\n' :: rest => gapLength rest + 1
  | '\r' :: '\n' :: rest => gapLength rest + 2
  | c :: rest => if isSpace c then gapLength rest + 1 else 0
  | [] => 0

/-- Whether nothing but white space is left on this line. -/
def atLineEnd (text : List Char) : Bool :=
  (lineBreak (skipSpaces text)).isSome

/-- Three quotes end a string of several lines, and up to two more in front of them belong to it. -/
def closing (quote : Char) : Reader (List Char)
  | a :: b :: c :: rest =>
    if a == quote && b == quote && c == quote then
      match rest with
      | d :: e :: after =>
        if d == quote && e == quote then some ([quote, quote], after)
        else if d == quote then some ([quote], e :: after)
        else some ([], rest)
      | [d] => if d == quote then some ([quote], []) else some ([], rest)
      | [] => some ([], [])
    else none
  | _ => none

/-- A basic string of several lines after its opening quotes. A backslash at the end of a line joins
it to the next text. -/
def basicLines : Nat → Reader (List Char)
  | _, [] => none
  | left + 1, _ :: rest => basicLines left rest
  | 0, '\r' :: '\n' :: rest => do
    let (content, after) ← basicLines 0 rest
    some ('\r' :: '\n' :: content, after)
  | 0, c :: rest =>
    match closing '"' (c :: rest) with
    | some closed => some closed
    | none =>
      if c == '\\' then
        if atLineEnd rest then basicLines (gapLength rest) rest
        else do
          let (value, length) ← escape rest
          let (content, after) ← basicLines length rest
          some (value :: content, after)
      else if c == '\n' || isPlain c then do
        let (content, after) ← basicLines 0 rest
        some (c :: content, after)
      else none

/-- A literal string of several lines after its opening quotes. -/
def literalLines : Reader (List Char)
  | [] => none
  | '\r' :: '\n' :: rest => do
    let (content, after) ← literalLines rest
    some ('\r' :: '\n' :: content, after)
  | c :: rest =>
    match closing '\'' (c :: rest) with
    | some closed => some closed
    | none =>
      if c == '\n' || isPlain c then do
        let (content, after) ← literalLines rest
        some (c :: content, after)
      else none

/-- A line break right after the opening quotes is not part of the string. -/
def dropLineBreak (text : List Char) : List Char :=
  (lineBreak text).getD text

def shortString : Reader String
  | '"' :: rest => (basic 0 rest).map fun (content, after) => (String.ofList content, after)
  | '\'' :: rest => (literal rest).map fun (content, after) => (String.ofList content, after)
  | _ => none

def anyString (text : List Char) : Option (String × List Char) :=
  match text with
  | '"' :: '"' :: '"' :: rest =>
    (basicLines 0 (dropLineBreak rest)).map fun (content, after) => (String.ofList content, after)
  | '\'' :: '\'' :: '\'' :: rest =>
    (literalLines (dropLineBreak rest)).map fun (content, after) => (String.ofList content, after)
  | _ => shortString text

end RunGate.Toml
