import RunGate.Toml.Value
import RunGate.Calendar.Date
import RunGate.Digits

namespace RunGate.Toml

/-- A sign in front: whether it is negative, and the rest. -/
def signed : List Char → Bool × List Char
  | '-' :: rest => (true, rest)
  | '+' :: rest => (false, rest)
  | text => (false, text)

def ungrouped (text : List Char) : List Char :=
  text.filter (· != '_')

/-- Whether every underscore stands between digits, given the character in front of the text. -/
def isGroupedAfter (isDigit : Char → Bool) (before : Char) : List Char → Bool
  | [] => before != '_'
  | c :: rest =>
    (c != '_' || isDigit before) && (before != '_' || isDigit c) && isGroupedAfter isDigit c rest

def isGrouped (isDigit : Char → Bool) (text : List Char) : Bool :=
  isGroupedAfter isDigit ' ' text

/-- The integer that a row of digits stands for. There is none for a row without digits or with
other characters in it. -/
def integerOf (base : Nat) (isDigit : Char → Bool) (negative : Bool) (digits : List Char) :
    Value :=
  let magnitude : Int := Digits.value base digits
  let value := if negative then -magnitude else magnitude
  if !digits.isEmpty && digits.all isDigit && fitsDoubleWords value then .integer value
  else .unreadable

/-- An integer after the mark of its base. The digits may be left off. -/
def markedInteger? (base : Nat) (isDigit : Char → Bool) (text : List Char) : Option Value :=
  if text.all (fun c => isDigit c || c == '_') && isGrouped Digits.isHex text then
    some (integerOf base isDigit false (ungrouped text))
  else none

/-- What tells a floating-point number from an integer. -/
def isFloatMark (c : Char) : Bool :=
  c == '.' || c == 'e' || c == 'E'

/-- An integer in decimal, without needless zeros in front. After the first underscore anything
without a space will do that is grouped like the digits of an integer in some base. -/
def decimalInteger? (text : List Char) : Option Value :=
  let (negative, magnitude) := signed text
  let rest := magnitude.dropWhile Char.isDigit
  let grouped := rest.head? == some '_' && !rest.contains ' ' && !rest.any isFloatMark &&
    isGrouped Digits.isHex magnitude
  if magnitude == ['0'] then some (.integer 0)
  else if magnitude.isEmpty || magnitude.head? == some '0' then none
  else if rest.isEmpty || grouped then
    some (integerOf 10 Char.isDigit negative (ungrouped magnitude))
  else none

/-- An integer in decimal, or without a sign in hexadecimal, octal or binary. -/
def integer? : List Char → Option Value
  | '0' :: 'x' :: rest => markedInteger? 16 Digits.isHex rest
  | '0' :: 'o' :: rest => markedInteger? 8 (fun c => '0' ≤ c && c ≤ '7') rest
  | '0' :: 'b' :: rest => markedInteger? 2 (fun c => c == '0' || c == '1') rest
  | text => decimalInteger? text

/-- Digits and underscores, of which a number is made but for its marks and signs. -/
def isWhole (c : Char) : Bool :=
  c.isDigit || c == '_'

/-- The value of the digits of an exponent. Once it reaches 65536, far beyond every finite number,
further digits are left out. -/
def powerOf (digits : List Char) : Nat :=
  digits.foldl (fun power digit =>
    if power < 65536 then 10 * power + Digits.digitValue digit else power) 0

/-- The power of ten after the letter E; no letter stands for the power 0. -/
def exponent? : List Char → Option Int
  | [] => some 0
  | e :: rest => do
    if e != 'e' && e != 'E' then none
    let (negative, rest) := signed rest
    let digits := ungrouped rest
    if digits.isEmpty || !rest.all isWhole then none
    let power : Int := powerOf digits
    some (if negative then -power else power)

/-- The digits after the point, if there is one, and the rest. -/
def places? : List Char → Option (List Char × List Char)
  | '.' :: rest =>
    let places := ungrouped (rest.takeWhile isWhole)
    if places.isEmpty then none else some (places, rest.dropWhile isWhole)
  | text => some ([], text)

/-- A floating-point number: it has a fraction or an exponent, or is infinite or no number. -/
def float? (text : List Char) : Option Value := do
  let (negative, magnitude) := signed text
  if magnitude == ['i', 'n', 'f'] then some (.float (.infinite negative))
  else if magnitude == ['n', 'a', 'n'] then some (.float .nan)
  else if !magnitude.any isFloatMark || !isGrouped Char.isDigit magnitude then none
  else
    let whole := ungrouped (magnitude.takeWhile isWhole)
    if whole.isEmpty || (2 ≤ whole.length && magnitude.head? == some '0') then none
    let (places, rest) ← places? (magnitude.dropWhile isWhole)
    let power ← exponent? rest
    let digits := Digits.value 10 (whole ++ places)
    match Decimal.nearest negative digits (power - places.length) with
    | some number => some (.float number)
    | none => some .unreadable

/-- The number of exactly so many digits, within two bounds. -/
def fixedNumber (width low high : Nat) (text : List Char) : Option (Nat × List Char) :=
  let digits := text.take width
  if digits.length == width && digits.all Char.isDigit then
    let value := Digits.value 10 digits
    if low ≤ value && value ≤ high then some (value, text.drop width) else none
  else none

def datePart : Reader String := fun text => do
  let (year, rest) ← fixedNumber 4 0 9999 text
  let '-' :: rest := rest | none
  let (month, rest) ← fixedNumber 2 1 12 rest
  let '-' :: rest := rest | none
  let (day, rest) ← fixedNumber 2 1 (Calendar.daysInMonth year month) rest
  some (Digits.padded 4 year ++ "-" ++ Digits.padded 2 month ++ "-" ++ Digits.padded 2 day, rest)

/-- The fraction of a second, to nine digits and without zeros at its end. -/
def fractionPart : Reader String
  | '.' :: rest =>
    let digits := rest.takeWhile Char.isDigit
    if digits.isEmpty then none
    else
      let kept := ((digits.take 9).reverse.dropWhile (· == '0')).reverse
      some (if kept.isEmpty then "" else String.ofList ('.' :: kept), rest.dropWhile Char.isDigit)
  | text => some ("", text)

/-- A time of day; the seconds may be left off. -/
def timePart : Reader String := fun text => do
  let (hour, rest) ← fixedNumber 2 0 23 text
  let ':' :: rest := rest | none
  let (minute, rest) ← fixedNumber 2 0 59 rest
  let (second, rest) ← match rest with
    | ':' :: more => do
      let (second, more) ← fixedNumber 2 0 60 more
      let (places, more) ← fractionPart more
      some (Digits.padded 2 second ++ places, more)
    | _ => some ("00", rest)
  some (Digits.padded 2 hour ++ ":" ++ Digits.padded 2 minute ++ ":" ++ second, rest)

/-- The distance from universal time at the end of a text, if there is one; no distance at all has
a plus sign. -/
def offsetPart : List Char → Option String
  | [] => some ""
  | ['Z'] => some "Z"
  | ['z'] => some "Z"
  | mark :: rest => do
    if mark != '+' && mark != '-' then none
    let (hours, rest) ← fixedNumber 2 0 23 rest
    let ':' :: rest := rest | none
    let (minutes, rest) ← fixedNumber 2 0 59 rest
    if !rest.isEmpty then none
    let mark := if hours = 0 ∧ minutes = 0 then '+' else mark
    some (String.ofList [mark] ++ Digits.padded 2 hours ++ ":" ++ Digits.padded 2 minutes)

/-- A date, a time of day, or both with or without a distance from universal time. -/
def moment? (text : List Char) : Option Value :=
  match datePart text with
  | some (date, []) => some (.moment date)
  | some (date, mark :: rest) => do
    if mark != 'T' && mark != 't' && mark != ' ' then none
    let (time, rest) ← timePart rest
    let ahead ← offsetPart rest
    some (.moment (date ++ "T" ++ time ++ ahead))
  | none => do
    let (time, rest) ← timePart text
    if rest.isEmpty then some (.moment time) else none

def words? (text : List Char) : Option Value :=
  if text == ['t', 'r', 'u', 'e'] then some (.boolean true)
  else if text == ['f', 'a', 'l', 's', 'e'] then some (.boolean false)
  else integer? text <|> float? text <|> moment? text

/-- Characters that end a value without quotes. White space alone does not. -/
def endsWords (c : Char) : Bool :=
  ['\n', '\r', ',', '=', '[', ']', '\x7b', '\x7d', '#'].contains c

/-- The words in front of a text with the white space between them, and the rest. -/
def wordsText (text : List Char) : List Char × List Char :=
  let run := text.takeWhile fun c => !endsWords c
  let words := (run.reverse.dropWhile isSpace).reverse
  (words, text.drop words.length)

/-- Whether a string begins after white space. -/
def holdsString : List Char → Bool
  | first :: second :: rest =>
    isSpace first && (second == '"' || second == '\'') || holdsString (second :: rest)
  | _ => false

/-- A value without quotes in front of a text. -/
def scalar : Reader Value := fun text => do
  let (words, rest) := wordsText text
  if holdsString words then none
  let value ← words? words
  some (value, rest)

end RunGate.Toml
