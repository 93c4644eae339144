import RunGate.Calendar.Instant
import RunGate.Text.Blank

/-! Reading of instants. The form is that of RFC 3339 with liberties: numbers may have white space
in front and fewer digits, the year may be signed, and the offset may be `UTC` or hold
separators. -/

namespace RunGate.Calendar

inductive ReadFault
  | invalid
  | premature
  | outOfRange
  | trailing
  | impossible
deriving DecidableEq

def ReadFault.message : ReadFault → String
  | invalid => "input contains invalid characters"
  | premature => "premature end of input"
  | outOfRange => "input is out of range"
  | trailing => "trailing input"
  | impossible => "no possible date and time matching input"

/-- A reader takes a value off the front of a text. -/
abbrev Reader (α : Type) := List Char → Except ReadFault (α × List Char)

/-- The digits in front of a text, at most `width` of them. -/
def digitsUpTo : Nat → List Char → List Char × List Char
  | width + 1, c :: rest =>
    if c.isDigit then
      let (digits, left) := digitsUpTo width rest
      (c :: digits, left)
    else ([], c :: rest)
  | _, text => ([], text)

/-- The largest number that a reader accepts before any check of its range. -/
def numberLimit : Nat := 9223372036854775807

/-- An unsigned number of at least one and at most `width` digits. -/
def number (width : Nat) : Reader Nat
  | [] => .error .premature
  | c :: rest =>
    if c.isDigit then
      let (digits, left) := digitsUpTo width (c :: rest)
      let value := Digits.value 10 digits
      if value ≤ numberLimit then .ok (value, left) else .error .outOfRange
    else .error .invalid

/-- A year: up to four digits, or any number of digits after a sign. -/
def year : Reader Int := fun text => do
  let (value, rest) ← match Text.trimLeft text with
    | '-' :: rest => do
      let (value, left) ← number rest.length rest
      pure (-(value : Int), left)
    | '+' :: rest => do
      let (value, left) ← number rest.length rest
      pure ((value : Int), left)
    | rest => do
      let (value, left) ← number 4 rest
      pure ((value : Int), left)
  if -2147483648 ≤ value && value ≤ 2147483647 then pure (value, rest) else throw .outOfRange

/-- A number of at most two digits between two bounds, white space in front allowed. -/
def field (low high : Nat) : Reader Nat := fun text => do
  let (value, rest) ← number 2 (Text.trimLeft text)
  if low ≤ value && value ≤ high then pure (value, rest) else throw .outOfRange

/-- One given character, white space in front allowed. -/
def mark (c : Char) : Reader Unit := fun text =>
  match Text.trimLeft text with
  | [] => .error .premature
  | first :: rest => if first == c then .ok ((), rest) else .error .invalid

/-- The letter T in either case, or a space, between date and time. -/
def dateTimeMark : Reader Unit
  | [] => .error .premature
  | c :: rest => if c == 'T' || c == 't' || c == ' ' then .ok ((), rest) else .error .invalid

/-- The fraction of a second in nanoseconds, if there is one; digits past the ninth are dropped. -/
def fraction : Reader Nat
  | '.' :: rest => do
    let (_, left) ← number 9 rest
    let digits := (digitsUpTo 9 rest).1
    pure (Digits.value 10 digits * Nat.pow 10 (9 - digits.length), left.dropWhile (·.isDigit))
  | text => .ok (0, text)

/-- Two digits; a text of a single byte is too short, whatever it holds. -/
def twoDigits : Reader Nat
  | [] => .error .premature
  | [c] => if c.utf8Size == 1 then .error .premature else .error .invalid
  | tens :: ones :: rest =>
    if tens.isDigit && ones.isDigit then .ok (Digits.value 10 [tens, ones], rest)
    else .error .invalid

/-- A sign, the true minus sign among them: whether it is negative. -/
def sign : Reader Bool
  | [] => .error .premature
  | c :: rest =>
    if c == '+' then .ok (false, rest)
    else if c == '-' || c == '−' then .ok (true, rest)
    else .error .invalid

/-- A sign, hours and minutes: the seconds by which local time is ahead. -/
def signedOffset : Reader Int := fun text => do
  let (negative, rest) ← sign text
  let (hours, rest) ← twoDigits rest
  let rest := rest.dropWhile fun c => c == ':' || Text.isBlank c
  let (minutes, rest) ← twoDigits rest
  if 60 ≤ minutes then throw .outOfRange
  let seconds : Int := hours * 3600 + minutes * 60
  pure (if negative then -seconds else seconds, rest)

/-- The seconds by which local time is ahead of universal time. -/
def offset : Reader Int := fun text =>
  match text with
  | 'Z' :: rest => .ok (0, rest)
  | 'z' :: rest => .ok (0, rest)
  | a :: b :: c :: rest =>
    if a.toUpper == 'U' && b.toUpper == 'T' && c.toUpper == 'C' then .ok (0, rest)
    else signedOffset text
  | _ => signedOffset text

/-- A local date and time. The sixtieth second of a minute is kept as a second with more than
10⁹ nanoseconds. -/
structure LocalTime where
  date : Date
  hour : Nat
  minute : Nat
  second : Nat
  nano : Nat

def localTime : Reader LocalTime := fun text => do
  let (year, rest) ← year text
  let (_, rest) ← mark '-' rest
  let (month, rest) ← field 1 12 rest
  let (_, rest) ← mark '-' rest
  let (day, rest) ← field 1 31 rest
  let (_, rest) ← dateTimeMark rest
  let (hour, rest) ← field 0 23 rest
  let (_, rest) ← mark ':' rest
  let (minute, rest) ← field 0 59 rest
  let (_, rest) ← mark ':' rest
  let (second, rest) ← field 0 60 rest
  let (nano, rest) ← fraction rest
  pure (⟨⟨year, month, day⟩, hour, minute, second, nano⟩, Text.trimLeft rest)

/-- The instant at which clocks that are `ahead` seconds ahead of universal time show this time. -/
def LocalTime.instant (time : LocalTime) (ahead : Int) : Except ReadFault Instant := do
  unless time.date.isReal && Date.inRange time.date.number do throw .outOfRange
  unless -86400 < ahead && ahead < 86400 do throw .outOfRange
  let leap := decide (time.second = 60)
  let clock : Int := time.hour * 3600 + time.minute * 60 + (if leap then 59 else time.second)
  let shifted := clock - ahead
  let day := time.date.number + shifted / 86400
  unless Date.inRange day do throw .impossible
  pure ⟨day, (shifted % 86400).toNat, time.nano + (if leap then 1000000000 else 0)⟩

def instant (text : List Char) : Except ReadFault Instant := do
  let (time, rest) ← localTime text
  let (ahead, rest) ← offset rest
  unless (Text.trimLeft rest).isEmpty do throw .trailing
  time.instant ahead

end RunGate.Calendar

namespace RunGate

def Instant.read (text : String) : Except Calendar.ReadFault Instant :=
  Calendar.instant text.toList

end RunGate
