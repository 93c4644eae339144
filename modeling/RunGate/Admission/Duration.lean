import RunGate.Digits
import RunGate.Text.LowerCase

namespace RunGate

inductive DurationFault
  | empty
  | noUnit
  | noNumber
  | tooLarge (digits : String)
  | unknownUnit (name : String)
  | overflow (value : Nat)
deriving DecidableEq

def DurationFault.message : DurationFault → String
  | empty => "empty duration string"
  | noUnit => "duration missing unit suffix"
  | noNumber => "invalid duration number '': cannot parse integer from empty string"
  | tooLarge digits =>
    "invalid duration number '" ++ digits ++ "': number too large to fit in target type"
  | unknownUnit name => "unsupported duration unit '" ++ name ++ "'; expected ms, s, m, or h"
  | overflow value => "duration " ++ toString value ++ " overflows"

namespace Duration

/-- The largest number of 64 bits. Numbers are bounded by it, and so are minutes and hours in
seconds. -/
def limit : Nat := 18446744073709551615

/-- A number of seconds as milliseconds, if it is not too large. -/
def ofSeconds (value factor : Nat) : Except DurationFault Nat :=
  if value * factor ≤ limit then .ok (value * factor * 1000) else .error (.overflow value)

def inUnit (value : Nat) (unit : String) : Except DurationFault Nat :=
  if unit = "ms" then .ok value
  else if unit = "s" then .ok (value * 1000)
  else if unit = "m" then ofSeconds value 60
  else if unit = "h" then ofSeconds value 3600
  else .error (.unknownUnit unit)

/-- The milliseconds of the duration that a text gives. -/
def read (text : String) : Except DurationFault Nat :=
  let trimmed := Text.trim text.toList
  let digits := trimmed.takeWhile Char.isDigit
  let rest := trimmed.dropWhile Char.isDigit
  if trimmed.isEmpty then .error .empty
  else if rest.isEmpty then .error .noUnit
  else if digits.isEmpty then .error .noNumber
  else
    let value := Digits.value 10 digits
    if limit < value then .error (.tooLarge (String.ofList digits))
    else inUnit value (String.ofList (Text.lowerCase (Text.trim rest)))

end Duration

end RunGate
