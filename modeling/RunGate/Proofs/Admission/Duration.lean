import Mathlib.Data.List.Induction
import RunGate.Admission.Duration
import RunGate.Proofs.Text.Bytes
import RunGate.Proofs.Text.Folding

/-! The texts that give durations, said without the order in which they are read: exactly these are
accepted. Read by bytes and in words of 64 bits they come to the same, since digits are of one byte each
and every product that leaves the words is refused. -/

namespace RunGate

inductive TimeUnit
  | millisecond
  | second
  | minute
  | hour
deriving DecidableEq

namespace TimeUnit

def name : TimeUnit → String
  | millisecond => "ms"
  | second => "s"
  | minute => "m"
  | hour => "h"

def millis : TimeUnit → Nat
  | millisecond => 1
  | second => 1000
  | minute => 60000
  | hour => 3600000

/-- What a number of units is multiplied by when it is read: minutes and hours are turned into
seconds. -/
def factor : TimeUnit → Nat
  | millisecond | second => 1
  | minute => 60
  | hour => 3600

end TimeUnit

namespace Duration

variable {text : String} {digits rest : List Char} {value millis : Nat} {name : String}

/-- The longest row of decimal digits at the front of a text, and what follows it, both without the
white space around the text. -/
structure Parts (text digits rest : List Char) : Prop where
  stripped : Text.Stripped text (digits ++ rest)
  decimal : ∀ c ∈ digits, c.isDigit = true
  longest : ∀ c ∈ rest.head?, c.isDigit = false

/-- A text gives a number of milliseconds: it is a number, of one digit at least, and the name of a unit
in whichever case, with white space around it or none. The number fits in 64 bits, and so do the seconds
that minutes and hours are turned into. -/
inductive Gives (text : String) : Nat → Prop
  | intro {digits rest word : List Char} (unit : TimeUnit) (parts : Parts text.toList digits rest)
      (present : digits ≠ []) (fits : Digits.value 10 digits < UInt64.size)
      (ends : Text.Stripped rest word) (named : Text.lowerCase word = unit.name.toList)
      (secondsFit : Digits.value 10 digits * unit.factor < UInt64.size) :
      Gives text (Digits.value 10 digits * unit.millis)

private theorem exists_parts (text : List Char) : ∃ digits rest, Parts text digits rest := by
  refine ⟨(Text.trim text).takeWhile Char.isDigit, (Text.trim text).dropWhile Char.isDigit,
    ?_, fun c => List.mem_takeWhile_imp, fun c first => ?_⟩
  · rw [List.takeWhile_append_dropWhile]
    exact Text.stripped_trim text
  · have stopped := List.head?_dropWhile_not Char.isDigit (Text.trim text)
    rwa [Option.mem_def.mp first] at stopped

namespace Parts

variable {text : List Char}

private theorem takeWhile_eq (parts : Parts text digits rest) :
    (digits ++ rest).takeWhile Char.isDigit = digits := by
  rw [List.takeWhile_append_of_pos parts.decimal]
  cases rest with
  | nil => simp
  | cons c rest => simp [parts.longest c rfl]

private theorem dropWhile_eq (parts : Parts text digits rest) :
    (digits ++ rest).dropWhile Char.isDigit = rest := by
  rw [List.dropWhile_append_of_pos parts.decimal]
  cases rest with
  | nil => rfl
  | cons c rest => simp [parts.longest c rfl]

end Parts

private theorem Parts.read_eq (parts : Parts text.toList digits rest) :
    read text =
      if digits ++ rest = [] then .error .empty
      else if rest = [] then .error .noUnit
      else if digits = [] then .error .noNumber
      else if limit < Digits.value 10 digits then .error (.tooLarge (String.ofList digits))
      else inUnit (Digits.value 10 digits)
        (String.ofList (Text.lowerCase (Text.trim rest))) := by
  simp only [read, Text.stripped_iff.mp parts.stripped, parts.takeWhile_eq, parts.dropWhile_eq,
    List.isEmpty_iff]

private theorem le_limit_iff : value ≤ limit ↔ value < UInt64.size := Nat.lt_succ_iff.symm

private theorem ofSeconds_eq_ok_iff {factor : Nat} :
    ofSeconds value factor = .ok millis ↔
      value * factor < UInt64.size ∧ millis = value * (factor * 1000) := by
  rw [ofSeconds, ← le_limit_iff, ← Nat.mul_assoc]
  by_cases fits : value * factor ≤ limit
  · rw [if_pos fits, Except.ok.injEq, and_iff_right fits, eq_comm]
  · rw [if_neg fits]
    exact iff_of_false nofun fun both => fits both.1

private theorem inUnit_eq_ok_iff (fits : value < UInt64.size) :
    inUnit value name = .ok millis ↔ ∃ unit : TimeUnit, name = unit.name ∧
      value * unit.factor < UInt64.size ∧ millis = value * unit.millis := by
  constructor
  · intro given
    unfold inUnit at given
    split at given
    · cases given
      exact ⟨.millisecond, ‹_›, by simpa [TimeUnit.factor], by simp [TimeUnit.millis]⟩
    split at given
    · cases given
      exact ⟨.second, ‹_›, by simpa [TimeUnit.factor], rfl⟩
    split at given
    · exact ⟨.minute, ‹_›, ofSeconds_eq_ok_iff.mp given⟩
    split at given
    · exact ⟨.hour, ‹_›, ofSeconds_eq_ok_iff.mp given⟩
    · cases given
  · intro given
    obtain ⟨unit, rfl, secondsFit, rfl⟩ := given
    cases unit with
    | millisecond => simp [inUnit, TimeUnit.name, TimeUnit.millis]
    | second => rfl
    | minute => exact ofSeconds_eq_ok_iff.mpr ⟨secondsFit, rfl⟩
    | hour => exact ofSeconds_eq_ok_iff.mpr ⟨secondsFit, rfl⟩

theorem read_eq_ok_iff : read text = .ok millis ↔ Gives text millis := by
  constructor
  · intro accepted
    obtain ⟨digits, rest, parts⟩ := exists_parts text.toList
    rw [parts.read_eq] at accepted
    split at accepted
    · cases accepted
    split at accepted
    · cases accepted
    split at accepted
    · cases accepted
    split at accepted
    · cases accepted
    · rename_i present inside
      have fits := le_limit_iff.mp (Nat.not_lt.mp inside)
      obtain ⟨unit, named, secondsFit, rfl⟩ := (inUnit_eq_ok_iff fits).mp accepted
      have lowered : Text.lowerCase (Text.trim rest) = unit.name.toList := by
        rw [← named, String.toList_ofList]
      exact .intro unit parts present fits (Text.stripped_trim rest) lowered secondsFit
  · intro gives
    cases gives with
    | @intro digits rest word unit parts present fits ends named secondsFit =>
      have whole : digits ++ rest ≠ [] := by simp [present]
      have written : rest ≠ [] := by
        intro nothing
        rw [← Text.stripped_iff.mp ends, nothing] at named
        cases unit <;> cases named
      have inside : ¬limit < Digits.value 10 digits := Nat.not_lt.mpr (le_limit_iff.mpr fits)
      rw [parts.read_eq, if_neg whole, if_neg written, if_neg present, if_neg inside,
        Text.stripped_iff.mp ends, named, String.ofList_toList]
      exact (inUnit_eq_ok_iff fits).mpr ⟨unit, rfl, secondsFit, rfl⟩

/-- The sum of two words, if it is a word. -/
def sum? (first second : UInt64) : Option UInt64 :=
  if first.toNat + second.toNat < UInt64.size then some (first + second) else none

/-- The product of two words, if it is a word. -/
def product? (first second : UInt64) : Option UInt64 :=
  if first.toNat * second.toNat < UInt64.size then some (first * second) else none

/-- The word that a row of decimal digits gives, digit by digit, if none of the steps leaves the words. -/
def wordOf? (digits : List Char) : Option UInt64 :=
  digits.foldlM (fun value c => do sum? (← product? value 10) (.ofNat (Digits.digitValue c))) 0

/-- A span of time in words: whole seconds, and the nanoseconds past them. -/
structure Span where
  seconds : UInt64
  nanos : UInt32

namespace Span

def ofMillis (value : UInt64) : Span := ⟨value / 1000, (value % 1000).toUInt32 * 1000000⟩

def ofSeconds (value : UInt64) : Span := ⟨value, 0⟩

def nanoseconds (span : Span) : Nat := span.seconds.toNat * 1000000000 + span.nanos.toNat

private theorem nanoseconds_ofMillis (value : UInt64) :
    (ofMillis value).nanoseconds = value.toNat * 1000000 := by
  have nanos : ((value % 1000).toUInt32 * 1000000).toNat = value.toNat % 1000 * 1000000 := by
    have below : value.toNat % 1000 < 1000 := Nat.mod_lt _ (by decide)
    simp
    omega
  rw [nanoseconds, ofMillis, nanos]
  simp
  omega

private theorem nanoseconds_ofSeconds (value : UInt64) :
    (ofSeconds value).nanoseconds = value.toNat * 1000000000 := by
  simp [nanoseconds, ofSeconds]

end Span

private theorem product?_ofNat {factor : Nat} (fits : value < UInt64.size)
    (small : factor < UInt64.size) :
    product? (.ofNat value) (.ofNat factor) =
      if value * factor < UInt64.size then some (.ofNat (value * factor)) else none := by
  rw [product?, UInt64.toNat_ofNat_of_lt' fits, UInt64.toNat_ofNat_of_lt' small, UInt64.ofNat_mul]

private theorem sum?_ofNat {other : Nat} (fits : value < UInt64.size)
    (small : other < UInt64.size) :
    sum? (.ofNat value) (.ofNat other) =
      if value + other < UInt64.size then some (.ofNat (value + other)) else none := by
  rw [sum?, UInt64.toNat_ofNat_of_lt' fits, UInt64.toNat_ofNat_of_lt' small, UInt64.ofNat_add]

private theorem wordOf?_eq (decimal : ∀ c ∈ digits, c.isDigit = true) :
    wordOf? digits = if Digits.value 10 digits < UInt64.size
      then some (.ofNat (Digits.value 10 digits)) else none := by
  induction digits using List.reverseRecOn with
  | nil => rfl
  | append_singleton digits c ih =>
    have digit := Digits.digitValue_lt_ten (decimal c (by simp))
    have sofar := ih fun c member => decimal c (List.mem_append_left _ member)
    have joined : wordOf? (digits ++ [c]) = wordOf? digits >>= fun value =>
        product? value (.ofNat 10) >>= fun shifted => sum? shifted (.ofNat (Digits.digitValue c)) := by
      simp [wordOf?, List.foldlM_append]
    rw [joined, sofar, Digits.value_append_singleton, Nat.mul_comm 10]
    generalize Digits.value 10 digits = value, Digits.digitValue c = last at digit
    have ten : 10 < UInt64.size := by decide
    by_cases fits : value < UInt64.size
    · rw [if_pos fits, Option.bind_eq_bind, Option.bind_some, product?_ofNat fits ten]
      by_cases shifted : value * 10 < UInt64.size
      · rw [if_pos shifted, Option.bind_some,
          sum?_ofNat shifted (Nat.lt_trans digit ten)]
      · rw [if_neg shifted, if_neg fun all => shifted (Nat.lt_of_le_of_lt (Nat.le_add_right ..) all)]
        rfl
    · rw [if_neg fits, if_neg fun all => fits (by omega)]
      rfl

/-- Seconds that so many longer units come to, in words. -/
def secondsInWords (value factor : UInt64) : Except DurationFault Span :=
  match product? value factor with
  | some seconds => .ok (.ofSeconds seconds)
  | none => .error (.overflow value.toNat)

/-- The span of so many units of that name, in words. -/
def unitInWords (value : UInt64) (name : String) : Except DurationFault Span :=
  if name = "ms" then .ok (.ofMillis value)
  else if name = "s" then .ok (.ofSeconds value)
  else if name = "m" then secondsInWords value 60
  else if name = "h" then secondsInWords value 3600
  else .error (.unknownUnit name)

/-- The span that a text gives, read by bytes and in words. The characters before the first one that is
no digit are counted, and the text is cut after so many bytes; there is no result if that would cut a
character apart. -/
def readInWords (text : String) : Option (Except DurationFault Span) :=
  let trimmed := Text.trim text.toList
  if trimmed.isEmpty then some (.error .empty)
  else
    match trimmed.findIdx? (!·.isDigit) with
    | none => some (.error .noUnit)
    | some place => do
      let (number, rest) ← Text.cutAt? (String.ofList trimmed) place
      if number.isEmpty then some (.error .noNumber)
      else
        match wordOf? number.toList with
        | none => some (.error (.tooLarge number))
        | some value =>
          some (unitInWords value (String.ofList (Text.lowerCase (Text.trim rest.toList))))

private theorem secondsInWords_eq {factor : Nat} (fits : value < UInt64.size)
    (small : factor < UInt64.size) :
    (secondsInWords (.ofNat value) (.ofNat factor)).map Span.nanoseconds =
      (ofSeconds value factor).map (· * 1000000) := by
  rw [secondsInWords, product?_ofNat fits small, ofSeconds]
  simp only [le_limit_iff]
  by_cases within : value * factor < UInt64.size
  · rw [if_pos within, if_pos within]
    simp only [Except.map, Span.nanoseconds_ofSeconds, UInt64.toNat_ofNat_of_lt' within,
      Nat.mul_assoc, Nat.reduceMul]
  · rw [if_neg within, if_neg within]
    simp only [Except.map, UInt64.toNat_ofNat_of_lt' fits]

private theorem unitInWords_eq (fits : value < UInt64.size) :
    (unitInWords (.ofNat value) name).map Span.nanoseconds =
      (inUnit value name).map (· * 1000000) := by
  unfold unitInWords inUnit
  split
  · simp only [Except.map, Span.nanoseconds_ofMillis, UInt64.toNat_ofNat_of_lt' fits]
  split
  · simp only [Except.map, Span.nanoseconds_ofSeconds, UInt64.toNat_ofNat_of_lt' fits,
      Nat.mul_assoc, Nat.reduceMul]
  split
  · exact secondsInWords_eq fits (by decide)
  split
  · exact secondsInWords_eq fits (by decide)
  · rfl

namespace Parts

variable {text : List Char}

private theorem utf8ByteSize_eq (parts : Parts text digits rest) :
    (String.ofList digits).utf8ByteSize = digits.length := by
  refine Text.utf8ByteSize_of_narrow fun c member => ?_
  have decimal := parts.decimal c member
  simp only [Char.isDigit, Bool.and_eq_true, decide_eq_true_eq] at decimal
  exact Char.utf8Size_eq_one_iff.mpr (UInt32.le_trans decimal.2 (by decide))

private theorem cutAt?_eq (parts : Parts text digits rest) :
    Text.cutAt? (String.ofList (digits ++ rest)) digits.length =
      some (String.ofList digits, String.ofList rest) := by
  rw [← parts.utf8ByteSize_eq, String.ofList_append, Text.cutAt?_append]

private theorem findIdx?_eq (parts : Parts text digits rest) :
    (digits ++ rest).findIdx? (!·.isDigit) = if rest = [] then none else some digits.length := by
  have none : digits.findIdx? (!·.isDigit) = none := by
    simpa [List.findIdx?_eq_none_iff] using parts.decimal
  rw [List.findIdx?_append, none]
  cases rest with
  | nil => rfl
  | cons c rest => simp [List.findIdx?_cons, parts.longest c rfl]

end Parts

private theorem Parts.readInWords_eq (parts : Parts text.toList digits rest) :
    readInWords text = some (
      if digits ++ rest = [] then .error .empty
      else if rest = [] then .error .noUnit
      else if digits = [] then .error .noNumber
      else if limit < Digits.value 10 digits then .error (.tooLarge (String.ofList digits))
      else unitInWords (.ofNat (Digits.value 10 digits))
        (String.ofList (Text.lowerCase (Text.trim rest)))) := by
  simp only [readInWords, Text.stripped_iff.mp parts.stripped, parts.findIdx?_eq, List.isEmpty_iff]
  by_cases whole : digits ++ rest = []
  · rw [if_pos whole, if_pos whole]
  rw [if_neg whole, if_neg whole]
  by_cases written : rest = []
  · rw [if_pos written, if_pos written]
  rw [if_neg written, if_neg written]
  simp only [parts.cutAt?_eq, Option.bind_eq_bind, Option.bind_some]
  by_cases present : digits = []
  · simp [present]
  · have named : (String.ofList digits).isEmpty = false := by simpa using present
    rw [named, if_neg present, String.toList_ofList, wordOf?_eq parts.decimal]
    simp only [← le_limit_iff, ← Nat.not_lt, String.toList_ofList]
    by_cases beyond : limit < Digits.value 10 digits <;> simp [beyond]

/-- Reading by bytes and in words never cuts a character apart, and comes to what reading comes to. -/
theorem exists_readInWords (text : String) :
    ∃ result, readInWords text = some result ∧
      result.map Span.nanoseconds = (read text).map (· * 1000000) := by
  obtain ⟨digits, rest, parts⟩ := exists_parts text.toList
  refine ⟨_, parts.readInWords_eq, ?_⟩
  rw [parts.read_eq]
  split
  · rfl
  split
  · rfl
  split
  · rfl
  split
  · rfl
  · rename_i inside
    exact unitInWords_eq (le_limit_iff.mp (Nat.not_lt.mp inside))

/-- Where the first character is that is no digit, counted in characters, there is the first byte of a
character. -/
private theorem isValid_of_findIdx? {text : List Char} {place : Nat}
    (found : (Text.trim text).findIdx? (!·.isDigit) = some place) :
    (⟨place⟩ : String.Pos.Raw).IsValid (String.ofList (Text.trim text)) := by
  obtain ⟨digits, rest, parts⟩ := exists_parts text
  rw [Text.stripped_iff.mp parts.stripped] at found ⊢
  rw [parts.findIdx?_eq] at found
  split at found
  · cases found
  · cases found
    rw [← parts.utf8ByteSize_eq, String.ofList_append]
    exact String.Pos.Raw.isValid_iff_exists_append.mpr ⟨_, _, rfl, rfl⟩

/-- The names of units are read in plain letters of either case, and in no others. -/
theorem lowerCase_eq_name_iff {word : List Char} {unit : TimeUnit} :
    Text.lowerCase word = unit.name.toList ↔ word.map Char.toLower = unit.name.toList := by
  have plain : unit.name.toList.all (·.toNat < 0x80) = true := by cases unit <;> decide
  refine Text.lowerCase_eq_iff (fun l member => ?_) (by cases unit <;> decide)
  exact of_decide_eq_true (List.all_eq_true.mp plain l member)

/-- Exactly the texts that give durations are read, each as what it gives, and all others are refused; the
lower case of all of Unicode lets in no other spelling of a unit than its plain letters in either case. The
count of the digits is a place between two characters when it is taken for a number of bytes; and read by
bytes and in words, a text comes to the same, to the nanosecond, without a character cut apart. -/
theorem reads_exactly (text : String) :
    (∀ millis, read text = .ok millis ↔ Gives text millis) ∧
    ((∃ fault, read text = .error fault) ↔ ¬∃ millis, Gives text millis) ∧
    (∀ (unit : TimeUnit) (word : List Char),
      Text.lowerCase word = unit.name.toList ↔ word.map Char.toLower = unit.name.toList) ∧
    (∀ place, (Text.trim text.toList).findIdx? (!·.isDigit) = some place →
      (⟨place⟩ : String.Pos.Raw).IsValid (String.ofList (Text.trim text.toList))) ∧
    ∃ result, readInWords text = some result ∧
      result.map Span.nanoseconds = (read text).map (· * 1000000) := by
  refine ⟨fun millis => read_eq_ok_iff, ?_, fun unit word => lowerCase_eq_name_iff,
    fun place => isValid_of_findIdx?, exists_readInWords text⟩
  simp only [← read_eq_ok_iff]
  cases read text <;> simp

/-- Seven hours, with white space on both sides of the unit. -/
theorem reads_exactly_hours :
    Gives "007\u2003H\n" 25200000 ∧
      (⟨3⟩ : String.Pos.Raw).IsValid (String.ofList (Text.trim "007\u2003H\n".toList)) := by
  obtain ⟨accepts, -, -, boundary, -⟩ := reads_exactly "007\u2003H\n"
  exact ⟨(accepts 25200000).mp (by decide +kernel), boundary 3 (by decide +kernel)⟩

end Duration

end RunGate
