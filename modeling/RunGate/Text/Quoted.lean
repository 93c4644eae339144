import RunGate.Text.Property

/-! Texts in double quotes, with everything that would not show as itself written as an escape. -/

namespace RunGate.Text

/-- A code point as `\u` and its hexadecimal digits in braces. -/
def codeEscape (c : Char) : List Char :=
  ['\\', 'u', '\x7b'] ++ Nat.toDigits 16 c.toNat ++ ['\x7d']

/-- Letters that do not show: the fillers of Hangul syllables. -/
def hangulFillers : List Char := ['\u115f', '\u1160', '\u3164', '\uffa0']

/-- Marks that extend the letter before them but stand beside it: the halfwidth sound marks of
Katakana. -/
def soundMarks : List Char := ['\uff9e', '\uff9f']

/-- Whether a character would not show, or not show as a character of its own. -/
def isHidden (c : Char) : Bool :=
  unprintableRanges.has c || hangulFillers.contains c ||
    (graphemeExtendRanges.has c && !soundMarks.contains c)

def quoteChar (c : Char) : List Char :=
  if c == '\x00' then ['\\', '0']
  else if c == '\t' then ['\\', 't']
  else if c == '\n' then ['\\', 'n']
  else if c == '\r' then ['\\', 'r']
  else if c == '"' || c == '\\' then ['\\', c]
  else if isHidden c then codeEscape c
  else [c]

def quoted (text : String) : String :=
  String.ofList ('"' :: text.toList.flatMap quoteChar ++ ['"'])

def quotedList (texts : List String) : String :=
  "[" ++ ", ".intercalate (texts.map quoted) ++ "]"

end RunGate.Text
