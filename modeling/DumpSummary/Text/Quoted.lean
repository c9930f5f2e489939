import DumpSummary.Text.Printable

/-!
# Quoted text

How messages show a text: between quotes, with every character that could be misread written as an escape.
A single quote is the usual delimiter; a text that holds one but no double quote is set in double quotes.

## Contents

* `hexDigits`: a code point in hexadecimal, padded;
* `quoted`: the quoted form.
-/

namespace DumpSummary.Text

/-- The number in lower-case hexadecimal, padded with zeros to the width. -/
def hexDigits (width n : Nat) : List Char :=
  let ds := Nat.toDigits 16 n
  List.replicate (width - ds.length) '0' ++ ds

/-- A character inside quotes: backslash and the delimiter are escaped, line feed, return and tab have names,
and a character that is not printable is shown by its code point. -/
def quotedChar (delimiter c : Char) : List Char :=
  if c == delimiter || c == '\\' then ['\\', c]
  else if c == '\n' then ['\\', 'n']
  else if c == '\r' then ['\\', 'r']
  else if c == '\t' then ['\\', 't']
  else if isPrintable c then [c]
  else if c.toNat < 0x100 then '\\' :: 'x' :: hexDigits 2 c.toNat
  else if c.toNat < 0x10000 then '\\' :: 'u' :: hexDigits 4 c.toNat
  else '\\' :: 'U' :: hexDigits 8 c.toNat

/-- The delimiter of a quoted text. -/
def quotedDelimiter (cs : List Char) : Char :=
  if cs.contains '\x27' && !cs.contains '\x22' then '\x22' else '\x27'

/-- A text between quotes, with escapes. -/
def quoted (s : String) : String :=
  let cs := s.toList
  let d := quotedDelimiter cs
  String.ofList (d :: cs.flatMap (quotedChar d) ++ [d])

end DumpSummary.Text
