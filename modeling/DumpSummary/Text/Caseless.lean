/-!
# Letters without case

Patterns that ignore case compare the characters of ASCII that letters stand for.
-/

namespace DumpSummary.Text

/-- The character of ASCII that a character stands for when case is ignored: letters become small, and the
long s, the Kelvin sign, the dotless i and the dotted capital I are the letters that they look like. -/
def caseless (c : Char) : Char :=
  let n := c.toNat
  if n == 0x17f then 's'
  else if n == 0x212a then 'k'
  else if n == 0x131 || n == 0x130 then 'i'
  else c.toLower

end DumpSummary.Text
