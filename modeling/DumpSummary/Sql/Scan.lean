import DumpSummary.Sql.Token
import DumpSummary.Sql.Lexicon
import DumpSummary.Text.Blank
import DumpSummary.Text.Word
import DumpSummary.Text.Digit
import DumpSummary.Text.NameStart

/-!
# Reading SQL text as tokens

The text is read from left to right; each step takes one token, one comment or one blank off its head.  Only a
quoted run or a comment without an end makes the text unreadable.

## Contents

* `scanQuoted`, `scanString`: quoted runs;
* `scanNumber`: numbers;
* `scanOne`: the next token;
* `scan?`: all tokens of a text.
-/

namespace DumpSummary.Sql

open Text

/-! ## Quoted runs -/

/-- A run up to its closing character, which stands for itself when doubled; `none` without an end. -/
def scanQuoted (close : Char) : List Char → Option (List Char × List Char)
  | [] => none
  | [c] => if c = close then some ([], []) else none
  | c :: e :: cs =>
    if c = close then
      if e = close then (scanQuoted close cs).map fun r => (close :: r.1, r.2) else some ([], e :: cs)
    else (scanQuoted close (e :: cs)).map fun r => (c :: r.1, r.2)

/-- The character that a backslash escape stands for: the controls with a letter of their own, or the character
itself.  Before a pattern sign the backslash stays. -/
def backslashEscape (c : Char) : List Char :=
  if c = 'n' then ['\n']
  else if c = 't' then ['\t']
  else if c = 'r' then ['\r']
  else if c = '0' then ['\x00']
  else if c = 'b' then ['\x08']
  else if c = 'Z' then ['\x1a']
  else if c = '%' || c = '_' then ['\\', c]
  else [c]

/-- A run as `scanQuoted`, in which a backslash escapes the character after it. -/
def scanEscaped (close : Char) : List Char → Option (List Char × List Char)
  | [] => none
  | [c] => if c = close then some ([], []) else none
  | c :: e :: cs =>
    if c = close then
      if e = close then (scanEscaped close cs).map fun r => (close :: r.1, r.2) else some ([], e :: cs)
    else if c = '\\' then (scanEscaped close cs).map fun r => (backslashEscape e ++ r.1, r.2)
    else (scanEscaped close (e :: cs)).map fun r => (c :: r.1, r.2)

/-- The inside of a string after its opening quote. -/
def scanString (d : Dialect) (close : Char) (cs : List Char) : Option (List Char × List Char) :=
  if d = Dialect.mysql then scanEscaped close cs else scanQuoted close cs

/-- The text up to the first occurrence of a mark, and the text after the mark. -/
def scanUpTo (mark : List Char) : List Char → Option (List Char × List Char)
  | [] => none
  | c :: cs =>
    if mark.isPrefixOf (c :: cs) then some ([], (c :: cs).drop mark.length)
    else (scanUpTo mark cs).map fun r => (c :: r.1, r.2)

/-- The rest after a block comment whose opening has been read; comments of the same kind nest, `depth` of them
are open around it. -/
def skipBlock (depth : Nat) : List Char → Option (List Char)
  | [] => none
  | [_] => none
  | a :: b :: cs =>
    if a = '*' ∧ b = '/' then
      match depth with
      | 0 => some cs
      | n + 1 => skipBlock n cs
    else if a = '/' ∧ b = '*' then skipBlock (depth + 1) cs
    else skipBlock depth (b :: cs)

/-! ## Numbers -/

/-- The exponent of a number: its letter, a sign if a digit follows it, and digits. -/
def scanExponent : List Char → List Char × List Char
  | e :: s :: c :: cs =>
    if e = 'e' ∨ e = 'E' then
      if (s = '+' ∨ s = '-') ∧ c.isDigit then
        (e :: s :: (c :: cs).takeWhile Char.isDigit, (c :: cs).dropWhile Char.isDigit)
      else (e :: (s :: c :: cs).takeWhile Char.isDigit, (s :: c :: cs).dropWhile Char.isDigit)
    else ([], e :: s :: c :: cs)
  | e :: cs =>
    if e = 'e' ∨ e = 'E' then (e :: cs.takeWhile Char.isDigit, cs.dropWhile Char.isDigit) else ([], e :: cs)
  | [] => ([], [])

/-- The digits of a number with at most one point and at most one exponent, and the rest. -/
def scanDigits (cs : List Char) : List Char × List Char :=
  let whole := cs.takeWhile Char.isDigit
  let (fraction, rest) := match cs.dropWhile Char.isDigit with
    | '.' :: r => ('.' :: r.takeWhile Char.isDigit, r.dropWhile Char.isDigit)
    | r => ([], r)
  let (exponent, rest) := scanExponent rest
  -- a point may also follow the exponent when none stood before it
  let (tail, rest) :=
    if fraction.isEmpty ∧ ¬exponent.isEmpty then
      match rest with
      | '.' :: r => ('.' :: r.takeWhile Char.isDigit, r.dropWhile Char.isDigit)
      | r => ([], r)
    else ([], rest)
  (whole ++ fraction ++ exponent ++ tail, rest)

/-- The characters of a word: everything up to a blank or a mark. -/
def wordSpan (d : Dialect) (cs : List Char) : List Char × List Char :=
  (cs.takeWhile (fun c => !isBlank c && !isMark d c), cs.dropWhile (fun c => !isBlank c && !isMark d c))

/-- Whether the character is a digit of the base 2 or 16. -/
def isDigitOf (base : Nat) (c : Char) : Bool :=
  if base = 2 then c == '0' || c == '1'
  else c.isDigit || ('a' ≤ c && c ≤ 'f') || ('A' ≤ c && c ≤ 'F')

/-- A number at the head of a text that begins with a digit.  `0x` and `0b` begin a number of another base
where the dialect has them; a word that runs on from the digits is a token of its own, or, in MySQL, one word
with them. -/
def scanNumber (d : Dialect) (cs : List Char) : Token × List Char :=
  let other := match cs with
    | '0' :: x :: rest =>
      let (span, after) := wordSpan d rest
      if (x = 'x' ∨ x = 'X') ∧ d ≠ Dialect.oracle ∧ d ≠ Dialect.common then
        if span.all (isDigitOf 16) ∧ ¬span.isEmpty then
          some (Token.string .hexadecimalNumber (String.ofList span), after)
        else some (Token.name (String.ofList ('0' :: x :: span)), after)
      else if (x = 'b' ∨ x = 'B') ∧ d = Dialect.mysql then
        if span.all (isDigitOf 2) ∧ ¬span.isEmpty then some (Token.string .binary (String.ofList span), after)
        else some (Token.name (String.ofList ('0' :: x :: span)), after)
      else none
    | _ => none
  match other with
  | some r => r
  | none =>
    let (digits, rest) := scanDigits cs
    match rest with
    | c :: _ =>
      if isNameStart c ∧ d = Dialect.mysql then
        let (span, after) := wordSpan d rest
        (Token.ofWord (digits ++ span), after)
      else (.number (String.ofList digits), rest)
    | [] => (.number (String.ofList digits), rest)

/-! ## Words, phrases and signs -/

/-- Reads a phrase at the head of a text, in any case and with any blanks between its words; the rest. -/
def scanPhrase (phrase : List Char) (cs : List Char) : Option (List Char) :=
  match phrase with
  | [] => some cs
  | ' ' :: phrase =>
    match cs with
    | [] => none
    | c :: _ => if isBlank c then scanPhrase phrase (cs.dropWhile isBlank) else none
  | p :: phrase =>
    match cs with
    | [] => none
    | c :: cs => if upperChar c == [p] then scanPhrase phrase cs else none

/-- The first of some phrases that stands at the head of a text and is not continued by a word. -/
def scanPhrases (d : Dialect) (cs : List Char) : Option (Token × List Char) :=
  (phrases d).findSome? fun phrase =>
    match scanPhrase phrase.toList cs with
    | none => none
    | some rest =>
      match rest with
      | [] => some (.phrase phrase, [])
      | c :: _ => if isBlank c || marks.contains c then some (.phrase phrase, rest) else none

/-- The first of the signs of several characters that stands at the head of a text. -/
def scanSigns (d : Dialect) (cs : List Char) : Option (Token × List Char) :=
  (signs d).findSome? fun s =>
    if s.toList.isPrefixOf cs then some (.sign s, cs.drop s.length) else none

/-- The flavour of string that a letter before the quote announces. -/
def announcedKind? (d : Dialect) (c : Char) : Option StringKind :=
  if c = 'n' ∨ c = 'N' then some .national
  else if (c = 'x' ∨ c = 'X') ∧ d ≠ Dialect.sqlServer then some .hexadecimal
  else if (c = 'b' ∨ c = 'B') ∧ (d = Dialect.mysql ∨ d = Dialect.postgres) then some .binary
  else if (c = 'e' ∨ c = 'E') ∧ d = Dialect.postgres then some .escaped
  else none

/-- The closing bracket of a delimiter of a free-form string. -/
def closingOf (c : Char) : Char :=
  if c = '[' then ']' else if c = '(' then ')' else if c = '<' then '>' else if c = '\x7b' then '\x7d' else c

/-- The tag of a dollar-quoted string, after its first dollar sign, and the rest after the second. -/
def dollarTag? (cs : List Char) : Option (List Char × List Char) :=
  let tag := cs.takeWhile (fun c => c ≠ '$' && !isBlank c)
  match cs.dropWhile (fun c => c ≠ '$' && !isBlank c) with
  | '$' :: rest => if tag.isEmpty || !tag.all Text.isDigit then some (tag, rest) else none
  | _ => none

/-- What one step of the scanner finds. -/
inductive Lexeme
  /-- A token, and the rest. -/
  | token (t : Token) (rest : List Char)
  /-- A comment or a blank, and the rest after it. -/
  | gap (rest : List Char)
  /-- A quoted run or a comment without an end. -/
  | unterminated

/-- The result of reading a quoted run as a step. -/
def Lexeme.ofRun (make : String → Token) : Option (List Char × List Char) → Lexeme
  | some (text, rest) => .token (make (String.ofList text)) rest
  | none => .unterminated

/-- The step at the head of a text that begins with a character other than a blank or a digit. -/
def scanPlain (d : Dialect) (c : Char) (cs : List Char) : Lexeme :=
  match (nameQuotes d).lookup c with
  | some close => .ofRun .name (scanQuoted close cs)
  | none =>
    if (stringQuotes d).contains c then .ofRun (.string .plain) (scanString d c cs)
    else match c, cs with
      | '-', '-' :: rest => .gap (rest.dropWhile (· ≠ '\n'))
      | '/', '*' :: rest =>
        match skipBlock 0 rest with
        | some rest => .gap rest
        | none => .unterminated
      | '\x7b', '#' :: rest =>
        match scanUpTo ['#', '\x7d'] rest with
        | some r => .gap r.2
        | none => .unterminated
      | _, _ =>
        if c = '#' ∧ d = Dialect.mysql then .gap (cs.dropWhile (· ≠ '\n'))
        else
          match announcedKind? d c, cs with
          | some kind, '\x27' :: rest => .ofRun (.string kind) (scanString d '\x27' rest)
          | _, _ =>
            match d, c, cs with
            | .oracle, 'q', '\x27' :: open_ :: rest =>
              .ofRun (.string .plain) (scanUpTo [closingOf open_, '\x27'] rest)
            | .oracle, 'Q', '\x27' :: open_ :: rest =>
              .ofRun (.string .plain) (scanUpTo [closingOf open_, '\x27'] rest)
            | .postgres, '$', _ =>
              match dollarTag? cs with
              | some (tag, rest) => .ofRun (.string .plain) (scanUpTo ('$' :: tag ++ ['$']) rest)
              | none => .token (.sign "$") cs
            | _, _, _ =>
              match scanPhrases d (c :: cs), scanSigns d (c :: cs) with
              | some (t, rest), _ => .token t rest
              | none, some (t, rest) => .token t rest
              | none, none =>
                if c = '\x27' ∨ c = '\x22' ∨ c = '\x60' then .token (.stray c) cs
                else if marks.contains c then .token (.sign (String.singleton c)) cs
                else
                  let (span, rest) := wordSpan d cs
                  .token (Token.ofWord (c :: span)) rest

/-- The step at the head of a text. -/
def scanOne (d : Dialect) (c : Char) (cs : List Char) : Lexeme :=
  if isBlank c then .gap cs
  else if c.isDigit then
    let (t, rest) := scanNumber d (c :: cs)
    .token t rest
  else scanPlain d c cs

/-- The tokens of a text of at most `fuel` characters; `none` when a quoted run or a comment has no end. -/
def scanLoop (d : Dialect) : Nat → List Char → Option (List Token)
  | _, [] => some []
  | 0, _ => some []
  | fuel + 1, c :: cs =>
    match scanOne d c cs with
    | .token t rest => (scanLoop d fuel rest).map (t :: ·)
    | .gap rest => scanLoop d fuel rest
    | .unterminated => none

/-- The tokens of a text. -/
def scan? (d : Dialect) (text : String) : Option (List Token) :=
  let cs := text.toList
  scanLoop d cs.length cs

end DumpSummary.Sql
