import DumpSummary.Text.Digit
import DumpSummary.Text.Numeral
import DumpSummary.Text.Quoted

/-!
# Flags on a command line

A command line is a list of words.  A word that begins with a hyphen is a flag: its long name may be cut short as long
as it stays clear, and its value follows an equals sign, the short name directly, or as the next word.  The other words
are operands; behind two hyphens all words are.

## Contents

* `ValueRule`, `Flag`: the flags and the values that they take;
* `UsageFault`, `UsageFault.message`: what is wrong with a command line;
* `Interface`: the flags of a command and its operand;
* `Interface.classify`: what a word is;
* `Interface.read`: the flags and operands of a command line.
-/

namespace DumpSummary.CommandLine

/-- The values that a flag takes. -/
inductive ValueRule
  /-- None. -/
  | none
  /-- None: the flag asks for help. -/
  | help
  /-- Any text. -/
  | text
  /-- One of the listed texts. -/
  | oneOf (choices : List String)
  /-- A whole number. -/
  | number
  deriving DecidableEq, Repr

/-- A flag: its names and the values that it takes. -/
structure Flag where
  /-- The names, each with its hyphens. -/
  names : List String
  /-- The values. -/
  rule : ValueRule
  deriving DecidableEq, Repr

/-- How messages name a flag. -/
def Flag.label (f : Flag) : String := String.intercalate "/" f.names

/-- Whether a flag takes a value. -/
def Flag.takesValue (f : Flag) : Bool :=
  match f.rule with
  | .none => false
  | .help => false
  | _ => true

/-! ## What can be wrong -/

/-- What is wrong with a command line. -/
inductive UsageFault
  /-- An operand is missing. -/
  | missing (operand : String)
  /-- A value is none of the listed ones. -/
  | invalidChoice (label value : String) (choices : List String)
  /-- A value is no whole number. -/
  | notNumber (label value : String)
  /-- A flag has no value. -/
  | noValue (label : String)
  /-- A flag that takes no value has one. -/
  | extraValue (label value : String)
  /-- A flag that is cut short could be several ones. -/
  | ambiguous (word : String) (names : List String)
  /-- Words have no meaning. -/
  | unrecognized (words : List String)
  deriving DecidableEq, Repr

/-- The message. -/
def UsageFault.message : UsageFault → String
  | .missing operand => "the following arguments are required: " ++ operand
  | .invalidChoice label value choices =>
    "argument " ++ label ++ ": invalid choice: " ++ Text.quoted value ++ " (choose from "
      ++ String.intercalate ", " (choices.map Text.quoted) ++ ")"
  | .notNumber label value => "argument " ++ label ++ ": invalid int value: " ++ Text.quoted value
  | .noValue label => "argument " ++ label ++ ": expected one argument"
  | .extraValue label value => "argument " ++ label ++ ": ignored explicit argument " ++ Text.quoted value
  | .ambiguous word names => "ambiguous option: " ++ word ++ " could match " ++ String.intercalate ", " names
  | .unrecognized words => "unrecognized arguments: " ++ String.intercalate " " words

/-- Why a command line leads to no run. -/
inductive Stop
  /-- It is wrong; with the name of the command that finds it so. -/
  | usage (command : String) (fault : UsageFault)
  /-- It asks for help about a command. -/
  | help (command : String)
  /-- Two hyphens are given as the value of a flag, and nothing is left of it. -/
  | lostValue
  deriving DecidableEq, Repr

/-! ## Values -/

/-- The whole number of a text, in the digits of any script. -/
def number? (s : String) : Option Int :=
  let (negative, digits) := Text.splitSign (Text.trimSpaces s.toList)
  match Text.groupedDigits? Text.digitValue? false digits with
  | some ds => if ds.length > Text.maxDigits then none else some (Text.signedNumber negative ds)
  | none => none

/-- What is wrong with the value of a flag. -/
def Flag.valueFault? (f : Flag) (value : String) : Option UsageFault :=
  match f.rule with
  | .oneOf choices => if choices.contains value then none else some (.invalidChoice f.label value choices)
  | .number => if (number? value).isSome then none else some (.notNumber f.label value)
  | _ => none

/-! ## Words -/

/-- What a word is. -/
inductive Word
  /-- An operand. -/
  | operand
  /-- The two hyphens behind which all words are operands. -/
  | separator
  /-- A flag, the name it is meant by, and the value attached to it. -/
  | flag (f : Flag) (name : String) (attached : Option String)
  /-- A flag that is not known. -/
  | unknown
  deriving DecidableEq, Repr

/-- The flags of a command and its operand. -/
structure Interface where
  /-- The command, as messages name it. -/
  command : String
  /-- The flags. -/
  flags : List Flag
  /-- The name of the operand. -/
  operand : String
  /-- Whether the operand is a command that takes all words after it. -/
  subcommands : Bool

namespace Interface

/-- The names of the flags with their flags, in order. -/
def table (i : Interface) : List (String × Flag) :=
  i.flags.flatMap fun f => f.names.map fun n => (n, f)

/-- The text before the first equals sign and the text after it. -/
def splitValue (word : String) : Option (String × String) :=
  let name := word.toList.takeWhile (· != '=')
  match word.toList.drop name.length with
  | _ :: value => some (String.ofList name, String.ofList value)
  | [] => none

/-- The flags that a word behind two hyphens may mean: those whose names begin with it. -/
def longMatches (i : Interface) (word : String) : List (String × Flag × Option String) :=
  let (start, value) := match splitValue word with
    | some (n, v) => (n, some v)
    | none => (word, none)
  (i.table.filter fun e => start.toList.isPrefixOf e.1.toList).map fun e => (e.1, e.2, value)

/-- The flags that a word behind one hyphen may mean: the short one of its first letter, with the rest as its value, or
those whose names begin with it. -/
def shortMatches (i : Interface) (word : String) : List (String × Flag × Option String) :=
  let cs := word.toList
  i.table.filterMap fun e =>
    if e.1.toList == cs.take 2 then some (e.1, e.2, some (String.ofList (cs.drop 2)))
    else if cs.isPrefixOf e.1.toList then some (e.1, e.2, none)
    else none

/-- Whether a word looks like a negative number. -/
def isNegativeNumber (word : String) : Bool :=
  let isDecimal (c : Char) : Bool := (Text.digitValue? c).isSome
  match word.toList with
  | '-' :: cs =>
    let cs := if cs.getLast? == some '\n' then cs.dropLast else cs
    let rest := cs.dropWhile isDecimal
    (rest.isEmpty && !cs.isEmpty) || (match rest with
      | '.' :: fraction => !fraction.isEmpty && fraction.all isDecimal
      | _ => false)
  | _ => false

/-- What a word before two hyphens is. -/
def classify (i : Interface) (word : String) : Except Stop Word :=
  match word.toList with
  | '-' :: second :: _ =>
    match i.table.lookup word with
    | some f => .ok (.flag f word none)
    | none =>
      let exact := (splitValue word).bind fun nv => (i.table.lookup nv.1).map fun f => Word.flag f nv.1 (some nv.2)
      match exact with
      | some w => .ok w
      | none =>
        match if second == '-' then i.longMatches word else i.shortMatches word with
        | [(name, f, value)] => .ok (.flag f name value)
        | [] => .ok (if isNegativeNumber word || word.toList.contains ' ' then .operand else .unknown)
        | many => .error (.usage i.command (.ambiguous word (many.map (·.1))))
  | _ => .ok .operand

/-- What the words of a command line are. -/
def classifyAll (i : Interface) : List String → Except Stop (List (String × Word))
  | [] => .ok []
  | w :: ws =>
    if w == "--" then .ok ((w, .separator) :: ws.map (·, .operand))
    else match i.classify w with
      | .error e => .error e
      | .ok c => (i.classifyAll ws).map ((w, c) :: ·)

/-! ## Reading -/

/-- The flags and operands that are read. -/
structure Given where
  /-- The flags with their values, in order. -/
  flags : List (Flag × String)
  /-- The operand, with the words after it if it is a command. -/
  operand : List String
  /-- The words without a meaning. -/
  extras : List String
  deriving Repr

/-- What a flag word comes to: flags without values, and possibly one that has a value or still needs one. -/
structure FlagRun where
  /-- The flags without values. -/
  bare : List Flag
  /-- The flag with a value, or none where the next word is its value. -/
  valued : Option (Flag × Option String)

/-- What a flag word comes to.  What is attached to a short flag without a value is further short flags; `fuel` bounds
their number. -/
def expand (i : Interface) : Nat → Flag → String → Option String → Except Stop FlagRun
  | _, f, _, none => .ok (if f.takesValue then ⟨[], some (f, none)⟩ else ⟨[f], none⟩)
  | 0, f, _, some value => .error (.usage i.command (.extraValue f.label value))
  | fuel + 1, f, name, some value =>
    if f.takesValue then .ok ⟨[], some (f, some value)⟩
    else
      let isShort := (name.toList.drop 1).head? != some '-'
      match isShort, value.toList with
      | true, c :: more =>
        let next := String.ofList ['-', c]
        match i.table.lookup next with
        | some g =>
          (i.expand fuel g next (if more.isEmpty then none else some (String.ofList more))).map fun r =>
            { r with bare := f :: r.bare }
        | none => .error (.usage i.command (.extraValue f.label value))
      | _, _ => .error (.usage i.command (.extraValue f.label value))

/-- Takes flags without values: one of them may ask for help. -/
def takeBare (i : Interface) (fs : List Flag) (g : Given) : Except Stop Given :=
  if fs.any (·.rule == .help) then .error (.help i.command)
  else .ok { g with flags := g.flags ++ fs.map (·, "") }

/-- Takes a flag with its value. -/
def takeValued (i : Interface) (f : Flag) (value : String) (g : Given) : Except Stop Given :=
  if value == "--" then .error .lostValue
  else match f.valueFault? value with
    | some fault => .error (.usage i.command fault)
    | none => .ok { g with flags := g.flags ++ [(f, value)] }

/-- Reads the words behind the last flag, of which at most one is the separator.  The separator before or after the
operand goes with it, but a command begins with its first word whatever that is. -/
def readOperands (i : Interface) (ws : List (String × Word)) (g : Given) : Except Stop Given :=
  let texts := ws.map (·.1)
  if !g.operand.isEmpty then .ok { g with extras := g.extras ++ texts }
  else match ws with
    | (w, .operand) :: rest =>
      if i.subcommands then .ok { g with operand := texts }
      else
        let rest := match rest with
          | (_, .separator) :: more => more
          | rest => rest
        .ok { g with operand := [w], extras := g.extras ++ rest.map (·.1) }
    | (_, .separator) :: (w, _) :: rest =>
      if i.subcommands then .ok { g with operand := texts }
      else .ok { g with operand := [w], extras := g.extras ++ rest.map (·.1) }
    | _ => .error (.usage i.command (.missing i.operand))

/-- Whether a word is a flag. -/
def isFlag : Word → Bool
  | .flag _ _ _ => true
  | .unknown => true
  | _ => false

/-- Reads words one after another. -/
def readWords (i : Interface) : List (String × Word) → Given → Except Stop Given
  | [], g => i.readOperands [] g
  | (w, k) :: rest, g =>
    if !((w, k) :: rest).any (isFlag ·.2) then i.readOperands ((w, k) :: rest) g
    else match k with
      | .flag f name attached => do
        let run ← i.expand (w.length + 1) f name attached
        match run.valued with
        | none => i.readWords rest (← i.takeBare run.bare g)
        | some (f, some value) => i.readWords rest (← i.takeValued f value (← i.takeBare run.bare g))
        | some (f, none) =>
          match rest with
          | (value, .operand) :: rest =>
            i.readWords rest (← i.takeValued f value (← i.takeBare run.bare g))
          | _ => throw (.usage i.command (.noValue f.label))
      | .unknown => i.readWords rest { g with extras := g.extras ++ [w] }
      | _ =>
        if g.operand.isEmpty then
          if i.subcommands then .ok { g with operand := w :: rest.map (·.1) }
          else i.readWords rest { g with operand := [w] }
        else i.readWords rest { g with extras := g.extras ++ [w] }

/-- The flags and operands of a command line. -/
def read (i : Interface) (words : List String) : Except Stop Given := do
  i.readWords (← i.classifyAll words) ⟨[], [], []⟩

/-- The last value of a flag. -/
def Given.value? (g : Given) (name : String) : Option String :=
  (g.flags.reverse.find? fun e => e.1.names.contains name).map (·.2)

end Interface
end DumpSummary.CommandLine
