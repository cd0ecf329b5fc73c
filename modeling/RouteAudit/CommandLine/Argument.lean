import RouteAudit.Assoc
import RouteAudit.Text.Digit
import RouteAudit.Text.Trim

/-!
# Arguments

What a single argument of a command line is: a word, an option, or neither.  Options are flags,
which stand alone, and settings, whose value follows an equals sign or is the next argument.  A long
option may be cut short as long as only one option starts like that, and short flags may share one
dash.
-/

namespace RouteAudit.CommandLine

/-- An option without a value. -/
inductive Flag where
  | help
  | verbose
  deriving DecidableEq, Repr

/-- An option with a value. -/
inductive Setting where
  | config
  | handle
  | scanPath
  | collected
  | templates
  | ending
  | format
  deriving DecidableEq, Repr

/-- An option. -/
inductive Opt where
  | flag (flag : Flag)
  | setting (setting : Setting)
  deriving DecidableEq, Repr

/-- The options that a command knows, by the names that they are given with. -/
abbrev OptionTable := Assoc String Opt

/-- What an argument is. -/
inductive Argument where
  | word (text : String)
  /-- The argument after which there are only words. -/
  | separator
  /-- Flags behind one dash; if they are not all, the rest of the argument is no flag. -/
  | flags (flags : List Flag) (all : Bool)
  /-- A setting, with its value if the argument holds it. -/
  | setting (setting : Setting) (value : Option String)
  /-- Something that looks like an option and is none. -/
  | unknown
  /-- More than one option starts like the argument. -/
  | ambiguous
  /-- A flag that is given a value. -/
  | misused
  deriving DecidableEq, Repr

namespace Opt

/-- The argument that is an option, with the value behind its equals sign if there is one. -/
def toArgument (value : Option String) : Opt → Argument
  | .flag f => if value.isSome then .misused else .flags [f] true
  | .setting s => .setting s value

end Opt

namespace OptionTable

/-- The flag with a given letter. -/
def letter? (table : OptionTable) (c : Char) : Option Flag :=
  match table.get? (String.ofList ['-', c]) with
  | some (.flag f) => some f
  | _ => none

/-- The flags at the start of a row of letters, and whether there is nothing else; none if an equals
sign or a dash follows a flag. -/
def letters? (table : OptionTable) : List Char → Option (List Flag × Bool)
  | [] => some ([], true)
  | c :: cs =>
    match table.letter? c with
    | none => some ([], false)
    | some f =>
      if cs.head? = some '=' ∨ cs.head? = some '-' then none
      else (table.letters? cs).map fun (flags, all) => (f :: flags, all)

end OptionTable

/-- Whether a text is written like a negative number, perhaps at the end of a line. -/
def isNegativeNumber (s : String) : Bool :=
  let cs := if Text.endsWith s "\n" then s.toList.dropLast else s.toList
  match cs with
  | '-' :: cs =>
    match cs.dropWhile Text.isDecimal with
    | [] => !cs.isEmpty
    | '.' :: digits => !digits.isEmpty && digits.all Text.isDecimal
    | _ => false
  | _ => false

namespace Argument

/-- An argument that starts with a dash and is no option: negative numbers and texts with blanks are
words. -/
def ofOther (s : String) : Argument :=
  if isNegativeNumber s || s.contains ' ' then .word s else .unknown

/-- The option whose name stands before the first equals sign, with the value behind it. -/
def ofAssignment? (table : OptionTable) (s : String) : Option Argument := do
  let (name, value) ← Text.cut? '=' s
  return (← table.get? name).toArgument (some value)

/-- The argument with two dashes that may be the start of an option. -/
def ofLong (table : OptionTable) (s : String) : Argument :=
  let (start, value) : String × Option String :=
    match Text.cut? '=' s with
    | some (start, value) => (start, some value)
    | none => (s, none)
  match table.filter fun (name, _) => Text.startsWith name start with
  | [] => ofOther s
  | [(_, o)] => o.toArgument value
  | _ => .ambiguous

/-- The argument with one dash that may be a row of flags. -/
def ofShort (table : OptionTable) (s : String) : Argument :=
  match table.letters? (s.toList.drop 1) with
  | none => .misused
  | some ([], _) => ofOther s
  | some (fs, all) => .flags fs all

/-- What an argument is for a command with the given options. -/
def ofString (table : OptionTable) (s : String) : Argument :=
  match table.get? s with
  | some o => o.toArgument none
  | none =>
    if s = "-" || !Text.startsWith s "-" then .word s
    else
      match ofAssignment? table s with
      | some a => a
      | none => if Text.startsWith s "--" then ofLong table s else ofShort table s

/-- What the arguments of a command are. -/
def ofStrings (table : OptionTable) : List String → List Argument
  | [] => []
  | s :: rest =>
    if s = "--" then .separator :: rest.map .word
    else ofString table s :: ofStrings table rest

end Argument

end RouteAudit.CommandLine
