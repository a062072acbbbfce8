import Restyle.Text.Digit

/-!
# Command-line options

Options have long names, which may be cut short as long as they stay unambiguous, and some a
letter.  A value follows as the next argument, after an equals sign, or directly after the
letter; two hyphens as an attached value give the option without a value.  A request for help
ends the program, and so does every mistake.

All arguments are told apart first, which finds ambiguous names; then they are used in order.

* `Options.read` — the options of a command line.
-/

set_option autoImplicit false

namespace Restyle.Console

open Restyle.Text

/-- What was given for an option. -/
inductive Given where
  /-- The option was not used. -/
  | nothing
  /-- The option was used with two hyphens in place of a value. -/
  | blank
  | text (value : String)
  deriving DecidableEq, Repr

namespace Given

/-- What an attached value or the next argument gives. -/
def ofText (s : String) : Given := if s = "--" then .blank else .text s

/-- The text of an option that was given one, unless it is empty. -/
def value? : Given → Option String
  | .text s => if s = "" then none else some s
  | .blank => none
  | .nothing => none

end Given

/-- The options of the program. -/
structure Options where
  config : Given := .nothing
  logLevel : Given := .nothing
  logFile : Given := .nothing
  persistKey : Given := .nothing
  persistDir : Given := .nothing
  deriving DecidableEq, Repr

/-- Why the program ends after reading its command line. -/
inductive Exit where
  | help
  | usage
  deriving DecidableEq, Repr

/-- The exit code. -/
def Exit.code : Exit → Nat
  | .help => 0
  | .usage => 2

/-- What an option is for. -/
inductive OptionKind where
  | help
  | config
  | logLevel
  | logFile
  | persistKey
  | persistDir
  deriving DecidableEq, Repr

/-- All spellings of options. -/
def spellings : List (String × OptionKind) := [
    ("-h", .help), ("--help", .help),
    ("--config", .config), ("-c", .config),
    ("--log-level", .logLevel),
    ("--log-file", .logFile),
    ("--persist-key", .persistKey), ("-k", .persistKey),
    ("--persist-dir", .persistDir)]

/-- The levels that may be asked for. -/
def logLevels : List String := ["DEBUG", "INFO", "WARNING", "ERROR"]

/-! ## Telling arguments apart -/

/-- An argument. -/
inductive Argument where
  | option (kind : OptionKind) (isLong : Bool) (attached : Option String)
  | unknownOption
  /-- The two hyphens after which no option is looked for. -/
  | separator
  | operand (text : String)
  deriving DecidableEq, Repr

/-- Splits a text at its first equals sign. -/
def splitAtEquals (s : String) : String × Option String :=
  let cs := s.toList
  match cs.dropWhile (· != '=') with
  | _ :: value => (String.ofList (cs.takeWhile (· != '=')), some (String.ofList value))
  | [] => (s, none)

/-- Whether a text is a negative number: a hyphen and digits, with an optional fraction. -/
def isNegativeNumber (s : String) : Bool :=
  match s.toList with
  | '-' :: cs =>
    let cs := if cs.getLast? == some '\n' then cs.dropLast else cs
    let rest := cs.dropWhile isDigit
    match rest with
    | [] => !cs.isEmpty
    | '.' :: fraction => !fraction.isEmpty && fraction.all isDigit
    | _ => false
  | _ => false

/-- An argument that is not the spelling of an option: it may be a long name cut short, a
letter with its value, a negative number, or a text with a space. -/
def classifyOther (s : String) : Except Exit Argument :=
  let cs := s.toList
  let candidates : List Argument :=
    if cs.take 2 = ['-', '-'] then
      let (name, attached) := splitAtEquals s
      (spellings.filter fun entry => name.toList.isPrefixOf entry.1.toList).map fun entry =>
        .option entry.2 true attached
    else
      (spellings.filter fun entry => entry.1.toList == cs.take 2).map fun entry =>
        .option entry.2 false (some (String.ofList (cs.drop 2)))
  match candidates with
  | [argument] => .ok argument
  | [] => .ok (if isNegativeNumber s || cs.contains ' ' then .operand s else .unknownOption)
  | _ => .error .usage

/-- Whether a spelling is a long name. -/
def isLongName (spelling : String) : Bool := spelling.toList.take 2 == ['-', '-']

/-- What an argument is. -/
def classify (s : String) : Except Exit Argument :=
  match s.toList with
  | '-' :: _ :: _ =>
    match spellings.lookup s with
    | some kind => .ok (.option kind (isLongName s) none)
    | none =>
      let (name, attached) := splitAtEquals s
      match spellings.lookup name, attached with
      | some kind, some a => .ok (.option kind (isLongName name) (some a))
      | _, _ => classifyOther s
  | _ => .ok (.operand s)

/-- What the arguments are.  After a separator all are operands. -/
def classifyAll : List String → Except Exit (List Argument)
  | [] => .ok []
  | s :: rest =>
    if s = "--" then .ok (.separator :: rest.map .operand)
    else do
      let argument ← classify s
      let others ← classifyAll rest
      return argument :: others

/-! ## Using the arguments -/

/-- What letters come to that are attached to a request for help: each of them has to be the
letter of an option.  `followed` says whether an operand comes next, for a letter that needs a
value. -/
def attachedToHelp (followed : Bool) : List Char → Exit
  | [] => .usage
  | 'h' :: [] => .help
  | 'h' :: rest => attachedToHelp followed rest
  | c :: rest =>
    if (c == 'c' || c == 'k') && (followed || !rest.isEmpty) then .help else .usage

/-- Sets an option. -/
def Options.set (o : Options) (kind : OptionKind) (value : String) : Except Exit Options :=
  match kind with
  | .help => .error .help
  | .config => .ok { o with config := .ofText value }
  | .logLevel =>
    if value = "--" || logLevels.contains value then .ok { o with logLevel := .ofText value }
    else .error .usage
  | .logFile => .ok { o with logFile := .ofText value }
  | .persistKey => .ok { o with persistKey := .ofText value }
  | .persistDir => .ok { o with persistDir := .ofText value }

/-- Whether an operand comes first. -/
def startsWithOperand : List Argument → Bool
  | .operand _ :: _ => true
  | _ => false

/-- Uses arguments in order; `superfluous` says whether one had no use so far. -/
def Options.use (o : Options) (superfluous : Bool) : List Argument → Except Exit Options
  | [] => if superfluous then .error .usage else .ok o
  | .option kind isLong attached :: rest =>
    match kind, attached with
    | .help, none => .error .help
    | .help, some a =>
      if isLong then .error .usage
      else .error (attachedToHelp (startsWithOperand rest) a.toList)
    | kind, some a => do (← o.set kind a).use superfluous rest
    | kind, none =>
      match rest with
      | .operand value :: rest => do (← o.set kind value).use superfluous rest
      | _ => .error .usage
  | _ :: rest => o.use true rest

/-- The options of a command line. -/
def Options.read (arguments : List String) : Except Exit Options := do
  Options.use {} false (← classifyAll arguments)

end Restyle.Console
