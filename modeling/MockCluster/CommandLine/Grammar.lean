/-!
# The grammar of command lines

A command has options and may have subcommands, of which one must then be given. Every option takes one value, which
follows as a word of its own, after an equals sign, or, with the short name, at once. An option can be given once for
each command. A value that is a word of its own is checked when the next option begins, or at the end, after the words
of the subcommand were read.
-/

namespace MockCluster.CommandLine

/-- What the value of an option must be. -/
inductive ValueKind where
  /-- Any text. -/
  | text
  /-- A text that is not empty. -/
  | path
  /-- A number of 16 bits. -/
  | port
  deriving DecidableEq, Repr

/-- An option. -/
structure OptionSpec where
  /-- The name after two dashes. -/
  long : String
  /-- The name after one dash. -/
  short : Option Char
  kind : ValueKind
  deriving DecidableEq, Repr

/-- A command. -/
inductive CommandSpec where
  | mk (name : String) (hasVersion : Bool) (options : List OptionSpec) (subcommands : List CommandSpec)

namespace CommandSpec

/-- The name. -/
def name : CommandSpec → String
  | mk name .. => name

/-- Whether the command shows a version. -/
def hasVersion : CommandSpec → Bool
  | mk _ hasVersion .. => hasVersion

/-- The options. -/
def options : CommandSpec → List OptionSpec
  | mk _ _ options _ => options

/-- The subcommands. -/
def subcommands : CommandSpec → List CommandSpec
  | mk _ _ _ subcommands => subcommands

/-- The subcommand of a name. -/
def subcommand? (c : CommandSpec) (name : String) : Option CommandSpec :=
  c.subcommands.find? (·.name = name)

/-- The command that explains others. -/
def helpCommand : CommandSpec := mk "help" false [] []

/-- The subcommand of a name; every command with subcommands has one that explains them. -/
def helpTopic? (c : CommandSpec) (name : String) : Option CommandSpec :=
  if c.subcommands.isEmpty then none
  else if name = "help" then some helpCommand
  else c.subcommand? name

end CommandSpec

/-- Why a command line is not carried out. -/
inductive UsageFault where
  /-- It asks for an explanation. -/
  | help
  /-- It asks for the version. -/
  | version
  /-- Nothing is given where a subcommand is needed. -/
  | nothingGiven
  /-- Something is given, but no subcommand. -/
  | missingSubcommand
  /-- There is no such subcommand. -/
  | unknownSubcommand
  /-- There is no such option, or no place for a word. -/
  | unknownArgument
  /-- An option has no value, or an empty one where that is not allowed. -/
  | missingValue
  /-- A value is no port. -/
  | badValue
  /-- An option that takes no value has one. -/
  | unexpectedValue
  /-- An option is given twice. -/
  | repeatedOption
  deriving DecidableEq, Repr

/-- What the program ends with: asking for an explanation is no failure. -/
def UsageFault.exitCode : UsageFault → UInt8
  | help | version => 0
  | _ => 2

/-- A number of 16 bits in decimal digits, with or without a sign. Behind a minus sign only zero is one. -/
def port? (text : String) : Option Nat :=
  let (digits, limit) := match text.toList with
    | '+' :: rest => (rest, 65536)
    | '-' :: rest => (rest, 1)
    | chars => (chars, 65536)
  if digits.isEmpty ∨ ¬digits.all Char.isDigit then none
  else
    let n := digits.foldl (fun n c => n * 10 + (c.toNat - 0x30)) 0
    if n < limit then some n else none

/-- Why a text is no value. -/
def ValueKind.fault? (kind : ValueKind) (text : String) : Option UsageFault :=
  match kind with
  | .text => none
  | .path => if text = "" then some .missingValue else none
  | .port => if (port? text).isNone then some .badValue else none

/-- What was given to a command: its name, and the values of its options. -/
structure Given where
  command : String
  values : List (String × String)
  deriving DecidableEq, Repr

/-- The state while the words of a command are read. -/
structure Level where
  spec : CommandSpec
  /-- The checked values by the names of options. -/
  values : List (String × String)
  /-- The option that was met last, and its value once that is known, if it is not checked yet. -/
  pending : Option (OptionSpec × Option String)
  /-- Whether two dashes have ended the options. -/
  ended : Bool

namespace Level

/-- The state before the first word. -/
def start (spec : CommandSpec) : Level := ⟨spec, [], none, false⟩

/-- Checks a value and keeps it. -/
def accept (l : Level) (option : OptionSpec) (value : String) : Except UsageFault Level :=
  if l.values.any (·.1 = option.long) then .error .repeatedOption
  else match option.kind.fault? value with
    | some fault => .error fault
    | none => .ok { l with values := l.values ++ [(option.long, value)] }

/-- Checks the option that was met last. -/
def settle (l : Level) : Except UsageFault Level :=
  match l.pending with
  | none => .ok l
  | some (_, none) => .error .missingValue
  | some (option, some value) => { l with pending := none }.accept option value

/-- Meets an option with or without a value. -/
def meet (l : Level) (option : OptionSpec) (value : Option String) : Except UsageFault Level := do
  let l ← l.settle
  match value with
  | some value => l.accept option value
  | none => return { l with pending := some (option, none) }

/-- Meets an option that only asks for something. -/
def ask (l : Level) (fault : UsageFault) : Except UsageFault Level := do
  let _ ← l.settle
  .error fault

/-- Reads a word with two dashes, without them. -/
def long (l : Level) (word : List Char) : Except UsageFault Level :=
  let name := String.ofList (word.takeWhile (· ≠ '='))
  let value := match word.dropWhile (· ≠ '=') with
    | [] => none
    | _ :: rest => some (String.ofList rest)
  match l.spec.options.find? (·.long = name) with
  | some option => l.meet option value
  | none =>
    let asked := if name = "help" then some .help
      else if name = "version" ∧ l.spec.hasVersion then some .version
      else none
    match asked with
    | none => .error .unknownArgument
    | some fault => if value.isSome then .error .unexpectedValue else l.ask fault

/-- Reads a word with one dash, without it. -/
def short (l : Level) (word : List Char) : Except UsageFault Level :=
  match word with
  | [] => .ok l
  | c :: rest =>
    match l.spec.options.find? (·.short = some c) with
    | some option =>
      match rest with
      | [] => l.meet option none
      | '=' :: value => l.meet option (some (String.ofList value))
      | value => l.meet option (some (String.ofList value))
    | none =>
      if c = 'h' then l.ask .help
      else if c = 'V' ∧ l.spec.hasVersion then l.ask .version
      else .error .unknownArgument

/-- Whether the option that was met last still has no value. -/
def awaitsValue (l : Level) : Bool :=
  match l.pending with
  | some (_, none) => true
  | _ => false

/-- The fault in a word for which there is no place. -/
def misplaced (l : Level) (word : String) : UsageFault :=
  if l.spec.subcommands.isEmpty then .unknownArgument
  else if l.ended ∧ (l.spec.helpTopic? word).isSome then .unknownArgument
  else .unknownSubcommand

/-- The end of the words of a command. -/
def close (l : Level) : Except UsageFault Given := do
  let l ← l.settle
  if l.spec.subcommands.isEmpty then return ⟨l.spec.name, l.values⟩
  else if l.values.isEmpty then .error .nothingGiven
  else .error .missingSubcommand

/-- Reads a word that is neither a subcommand nor after the end of the options. -/
def word (l : Level) (word : String) : Except UsageFault Level :=
  match word.toList with
  | ['-', '-'] => .ok { l with ended := true }
  | '-' :: '-' :: name => l.long name
  | '-' :: c :: rest => l.short (c :: rest)
  | _ =>
    match l.pending with
    | some (option, none) => .ok { l with pending := some (option, some word) }
    | _ => .error (l.misplaced word)

end Level

/-- Looks for the command that is to be explained. -/
def explain : CommandSpec → List String → UsageFault
  | _, [] => .help
  | c, topic :: topics =>
    match c.helpTopic? topic with
    | some c => explain c topics
    | none => .unknownSubcommand

/-- What the words of a command and its subcommands give, the outermost command first. -/
def read : Level → List String → Except UsageFault (List Given)
  | l, [] => l.close.map ([·])
  | l, word :: words =>
    if l.ended then .error (l.misplaced word)
    else if l.awaitsValue then do
      read (← l.word word) words
    else if word = "help" ∧ !l.spec.subcommands.isEmpty then .error (explain l.spec words)
    else match l.spec.subcommand? word with
      | some c => do
        let inner ← read (.start c) words
        let l ← l.settle
        return ⟨l.spec.name, l.values⟩ :: inner
      | none => do
        read (← l.word word) words

end MockCluster.CommandLine
