import MockCluster.CommandLine.Grammar
import MockCluster.Settings.Basic

/-!
# What a command line asks for

| words | request |
| --- | --- |
| `start` | start a cluster, with some settings replaced |
| `config validate` | check a settings file |
| `config show` | show settings with all defaults filled in |

The options `--config` and `--log-level` may stand behind any command; the innermost counts.
-/

namespace MockCluster.CommandLine

/-- What is asked for. -/
inductive Request where
  /-- Start a cluster. -/
  | start (file : Option String) (overrides : SettingsOverrides)
  /-- Check a settings file. -/
  | validate (file : Option String)
  /-- Show settings in a format. -/
  | display (file : Option String) (format : String)
  deriving DecidableEq, Repr

/-- The options of every command. -/
def commonOptions : List OptionSpec := [⟨"config", some 'c', .text⟩, ⟨"log-level", none, .text⟩]

/-- The option that names a settings file. -/
def fileOption : OptionSpec := ⟨"file", some 'f', .path⟩

/-- The command that starts a cluster. -/
def startCommand : CommandSpec :=
  .mk "start" false
    (commonOptions ++ [⟨"bind", none, .text⟩, ⟨"kv-port", none, .port⟩, ⟨"http-port", none, .port⟩]) []

/-- The command about settings files. -/
def configCommand : CommandSpec :=
  .mk "config" false commonOptions [
    .mk "validate" false (commonOptions ++ [fileOption]) [],
    .mk "show" false (commonOptions ++ [fileOption, ⟨"format", none, .text⟩]) []]

/-- The whole grammar. -/
def grammar : CommandSpec := .mk "" true commonOptions [startCommand, configCommand]

/-- The value of an option in the innermost command that has it. -/
def innermost? (given : List Given) (option : String) : Option String :=
  given.reverse.findSome? (·.values.lookup option)

/-- The request that was given. -/
def Request.ofGiven? (given : List Given) : Option Request := do
  let last ← given.getLast?
  let value (option : String) : Option String := last.values.lookup option
  let common := innermost? given
  match given.map (·.command) with
  | [_, "start"] =>
    some (.start (common "config") {
      logLevel := common "log-level"
      bind := value "bind"
      kvPortBase := (value "kv-port").bind port?
      httpPortBase := (value "http-port").bind port? })
  | [_, "config", "validate"] => some (.validate ((value "file").or (common "config")))
  | [_, "config", "show"] =>
    some (.display ((value "file").or (common "config")) ((value "format").getD "toml"))
  | _ => none

/-- The request of a command line, without the name of the program. -/
def Request.ofWords (words : List String) : Except UsageFault Request := do
  let given ← read (.start grammar) words
  match ofGiven? given with
  | some request => return request
  | none => .error .missingSubcommand

end MockCluster.CommandLine
