import Logbook.Settings.Collector
import Logbook.Settings.Diagnostics
import Logbook.Settings.Syslog

/-!
# The command line

The program is told on its command line where its home is, on which port it listens, how many events it
keeps and what it says about itself.  An option takes its value behind an equals sign or as the argument
that follows.

An option whose value follows is looked at only when the next option begins or the command line ends.
So an argument that is not known is reported before a value that is not valid and stands in front of it.

## Main definitions

* `Setting`, `Flag` — what an option sets, and the options without a value.
* `Arguments` — what a command line says.
* `Arguments.parse` — reads a command line.
* `Arguments.collector`, `Arguments.syslog`, `Arguments.diagnostics` — the settings that follow from it.
-/

namespace Logbook

/-- Something that an option with a value sets. -/
inductive Setting
  /-- The home folder. -/
  | home
  /-- The port for syslog packets. -/
  | syslogPort
  /-- The number of events that are kept of each log. -/
  | retention
  /-- The level of diagnostics. -/
  | logLevel
  /-- The folder for files of diagnostics. -/
  | logFolder
  deriving DecidableEq, Repr

namespace Setting

/-- All settings. -/
def all : List Setting := [.home, .syslogPort, .retention, .logLevel, .logFolder]

/-- The name of the option. -/
def name : Setting → String
  | .home => "home"
  | .syslogPort => "syslog-port"
  | .retention => "retention"
  | .logLevel => "log-level"
  | .logFolder => "log-dir"

end Setting

/-- An option without a value. -/
inductive Flag
  /-- Lines for people on the console. -/
  | pretty
  /-- An account of the command line. -/
  | help
  deriving DecidableEq, Repr

namespace Flag

/-- All options without a value. -/
def all : List Flag := [.pretty, .help]

/-- The name of the option. -/
def name : Flag → String
  | .pretty => "pretty"
  | .help => "help"

end Flag

/-- Why a command line is not accepted. -/
inductive UsageError
  /-- An account of the command line is wanted instead. -/
  | help
  /-- There is no such argument. -/
  | unknown (argument : String)
  /-- An option lacks its value, or the value must not be empty. -/
  | missing (setting : Setting)
  /-- A value is no number, or one that does not fit. -/
  | invalid (setting : Setting) (value : String)
  /-- An option is given twice. -/
  | repeated (name : String)
  /-- A value is given to an option that takes none. -/
  | superfluous (flag : Flag) (value : String)
  deriving DecidableEq, Repr

/-- The wording of an error. -/
def UsageError.message : UsageError → String
  | .help => "help requested"
  | .unknown argument => s!"unexpected argument {Quoted.string argument}"
  | .missing setting => s!"a value is required for --{setting.name}"
  | .invalid setting value => s!"invalid value {Quoted.string value} for --{setting.name}"
  | .repeated name => s!"--{name} cannot be used more than once"
  | .superfluous flag value => s!"unexpected value {Quoted.string value} for --{flag.name}"

/-- What a command line says. -/
structure Arguments where
  /-- The home folder. -/
  home : Option String := none
  /-- The port for syslog packets. -/
  syslogPort : Option UInt16 := none
  /-- The number of events that are kept of each log. -/
  retention : Option UInt64 := none
  /-- The level of diagnostics. -/
  logLevel : Option String := none
  /-- The folder for files of diagnostics. -/
  logFolder : Option String := none
  /-- Whether lines for people are wanted on the console. -/
  pretty : Bool := false
  deriving DecidableEq, Repr

namespace Arguments

/-! ### Values -/

/-- A number below `bound`, perhaps with a plus sign. -/
def number? (bound : Nat) (text : String) : Option Nat :=
  match text.toList with
  | '+' :: digits => Decimal.below? bound digits
  | digits => Decimal.below? bound digits

/-- The port that a text spells; zero may have a minus sign. -/
def port? (text : String) : Option UInt16 :=
  match text.toList with
  | '-' :: digits => (Decimal.below? 1 digits).map fun _ => 0
  | _ => (number? 65536 text).map UInt16.ofNat

/-- The number of events that a text spells. -/
def events? (text : String) : Option UInt64 := (number? Json.wordBound text).map UInt64.ofNat

/-- Whether a command line sets something. -/
def has (a : Arguments) : Setting → Bool
  | .home => a.home.isSome
  | .syslogPort => a.syslogPort.isSome
  | .retention => a.retention.isSome
  | .logLevel => a.logLevel.isSome
  | .logFolder => a.logFolder.isSome

/-- A path, which must not be empty. -/
def path (setting : Setting) (value : String) : Except UsageError String :=
  if value = "" then .error (.missing setting) else .ok value

/-- A value that has to be of some form. -/
def required (setting : Setting) (value : String) : Option α → Except UsageError α
  | some a => .ok a
  | none => .error (.invalid setting value)

/-- Sets something, once. -/
def assign (a : Arguments) (setting : Setting) (value : String) : Except UsageError Arguments :=
  if a.has setting then .error (.repeated setting.name)
  else match setting with
    | .home => do
      let home ← path setting value
      return { a with home := some home }
    | .syslogPort => do
      let port ← required setting value (port? value)
      return { a with syslogPort := some port }
    | .retention => do
      let events ← required setting value (events? value)
      return { a with retention := some events }
    | .logLevel => .ok { a with logLevel := some value }
    | .logFolder => do
      let folder ← path setting value
      return { a with logFolder := some folder }

/-- Raises a flag, once. -/
def raise (a : Arguments) : Flag → Except UsageError Arguments
  | .help => .error .help
  | .pretty => if a.pretty then .error (.repeated Flag.pretty.name) else .ok { a with pretty := true }

/-! ### Reading -/

/-- The forms of an argument. -/
inductive Form
  /-- Two dashes, behind which no options stand. -/
  | separator
  /-- An option with a value, which may be attached to it. -/
  | setting (setting : Setting) (attached : Option String)
  /-- An option without a value, though one may be attached to it. -/
  | flag (flag : Flag) (attached : Option String)
  /-- Dashes and something that is no option. -/
  | unknown
  /-- Anything else. -/
  | plain
  deriving DecidableEq, Repr

/-- The form of an argument with two dashes and more. -/
def longForm (rest : List Char) : Form :=
  let name := String.ofList (rest.takeWhile (· ≠ '='))
  let attached := match rest.dropWhile (· ≠ '=') with
    | [] => none
    | _ :: value => some (String.ofList value)
  match Setting.all.find? (·.name = name), Flag.all.find? (·.name = name) with
  | some setting, _ => .setting setting attached
  | none, some flag => .flag flag attached
  | none, none => .unknown

/-- The form of an argument.  A dash alone is a value like others; of letters behind one dash only `h` is
an option. -/
def form (argument : String) : Form :=
  match argument.toList with
  | ['-', '-'] => .separator
  | '-' :: '-' :: rest => longForm rest
  | '-' :: 'h' :: _ => .flag .help none
  | '-' :: _ :: _ => .unknown
  | _ => .plain

/-- What is known in the middle of a command line. -/
structure Scan where
  /-- What has been set. -/
  arguments : Arguments := {}
  /-- The option that was met last, if its value was not attached, with the value if it has followed. -/
  pending : Option (Setting × Option String) := none
  /-- Whether two dashes have been met. -/
  trailing : Bool := false
  deriving DecidableEq, Repr

namespace Scan

/-- Looks at the option that was met last. -/
def resolve (s : Scan) : Except UsageError Scan :=
  match s.pending with
  | none => .ok s
  | some (setting, none) => .error (.missing setting)
  | some (setting, some value) => do
    let arguments ← s.arguments.assign setting value
    return { s with arguments, pending := none }

/-- Takes in an argument that is no option: the value that is waited for, if there is one. -/
def value (s : Scan) (argument : String) : Except UsageError Scan :=
  match s.pending with
  | some (setting, none) => .ok { s with pending := some (setting, some argument) }
  | _ => .error (.unknown argument)

/-- Takes in the next argument. -/
def next (s : Scan) (argument : String) : Except UsageError Scan :=
  if s.trailing then .error (.unknown argument)
  else match form argument with
    | .separator => .ok { s with trailing := true }
    | .setting setting none => do
      let s ← s.resolve
      return { s with pending := some (setting, none) }
    | .setting setting (some value) => do
      let s ← s.resolve
      let arguments ← s.arguments.assign setting value
      return { s with arguments }
    | .flag flag none => do
      let s ← s.resolve
      let arguments ← s.arguments.raise flag
      return { s with arguments }
    | .flag flag (some value) => .error (.superfluous flag value)
    | .unknown => .error (.unknown argument)
    | .plain => s.value argument

end Scan

/-- Reads a command line. -/
def parse (line : List String) : Except UsageError Arguments := do
  let s ← line.foldlM Scan.next {}
  let s ← s.resolve
  return s.arguments

/-! ### Settings -/

/-- The folder of the home. -/
def homeFolder (a : Arguments) : String := a.home.getD CollectorSettings.defaultHome

/-- The port for syslog packets. -/
def port (a : Arguments) : UInt16 := a.syslogPort.getD SyslogSettings.defaultPort

/-- The number of events that are kept of each log, as it is given. -/
def keptEvents (a : Arguments) : UInt64 := a.retention.getD Retention.defaultMax

/-- The level of diagnostics. -/
def level (a : Arguments) : String := a.logLevel.getD "info"

/-- The settings of the collector. -/
def collector (a : Arguments) : CollectorSettings :=
  (CollectorSettings.inHome a.homeFolder).withRetention (.atMost a.keptEvents)

/-- The settings of the syslog listener. -/
def syslog (a : Arguments) : SyslogSettings := SyslogSettings.withPort {} a.port

/-- The settings of diagnostics. -/
def diagnostics (a : Arguments) : DiagnosticsSettings :=
  let s := match a.logFolder with
    | some folder => DiagnosticsSettings.production folder
    | none => {}
  let s := if a.pretty then { s with console := DiagnosticsSettings.development.console } else s
  s.withLevel a.level

end Arguments

end Logbook
