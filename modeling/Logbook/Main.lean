import Logbook.CommandLine

/-!
# The program

Reads the command line and shows the settings that follow from it, as one document.  A command line that
is not accepted is reported, and the program ends with 2.
-/

namespace Logbook

/-- The account of the command line. -/
def usage : String :=
  "Keeps the output of programs and syslog messages in named logs.\n\n" ++
  "Usage: logbook [options]\n\n" ++
  "  --home <folder>        the folder of the registered logs and of their events\n" ++
  "  --syslog-port <port>   the port on which syslog packets are received\n" ++
  "  --retention <number>   the number of events that are kept of each log\n" ++
  "  --log-level <level>    how much the program says about itself\n" ++
  "  --pretty               say it in lines for people, and not in JSON\n" ++
  "  --log-dir <folder>     say it in files in this folder, too\n" ++
  "  -h, --help             this account"

/-- The settings that follow from a command line, in one document. -/
def Arguments.toJson (a : Arguments) : Json :=
  .ofFields [("home", .string a.collector.home), ("store", a.collector.store.toJson),
    ("syslog", .string a.syslog.bind.text), ("diagnostics", a.diagnostics.toJson)]

end Logbook

open Logbook

/-- The program. -/
def main (line : List String) : IO UInt32 := do
  match Arguments.parse line with
  | .ok a =>
    IO.println (a.toJson.write .indented)
    return 0
  | .error .help =>
    IO.println usage
    return 0
  | .error error =>
    IO.eprintln s!"error: {error.message}"
    return 2
