/-
# The command line of the daemon

Two commands, each with the configuration file as its one option: `run`
synchronises, `check-config` only reads the file. Arguments are read from left
to right, and the first that is wrong or asks for help decides.

Key definitions: `Command`, `Command.parse?`, `Outcome`, `Command.execute`.
-/
import Halyard.Daemon.Config

namespace Halyard

/-- What the daemon is asked to do. -/
inductive Command where
  | run (file : String)
  | checkConfig (file : String)
  | help
deriving DecidableEq

namespace Command

/-- The name of a configuration file, which is not empty and was not given before. -/
def file? (before : Option String) (cs : List Char) : Option String :=
  if before.isNone && !cs.isEmpty then some (String.ofList cs) else none

/-- Whether an argument can be the value of an option that stands before it. -/
def isValue (cs : List Char) : Bool :=
  cs.head? != some '-' || cs = ['-']

/-- Reads the options of a command. -/
def options? (command : String → Command) : Option String → List (List Char) → Option Command
  | file, [] => file.map command
  | file, arg :: args =>
    if arg = "--".toList then if args.isEmpty then file.map command else none
    else if arg = "--help".toList then some .help
    else if arg.take 9 = "--config=".toList then
      (file? file (arg.drop 9)).bind fun f => options? command (some f) args
    else if arg = "--config".toList || arg = "-c".toList then
      match args with
      | [] => none
      | value :: args =>
        if isValue value then (file? file value).bind fun f => options? command (some f) args
        else none
    else
      match arg with
      | '-' :: 'h' :: _ => some .help
      | '-' :: 'c' :: '=' :: cs => (file? file cs).bind fun f => options? command (some f) args
      | '-' :: 'c' :: cs => (file? file cs).bind fun f => options? command (some f) args
      | _ => none

/-- The names of the commands, among them the one that explains the others. -/
def names : List String := ["run", "check-config", "help"]

/-- What follows the command that explains the others. -/
def helpOn? : List String → Option Command
  | [] => some .help
  | [name] => if names.contains name then some .help else none
  | _ => none

/-- Reads a command line. -/
def parse? : List String → Option Command
  | [] => none
  | name :: args =>
    if name = "run" then options? .run none (args.map String.toList)
    else if name = "check-config" then options? .checkConfig none (args.map String.toList)
    else if name = "help" then helpOn? args
    else if name = "--help" || name.toList.take 2 = ['-', 'h'] then some .help
    else none

/-- How the daemon is used. -/
def usage : String :=
  "Keeps feature-flag targeting rules in sync\n\n" ++
  "Usage: flagsyncd <COMMAND>\n\n" ++
  "Commands:\n" ++
  "  run           Synchronize until interrupted\n" ++
  "  check-config  Load and validate the configuration, then exit\n" ++
  "  help          Print this message or the help of the given subcommand(s)\n\n" ++
  "Options of the commands:\n" ++
  "  -c, --config <CONFIG>\n" ++
  "  -h, --help\n"

end Command

/-- What becomes of a command line. -/
inductive Outcome where
  | finished (exit : Nat) (out err : String)
  /-- Synchronisation begins. -/
  | serving (c : DaemonConfig)

namespace Command

/-- What becomes of a file whose configuration was refused. -/
def refused (file : String) (e : LoadError) : Outcome :=
  .finished 1 "" (file ++ ": " ++ e.message ++ "\n")

/-- Does what a command line asks for. `read` gives the bytes of a file that can be opened. -/
def execute (read : String → Option (List UInt8)) (args : List String) : Outcome :=
  match parse? args with
  | none => .finished 2 "" usage
  | some .help => .finished 0 usage ""
  | some (.checkConfig file) =>
    match DaemonConfig.load (read file) with
    | .ok _ => .finished 0 (file ++ ": ok\n") ""
    | .error e => refused file e
  | some (.run file) =>
    match DaemonConfig.load (read file) with
    | .ok c => .serving c
    | .error e => refused file e

end Command

end Halyard
