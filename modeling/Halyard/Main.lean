/-
# The daemon's program

Reads the command line and the configuration file. Synchronising needs a
network, and this build has none, so `run` says so once its configuration was
accepted.
-/
import Halyard.Daemon.CommandLine

open Halyard

/-- The bytes of the file that a command line names, if it can be opened. -/
def namedFile (args : List String) : IO (String → Option (List UInt8)) := do
  match Command.parse? args with
  | some (.run file) | some (.checkConfig file) =>
    match ← (IO.FS.readBinFile file).toBaseIO with
    | .ok bytes => return fun _ => some bytes.toList
    | .error _ => return fun _ => none
  | _ => return fun _ => none

/-- The program. -/
def main (args : List String) : IO UInt32 := do
  match Command.execute (← namedFile args) args with
  | .finished exit out err =>
    IO.print out
    IO.eprint err
    return UInt32.ofNat exit
  | .serving _ =>
    IO.eprintln "this build has no network to synchronise over"
    return 1
