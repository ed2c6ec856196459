/-
# Starting and stopping an engine

An engine on the virtual clock starts all its tasks at one moment, and polling
begins at once. When it stops, the stores are frozen first, so that what is
still under way cannot change them.

Key definitions: `World.startWorkers`, `World.startPush`, `World.startEngine`,
`World.stopEngine`.
-/
import Halyard.Virtual.Clock

namespace Halyard.Virtual

open Push

namespace World

variable {ρ β : Type}

/-- Starts the segment pool and the worker for rules. -/
def startWorkers (w : World ρ β) (size : Nat) : World ρ β :=
  { w.withWorkers size with ruleWorker := .idle, shutdown := false }

/-- Starts the push manager. -/
def startPush (w : World ρ β) (settings : PushSettings) : World ρ β :=
  let (m, effects) := Manager.begin (.start settings.backoffBaseMs settings.backoffMaxMs)
  effects.foldl perform { w with push := some ⟨m, none, none, none, none, settings.buffer, none⟩ }

/-- Whether an engine runs. -/
def running (w : World ρ β) : Bool :=
  w.polling.isSome

/-- The intervals of the polling tasks, while an engine runs. -/
def intervals (w : World ρ β) : Option PollIntervals :=
  w.polling.map fun p => ⟨p.flags.task.interval, p.segments.task.interval⟩

/-- Starts an engine, unless one runs. -/
def startEngine (w : World ρ β) (c : Config) : World ρ β :=
  if w.running then w
  else
    let fast : PollIntervals := ⟨c.flagsRefreshSecs * 1000, c.segmentsRefreshSecs * 1000⟩
    let polling : Polling ρ := {
      flags := ⟨.start fast.flags, none⟩
      segments := ⟨.start fast.segments, none⟩
      cadence := ⟨fast, c.push.safetyRefreshSecs * 1000⟩
      followed := if c.pushEnabled then some w.transitionCount else none }
    let w := { w.withWorkers c.segmentWorkers with shutdown := false, polling := some polling }
    if c.pushEnabled then { w with ruleWorker := .idle }.startPush c.push else w

/-- Stops the engine and freezes the stores. -/
def stopEngine (f : Interject ρ β) (w : World ρ β) : World ρ β :=
  let w := w.setStores w.replica.stores.freeze
  if w.running then
    { ({ w with shutdown := true }.settle f maxRounds) with
      polling := none
      push := none
      workers := []
      jobs := []
      targets := []
      ruleWorker := .absent }
  else w

/-- Marks the client as destroyed and stops the engine. -/
def destroy (f : Interject ρ β) (w : World ρ β) : World ρ β :=
  if w.replica.destroyed then w
  else stopEngine f { w with replica := { w.replica with destroyed := true } }

end World

end Halyard.Virtual
