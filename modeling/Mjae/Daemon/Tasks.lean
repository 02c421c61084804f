import Mjae.Core.Drain
import Mjae.Core.SamplingLoop
import Mjae.Transition.Writers

/-!
# The tasks of a daemon

A daemon runs any number of tasks over one registry.  A task owns its provider: it
either runs the sampling loop or drains the provider now and then.  Every addition to
the registry is a turn of its own, so the additions of different tasks may come in any
order.  A task whose plain arithmetic leaves the word has no further turn.
-/

namespace Mjae.Daemon

open Mjae.Arith Mjae.Core Mjae.Transition

/-- One addition to the registry. -/
abbrev Payment := UInt32 × UInt64

/-- What makes a task go on: the next tick, the next call, or its own control flow. -/
inductive Turn (ε ω : Type)
  | tick (answers : ε)
  | call (call : DrainCall ω)
  | resume

/-! ## The sampling loop -/

/-- Where a task that runs the sampling loop stands within its body. -/
inductive SamplingStage
  | waiting
  /-- Nobody is active: everything goes to process 0. -/
  | bucketing (snapshot : PowerSnapshot) (deltaUj : UInt64)
  | paying (snapshot : PowerSnapshot) (deltaUj share remainder : UInt64) (pids : List UInt32)

structure SamplingTask (σ : Type) where
  provider : σ
  previousSnapshot : Option PowerSnapshot
  cumulativeDeltaUj : UInt64
  stage : SamplingStage

namespace SamplingTask

variable {σ ε ω : Type} [EnergyProvider σ ε]

def start (provider : σ) : SamplingTask σ where
  provider
  previousSnapshot := none
  cumulativeDeltaUj := 0
  stage := .waiting

/-- From the tick to the first addition. -/
def tick (task : SamplingTask σ) (answers : ε) : Option (SamplingTask σ) :=
  match EnergyProvider.samplePowerState answers task.provider with
  | (.error _, provider) => some { task with provider, previousSnapshot := none }
  | (.ok snapshot, provider) =>
      match task.previousSnapshot with
      | none => some { task with provider, previousSnapshot := some snapshot }
      | some previous =>
          let deltaUj := snapshotDeltaUj previous snapshot
          let pids := EnergyProvider.activePids provider
          if pids.isEmpty then
            some { task with provider, stage := .bucketing snapshot deltaUj }
          else do
            let numPids := pids.len
            let share ← U64.checkedDiv deltaUj numPids
            let remainder ← U64.checkedSub deltaUj (U64.saturatingMul share numPids)
            some
              { task with provider, stage := .paying snapshot deltaUj share remainder pids.toList }

/-- From the last addition to the next tick. -/
def finish (task : SamplingTask σ) (snapshot : PowerSnapshot) (deltaUj : UInt64) :
    SamplingTask σ :=
  { task with
    previousSnapshot := some snapshot
    cumulativeDeltaUj := U64.saturatingAdd task.cumulativeDeltaUj deltaUj
    stage := .waiting }

/-- Up to the next addition, or to the end of the body. -/
def resume (task : SamplingTask σ) : Option (List Payment × SamplingTask σ) :=
  match task.stage with
  | .waiting => none
  | .bucketing snapshot deltaUj => some ([(0, deltaUj)], task.finish snapshot deltaUj)
  | .paying snapshot deltaUj _ _ [] => some ([], task.finish snapshot deltaUj)
  | .paying snapshot deltaUj share remainder (pid :: rest) => do
      let extra : UInt64 := if 0 < remainder then 1 else 0
      let amount ← U64.checkedAdd share extra
      some ([(pid, amount)],
        { task with stage := .paying snapshot deltaUj share (remainder - extra) rest })

def act (task : SamplingTask σ) : Turn ε ω → Option (List Payment × SamplingTask σ)
  | .tick answers =>
      match task.stage with
      | .waiting => (task.tick answers).map fun next => ([], next)
      | _ => none
  | .resume => task.resume
  | .call _ => none

end SamplingTask

/-! ## Draining -/

/-- Where a task that drains its provider stands within a sync. -/
inductive DrainStage
  | waiting
  | draining (pending : List PidEnergyAttribution) (total : UInt64)

structure DrainTask (σ : Type) where
  provider : σ
  stage : DrainStage
  /-- What the syncs so far have returned. -/
  returned : List UInt64

namespace DrainTask

variable {σ ε ω : Type} [DrainProvider σ ω]

def start (provider : σ) : DrainTask σ where
  provider
  stage := .waiting
  returned := []

/-- From a call to its first addition. -/
def call (task : DrainTask σ) : DrainCall ω → DrainTask σ
  | .perform call => { task with provider := DrainProvider.perform call task.provider }
  | .syncRegistry =>
      { task with
        provider := DrainProvider.drained task.provider
        stage := .draining (DrainProvider.pending task.provider) 0 }

/-- Up to the next addition, or to the end of the sync. -/
def resume (task : DrainTask σ) : Option (List Payment × DrainTask σ) :=
  match task.stage with
  | .waiting => none
  | .draining [] total =>
      some ([], { task with stage := .waiting, returned := task.returned ++ [total] })
  | .draining (attribution :: rest) total =>
      some ([attribution.payment],
        { task with
          stage := .draining rest (U64.saturatingAdd total attribution.attributedEnergyUj) })

def act (task : DrainTask σ) : Turn ε ω → Option (List Payment × DrainTask σ)
  | .call call =>
      match task.stage with
      | .waiting => some ([], task.call call)
      | _ => none
  | .resume => task.resume
  | .tick _ => none

end DrainTask

/-! ## The daemon -/

inductive Task (σ ρ : Type)
  | sampling (task : SamplingTask σ)
  | drain (task : DrainTask ρ)

namespace Task

variable {σ ρ ε ω : Type} [EnergyProvider σ ε] [DrainProvider ρ ω]

def act : Task σ ρ → Turn ε ω → Option (List Payment × Task σ ρ)
  | .sampling task, turn => (task.act turn).map fun acted => (acted.1, .sampling acted.2)
  | .drain task, turn => (task.act turn).map fun acted => (acted.1, .drain acted.2)

/-- The task is between two ticks, or between two calls. -/
def waiting : Task σ ρ → Bool
  | .sampling ⟨_, _, _, .waiting⟩ => true
  | .drain ⟨_, .waiting, _⟩ => true
  | _ => false

/-- What the task has reported: the running total of a loop, or the results of the syncs. -/
def reportedUj : Task σ ρ → Nat
  | .sampling task => task.cumulativeDeltaUj.toNat
  | .drain task => (task.returned.map UInt64.toNat).sum

end Task

/-- Pay one addition into the registry. -/
def pay (registry : AmalgafyRegistry) (payment : Payment) : AmalgafyRegistry :=
  (registry.addMicroJoules payment.1 payment.2).2

section Execute

variable {σ ρ ε ω : Type} [EnergyProvider σ ε] [DrainProvider ρ ω]

/-- The tasks before their first turn: one loop for each of `loops`, then one drain for
each of `drains`. -/
def tasks (loops : List σ) (drains : List ρ) : List (Task σ ρ) :=
  loops.map (fun provider => .sampling (.start provider)) ++
    drains.map fun provider => .drain (.start provider)

/-- One turn of one task. -/
def step : System AmalgafyRegistry (Task σ ρ) → Nat × Turn ε ω →
    Option (System AmalgafyRegistry (Task σ ρ)) :=
  System.step (blind pay Task.act)

/-- The daemon after `turns`, when every turn names a task that can take it. -/
def execute (registry : AmalgafyRegistry) (loops : List σ) (drains : List ρ)
    (turns : List (Nat × Turn ε ω)) : Option (System AmalgafyRegistry (Task σ ρ)) :=
  run step ⟨registry, tasks loops drains⟩ turns

end Execute

end Mjae.Daemon
