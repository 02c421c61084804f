import Mjae.Core.Drain
import Mjae.Providers.AppleSilicon
import Mjae.Providers.Linux.Ledger
import Mjae.Providers.Windows

/-!
# The buffers of the three providers

All three providers drain the same way.  They differ in the calls that come between
two syncs: the Linux provider also follows fences, the other two are only handed
finished records.
-/

namespace Mjae.Providers

open Mjae.Arith Mjae.Core

/-- The calls on a Linux provider that leave the registry alone. -/
inductive LinuxCall
  | correlateFence (event : DmaFenceEvent)
  | enqueueAttribution (attribution : PidEnergyAttribution)
  | markPidActive (pid : UInt32)
  | markPidIdle (pid : UInt32)

namespace LinuxProvider

def perform (provider : LinuxProvider) : LinuxCall → LinuxProvider
  | .correlateFence event => (provider.correlateFence event).2
  | .enqueueAttribution attribution => provider.enqueueAttribution attribution
  | .markPidActive pid => provider.markPidActive pid
  | .markPidIdle pid => provider.markPidIdle pid

instance : DrainProvider LinuxProvider LinuxCall where
  perform call provider := provider.perform call
  pending := LinuxProvider.pending
  syncRegistry := syncRegistry
  drained provider := { provider with pending := [] }
  syncRegistry_eq := syncRegistry_eq
  pending_drained _ := rfl

end LinuxProvider

namespace WindowsProvider

instance : DrainProvider WindowsProvider PidEnergyAttribution where
  perform attribution provider := provider.enqueueAttribution attribution
  pending := WindowsProvider.pending
  syncRegistry := syncRegistry
  drained provider := { provider with pending := [] }
  syncRegistry_eq provider registry := by rw [syncRegistry, drainPending_eq]
  pending_drained _ := rfl

end WindowsProvider

namespace AppleSiliconProvider

instance : DrainProvider AppleSiliconProvider PidEnergyAttribution where
  perform attribution provider := provider.enqueueAttribution attribution
  pending := AppleSiliconProvider.pending
  syncRegistry := syncRegistry
  drained provider := { provider with pending := [] }
  syncRegistry_eq provider registry := by rw [syncRegistry, drainPending_eq]
  pending_drained _ := rfl

end AppleSiliconProvider

end Mjae.Providers
