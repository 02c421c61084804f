import Mjae.Arith.Word
import Mjae.Collections.TreeMap
import Mjae.Collections.Vec
import Mjae.Core.Attribution
import Mjae.Core.Registry
import Mjae.Core.Provider
import Mjae.Transition.Run
import Mjae.Core.SamplingLoop
import Mjae.Text.Parse
import Mjae.Arith.Counter
import Mjae.Providers.Linux
import Mjae.Providers.Linux.Rapl
import Mjae.Core.Ledger
import Mjae.Providers.Linux.Ledger
import Mjae.Arith.Floor
import Mjae.Order.Overlap
import Mjae.Providers.Linux.Fences
import Mjae.Providers.Linux.FenceEnergy
import Mjae.Concurrent.Registry
import Mjae.Concurrent.Add
import Mjae.Concurrent.Remove
import Mjae.Core.CanonicalJson
import Mjae.Core.Hardware
import Mjae.Core.Signer
import Mjae.Core.Seal
import Mjae.Providers.Linux.Exits
import Mjae.Providers.Linux.WrapPoint
import Mjae.Providers.AppleSilicon
import Mjae.Providers.AppleSilicon.Baselines
import Mjae.Order.FairPart
import Mjae.Core.EqualSplit
import Mjae.Collections.Buffer
import Mjae.Providers.Windows
import Mjae.Providers.Windows.Scratch
import Mjae.Providers.Windows.Calls
import Mjae.Providers.Windows.Ledger
import Mjae.Providers.Windows.ActivePids
import Mjae.Providers.Windows.BurstSplit
import Mjae.Arith.SplitProduct
import Mjae.Core.BurstEnergy
import Mjae.Core.Occupancy
import Mjae.Providers.AppleSilicon.PowerFigure
import Mjae.Arith.BoundedWalk
import Mjae.Providers.Linux.DrainOrder
import Mjae.Core.CanonicalForm
import Mjae.Json.Members
import Mjae.Order.GrowingWalk
import Mjae.Concurrent.Total
import Mjae.Core.Probe
import Mjae.Core.Probe.GpuUuid
import Mjae.Core.Probe.Synthetic
import Mjae.Core.Probe.Contract
import Mjae.Transition.Writers
import Mjae.Core.Drain
import Mjae.Providers.Drain
import Mjae.Daemon.Tasks
import Mjae.Daemon.Accounting
import Mjae.Concurrent.LockFree
import Mjae.Concurrent.Observers
import Mjae.Daemon.Publication
import Mjae.Core.Manifest
import Mjae.Providers.AppleSilicon.Metering
import Mjae.Providers.Windows.Agreement
import Mjae.Concurrent.Harvest
import Mjae.Text.AsciiCase
import Mjae.Providers.AppleSilicon.Discovery
import Mjae.Ownership.Scope
import Mjae.Providers.AppleSilicon.Objects
import Mjae.Core.Standing
import Mjae.Providers.Linux.Standing
import Mjae.Core.Tiling
import Mjae.Daemon.Billing
import Mjae.Core.Probe.Objects
import Mjae.Transition.Once
import Mjae.Providers.Windows.Initialization
import Mjae.Concurrent.GlobalRegistry
import Mjae.Core.Accounts
import Mjae.Core.CpuShares
import Mjae.Text.Decimal
import Mjae.Providers.Linux.CounterFile
import Mjae.Core.BilledTicks
import Mjae.Providers.Windows.Sampling
import Mjae.Providers.Linux.Outages
import Mjae.Concurrent.Turnover
