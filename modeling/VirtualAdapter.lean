import VirtualAdapter.Bench.HostBench.Run
import VirtualAdapter.Bench.KernelBench
import VirtualAdapter.Bench.MemoryBench
import VirtualAdapter.Bench.RingBench
import VirtualAdapter.Bench.SignalBench
import VirtualAdapter.Conformance.Catalogue
import VirtualAdapter.Main
import VirtualAdapter.Model.RingTrial
import VirtualAdapter.Model.SessionTrial
import VirtualAdapter.Proofs.Exchange.Census
import VirtualAdapter.Proofs.Exchange.Shutdown
import VirtualAdapter.Proofs.Host.Closing
import VirtualAdapter.Proofs.Memory.Payloads
import VirtualAdapter.Proofs.Memory.ReadEvents
import VirtualAdapter.Proofs.Memory.Strays
import VirtualAdapter.Proofs.Model.Passing
import VirtualAdapter.Proofs.Ring.History
import VirtualAdapter.Proofs.Host.Berths
import VirtualAdapter.Proofs.Host.Crowd
import VirtualAdapter.Proofs.Host.Exclusion
import VirtualAdapter.Proofs.Host.Removal
import VirtualAdapter.Proofs.Model.RingTrials
import VirtualAdapter.Proofs.Host.PumpThread
import VirtualAdapter.Proofs.Ring.Queued
import VirtualAdapter.Proofs.Host.PumpWaiting
import VirtualAdapter.Proofs.Host.PumpAccesses
import VirtualAdapter.Proofs.Host.Pumped
import VirtualAdapter.Proofs.Memory.Numbers
import VirtualAdapter.Proofs.Memory.Bystanders
import VirtualAdapter.Proofs.Host.Punctual
import VirtualAdapter.Proofs.Host.Polling
import VirtualAdapter.Proofs.Memory.Creators
import VirtualAdapter.Proofs.Host.Retries
import VirtualAdapter.Proofs.Host.Sendings
import VirtualAdapter.Proofs.Host.Takings
import VirtualAdapter.Proofs.Memory.Leftovers
import VirtualAdapter.Proofs.Memory.Refusals
import VirtualAdapter.Proofs.Ring.Reclaiming
import VirtualAdapter.Proofs.Exchange.Undone
import VirtualAdapter.Proofs.Ring.Reissues
import VirtualAdapter.Proofs.Memory.SlotBudget
import VirtualAdapter.Proofs.Kernel.WideNames
import VirtualAdapter.Proofs.Signal.Verdicts
import VirtualAdapter.Proofs.Guid
import VirtualAdapter.Proofs.Error
import VirtualAdapter.Proofs.Kernel.Timeouts
