import Telekio.Interleave.Ownership
import Telekio.Interleave.Counting
import Telekio.Interleave.Balancing
import Telekio.Interleave.Waiting
import Telekio.Interleave.Sweep
import Telekio.Interleave.Progress
import Telekio.Rundown.Protocol
import Telekio.Bridge.Finality
import Telekio.Bridge.Abortion
import Telekio.Bridge.Idle
import Telekio.Bridge.Wakes
import Telekio.Bridge.Completion
import Telekio.Bridge.Chronicle
import Telekio.Bridge.Deferring
import Telekio.Bridge.Critical
import Telekio.Bridge.Descriptors
import Telekio.Affinity.Threads
import Telekio.Handles.Exact
import Telekio.Runner.Alert
import Telekio.Runner.Dump
import Telekio.Crossing.Transparency
import Telekio.Crossing.Yields
import Telekio.Locks.Deadlock
import Telekio.Readiness.Agreement
import Telekio.Detachment.Refusal
import Telekio.Polling.Closing
import Telekio.Driver.Barrier
import Telekio.Driver.Release
import Telekio.Hooks.Remainder
import Telekio.Deferral.Delivery
import Telekio.Observers.Reports
import Telekio.Blocking.Budget
import Telekio.Dumping.Symbols
import Telekio.Panics.Chain
import Telekio.Wakers.Conservation
import Telekio.Clocks.Handle
import Telekio.Packages.Reachable
import Telekio.Command.Expansion
import Telekio.Command.Status
import Telekio.Patching.Removal
import Telekio.Wrapper.Confined
import Telekio.Wrapper.Main
import Telekio.Abi.Calls
import Telekio.Abi.Decode
import Telekio.Identity.Handover
