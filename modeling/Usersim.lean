import Usersim.Lib.Run
import Usersim.Lib.Text
import Usersim.Lib.Linearizable
import Usersim.Lib.Ring
import Usersim.Lib.Count
import Usersim.Lib.SortedMap
import Usersim.Lib.Word
import Usersim.Lib.Circular
import Usersim.Lib.Condition
import Usersim.Lib.Offsets
import Usersim.Lib.Ledger
import Usersim.Basic
import Usersim.Framework.List
import Usersim.Framework.KernelList
import Usersim.Framework.Refinement
import Usersim.Dpc.Basic
import Usersim.Dpc.Queue
import Usersim.Dpc.Account
import Usersim.Dpc.Barrier
import Usersim.Dpc.Conservation
import Usersim.Dpc.Retarget
import Usersim.Dpc.Shutdown
import Usersim.Dpc.WakeUp
import Usersim.Rundown.Basic
import Usersim.Rundown.Protocol
import Usersim.Rundown.WakeUp
import Usersim.Irql.Basic
import Usersim.Irql.Exclusion
import Usersim.Irql.Sequence
import Usersim.Irql.Affinity
import Usersim.Irql.Priority
import Usersim.Irql.Pinning
import Usersim.Nmr.Basic
import Usersim.Nmr.Handles
import Usersim.Nmr.Bindings
import Usersim.Nmr.Exclusive
import Usersim.Nmr.Lifetime
import Usersim.Nmr.Teardown
import Usersim.Nmr.Pairs
import Usersim.Nmr.Sequential
import Usersim.Nmr.Stranding
import Usersim.Nmr.Lock
import Usersim.Nmr.Failure
import Usersim.Platform.Basic
import Usersim.Platform.RefCount
import Usersim.Platform.Handles
import Usersim.Platform.Processors
import Usersim.Platform.RingBuffer
import Usersim.Platform.RingMemory
import Usersim.Cxplat.Basic
import Usersim.Cxplat.Atomic
import Usersim.Cxplat.Modules
import Usersim.Cxplat.ModulePath
import Usersim.Cxplat.Processor
import Usersim.Semaphore.Basic
import Usersim.Semaphore.Linearizable
import Usersim.SpinLock.Basic
import Usersim.SpinLock.Exclusion
import Usersim.Event.Basic
import Usersim.Event.Semantics
import Usersim.Event.Timeout
import Usersim.WorkItem.Basic
import Usersim.WorkItem.RunDown
import Usersim.WorkItem.Io
import Usersim.Memory.Basic
import Usersim.Memory.Tracker
import Usersim.Memory.LeakDetector
import Usersim.Memory.Sequential
import Usersim.Memory.Throwing
import Usersim.Memory.Headers
import Usersim.Memory.Winuser
import Usersim.Memory.Winkernel
import Usersim.Memory.Contents
import Usersim.Trace.Basic
import Usersim.Trace.Codec
import Usersim.Trace.Log
import Usersim.Fault.Basic
import Usersim.Fault.Log
import Usersim.Fault.Once
import Usersim.Fault.RoundTrip
import Usersim.Fault.Reset
import Usersim.Fault.Modules
import Usersim.Fault.Capture
import Usersim.Fault.Pass
import Usersim.Wdf.Basic
import Usersim.Wdf.Usage
import Usersim.Wdf.DeviceAdd
import Usersim.Wdf.Session
import Usersim.Wdf.Request
import Usersim.Wdf.DeviceInit
import Usersim.Wdf.Preprocess
import Usersim.Wdf.Atomic
import Usersim.Fwp.Basic
import Usersim.Fwp.Unregister
import Usersim.Fwp.Flow
import Usersim.Fwp.Removal
import Usersim.Fwp.Filters
import Usersim.Fwp.Classify
import Usersim.Fwp.Connect
import Usersim.Ob.Basic
import Usersim.Ob.References
import Usersim.Ex.Pool
import Usersim.Ex.Placement
import Usersim.Mm.Basic
import Usersim.Mm.Partial
import Usersim.Mm.Probe
import Usersim.Ex.Exceptions
import Usersim.Se.Access
import Usersim.Se.Lookup
import Usersim.Se.Sid
import Usersim.Ndis.DataStart
import Usersim.Ndis.BufferList
import Usersim.Timer.Basic
import Usersim.Timer.StateMachine
import Usersim.Timer.Delivery
