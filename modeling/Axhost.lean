import Axhost.Lib.Transition
import Axhost.Lib.ArgvSplit
import Axhost.Platform.QString
import Axhost.Platform.Windows
import Axhost.Registration.ClassSpec
import Axhost.Registration.Surrogate
import Axhost.Registration.Items
import Axhost.Lifetime.Runtime
import Axhost.Lifetime.Suspension
import Axhost.Lifetime.Container
import Axhost.Lifetime.Session
import Axhost.Lifetime.Host
import Axhost.Sink.Invoke
import Axhost.Sink.ThreadPool
import Axhost.Lib.RefHeap
import Axhost.Lib.UnorderedMap
import Axhost.Events.Objects
import Axhost.Events.Methods
import Axhost.Events.Ownership
import Axhost.CommandLine.Quote
import Axhost.CommandLine.RoundTrip
import Axhost.Events.Calls
import Axhost.Events.Identity
import Axhost.Events.Connections
import Axhost.Lifetime.Accounting
import Axhost.Lifetime.ExitTimer
import Axhost.Lifetime.IdleWarning
import Axhost.Registration.ClassTable
import Axhost.Registration.Revocation
import Axhost.Registration.Startup
import Axhost.Registration.Lookup
import Axhost.Events.Acceptance
import Axhost.Platform.Registry
import Axhost.Platform.RegistryCalls
import Axhost.Registration.SurrogateKeys
import Axhost.Registration.Unregister
import Axhost.Lib.RefCycle
import Axhost.Events.Advise
import Axhost.Events.Teardown
import Axhost.Sink.Registration
import Axhost.Events.CookieReuse
import Axhost.Lifetime.FailedCreate
import Axhost.Registration.AllOrNothing
import Axhost.Registration.Attempts
import Axhost.Registration.ExitPolicy
import Axhost.Registration.AsWritten
import Axhost.Registration.Stream
import Axhost.Events.Walk
import Axhost.Lib.NarrowMax
import Axhost.TypeInfo.DefaultSource
import Axhost.TypeInfo.TypeLibVersion
import Axhost.Lifetime.ExternalConnection
import Axhost.Registration.LoggingSettings
import Axhost.Lifetime.Marshal
import Axhost.Lib.FixedDigits
import Axhost.Platform.ClassIdText
import Axhost.CommandLine.AsClassId
import Axhost.Program.Options
import Axhost.Program.Logging
import Axhost.Lib.WriteLog
import Axhost.Program.Main
import Axhost.Program.History
import Axhost.Program.Deployment
import Axhost.Program.Concurrent
import Axhost.Program.Undo
import Axhost.Lib.SharedStore
import Axhost.Lib.Throttle
import Axhost.Lifetime.Progress
import Axhost.Lifetime.SurrogateExit
import Axhost.Lifetime.UnusedLibraries
import Axhost.Registration.Shutdown
import Axhost.Lib.Ledger
import Axhost.Sink.WorkerContext
import Axhost.TypeInfo.ClassInfo
import Axhost.Lib.RelyGuarantee
import Axhost.Program.Interference
import Axhost.Program.LogFiles
import Axhost.Program.Registering
import Axhost.Program.Returning
