import Axhost.Registration.ClassSpec

/-!
# The standalone runtime

`surrogate_runtime.cc`: the server references of `RunAsStandalone` and the exit check,
together with the part of COM and Qt they act on.

COM keeps one counter of server references per process; releasing the last one also
suspends the process's class objects, and only `CoResumeClassObjects` lifts that.
`ExitApplicationLater` queues an event.  `CheckForExit` may show a modal warning before
it asks for the exit; it then stays open, with the event loop running, until
`dismissWarning`.
-/

namespace Axhost

/-- COM's state of a server process. -/
structure ServerProcess where
  refs : Int := 0
  suspended : Bool := false
deriving DecidableEq, Repr

namespace ServerProcess

def coAddRefServerProcess (com : ServerProcess) : Int × ServerProcess :=
  (com.refs + 1, { com with refs := com.refs + 1 })

def coReleaseServerProcess (com : ServerProcess) : Int × ServerProcess :=
  let refs := com.refs - 1
  (refs, { refs := refs, suspended := com.suspended || refs == 0 })

def coSuspendClassObjects (com : ServerProcess) : ServerProcess :=
  { com with suspended := true }

def coResumeClassObjects (com : ServerProcess) : ServerProcess :=
  { com with suspended := false }

end ServerProcess

/-- `RunAsStandalone`.  Times are in milliseconds; `checkForExitTimer` is when the single
shot is due, and `exitEvents` counts the queued exits. -/
structure Runtime where
  com : ServerProcess := {}
  now : Nat := 0
  checkForExitTimeout : Nat := 60000
  checkForExitTimer : Option Nat := none
  acquisitionCount : DWORD := 0
  warnedIdle : Bool := false
  hasMultipleUse : Bool := false
  warningOpen : Bool := false
  exitEvents : Nat := 0
  messages : List MessageBox := []
deriving DecidableEq, Repr

namespace Runtime

def timedOut (timeout : Nat) : MessageBox where
  template := "Warning: Timed Out For No Interaction\n\n" ++
    "No COM interaction has occurred for the timeout period (%1 ms).\n" ++
    "Server process will now terminate."
  arguments := [(Nat.toDigits 10 timeout).map qLatin1Char]

def noClassRegistered : MessageBox where
  template := "Error: No Class Registered\n\nNo class factory could be registered. Exiting."
  arguments := []

def exitApplicationLater (rt : Runtime) : Runtime :=
  { rt with exitEvents := rt.exitEvents + 1 }

/-- `m_checkForExitTimer.start(m_checkForExitTimeout)`. -/
def checkForExitLater (rt : Runtime) : Runtime :=
  { rt with checkForExitTimer := some (rt.now + rt.checkForExitTimeout) }

def addServerReference (rt : Runtime) : Runtime :=
  { rt with
    com := rt.com.coAddRefServerProcess.2
    acquisitionCount := rt.acquisitionCount + 1 }

def releaseServerReference (rt : Runtime) : Runtime :=
  let (refs, com) := rt.com.coReleaseServerProcess
  let rt := { rt with com := com }
  if refs = 0 then
    if rt.hasMultipleUse then rt.checkForExitLater else rt.exitApplicationLater
  else rt

/-- `CheckForExit` up to its message box, or to its end where it shows none. -/
def checkForExit (rt : Runtime) : Runtime :=
  let (_, com) := rt.com.coAddRefServerProcess
  let (refs, com) := com.coReleaseServerProcess
  let rt := { rt with com := com }
  if refs = 0 then
    if rt.acquisitionCount = 0#32 ∧ rt.warnedIdle = false then
      { rt with
        warnedIdle := true
        warningOpen := true
        messages := rt.messages ++ [timedOut rt.checkForExitTimeout] }
    else rt.exitApplicationLater
  else rt.checkForExitLater

/-- The rest of `CheckForExit` once its warning is closed. -/
def dismissWarning (rt : Runtime) : Runtime :=
  { rt with warningOpen := false }.exitApplicationLater

/-- The timer fires when it is due and has been started; it is single-shot. -/
def timeout (rt : Runtime) : Option Runtime :=
  match rt.checkForExitTimer with
  | some due =>
    if due ≤ rt.now then some { rt with checkForExitTimer := none }.checkForExit else none
  | none => none

def checkMultipleUse (specs : List ClassSpec) (regcls : DWORD) : Bool :=
  hasFlag regcls REGCLS_MULTIPLEUSE ||
    specs.any fun spec => hasFlag spec.regcls REGCLS_MULTIPLEUSE

/-- What the constructor does to the runtime, given how suspending, registering and
resuming the class objects went. -/
def constructed (hasMultipleUse suspendSucceeded hasRegisteredClass resumeSucceeded : Bool) :
    Runtime :=
  let rt : Runtime := checkForExitLater {}
  let rt := { rt with hasMultipleUse := hasMultipleUse }
  let rt := if suspendSucceeded then { rt with com := rt.com.coSuspendClassObjects } else rt
  let rt := if hasRegisteredClass then rt
    else { rt with messages := rt.messages ++ [noClassRegistered] }.exitApplicationLater
  if suspendSucceeded && hasRegisteredClass && resumeSucceeded then
    { rt with com := rt.com.coResumeClassObjects }
  else rt

/-! ## What the operations do -/

@[simp] theorem addServerReference_refs (rt : Runtime) :
    rt.addServerReference.com.refs = rt.com.refs + 1 := rfl

@[simp] theorem addServerReference_suspended (rt : Runtime) :
    rt.addServerReference.com.suspended = rt.com.suspended := rfl

@[simp] theorem addServerReference_exitEvents (rt : Runtime) :
    rt.addServerReference.exitEvents = rt.exitEvents := rfl

@[simp] theorem addServerReference_warningOpen (rt : Runtime) :
    rt.addServerReference.warningOpen = rt.warningOpen := rfl

@[simp] theorem addServerReference_hasMultipleUse (rt : Runtime) :
    rt.addServerReference.hasMultipleUse = rt.hasMultipleUse := rfl

@[simp] theorem releaseServerReference_refs (rt : Runtime) :
    rt.releaseServerReference.com.refs = rt.com.refs - 1 := by
  unfold releaseServerReference
  dsimp only [ServerProcess.coReleaseServerProcess]
  split_ifs <;> rfl

@[simp] theorem releaseServerReference_suspended (rt : Runtime) :
    rt.releaseServerReference.com.suspended =
      (rt.com.suspended || decide (rt.com.refs = 1)) := by
  have hone : (rt.com.refs - 1 == 0) = decide (rt.com.refs = 1) := by
    rw [Bool.eq_iff_iff]
    simp only [beq_iff_eq, decide_eq_true_eq]
    omega
  unfold releaseServerReference
  dsimp only [ServerProcess.coReleaseServerProcess]
  rw [hone]
  split_ifs <;> rfl

@[simp] theorem releaseServerReference_warningOpen (rt : Runtime) :
    rt.releaseServerReference.warningOpen = rt.warningOpen := by
  unfold releaseServerReference
  dsimp only [ServerProcess.coReleaseServerProcess]
  split_ifs <;> rfl

@[simp] theorem releaseServerReference_hasMultipleUse (rt : Runtime) :
    rt.releaseServerReference.hasMultipleUse = rt.hasMultipleUse := by
  unfold releaseServerReference
  dsimp only [ServerProcess.coReleaseServerProcess]
  split_ifs <;> rfl

/-- A release asks for an exit only in single-use mode and only at the last reference. -/
theorem releaseServerReference_exitEvents (rt : Runtime) :
    rt.releaseServerReference.exitEvents =
      if rt.com.refs = 1 ∧ rt.hasMultipleUse = false then rt.exitEvents + 1
      else rt.exitEvents := by
  have hone : rt.com.refs - 1 = 0 ↔ rt.com.refs = 1 := by omega
  unfold releaseServerReference
  dsimp only [ServerProcess.coReleaseServerProcess]
  simp only [hone]
  cases hmulti : rt.hasMultipleUse <;> split_ifs <;> simp_all [exitApplicationLater,
    checkForExitLater]

/-- In multiple-use mode it starts the exit timer instead. -/
theorem releaseServerReference_checkForExitTimer (rt : Runtime) :
    rt.releaseServerReference.checkForExitTimer =
      if rt.com.refs = 1 ∧ rt.hasMultipleUse = true then some (rt.now + rt.checkForExitTimeout)
      else rt.checkForExitTimer := by
  have hone : rt.com.refs - 1 = 0 ↔ rt.com.refs = 1 := by omega
  unfold releaseServerReference
  dsimp only [ServerProcess.coReleaseServerProcess]
  simp only [hone]
  cases hmulti : rt.hasMultipleUse <;> split_ifs <;> simp_all [exitApplicationLater,
    checkForExitLater]

@[simp] theorem checkForExit_refs (rt : Runtime) :
    rt.checkForExit.com.refs = rt.com.refs := by
  unfold checkForExit
  dsimp only [ServerProcess.coAddRefServerProcess, ServerProcess.coReleaseServerProcess]
  split_ifs <;> simp [exitApplicationLater, checkForExitLater]

@[simp] theorem checkForExit_suspended (rt : Runtime) :
    rt.checkForExit.com.suspended = (rt.com.suspended || decide (rt.com.refs = 0)) := by
  unfold checkForExit
  dsimp only [ServerProcess.coAddRefServerProcess, ServerProcess.coReleaseServerProcess]
  rw [Int.add_sub_cancel]
  split_ifs with hzero hidle
  · simp [hzero]
  · simp [hzero, exitApplicationLater]
  · simp [hzero, checkForExitLater]

@[simp] theorem checkForExit_hasMultipleUse (rt : Runtime) :
    rt.checkForExit.hasMultipleUse = rt.hasMultipleUse := by
  unfold checkForExit
  dsimp only [ServerProcess.coAddRefServerProcess, ServerProcess.coReleaseServerProcess]
  split_ifs <;> rfl

/-- The warning is due: nobody ever took a reference and it has not been shown yet. -/
def idle (rt : Runtime) : Prop := rt.acquisitionCount = 0#32 ∧ rt.warnedIdle = false

instance (rt : Runtime) : Decidable rt.idle := inferInstanceAs (Decidable (_ ∧ _))

theorem checkForExit_exitEvents (rt : Runtime) :
    rt.checkForExit.exitEvents =
      if rt.com.refs = 0 ∧ ¬ rt.idle then rt.exitEvents + 1 else rt.exitEvents := by
  unfold checkForExit
  dsimp only [ServerProcess.coAddRefServerProcess, ServerProcess.coReleaseServerProcess]
  rw [Int.add_sub_cancel]
  unfold idle
  split_ifs <;> simp_all [exitApplicationLater, checkForExitLater]

theorem checkForExit_warningOpen (rt : Runtime) :
    rt.checkForExit.warningOpen =
      (rt.warningOpen || decide (rt.com.refs = 0 ∧ rt.idle)) := by
  unfold checkForExit
  dsimp only [ServerProcess.coAddRefServerProcess, ServerProcess.coReleaseServerProcess]
  rw [Int.add_sub_cancel]
  unfold idle
  split_ifs <;> simp_all [exitApplicationLater, checkForExitLater]

theorem releaseServerReference_now (rt : Runtime) :
    rt.releaseServerReference.now = rt.now ∧
      rt.releaseServerReference.checkForExitTimeout = rt.checkForExitTimeout := by
  unfold releaseServerReference
  dsimp only [ServerProcess.coReleaseServerProcess]
  split_ifs <;> exact ⟨rfl, rfl⟩

theorem checkForExit_now (rt : Runtime) :
    rt.checkForExit.now = rt.now ∧
      rt.checkForExit.checkForExitTimeout = rt.checkForExitTimeout := by
  unfold checkForExit
  dsimp only [ServerProcess.coAddRefServerProcess, ServerProcess.coReleaseServerProcess]
  split_ifs <;> exact ⟨rfl, rfl⟩

theorem checkForExit_checkForExitTimer {rt : Runtime} (hrefs : rt.com.refs ≠ 0) :
    rt.checkForExit.checkForExitTimer = some (rt.now + rt.checkForExitTimeout) := by
  unfold checkForExit
  dsimp only [ServerProcess.coAddRefServerProcess, ServerProcess.coReleaseServerProcess]
  rw [Int.add_sub_cancel, if_neg hrefs]
  rfl

theorem timeout_eq_some {rt rt' : Runtime} (h : rt.timeout = some rt') :
    ∃ due, rt.checkForExitTimer = some due ∧ due ≤ rt.now ∧
      rt' = { rt with checkForExitTimer := none }.checkForExit := by
  unfold timeout at h
  split at h
  · next due htimer =>
    obtain ⟨hdue, h⟩ := Option.ite_none_right_eq_some.mp h
    exact ⟨due, htimer, hdue, (Option.some.inj h).symm⟩
  · exact absurd h (by simp)

@[simp] theorem dismissWarning_com (rt : Runtime) : rt.dismissWarning.com = rt.com := rfl

@[simp] theorem dismissWarning_exitEvents (rt : Runtime) :
    rt.dismissWarning.exitEvents = rt.exitEvents + 1 := rfl

@[simp] theorem dismissWarning_warningOpen (rt : Runtime) :
    rt.dismissWarning.warningOpen = false := rfl

end Runtime

end Axhost
