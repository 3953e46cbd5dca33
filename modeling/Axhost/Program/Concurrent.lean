import Axhost.Platform.RegistryCalls
import Axhost.Program.History

/-!
# Runs at the same time

Nothing keeps two runs of the program from changing the registry at once: each makes its calls one
by one, and those of the others may come in between.

* `run_program`: call by call, a run does what it does as a whole;
* `ProgramRun.serializable`: runs none of which writes a key that another one opens have the
  results they have alone, and leave what they leave one after the other;
* `ProgramRun.readers_unseen`: runs that only read are not noticed, whatever they read;
* `ProgramRun.only_program`: the calls that a run makes to change something, whatever it finds.
-/

namespace Axhost

open SharedStore

namespace RegistryProgram

variable {κ : Type*} [DecidableEq κ] (resolve : QString → κ)

def registerSurrogate (moduleFileName : QString) (faults : RegisterFaults)
    (clsid appid : QString) : RegistryProgram κ (HRESULT × List MessageBox) := do
  if faults.admin = false then
    return (E_ACCESSDENIED, [administratorRequired "Registering COM surrogates"])
  let exePath := getExecutablePath moduleFileName
  let effectiveAppId := if appid.isEmpty then clsid else appid
  let hr ← createUniqueKey (clsidKey resolve clsid) faults.createClsid
  if failed hr then
    return (hr, [registryFailed "Create Registry Key" "create registry key" (clsidPath clsid) hr])
  let hr ← setValueString (clsidKey resolve clsid) .AppID effectiveAppId faults.setAppID
  if failed hr then
    return (hr, [registryFailed "Set AppID" "set AppID value in" (clsidPath clsid) hr])
  let hr ← createUniqueKey (appidKey resolve effectiveAppId) faults.createAppid
  if failed hr then
    return (hr, [registryFailed "Create AppID Key" "create registry key"
      (appidPath effectiveAppId) hr])
  let hr ← setValueString (appidKey resolve effectiveAppId) .DllSurrogate exePath
    faults.setDllSurrogate
  if failed hr then
    return (hr, [registryFailed "Set DllSurrogate" "set DllSurrogate value in"
      (appidPath effectiveAppId) hr])
  return (S_OK, [surrogateRegistered clsid effectiveAppId exePath])

def setIfSpecified (key : κ) (name : ValueName) (s : QString) (fault : LSTATUS) :
    RegistryProgram κ HRESULT :=
  if s.isEmpty then pure S_OK else setValueString key name s fault

def writeLoggingSettings (faults : WriteFaults) (appid : QString) (settings : LoggingSettings) :
    RegistryProgram κ (HRESULT × List MessageBox) := do
  if faults.admin = false then
    return (E_ACCESSDENIED, [administratorRequired "Writing logging settings"])
  let hr ← openUniqueKey (appidKey resolve appid) faults.openAppid
  if failed hr then
    return (hr, [registryFailed "Open AppID Key" "open registry key" (appidPath appid) hr])
  let hr ← setValueDword (appidKey resolve appid) .LogEnabled (if settings.enabled then 1 else 0)
    faults.setLogEnabled
  if failed hr then
    return (hr, [registryFailed "Set LogEnabled" "set LogEnabled value in" (appidPath appid) hr])
  let hr ← setIfSpecified (appidKey resolve appid) .LogLevel settings.level faults.setLogLevel
  if failed hr then
    return (hr, [registryFailed "Set LogLevel" "set LogLevel value in" (appidPath appid) hr])
  let hr ← setIfSpecified (appidKey resolve appid) .LogDirectory settings.directory
    faults.setLogDirectory
  if failed hr then
    return (hr, [registryFailed "Set LogDirectory" "set LogDirectory value in"
      (appidPath appid) hr])
  return (S_OK, [loggingApplied appid settings])

def removeValue (key : κ) (name : ValueName) (openFault deleteFault : LSTATUS) :
    RegistryProgram κ LSTATUS := do
  let hr ← openUniqueKey key openFault
  if failed hr then return ERROR_SUCCESS
  regDeleteValue key name deleteFault

def readAppid (faults : UnregisterFaults) (clsid : QString) : RegistryProgram κ QString := do
  let hr ← openUniqueKey (clsidKey resolve clsid) faults.openClsidRead
  if failed hr then return []
  let (hr, appidValue) ← getValueString (clsidKey resolve clsid) .AppID faults.getAppID
  return if failed hr then [] else appidValue.getD []

def unregisterSurrogate (faults : UnregisterFaults) (clsid : QString) :
    RegistryProgram κ (HRESULT × List MessageBox) := do
  if faults.admin = false then
    return (E_ACCESSDENIED, [administratorRequired "Unregistering COM surrogates"])
  let appid ← readAppid resolve faults clsid
  let status ← removeValue (clsidKey resolve clsid) .AppID faults.openClsidWrite faults.deleteAppID
  if returns status then return (HRESULT_FROM_WIN32 status, [])
  let status ← (if appid.isEmpty then pure ERROR_SUCCESS else
    removeValue (appidKey resolve appid) .DllSurrogate faults.openAppid faults.deleteDllSurrogate)
  if returns status then return (HRESULT_FROM_WIN32 status, [])
  return (S_OK, [surrogateUnregistered clsid appid])

def readValues (faults : ReadFaults) (key : κ) : RegistryProgram κ LoggingSettings := do
  let settings : LoggingSettings := {}
  let (hr, enabledValue) ← getValueDword key .LogEnabled faults.getLogEnabled
  let settings := if failed hr then settings
    else { settings with enabled := enabledValue.getD 0 != 0 }
  let (hr, levelValue) ← getValueString key .LogLevel faults.getLogLevel
  let settings := if failed hr then settings
    else { settings with level := levelValue.getD [] }
  let (hr, dirValue) ← getValueString key .LogDirectory faults.getLogDirectory
  return if failed hr then settings else { settings with directory := dirValue.getD [] }

def readLoggingSettings (faults : ReadFaults) (clsid : QString) :
    RegistryProgram κ LoggingSettings := do
  let hr ← openUniqueKey (clsidKey resolve clsid) faults.openClsid
  if failed hr then return {}
  let (hr, appidValue) ← getValueString (clsidKey resolve clsid) .AppID faults.getAppID
  if failed hr then return {}
  let appid := appidValue.getD []
  let hr ← openUniqueKey (appidKey resolve appid) faults.openAppid
  if failed hr then return {}
  readValues faults (appidKey resolve appid)

def initializeLogging (env : LogEnvironment) (faults : MainFaults) (parsed : ParsedOptions) :
    RegistryProgram κ Logger := do
  if parsed.runsAsSurrogate then
    let settings ← readLoggingSettings resolve faults.readLogging (QUuid.toString parsed.classId)
    return loggingFromSettings env settings
  return initializeLoggingStandalone env parsed

def dispatch (moduleFileName : QString) (faults : MainFaults) (parsed : ParsedOptions) :
    RegistryProgram κ (MainEnd × List MessageBox) := do
  if !parsed.registerAppId.isEmpty then
    let (hr, messages) ← (if !parsed.registerClassId.isEmpty then
        registerSurrogate resolve moduleFileName faults.register parsed.registerClassId
          parsed.registerAppId
      else pure (S_OK, []))
    if failed hr then return (.throws hr, messages)
    let (hr, more) ← writeLoggingSettings resolve faults.writeLogging parsed.registerAppId
      parsed.registerSettings
    if failed hr then return (.throws hr, messages ++ more)
    return (.returns, messages ++ more)
  if !parsed.unregisterClassId.isEmpty then
    let (hr, messages) ← unregisterSurrogate resolve faults.unregister parsed.unregisterClassId
    if failed hr then return (.throws hr, messages)
    return (.returns, messages)
  if parsed.runsAsSurrogate then
    return (.executes (.runAsSurrogate parsed.classId parsed.embedding), [])
  if !parsed.specs.isEmpty then
    return (.executes (.runAsStandalone parsed.specs parsed.readyEvent parsed.regcls), [])
  return (.returns, [])

def main (env : LogEnvironment) (moduleFileName : QString) (faults : MainFaults)
    (tried : ParsedOptions) (parsed : Except Int ParsedOptions) :
    RegistryProgram κ MainResult := do
  let logger ← initializeLogging resolve env faults tried
  if failed faults.setPreferredLanguages then
    return { logger := logger, ending := .throws faults.setPreferredLanguages }
  if failed faults.initializeCom then
    return { logger := logger, ending := .throws faults.initializeCom }
  if failed faults.initializeComSecurity then
    return { logger := logger, ending := .throws faults.initializeComSecurity }
  match parsed with
  | .error code => return { logger := logger, ending := .exits code }
  | .ok parsed =>
    let (ending, messages) ← dispatch resolve moduleFileName faults parsed
    return { logger := logger, ending := ending, messages := messages }

/-! ## Call by call, and as a whole -/

variable {resolve} (reg : Registry κ)

theorem run_registerSurrogate (moduleFileName : QString) (faults : RegisterFaults)
    (clsid appid : QString) :
    (registerSurrogate resolve moduleFileName faults clsid appid).run reg.keys =
      ((Axhost.registerSurrogate resolve moduleFileName faults clsid appid reg).1,
        (Axhost.registerSurrogate resolve moduleFileName faults clsid appid reg).2.keys) := by
  unfold registerSurrogate Axhost.registerSurrogate
  simp only [Program.run_bind, Program.run_ite, Program.run_pure, run_createUniqueKey,
    run_setValueString]
  split_ifs <;> rfl

theorem run_setIfSpecified (key : κ) (name : ValueName) (s : QString) (fault : LSTATUS) :
    (setIfSpecified key name s fault).run reg.keys =
      ((Axhost.setIfSpecified reg key name s fault).1,
        (Axhost.setIfSpecified reg key name s fault).2.keys) := by
  unfold setIfSpecified Axhost.setIfSpecified
  rw [Program.run_ite, Program.run_pure, run_setValueString]
  split_ifs <;> rfl

theorem run_writeLoggingSettings (faults : WriteFaults) (appid : QString)
    (settings : LoggingSettings) :
    (writeLoggingSettings resolve faults appid settings).run reg.keys =
      ((Axhost.writeLoggingSettings resolve faults appid settings reg).1,
        (Axhost.writeLoggingSettings resolve faults appid settings reg).2.keys) := by
  unfold writeLoggingSettings Axhost.writeLoggingSettings
  simp only [Program.run_bind, Program.run_ite, Program.run_pure, run_openUniqueKey,
    run_setValueDword, run_setIfSpecified]
  split_ifs <;> rfl

theorem run_removeValue (key : κ) (name : ValueName) (openFault deleteFault : LSTATUS) :
    (removeValue key name openFault deleteFault).run reg.keys =
      ((Axhost.removeValue reg key name openFault deleteFault).1,
        (Axhost.removeValue reg key name openFault deleteFault).2.keys) := by
  unfold removeValue Axhost.removeValue
  simp only [Program.run_bind, Program.run_ite, Program.run_pure, run_openUniqueKey,
    run_regDeleteValue]
  split_ifs <;> rfl

theorem run_readAppid (faults : UnregisterFaults) (clsid : QString) :
    (readAppid resolve faults clsid).run reg.keys =
      (Axhost.readAppid resolve faults clsid reg, reg.keys) := by
  unfold readAppid Axhost.readAppid
  simp only [Program.run_bind, Program.run_ite, Program.run_pure, run_openUniqueKey,
    run_getValueString]
  split_ifs <;> rfl

theorem run_unregisterSurrogate (faults : UnregisterFaults) (clsid : QString) :
    (unregisterSurrogate resolve faults clsid).run reg.keys =
      ((Axhost.unregisterSurrogate resolve faults clsid reg).1,
        (Axhost.unregisterSurrogate resolve faults clsid reg).2.keys) := by
  unfold unregisterSurrogate Axhost.unregisterSurrogate
  simp only [Program.run_bind, Program.run_ite, Program.run_pure, run_readAppid, run_removeValue]
  split_ifs <;> rfl

theorem run_readValues (faults : ReadFaults) (key : κ) :
    (readValues faults key).run reg.keys = (Axhost.readValues faults key reg, reg.keys) := by
  unfold readValues Axhost.readValues
  simp only [Program.run_bind, Program.run_pure, run_getValueDword, run_getValueString]

theorem run_readLoggingSettings (faults : ReadFaults) (clsid : QString) :
    (readLoggingSettings resolve faults clsid).run reg.keys =
      (Axhost.readLoggingSettings resolve faults clsid reg, reg.keys) := by
  unfold readLoggingSettings Axhost.readLoggingSettings
  simp only [Program.run_bind, Program.run_ite, Program.run_pure, run_openUniqueKey,
    run_getValueString, run_readValues]
  split_ifs <;> rfl

theorem run_initializeLogging (env : LogEnvironment) (faults : MainFaults)
    (parsed : ParsedOptions) :
    (initializeLogging resolve env faults parsed).run reg.keys =
      (Axhost.initializeLogging resolve env faults parsed reg, reg.keys) := by
  unfold initializeLogging Axhost.initializeLogging initializeLoggingSurrogate
  simp only [Program.run_bind, Program.run_ite, Program.run_pure, run_readLoggingSettings]
  split_ifs <;> rfl

theorem run_dispatch (moduleFileName : QString) (faults : MainFaults) (parsed : ParsedOptions) :
    (dispatch resolve moduleFileName faults parsed).run reg.keys =
      ((Axhost.dispatch resolve moduleFileName faults parsed reg).1,
        (Axhost.dispatch resolve moduleFileName faults parsed reg).2.keys) := by
  unfold dispatch Axhost.dispatch
  cases parsed.registerClassId.isEmpty <;>
    simp only [Program.run_bind, Program.run_ite, Program.run_pure, run_registerSurrogate,
      run_writeLoggingSettings, run_unregisterSurrogate, failed_S_OK, Bool.not_true, Bool.not_false,
      Bool.false_eq_true, if_true, if_false] <;>
    split_ifs <;> rfl

theorem run_main (env : LogEnvironment) (moduleFileName : QString) (faults : MainFaults)
    (tried : ParsedOptions) (parsed : Except Int ParsedOptions) :
    (main resolve env moduleFileName faults tried parsed).run reg.keys =
      ((Axhost.main resolve env moduleFileName faults tried parsed reg).1,
        (Axhost.main resolve env moduleFileName faults tried parsed reg).2.keys) := by
  unfold main Axhost.main
  cases parsed <;>
    simp only [Program.run_bind, Program.run_ite, Program.run_pure, run_initializeLogging,
      run_dispatch] <;>
    split_ifs <;> rfl

end RegistryProgram

namespace ProgramRun

variable {ι κ : Type*} [DecidableEq ι] [DecidableEq κ] (resolve : QString → κ)

def program (run : ProgramRun) : RegistryProgram κ MainResult :=
  RegistryProgram.main resolve run.env run.moduleFileName run.faults run.tried run.parsed

theorem run_program (run : ProgramRun) (reg : Registry κ) :
    (run.program resolve).run reg.keys =
      ((run.result resolve reg).1, (run.result resolve reg).2.keys) :=
  RegistryProgram.run_main reg _ _ _ _ _

/-- The keys that a run opens. -/
def opens (run : ProgramRun) (reg : Registry κ) : List κ :=
  (run.program resolve).touched reg.keys

/-- The keys that a run creates, or opens to write. -/
def writes (run : ProgramRun) (reg : Registry κ) : List κ :=
  (run.program resolve).written reg.keys

/-- The runs are started over one registry. -/
def together (runs : ι → ProgramRun) (reg : Registry κ) :
    Processes registryInterface ι κ MainResult where
  programs i := (runs i).program resolve
  store := reg.keys

omit [DecidableEq ι] in
theorem serial_together (runs : ι → ProgramRun) (reg : Registry κ) (order : List ι) :
    (together resolve runs reg).serial order = (after resolve (order.map runs) reg).keys := by
  induction order generalizing reg with
  | nil => rfl
  | cons i order ih =>
      have hrest := ih ((runs i).result resolve reg).2
      rw [List.map_cons, after_cons, ← hrest]
      unfold Processes.serial together
      rw [List.foldl_cons, run_program]

/-- Runs at the same time, none of which writes a key that another one opens: whoever has his turn
when, each has the result that it has alone, and together they leave what they leave one after the
other, in any order. -/
theorem serializable {runs : ι → ProgramRun} {reg : Registry κ}
    (hapart : ∀ i j, i ≠ j → ∀ k ∈ (runs i).writes resolve reg, k ∉ (runs j).opens resolve reg)
    {s : Processes registryInterface ι κ MainResult}
    (h : (together resolve runs reg).system.Reachable s) :
    (∀ i result, (s.programs i).result? = some result →
      result = ((runs i).result resolve reg).1) ∧
    (s.Ended → ∀ order : List ι, order.Nodup → (∀ i, i ∈ order) →
      s.store = (after resolve (order.map runs) reg).keys) := by
  have hstart : (together resolve runs reg).Apart := hapart
  refine ⟨fun i result hresult => ?_, fun hended order hnodup hall => ?_⟩
  · have halone := Processes.result_of_ended hstart h hresult
    exact halone.trans (congrArg Prod.fst (run_program resolve (runs i) reg))
  · rw [← serial_together]
    exact Processes.eq_serial hstart h hended hnodup fun i hi => absurd (hall i) hi

def otherClassRun : ProgramRun :=
  { oneClassRun {} with
    parsed := .ok { registerClassId := qString "d", registerAppId := qString "b" } }

def twoRuns : Bool → ProgramRun
  | false => oneClassRun {}
  | true => otherClassRun

/-- The calls of the two runs, one of each in turn. -/
def inTurn : List Bool := (List.replicate 6 [false, true]).flatten

theorem serializable_inTurn :
    ∃ s, ((together id twoRuns noKeys).system.exec (together id twoRuns noKeys) inTurn) = some s ∧
      s.store = (after id [otherClassRun, oneClassRun {}] noKeys).keys := by
  have hexec : ((together id twoRuns noKeys).system.exec (together id twoRuns noKeys)
      inTurn).isSome = true := by decide +kernel
  obtain ⟨s, hs⟩ := Option.isSome_iff_exists.mp hexec
  obtain ⟨trace, -, hrun⟩ := Transition.System.run_of_exec hs
  refine ⟨s, hs, ?_⟩
  have hended : s.Ended := by
    have hall : ∀ i, (((together id twoRuns noKeys).system.exec (together id twoRuns noKeys)
        inTurn).map fun s => (s.programs i).result?.isSome) = some true := by decide +kernel
    intro i
    have hi := hall i
    rw [hs] at hi
    exact Option.some.inj hi
  exact (serializable id (by decide +kernel) (hrun.reachable (.init rfl))).2 hended [true, false]
    (by decide) (by decide)

/-! ## Runs that only read -/

/-- The run neither registers nor unregisters. -/
def readsOnly (run : ProgramRun) : Bool :=
  match run.parsed with
  | .error _ => true
  | .ok parsed => parsed.registerAppId.isEmpty && parsed.unregisterClassId.isEmpty

section Reads

omit [DecidableEq κ]

variable {P : κ → RegistryCall → Prop}

theorem only_readLoggingSettings (hreads : ∀ key c, RegistryCall.writes c = false → P key c)
    (faults : ReadFaults) (clsid : QString) :
    (RegistryProgram.readLoggingSettings resolve faults clsid).Only P := by
  apply (Program.only_single (hreads _ _ rfl)).bind
  intro hr
  apply Program.only_unless
  apply (Program.only_single (hreads _ _ rfl)).bind
  intro (hr, appidValue)
  apply Program.only_unless
  apply (Program.only_single (hreads _ _ rfl)).bind
  intro hr
  apply Program.only_unless
  apply (Program.only_single (hreads _ _ rfl)).bind
  intro (hr, enabledValue)
  apply (Program.only_single (hreads _ _ rfl)).bind
  intro (hr, levelValue)
  apply (Program.only_single (hreads _ _ rfl)).bind
  intro (hr, dirValue)
  exact Program.only_pure _

theorem only_initializeLogging (hreads : ∀ key c, RegistryCall.writes c = false → P key c)
    (env : LogEnvironment) (faults : MainFaults) (parsed : ParsedOptions) :
    (RegistryProgram.initializeLogging resolve env faults parsed).Only P := by
  apply Program.only_ite
  · intro _
    apply (only_readLoggingSettings resolve hreads _ _).bind
    intro settings
    exact Program.only_pure _
  · intro _
    exact Program.only_pure _

theorem only_readAppid (hreads : ∀ key c, RegistryCall.writes c = false → P key c)
    (faults : UnregisterFaults) (clsid : QString) :
    (RegistryProgram.readAppid resolve faults clsid).Only P := by
  apply (Program.only_single (hreads _ _ rfl)).bind
  intro hr
  apply Program.only_unless
  apply (Program.only_single (hreads _ _ rfl)).bind
  intro (hr, appidValue)
  exact Program.only_pure _

theorem only_removeValue (hreads : ∀ key c, RegistryCall.writes c = false → P key c) {key : κ}
    {name : ValueName} {deleteFault : LSTATUS} (hdelete : P key (.regDeleteValue name deleteFault))
    (openFault : LSTATUS) :
    (RegistryProgram.removeValue key name openFault deleteFault).Only P := by
  apply (Program.only_single (hreads _ _ rfl)).bind
  intro hr
  apply Program.only_unless
  exact Program.only_single hdelete

theorem only_reads {run : ProgramRun} (h : run.readsOnly = true) :
    (run.program resolve).Only fun _ c => registryInterface.writes c = false := by
  unfold readsOnly at h
  unfold program RegistryProgram.main
  apply (only_initializeLogging resolve (fun _ _ hreads => hreads) _ _ _).bind
  intro logger
  apply Program.only_unless
  apply Program.only_unless
  apply Program.only_unless
  cases hparsed : run.parsed with
  | error code => exact Program.only_pure _
  | ok parsed =>
      rw [hparsed] at h
      obtain ⟨hregister, hunregister⟩ := Bool.and_eq_true_iff.mp h
      dsimp only
      unfold RegistryProgram.dispatch
      rw [if_neg (by simp [hregister]), if_neg (by simp [hunregister])]
      refine Program.Only.bind ?_ fun result => Program.only_pure _
      apply Program.only_unless
      apply Program.only_unless
      exact Program.only_pure _

end Reads

/-- Any number of runs may read while others register and unregister, whatever they read.  They are
not noticed: as long as the others keep apart, each of these has the result that it has alone, and
they leave what they leave one after the other. -/
theorem readers_unseen {runs : ι → ProgramRun} {reg : Registry κ}
    (hapart : ∀ i j, i ≠ j → (runs i).readsOnly = false → (runs j).readsOnly = false →
      ∀ k ∈ (runs i).writes resolve reg, k ∉ (runs j).opens resolve reg)
    {s : Processes registryInterface ι κ MainResult}
    (h : (together resolve runs reg).system.Reachable s) :
    (∀ i result, (runs i).readsOnly = false → (s.programs i).result? = some result →
      result = ((runs i).result resolve reg).1) ∧
    ((∀ i, (runs i).readsOnly = false → (s.programs i).result?.isSome) →
      ∀ order : List ι, order.Nodup → (∀ i, i ∈ order ↔ (runs i).readsOnly = false) →
        s.store = (after resolve (order.map runs) reg).keys) := by
  have hreads (i : ι) (hi : (runs i).readsOnly = true) := only_reads resolve hi
  refine ⟨fun i result hi hresult => ?_, fun hended order hnodup horder => ?_⟩
  · have halone := Processes.result_beside hreads hapart h hi hresult
    exact halone.trans (congrArg Prod.fst (run_program resolve (runs i) reg))
  · rw [← serial_together]
    exact Processes.eq_serial_beside hreads hapart h hended hnodup horder

def besides : Fin 3 → ProgramRun
  | 0 =>
    { oneClassRun {} with
      parsed := .ok { registerClassId := QUuid.toString 10, registerAppId := qString "a" } }
  | 1 => otherClassRun
  | 2 => { oneClassRun {} with tried := { classId := 10, embedding := true }, parsed := .ok {} }

/-- A surrogate is started for a class while that class and another one are registered. -/
theorem readers_unseen_besides :
    ∃ s, ((together id besides noKeys).system.exec (together id besides noKeys)
        (List.replicate 6 [0, 1, 2]).flatten) = some s ∧
      s.store = (after id [besides 1, besides 0] noKeys).keys := by
  have hexec : ((together id besides noKeys).system.exec (together id besides noKeys)
      (List.replicate 6 [0, 1, 2]).flatten).isSome = true := by
    decide +kernel
  obtain ⟨s, hs⟩ := Option.isSome_iff_exists.mp hexec
  obtain ⟨trace, -, hrun⟩ := Transition.System.run_of_exec hs
  have hended (i : Fin 3) : (s.programs i).result?.isSome := by
    have hall : ∀ i, (((together id besides noKeys).system.exec (together id besides noKeys)
        (List.replicate 6 [0, 1, 2]).flatten).map
          fun s => (s.programs i).result?.isSome) = some true := by decide +kernel
    have hi := hall i
    rw [hs] at hi
    exact Option.some.inj hi
  exact ⟨s, hs, (readers_unseen id (by decide +kernel) (hrun.reachable (.init rfl))).2
    (fun i _ => hended i) [1, 0] (by decide) (by decide)⟩

/-! ## Runs that get in each other's way -/

variable {resolve}

/-- A call that is there to change a value makes a write of the run. -/
def Makes (resolve : QString → κ) (run : ProgramRun) (key : κ) (c : RegistryCall) : Prop :=
  match c.change with
  | none => True
  | some (name, v) =>
    run.Registers resolve ⟨(key, name), v⟩ ∨ run.Unregisters resolve ⟨(key, name), v⟩

section Only

omit [DecidableEq κ]

theorem makes_of_reads {run : ProgramRun} (key : κ) (c : RegistryCall)
    (h : RegistryCall.writes c = false) : run.Makes resolve key c := by
  cases c with
  | openUniqueKey fault => trivial
  | getValueString name fault => trivial
  | getValueDword name fault => trivial
  | createUniqueKey fault => trivial
  | setValueString name s fault => cases h
  | setValueDword name value fault => cases h
  | regDeleteValue name fault => cases h

theorem only_registerSurrogate {run : ProgramRun} {clsid appid : QString}
    (h : ∀ w ∈ registerWrites resolve run.moduleFileName clsid appid, run.Registers resolve w)
    (happid : appid ≠ []) (faults : RegisterFaults) :
    (RegistryProgram.registerSurrogate resolve run.moduleFileName faults clsid appid).Only
      (run.Makes resolve) := by
  have heffective : (if appid.isEmpty then clsid else appid) = appid :=
    if_neg (by simpa using happid)
  unfold RegistryProgram.registerSurrogate
  rw [heffective]
  apply Program.only_unless
  apply (Program.only_single trivial).bind
  intro hr
  apply Program.only_unless
  apply (Program.only_single (Or.inl (h _ (by simp [registerWrites])))).bind
  intro hr
  apply Program.only_unless
  apply (Program.only_single trivial).bind
  intro hr
  apply Program.only_unless
  apply (Program.only_single (Or.inl (h _ (by simp [registerWrites])))).bind
  intro hr
  apply Program.only_unless
  exact Program.only_pure _

theorem only_setIfSpecified {run : ProgramRun} {key : κ} {name : ValueName} {s : QString}
    (h : ∀ w ∈ specifiedWrites key name s, run.Registers resolve w) (fault : LSTATUS) :
    (RegistryProgram.setIfSpecified key name s fault).Only (run.Makes resolve) := by
  apply Program.only_ite
  · intro _
    exact Program.only_pure _
  · intro hspecified
    exact Program.only_single (Or.inl (h _ (by simp [specifiedWrites, hspecified])))

theorem only_writeLoggingSettings {run : ProgramRun} {appid : QString} {settings : LoggingSettings}
    (h : ∀ w ∈ loggingWrites resolve appid settings, run.Registers resolve w)
    (faults : WriteFaults) :
    (RegistryProgram.writeLoggingSettings resolve faults appid settings).Only
      (run.Makes resolve) := by
  unfold loggingWrites at h
  apply Program.only_unless
  apply (Program.only_single trivial).bind
  intro hr
  apply Program.only_unless
  apply (Program.only_single (Or.inl (h _ List.mem_cons_self))).bind
  intro hr
  apply Program.only_unless
  apply (only_setIfSpecified (fun w hw => h w (by simp [hw])) _).bind
  intro hr
  apply Program.only_unless
  apply (only_setIfSpecified (fun w hw => h w (by simp [hw])) _).bind
  intro hr
  apply Program.only_unless
  exact Program.only_pure _

theorem only_unregisterSurrogate {run : ProgramRun} {clsid : QString}
    (hclass : run.Unregisters resolve ⟨(clsidKey resolve clsid, .AppID), none⟩)
    (happid : ∀ key, run.Unregisters resolve ⟨(key, .DllSurrogate), none⟩)
    (faults : UnregisterFaults) :
    (RegistryProgram.unregisterSurrogate resolve faults clsid).Only (run.Makes resolve) := by
  apply Program.only_unless
  apply (only_readAppid resolve makes_of_reads _ _).bind
  intro appid
  apply (only_removeValue makes_of_reads (Or.inr hclass) _).bind
  intro status
  apply Program.only_unless
  apply (Program.only_ite (fun _ => Program.only_pure _)
    fun _ => only_removeValue makes_of_reads (Or.inr (happid _)) _).bind
  intro status
  apply Program.only_unless
  exact Program.only_pure _

theorem only_dispatch {run : ProgramRun} {parsed : ParsedOptions} (h : run.parsed = .ok parsed)
    (faults : MainFaults) :
    (RegistryProgram.dispatch resolve run.moduleFileName faults parsed).Only
      (run.Makes resolve) := by
  apply Program.only_ite
  · intro hnamed
    have happid : parsed.registerAppId ≠ [] := by simpa using hnamed
    have hregisters (w) (hw : w ∈ registryWrites resolve run.moduleFileName parsed) :
        run.Registers resolve w := ⟨parsed, h, happid, hw⟩
    unfold registryWrites at hregisters
    have hclass : (if !parsed.registerClassId.isEmpty then
        RegistryProgram.registerSurrogate resolve run.moduleFileName faults.register
          parsed.registerClassId parsed.registerAppId
        else pure (S_OK, [])).Only (run.Makes resolve) := by
      apply Program.only_ite
      · intro hgiven
        have hempty : parsed.registerClassId.isEmpty = false := by simpa using hgiven
        exact only_registerSurrogate (fun w hw => hregisters w (by simp [hempty, hw])) happid _
      · intro _
        exact Program.only_pure _
    apply hclass.bind
    intro (hr, messages)
    apply Program.only_unless
    apply (only_writeLoggingSettings (fun w hw => hregisters w (by simp [hw])) _).bind
    intro (hr, more)
    apply Program.only_unless
    exact Program.only_pure _
  · intro hnamed
    have happid : parsed.registerAppId = [] := by simpa using hnamed
    apply Program.only_ite
    · intro hgiven
      have hclsid : parsed.unregisterClassId ≠ [] := by simpa using hgiven
      apply (only_unregisterSurrogate ⟨parsed, h, happid, hclsid, rfl, Or.inl rfl⟩
        (fun key => ⟨parsed, h, happid, hclsid, rfl, Or.inr rfl⟩) _).bind
      intro (hr, messages)
      apply Program.only_unless
      exact Program.only_pure _
    · intro _
      apply Program.only_unless
      apply Program.only_unless
      exact Program.only_pure _

theorem only_program (resolve : QString → κ) (run : ProgramRun) :
    (run.program resolve).Only (run.Makes resolve) := by
  unfold program RegistryProgram.main
  apply (only_initializeLogging resolve makes_of_reads _ _ _).bind
  intro logger
  apply Program.only_unless
  apply Program.only_unless
  apply Program.only_unless
  cases hparsed : run.parsed with
  | error code => exact Program.only_pure _
  | ok parsed =>
      apply (only_dispatch hparsed _).bind
      intro (ending, messages)
      exact Program.only_pure _

end Only

/-- Each value is one of `reg` or of a run, and no value of `reg` is gone but an AppID and a
DllSurrogate. -/
structure ValuesFrom (resolve : QString → κ) (runs : ι → ProgramRun) (reg reg' : Registry κ) :
    Prop where
  written : ∀ k n v, reg'.value k n = some v →
    reg.value k n = some v ∨ ∃ i, (runs i).Registers resolve ⟨(k, n), some v⟩
  kept : ∀ k n, n ≠ .AppID → n ≠ .DllSurrogate → reg.value k n ≠ none → reg'.value k n ≠ none

omit [DecidableEq ι] in
theorem ValuesFrom.exec {runs : ι → ProgramRun} {reg reg' : Registry κ}
    (h : ValuesFrom resolve runs reg reg') {i : ι} {key : κ} {c : RegistryCall}
    (hmakes : (runs i).Makes resolve key c) :
    ValuesFrom resolve runs reg (c.exec reg' key).2 := by
  unfold Makes at hmakes
  constructor
  · intro k n v hv
    rcases c.value_cases reg' key k n with hsame | ⟨rfl, hchange⟩
    · rw [hsame] at hv
      exact h.written k n v hv
    · rw [hchange, hv] at hmakes
      rcases hmakes with hregisters | ⟨-, -, -, -, hremoves, -⟩
      · exact Or.inr ⟨i, hregisters⟩
      · exact absurd hremoves (by simp)
  · intro k n happid hdll hsome
    rcases c.value_cases reg' key k n with hsame | ⟨rfl, hchange⟩
    · rw [hsame]
      exact h.kept k n happid hdll hsome
    · rw [hchange] at hmakes
      rcases hmakes with ⟨parsed, -, -, hwrites⟩ | ⟨parsed, -, -, -, -, hclass | hsurrogate⟩
      · exact value_ne_none_of_mem hwrites
      · exact absurd (Prod.mk.inj hclass).2 happid
      · exact absurd hsurrogate hdll

end ProgramRun

end Axhost
