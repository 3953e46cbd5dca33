import Axhost.Lib.WriteLog
import Axhost.Program.Logging
import Axhost.Registration.AllOrNothing

/-!
# The main function

`main.cc`: the logger is set up from what `tryParse` gives, and after COM is ready the registry is
changed, or a runtime made, as `parse` says.  A failure of anything that has to succeed leaves
`main` as an exception.

* `registryWrites`: the values that a run writes, in order, if nothing fails;
* `main_replay`: a run that registers leaves the registry as the first of them do, all of them
  when it returns.
-/

namespace Axhost

open Registry WriteLog

/-- What is made at the end of `main`. -/
inductive HostRuntime
  | runAsSurrogate (clsid : QUuid) (embedding : Bool)
  | runAsStandalone (specs : List ClassSpec) (readyEvent : QString) (regcls : DWORD)
deriving DecidableEq, Repr

/-- How `main` ends: with a return value, in `std::exit`, with an exception, or in the event loop
of a runtime. -/
inductive MainEnd
  | returns
  | exits (code : Int)
  | throws (hr : HRESULT)
  | executes (runtime : HostRuntime)
deriving DecidableEq, Repr

/-- What happens to a run from outside. -/
structure MainFaults where
  setPreferredLanguages : HRESULT := S_OK
  initializeCom : HRESULT := S_OK
  initializeComSecurity : HRESULT := S_OK
  readLogging : ReadFaults := {}
  register : RegisterFaults := {}
  writeLogging : WriteFaults := {}
  unregister : UnregisterFaults := {}
deriving DecidableEq, Repr

structure MainResult where
  logger : Logger
  ending : MainEnd
  messages : List MessageBox := []

def ParsedOptions.runsAsSurrogate (parsed : ParsedOptions) : Bool :=
  !parsed.classId.isNull && parsed.embedding

def ParsedOptions.registerSettings (parsed : ParsedOptions) : LoggingSettings where
  enabled := parsed.registerLogging
  level := parsed.registerLogLevel
  directory := parsed.registerLogDir

variable {κ : Type*} [DecidableEq κ] (resolve : QString → κ)

def initializeLogging (env : LogEnvironment) (faults : MainFaults) (parsed : ParsedOptions)
    (reg : Registry κ) : Logger :=
  if parsed.runsAsSurrogate then
    initializeLoggingSurrogate resolve env faults.readLogging (QUuid.toString parsed.classId) reg
  else initializeLoggingStandalone env parsed

/-- `main` from the options on. -/
def dispatch (moduleFileName : QString) (faults : MainFaults) (parsed : ParsedOptions)
    (reg : Registry κ) : (MainEnd × List MessageBox) × Registry κ :=
  if !parsed.registerAppId.isEmpty then
    let ((hr, messages), reg) :=
      if !parsed.registerClassId.isEmpty then
        registerSurrogate resolve moduleFileName faults.register parsed.registerClassId
          parsed.registerAppId reg
      else ((S_OK, []), reg)
    if failed hr then ((.throws hr, messages), reg)
    else
      let ((hr, more), reg) := writeLoggingSettings resolve faults.writeLogging
        parsed.registerAppId parsed.registerSettings reg
      if failed hr then ((.throws hr, messages ++ more), reg)
      else ((.returns, messages ++ more), reg)
  else if !parsed.unregisterClassId.isEmpty then
    let ((hr, messages), reg) :=
      unregisterSurrogate resolve faults.unregister parsed.unregisterClassId reg
    if failed hr then ((.throws hr, messages), reg) else ((.returns, messages), reg)
  else if parsed.runsAsSurrogate then
    ((.executes (.runAsSurrogate parsed.classId parsed.embedding), []), reg)
  else if !parsed.specs.isEmpty then
    ((.executes (.runAsStandalone parsed.specs parsed.readyEvent parsed.regcls), []), reg)
  else ((.returns, []), reg)

/-- `main`; `parse` may end the process with a code of its own. -/
def main (env : LogEnvironment) (moduleFileName : QString) (faults : MainFaults)
    (tried : ParsedOptions) (parsed : Except Int ParsedOptions) (reg : Registry κ) :
    MainResult × Registry κ :=
  let logger := initializeLogging resolve env faults tried reg
  if failed faults.setPreferredLanguages then
    ({ logger := logger, ending := .throws faults.setPreferredLanguages }, reg)
  else if failed faults.initializeCom then
    ({ logger := logger, ending := .throws faults.initializeCom }, reg)
  else if failed faults.initializeComSecurity then
    ({ logger := logger, ending := .throws faults.initializeComSecurity }, reg)
  else match parsed with
    | .error code => ({ logger := logger, ending := .exits code }, reg)
    | .ok parsed =>
      let ((ending, messages), reg) := dispatch resolve moduleFileName faults parsed reg
      ({ logger := logger, ending := ending, messages := messages }, reg)

/-! ## The values that are written -/

/-- The values of a registry, by key and name. -/
def Registry.values (reg : Registry κ) : κ × ValueName → Option RegistryValue :=
  fun k => reg.value k.1 k.2

def registerWrites (moduleFileName clsid appid : QString) :
    List (Write (κ × ValueName) RegistryValue) :=
  [⟨(clsidKey resolve clsid, .AppID), some (.string appid.cStr)⟩,
    ⟨(appidKey resolve appid, .DllSurrogate),
      some (.string (getExecutablePath moduleFileName).cStr)⟩]

/-- A string that is written if it is specified. -/
def specifiedWrites (key : κ) (name : ValueName) (s : QString) :
    List (Write (κ × ValueName) RegistryValue) :=
  if s.isEmpty then [] else [⟨(key, name), some (.string s.cStr)⟩]

def loggingWrites (appid : QString) (settings : LoggingSettings) :
    List (Write (κ × ValueName) RegistryValue) :=
  ⟨(appidKey resolve appid, .LogEnabled), some (.dword (if settings.enabled then 1 else 0))⟩ ::
    (specifiedWrites (appidKey resolve appid) .LogLevel settings.level ++
      specifiedWrites (appidKey resolve appid) .LogDirectory settings.directory)

/-- What a run that registers has to write. -/
def registryWrites (moduleFileName : QString) (parsed : ParsedOptions) :
    List (Write (κ × ValueName) RegistryValue) :=
  (if parsed.registerClassId.isEmpty then []
    else registerWrites resolve moduleFileName parsed.registerClassId parsed.registerAppId) ++
    loggingWrites resolve parsed.registerAppId parsed.registerSettings

/-- A call leaves what a part of its writes leaves, from the first on, and it succeeds when that
is all of them. -/
def Leaves (log : List (Write (κ × ValueName) RegistryValue)) (hr : HRESULT)
    (reg reg' : Registry κ) : Prop :=
  ∃ written, written <+: log ∧ reg'.values = replay written reg.values ∧
    (failed hr = false ↔ written = log)

variable {resolve} {reg reg' reg'' : Registry κ} {hr hr' : HRESULT}
  {log log' : List (Write (κ × ValueName) RegistryValue)}

omit [DecidableEq κ] in
theorem Registry.values_apply (reg : Registry κ) (k : κ) (n : ValueName) :
    reg.values (k, n) = reg.value k n := rfl

theorem Leaves.refl (h : failed hr = false) (reg : Registry κ) : Leaves [] hr reg reg :=
  ⟨[], List.prefix_rfl, rfl, iff_of_true h rfl⟩

theorem Leaves.nothing (h : failed hr = true) (hlog : log ≠ []) (reg : Registry κ) :
    Leaves log hr reg reg :=
  ⟨[], List.nil_prefix, rfl, iff_of_false (by simp [h]) (Ne.symm hlog)⟩

theorem Leaves.andThen (h : Leaves log hr reg reg') (hok : failed hr = false)
    (h' : Leaves log' hr' reg' reg'') : Leaves (log ++ log') hr' reg reg'' := by
  obtain ⟨written, -, hvalues, hwhole⟩ := h
  obtain ⟨written', hprefix, hvalues', hwhole'⟩ := h'
  obtain rfl := hwhole.mp hok
  refine ⟨written ++ written', (List.prefix_append_right_inj written).mpr hprefix, ?_, ?_⟩
  · rw [hvalues', hvalues, replay_append]
  · rw [hwhole', List.append_cancel_left_eq]

theorem Leaves.stop (h : Leaves log hr reg reg') (hfailed : failed hr = true) :
    Leaves (log ++ log') hr reg reg' := by
  obtain ⟨written, hprefix, hvalues, hwhole⟩ := h
  have hpart : written ≠ log := fun heq => by simp [hwhole.mpr heq] at hfailed
  refine ⟨written, hprefix.trans (List.prefix_append log log'), hvalues, ?_⟩
  refine iff_of_false (by simp [hfailed]) fun heq => hpart ?_
  exact hprefix.eq_of_length_le (by rw [heq, List.length_append]; omega)

theorem setValue_leaves {key : κ} (hkey : (reg.keys key).isSome = true) (name : ValueName)
    (v : RegistryValue) (fault : LSTATUS) :
    Leaves [⟨(key, name), some v⟩] (reg.setValue key name v fault).1 reg
      (reg.setValue key name v fault).2 := by
  cases hfailed : failed (reg.setValue key name v fault).1 with
  | true =>
      have hfault : fault ≠ ERROR_SUCCESS := by simpa [setValue_failed] using hfailed
      have hsame : (reg.setValue key name v fault).2 = reg :=
        congrArg Prod.snd (if_pos hfault)
      rw [hsame]
      exact .nothing hfailed (by simp) reg
  | false =>
      refine ⟨_, List.prefix_rfl, ?_, iff_of_true hfailed rfl⟩
      funext ⟨k, n⟩
      rw [replay_cons, replay_nil, Write.run, Registry.values_apply, setValue_value hkey hfailed]
      by_cases hhere : k = key ∧ n = name
      · rw [if_pos hhere, hhere.1, hhere.2, Function.update_self]
      · rw [if_neg hhere, Function.update_of_ne (by simpa using hhere)]
        rfl

theorem setIfSpecified_leaves {key : κ} (hkey : (reg.keys key).isSome = true) (name : ValueName)
    (s : QString) (fault : LSTATUS) :
    Leaves (specifiedWrites key name s) (setIfSpecified reg key name s fault).1 reg
      (setIfSpecified reg key name s fault).2 := by
  unfold specifiedWrites setIfSpecified
  split_ifs
  · exact .refl failed_S_OK reg
  · exact setValue_leaves hkey name (.string s.cStr) fault

omit [DecidableEq κ] in
theorem loggingWrites_ne_nil (resolve : QString → κ) (appid : QString)
    (settings : LoggingSettings) :
    loggingWrites resolve appid settings ≠ [] := by
  simp [loggingWrites]

theorem writeLoggingSettings_leaves (resolve : QString → κ) (faults : WriteFaults)
    (appid : QString) (settings : LoggingSettings) (reg : Registry κ) :
    Leaves (loggingWrites resolve appid settings)
      (writeLoggingSettings resolve faults appid settings reg).1.1 reg
      (writeLoggingSettings resolve faults appid settings reg).2 := by
  have hne := loggingWrites_ne_nil resolve appid settings
  unfold writeLoggingSettings
  unfold loggingWrites at hne ⊢
  dsimp only
  generalize (if settings.enabled then (1 : DWORD) else 0) = enabledValue at hne ⊢
  by_cases hadmin : faults.admin = false
  · rw [if_pos hadmin]
    exact .nothing (show failed E_ACCESSDENIED = true by decide) hne reg
  rw [if_neg hadmin]
  by_cases hopen : failed (reg.openUniqueKey (appidKey resolve appid) faults.openAppid) = true
  · rw [if_pos hopen]
    exact .nothing hopen hne reg
  rw [if_neg hopen]
  -- the key is open, and the three values are written one after the other
  have hkey := ((openUniqueKey_succeeds reg _ _).mp (Bool.eq_false_iff.mpr hopen)).2
  have hkey' := (setValue_keys_isSome reg (appidKey resolve appid) .LogEnabled
    (.dword enabledValue) faults.setLogEnabled (appidKey resolve appid)).trans hkey
  have hkey'' := (setIfSpecified_keys_isSome _ (appidKey resolve appid) .LogLevel settings.level
    faults.setLogLevel (appidKey resolve appid)).trans hkey'
  have henabled := setValue_leaves hkey .LogEnabled (.dword enabledValue) faults.setLogEnabled
  have hlevel := setIfSpecified_leaves hkey' .LogLevel settings.level faults.setLogLevel
  have hdirectory := setIfSpecified_leaves hkey'' .LogDirectory settings.directory
    faults.setLogDirectory
  split_ifs with hfirst hsecond hthird
  · exact henabled.stop hfirst
  · exact henabled.andThen (Bool.eq_false_iff.mpr hfirst) (hlevel.stop hsecond)
  · exact henabled.andThen (Bool.eq_false_iff.mpr hfirst)
      (hlevel.andThen (Bool.eq_false_iff.mpr hsecond) hdirectory)
  · obtain ⟨written, hprefix, hvalues, hwhole⟩ := henabled.andThen (Bool.eq_false_iff.mpr hfirst)
      (hlevel.andThen (Bool.eq_false_iff.mpr hsecond) hdirectory)
    exact ⟨written, hprefix, hvalues,
      iff_of_true failed_S_OK (hwhole.mp (Bool.eq_false_iff.mpr hthird))⟩

theorem registerSurrogate_leaves (resolve : QString → κ) (moduleFileName : QString)
    (faults : RegisterFaults) (clsid : QString) {appid : QString} (happid : appid ≠ [])
    (reg : Registry κ) :
    Leaves (registerWrites resolve moduleFileName clsid appid)
      (registerSurrogate resolve moduleFileName faults clsid appid reg).1.1 reg
      (registerSurrogate resolve moduleFileName faults clsid appid reg).2 := by
  have heffective : (if appid.isEmpty then clsid else appid) = appid :=
    if_neg (by simpa using happid)
  by_cases hall : WritesAppID faults ∧ WritesDllSurrogate faults
  · have hok : (registerSurrogate resolve moduleFileName faults clsid appid reg).1.1 = S_OK :=
      registerSurrogate_succeeds hall.1 hall.2
    refine ⟨_, List.prefix_rfl, ?_, iff_of_true (failed_of_eq_S_OK hok) rfl⟩
    funext ⟨k, n⟩
    rw [Registry.values_apply, registerSurrogate_value resolve hok, heffective]
    simp only [registerWrites, replay_cons, replay_nil, Write.run, Function.update_apply,
      Prod.mk.injEq, Registry.values_apply]
  · obtain ⟨hfailed, hvalue⟩ :=
      @registerSurrogate_fails κ _ resolve moduleFileName faults clsid appid reg hall
    by_cases hfirst : WritesAppID faults
    · refine ⟨(registerWrites resolve moduleFileName clsid appid).take 1, List.take_prefix _ _, ?_,
        iff_of_false (by simp [hfailed]) (by simp [registerWrites])⟩
      funext ⟨k, n⟩
      rw [Registry.values_apply, hvalue, heffective]
      simp only [hfirst, true_and, registerWrites, List.take_succ_cons, List.take_zero,
        replay_cons, replay_nil, Write.run, Function.update_apply, Prod.mk.injEq,
        Registry.values_apply]
    · refine ⟨[], List.nil_prefix, ?_, iff_of_false (by simp [hfailed]) (by simp [registerWrites])⟩
      funext ⟨k, n⟩
      rw [Registry.values_apply, hvalue, if_neg fun h => hfirst h.1]
      rfl

/-! ## Runs that register -/

/-- `main` registers the class, if it has one, and then writes the logging settings. -/
theorem dispatch_leaves (resolve : QString → κ) (moduleFileName : QString) (faults : MainFaults)
    {parsed : ParsedOptions} (hregisters : parsed.registerAppId ≠ []) (reg : Registry κ) :
    ∃ hr, Leaves (registryWrites resolve moduleFileName parsed) hr reg
        (dispatch resolve moduleFileName faults parsed reg).2 ∧
      (dispatch resolve moduleFileName faults parsed reg).1.1 =
        if failed hr then .throws hr else .returns := by
  have happid : (!parsed.registerAppId.isEmpty) = true := by simpa using hregisters
  unfold dispatch registryWrites
  rw [if_pos happid]
  have hsettings (reg : Registry κ) := writeLoggingSettings_leaves resolve faults.writeLogging
    parsed.registerAppId parsed.registerSettings reg
  cases hclass : parsed.registerClassId.isEmpty with
  | true =>
      simp only [Bool.not_true, Bool.false_eq_true, if_false, if_true, failed_S_OK, List.nil_append]
      split_ifs with hsecond
      · exact ⟨_, hsettings reg, (if_pos hsecond).symm⟩
      · exact ⟨_, hsettings reg, (if_neg hsecond).symm⟩
  | false =>
      have hclass := registerSurrogate_leaves resolve moduleFileName faults.register
        parsed.registerClassId hregisters reg
      simp only [Bool.not_false, if_true, Bool.false_eq_true, if_false]
      split_ifs with hfirst hsecond
      · exact ⟨_, hclass.stop hfirst, (if_pos hfirst).symm⟩
      · exact ⟨_, hclass.andThen (Bool.eq_false_iff.mpr hfirst) (hsettings _),
          (if_pos hsecond).symm⟩
      · exact ⟨_, hclass.andThen (Bool.eq_false_iff.mpr hfirst) (hsettings _),
          (if_neg hsecond).symm⟩

omit [DecidableEq κ] in
theorem registryWrites_ne_nil (moduleFileName : QString) (parsed : ParsedOptions) :
    registryWrites resolve moduleFileName parsed ≠ [] :=
  List.append_ne_nil_of_right_ne_nil _ (loggingWrites_ne_nil _ _ _)

/-- The logger is set up before anything can fail. -/
theorem main_logger (resolve : QString → κ) (env : LogEnvironment) (moduleFileName : QString)
    (faults : MainFaults) (tried : ParsedOptions) (parsed : Except Int ParsedOptions)
    (reg : Registry κ) :
    (main resolve env moduleFileName faults tried parsed reg).1.logger =
      initializeLogging resolve env faults tried reg := by
  unfold main
  dsimp only
  split_ifs
  · rfl
  · rfl
  · rfl
  · cases parsed <;> rfl

/-- `main` throws before it looks at the options, or does what they say. -/
theorem main_cases (resolve : QString → κ) (env : LogEnvironment) (moduleFileName : QString)
    (faults : MainFaults) (tried parsed : ParsedOptions) (reg : Registry κ) :
    (∃ hr, failed hr = true ∧
      (main resolve env moduleFileName faults tried (.ok parsed) reg).1.ending = .throws hr ∧
        (main resolve env moduleFileName faults tried (.ok parsed) reg).2 = reg) ∨
      (main resolve env moduleFileName faults tried (.ok parsed) reg).1.ending =
          (dispatch resolve moduleFileName faults parsed reg).1.1 ∧
        (main resolve env moduleFileName faults tried (.ok parsed) reg).2 =
          (dispatch resolve moduleFileName faults parsed reg).2 := by
  unfold main
  dsimp only
  split_ifs with hlanguages hcom hsecurity
  · exact Or.inl ⟨_, hlanguages, rfl, rfl⟩
  · exact Or.inl ⟨_, hcom, rfl, rfl⟩
  · exact Or.inl ⟨_, hsecurity, rfl, rfl⟩
  · exact Or.inr ⟨rfl, rfl⟩

theorem main_leaves (resolve : QString → κ) (env : LogEnvironment) (moduleFileName : QString)
    (faults : MainFaults) (tried : ParsedOptions) {parsed : ParsedOptions}
    (hregisters : parsed.registerAppId ≠ []) (reg : Registry κ) :
    ∃ hr, Leaves (registryWrites resolve moduleFileName parsed) hr reg
        (main resolve env moduleFileName faults tried (.ok parsed) reg).2 ∧
      (main resolve env moduleFileName faults tried (.ok parsed) reg).1.ending =
        if failed hr then .throws hr else .returns := by
  rcases main_cases resolve env moduleFileName faults tried parsed reg with
    ⟨hr, hfailed, hthrows, hsame⟩ | ⟨hending, hreg⟩
  · rw [hthrows, hsame]
    exact ⟨hr, .nothing hfailed (registryWrites_ne_nil _ _) reg, (if_pos hfailed).symm⟩
  · rw [hending, hreg]
    exact dispatch_leaves resolve moduleFileName faults hregisters reg

/-- A run that registers and does not throw has written everything, and returns. -/
theorem main_writes (resolve : QString → κ) (env : LogEnvironment) (moduleFileName : QString)
    (faults : MainFaults) (tried : ParsedOptions) {parsed : ParsedOptions}
    (hregisters : parsed.registerAppId ≠ []) (reg : Registry κ)
    (hends : ∀ hr, (main resolve env moduleFileName faults tried (.ok parsed) reg).1.ending ≠
      .throws hr) :
    (main resolve env moduleFileName faults tried (.ok parsed) reg).2.values =
      replay (registryWrites resolve moduleFileName parsed) reg.values := by
  obtain ⟨hr, ⟨written, -, hvalues, hwhole⟩, hending⟩ :=
    main_leaves resolve env moduleFileName faults tried hregisters reg
  cases hfailed : failed hr with
  | false =>
      obtain rfl := hwhole.mp hfailed
      exact hvalues
  | true =>
      rw [hfailed, if_pos rfl] at hending
      exact absurd hending (hends hr)

/-- Whatever fails, a run that registers leaves the registry as it is after the first of its
writes: it returns if these are all of them, and throws if they are not. -/
theorem main_replay (resolve : QString → κ) (env : LogEnvironment) (moduleFileName : QString)
    (faults : MainFaults) (tried : ParsedOptions) {parsed : ParsedOptions}
    (hregisters : parsed.registerAppId ≠ []) (reg : Registry κ) :
    ∃ written, written <+: registryWrites resolve moduleFileName parsed ∧
      (main resolve env moduleFileName faults tried (.ok parsed) reg).2.values =
        replay written reg.values ∧
      ((main resolve env moduleFileName faults tried (.ok parsed) reg).1.ending = .returns ↔
        written = registryWrites resolve moduleFileName parsed) ∧
      ((∃ hr, failed hr = true ∧
        (main resolve env moduleFileName faults tried (.ok parsed) reg).1.ending = .throws hr) ↔
          written ≠ registryWrites resolve moduleFileName parsed) := by
  obtain ⟨hr, ⟨written, hprefix, hvalues, hwhole⟩, hending⟩ :=
    main_leaves resolve env moduleFileName faults tried hregisters reg
  refine ⟨written, hprefix, hvalues, ?_⟩
  rw [hending, ne_eq, ← hwhole]
  cases hfailed : failed hr with
  | false => simp
  | true => simpa using hfailed

def oneClassOptions : ParsedOptions where
  registerClassId := qString "c"
  registerAppId := qString "a"

/-- A run that may not write its second value. -/
def refused : MainFaults where
  register := { setDllSurrogate := ERROR_ACCESS_DENIED }

def noKeys : Registry QString := { keys := fun _ => none }

theorem main_replay_refused :
    ∃ written, written <+: registryWrites id (qString "axhost.exe") oneClassOptions ∧
      (main id .plain (qString "axhost.exe") refused {} (.ok oneClassOptions) noKeys).2.values =
        replay written noKeys.values ∧
      ((main id .plain (qString "axhost.exe") refused {} (.ok oneClassOptions)
          noKeys).1.ending = .returns ↔
        written = registryWrites id (qString "axhost.exe") oneClassOptions) ∧
      ((∃ hr, failed hr = true ∧ (main id .plain (qString "axhost.exe") refused {}
          (.ok oneClassOptions) noKeys).1.ending = .throws hr) ↔
        written ≠ registryWrites id (qString "axhost.exe") oneClassOptions) :=
  main_replay id .plain (qString "axhost.exe") refused {} (by decide) noKeys

end Axhost
