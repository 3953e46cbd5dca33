import Axhost.Registration.SurrogateKeys

/-!
# The logging settings of a surrogate

`registry_helper.cc`: `WriteLoggingSettings`, which a registration calls, and
`ReadLoggingSettings`, by which the surrogate that is started later finds them.  The writer
leaves an empty level or directory out, and the value that is there stays.

* `writeLoggingSettings_stored`: what a successful write makes of the settings under a key;
* `readLoggingSettings_eq`: what a reader gets of them;
* `foldl_over`: what is left of a string after many writes.
-/

namespace Axhost

open Registry

structure LoggingSettings where
  enabled : Bool := false
  level : QString := []
  directory : QString := []
  file : QString := []
deriving DecidableEq, Repr

structure WriteFaults where
  admin : Bool := true
  openAppid : LSTATUS := ERROR_SUCCESS
  setLogEnabled : LSTATUS := ERROR_SUCCESS
  setLogLevel : LSTATUS := ERROR_SUCCESS
  setLogDirectory : LSTATUS := ERROR_SUCCESS
deriving DecidableEq, Repr

structure ReadFaults where
  openClsid : LSTATUS := ERROR_SUCCESS
  getAppID : LSTATUS := ERROR_SUCCESS
  openAppid : LSTATUS := ERROR_SUCCESS
  getLogEnabled : LSTATUS := ERROR_SUCCESS
  getLogLevel : LSTATUS := ERROR_SUCCESS
  getLogDirectory : LSTATUS := ERROR_SUCCESS
deriving DecidableEq, Repr

def loggingApplied (appid : QString) (settings : LoggingSettings) : MessageBox where
  template := "Success: Surrogate Logging Configuration Applied\n\nAppID: %1\n\n" ++
    "Registry keys created:\n- HKEY_CLASSES_ROOT\\AppID\\%1\\LogEnabled %2 %3"
  arguments := [appid,
    if settings.level.isEmpty then [] else
      qString "\n- HKEY_CLASSES_ROOT\\AppID\\" ++ appid ++ qString "\\LogLevel",
    if settings.directory.isEmpty then [] else
      qString "\n- HKEY_CLASSES_ROOT\\AppID\\" ++ appid ++ qString "\\LogDirectory"]

variable {κ : Type*} [DecidableEq κ] (resolve : QString → κ)

/-- Writes a string "if specified". -/
def setIfSpecified (reg : Registry κ) (key : κ) (name : ValueName) (s : QString)
    (fault : LSTATUS) : HRESULT × Registry κ :=
  if s.isEmpty then (S_OK, reg) else reg.setValueString key name s fault

/-- `WriteLoggingSettings`, with its message boxes. -/
def writeLoggingSettings (faults : WriteFaults) (appid : QString) (settings : LoggingSettings)
    (reg : Registry κ) : (HRESULT × List MessageBox) × Registry κ :=
  if faults.admin = false then
    ((E_ACCESSDENIED, [administratorRequired "Writing logging settings"]), reg)
  else
    let hr := reg.openUniqueKey (appidKey resolve appid) faults.openAppid
    if failed hr then
      ((hr, [registryFailed "Open AppID Key" "open registry key" (appidPath appid) hr]), reg)
    else
      let (hr, reg) := reg.setValueDword (appidKey resolve appid) .LogEnabled
        (if settings.enabled then 1 else 0) faults.setLogEnabled
      if failed hr then
        ((hr, [registryFailed "Set LogEnabled" "set LogEnabled value in" (appidPath appid) hr]),
          reg)
      else
        let (hr, reg) := setIfSpecified reg (appidKey resolve appid) .LogLevel settings.level
          faults.setLogLevel
        if failed hr then
          ((hr, [registryFailed "Set LogLevel" "set LogLevel value in" (appidPath appid) hr]), reg)
        else
          let (hr, reg) := setIfSpecified reg (appidKey resolve appid) .LogDirectory
            settings.directory faults.setLogDirectory
          if failed hr then
            ((hr, [registryFailed "Set LogDirectory" "set LogDirectory value in"
              (appidPath appid) hr]), reg)
          else ((S_OK, [loggingApplied appid settings]), reg)

/-- The values under the key of an AppID, each left at its default where it cannot be read. -/
def readValues (faults : ReadFaults) (key : κ) (reg : Registry κ) : LoggingSettings :=
  let settings : LoggingSettings := {}
  let (hr, enabledValue) := reg.getValueDword key .LogEnabled faults.getLogEnabled
  let settings := if failed hr then settings
    else { settings with enabled := enabledValue.getD 0 != 0 }
  let (hr, levelValue) := reg.getValueString key .LogLevel faults.getLogLevel
  let settings := if failed hr then settings
    else { settings with level := levelValue.getD [] }
  let (hr, dirValue) := reg.getValueString key .LogDirectory faults.getLogDirectory
  if failed hr then settings else { settings with directory := dirValue.getD [] }

def readLoggingSettings (faults : ReadFaults) (clsid : QString) (reg : Registry κ) :
    LoggingSettings :=
  if failed (reg.openUniqueKey (clsidKey resolve clsid) faults.openClsid) then {}
  else
    let (hr, appidValue) := reg.getValueString (clsidKey resolve clsid) .AppID faults.getAppID
    if failed hr then {}
    else
      let appid := appidValue.getD []
      if failed (reg.openUniqueKey (appidKey resolve appid) faults.openAppid) then {}
      else readValues faults (appidKey resolve appid) reg

/-! ## What is stored, and what is read of it -/

/-- The settings that the values under a key stand for. -/
def stored (reg : Registry κ) (key : κ) : LoggingSettings where
  enabled := (reg.dword key .LogEnabled).getD 0 != 0
  level := (reg.string key .LogLevel).getD []
  directory := (reg.string key .LogDirectory).getD []

/-- The settings once `settings` are written over those there are. -/
def LoggingSettings.over (settings old : LoggingSettings) : LoggingSettings where
  enabled := settings.enabled
  level := if settings.level.isEmpty then old.level else settings.level.cStr
  directory := if settings.directory.isEmpty then old.directory else settings.directory.cStr

/-- The keys on the way to the settings can be opened. -/
def ReadFaults.Opens (faults : ReadFaults) : Prop :=
  faults.openClsid = ERROR_SUCCESS ∧ faults.getAppID = ERROR_SUCCESS ∧
    faults.openAppid = ERROR_SUCCESS

instance (faults : ReadFaults) : Decidable faults.Opens := inferInstanceAs (Decidable (_ ∧ _))

/-- What a reader gets of the settings under a key that it has open. -/
def ReadFaults.values (faults : ReadFaults) (settings : LoggingSettings) : LoggingSettings where
  enabled := decide (faults.getLogEnabled = ERROR_SUCCESS) && settings.enabled
  level := if faults.getLogLevel = ERROR_SUCCESS then settings.level else []
  directory := if faults.getLogDirectory = ERROR_SUCCESS then settings.directory else []

omit [DecidableEq κ] in
theorem readValues_eq (faults : ReadFaults) (key : κ) (reg : Registry κ) :
    readValues faults key reg = faults.values (stored reg key) := by
  have henabled (settings : LoggingSettings) (v : Option DWORD) :
      (if v.isNone then settings else { settings with enabled := v.getD 0 != 0 }) =
        { settings with enabled := (v.map (· != 0)).getD settings.enabled } := by
    cases v <;> rfl
  have hlevel (settings : LoggingSettings) (v : Option QString) :
      (if v.isNone then settings else { settings with level := v.getD [] }) =
        { settings with level := v.getD settings.level } := by
    cases v <;> rfl
  have hdirectory (settings : LoggingSettings) (v : Option QString) :
      (if v.isNone then settings else { settings with directory := v.getD [] }) =
        { settings with directory := v.getD settings.directory } := by
    cases v <;> rfl
  unfold readValues
  simp only [getValueDword_failed, getValueString_failed, henabled, hlevel, hdirectory,
    getValueDword_snd, getValueString_snd]
  unfold ReadFaults.values stored
  congr 1
  · split_ifs with hfault
    · rw [decide_eq_true hfault]
      cases reg.dword key .LogEnabled <;> rfl
    · rw [decide_eq_false hfault]
      rfl
  · split_ifs <;> rfl
  · split_ifs <;> rfl

omit [DecidableEq κ] in
/-- A reader follows the AppID of the class to the settings. -/
theorem readLoggingSettings_eq (faults : ReadFaults) {clsid appid : QString} {reg : Registry κ}
    (happid : reg.string (clsidKey resolve clsid) .AppID = some appid.cStr)
    (hkey : (reg.keys (appidKey resolve appid)).isSome = true) :
    readLoggingSettings resolve faults clsid reg =
      if faults.Opens then faults.values (stored reg (appidKey resolve appid)) else {} := by
  have hclsid : (reg.keys (clsidKey resolve clsid)).isSome = true := keys_isSome_of_string happid
  unfold readLoggingSettings
  rw [openUniqueKey_failed hclsid]
  simp only [getValueString_failed, getValueString_snd, happid, readValues_eq]
  by_cases hget : faults.getAppID = ERROR_SUCCESS
  · simp only [if_pos hget, Option.isNone_some, Option.getD_some, appidKey_cStr,
      openUniqueKey_failed hkey, decide_eq_true_eq]
    by_cases hclsid : faults.openClsid = ERROR_SUCCESS
    · by_cases happid : faults.openAppid = ERROR_SUCCESS
      · simp [ReadFaults.Opens, hget, hclsid, happid]
      · simp [ReadFaults.Opens, happid]
    · simp [ReadFaults.Opens, hclsid]
  · simp [ReadFaults.Opens, hget]

/-! ## A successful write -/

theorem setIfSpecified_failed (reg : Registry κ) (key : κ) (name : ValueName) (s : QString)
    (fault : LSTATUS) :
    failed (setIfSpecified reg key name s fault).1 =
      decide (s ≠ [] ∧ fault ≠ ERROR_SUCCESS) := by
  unfold setIfSpecified
  cases s with
  | nil => simp [failed_S_OK]
  | cons c s => simp [setValueString_failed]

theorem setIfSpecified_value {reg : Registry κ} {key : κ} {name : ValueName} {s : QString}
    {fault : LSTATUS} (hkey : (reg.keys key).isSome = true)
    (h : failed (setIfSpecified reg key name s fault).1 = false) (k : κ) (n : ValueName) :
    (setIfSpecified reg key name s fault).2.value k n =
      if s.isEmpty = false ∧ k = key ∧ n = name then some (.string s.cStr)
      else reg.value k n := by
  unfold setIfSpecified at h ⊢
  cases hempty : s.isEmpty with
  | true => simp
  | false =>
      rw [hempty, if_neg Bool.false_ne_true] at h
      rw [if_neg Bool.false_ne_true, setValueString_value hkey h]
      simp

theorem setIfSpecified_keys_isSome (reg : Registry κ) (key : κ) (name : ValueName)
    (s : QString) (fault : LSTATUS) (k : κ) :
    ((setIfSpecified reg key name s fault).2.keys k).isSome = (reg.keys k).isSome := by
  unfold setIfSpecified
  split_ifs
  · rfl
  · exact setValue_keys_isSome reg key name (.string s.cStr) fault k

section Successful

variable {faults : WriteFaults} {appid : QString} {settings : LoggingSettings}
  {reg : Registry κ}

/-- What `S_OK` says of the calls: the key is there, and every value that is written could
be. -/
theorem writeLoggingSettings_succeeds
    (hok : (writeLoggingSettings resolve faults appid settings reg).1.1 = S_OK) :
    (reg.keys (appidKey resolve appid)).isSome = true ∧
      faults.setLogEnabled = ERROR_SUCCESS ∧
      (settings.level ≠ [] → faults.setLogLevel = ERROR_SUCCESS) ∧
      (settings.directory ≠ [] → faults.setLogDirectory = ERROR_SUCCESS) ∧
      (writeLoggingSettings resolve faults appid settings reg).2 =
        (setIfSpecified (setIfSpecified (reg.setValueDword (appidKey resolve appid) .LogEnabled
            (if settings.enabled then 1 else 0) faults.setLogEnabled).2
          (appidKey resolve appid) .LogLevel settings.level faults.setLogLevel).2
          (appidKey resolve appid) .LogDirectory settings.directory faults.setLogDirectory).2 := by
  have hwritten (name : ValueName) (v : DWORD) (fault : LSTATUS) :
      failed (reg.setValueDword (appidKey resolve appid) name v fault).1 =
        decide (fault ≠ ERROR_SUCCESS) := setValue_failed _ _ _ _ _
  unfold writeLoggingSettings at hok ⊢
  dsimp only at hok ⊢
  generalize (if settings.enabled then (1 : DWORD) else 0) = enabledValue at hok ⊢
  split_ifs at hok ⊢ with hadmin hopen henabled hlevel hdirectory
  · exact absurd hok (show E_ACCESSDENIED ≠ S_OK by decide)
  · exact absurd (failed_of_eq_S_OK hok) (by simp [hopen])
  · exact absurd (failed_of_eq_S_OK hok) (by simp [henabled])
  · exact absurd (failed_of_eq_S_OK hok) (by simp [hlevel])
  · exact absurd (failed_of_eq_S_OK hok) (by simp [hdirectory])
  · rw [hwritten, decide_eq_true_eq, not_not] at henabled
    rw [setIfSpecified_failed, decide_eq_true_eq, not_and, not_not] at hlevel hdirectory
    have hkey := ((openUniqueKey_succeeds reg _ _).mp (Bool.eq_false_iff.mpr hopen)).2
    exact ⟨hkey, henabled, hlevel, hdirectory, rfl⟩

theorem writeLoggingSettings_value
    (hok : (writeLoggingSettings resolve faults appid settings reg).1.1 = S_OK) (k : κ)
    (n : ValueName) :
    (writeLoggingSettings resolve faults appid settings reg).2.value k n =
      if settings.directory.isEmpty = false ∧ k = appidKey resolve appid ∧ n = .LogDirectory then
        some (.string settings.directory.cStr)
      else if settings.level.isEmpty = false ∧ k = appidKey resolve appid ∧ n = .LogLevel then
        some (.string settings.level.cStr)
      else if k = appidKey resolve appid ∧ n = .LogEnabled then
        some (.dword (if settings.enabled then 1 else 0))
      else reg.value k n := by
  obtain ⟨hkey, henabled, hlevel, hdirectory, heq⟩ := writeLoggingSettings_succeeds resolve hok
  rw [heq]
  have hset : ((reg.setValueDword (appidKey resolve appid) .LogEnabled
      (if settings.enabled then 1 else 0) faults.setLogEnabled).2.keys
        (appidKey resolve appid)).isSome = true :=
    (setValue_keys_isSome _ _ _ _ _ _).trans hkey
  rw [setIfSpecified_value ((setIfSpecified_keys_isSome _ _ _ _ _ _).trans hset)
      (by rw [setIfSpecified_failed]; simpa using hdirectory),
    setIfSpecified_value hset (by rw [setIfSpecified_failed]; simpa using hlevel)]
  exact congrArg _ (congrArg _ (setValue_value hkey
    ((setValue_failed _ _ _ _ _).trans (by simp [henabled])) k n))

theorem writeLoggingSettings_appID
    (hok : (writeLoggingSettings resolve faults appid settings reg).1.1 = S_OK) (k : κ) :
    (writeLoggingSettings resolve faults appid settings reg).2.string k .AppID =
      reg.string k .AppID := by
  apply string_congr
  rw [writeLoggingSettings_value resolve hok]
  simp

theorem writeLoggingSettings_keys_isSome
    (hok : (writeLoggingSettings resolve faults appid settings reg).1.1 = S_OK) :
    ((writeLoggingSettings resolve faults appid settings reg).2.keys
      (appidKey resolve appid)).isSome = true := by
  obtain ⟨hkey, -, -, -, heq⟩ := writeLoggingSettings_succeeds resolve hok
  rw [heq, setIfSpecified_keys_isSome, setIfSpecified_keys_isSome]
  exact (setValue_keys_isSome _ _ _ _ _ _).trans hkey

omit [DecidableEq κ] in
theorem string_of_given {reg reg' : Registry κ} {key : κ} {name : ValueName} {s : QString}
    (h : reg'.value key name =
      if s.isEmpty = false then some (.string s.cStr) else reg.value key name) :
    (reg'.string key name).getD [] =
      if s.isEmpty then (reg.string key name).getD [] else s.cStr := by
  cases hempty : s.isEmpty with
  | true =>
      rw [hempty, if_neg (by simp)] at h
      rw [string_congr h]
      rfl
  | false =>
      rw [hempty, if_pos rfl] at h
      rw [string_eq_of_value h, QString.cStr_cStr]
      rfl

/-- A successful write puts what is given over what is stored, and leaves the settings of
other keys alone. -/
theorem writeLoggingSettings_stored
    (hok : (writeLoggingSettings resolve faults appid settings reg).1.1 = S_OK) (k : κ) :
    stored (writeLoggingSettings resolve faults appid settings reg).2 k =
      if k = appidKey resolve appid then settings.over (stored reg k) else stored reg k := by
  have hvalue := writeLoggingSettings_value resolve hok k
  by_cases hk : k = appidKey resolve appid
  · simp only [hk, true_and, if_pos] at hvalue ⊢
    unfold stored LoggingSettings.over
    congr 1
    · rw [dword_eq_of_value (by simpa using hvalue .LogEnabled)]
      cases settings.enabled <;> rfl
    · exact string_of_given (by simpa using hvalue .LogLevel)
    · exact string_of_given (by simpa using hvalue .LogDirectory)
  · simp only [hk, false_and, and_false, if_false] at hvalue ⊢
    unfold stored
    rw [dword_congr (hvalue .LogEnabled), string_congr (hvalue .LogLevel),
      string_congr (hvalue .LogDirectory)]

/-- A surrogate that is started after a successful write finds the settings that were given,
and for an empty level or directory the one that was there before. -/
theorem readLoggingSettings_of_write (readFaults : ReadFaults) {clsid : QString}
    (happid : reg.string (clsidKey resolve clsid) .AppID = some appid.cStr)
    (hok : (writeLoggingSettings resolve faults appid settings reg).1.1 = S_OK) :
    readLoggingSettings resolve readFaults clsid
        (writeLoggingSettings resolve faults appid settings reg).2 =
      if readFaults.Opens then
        readFaults.values (settings.over (stored reg (appidKey resolve appid)))
      else {} := by
  rw [readLoggingSettings_eq resolve readFaults
    ((writeLoggingSettings_appID resolve hok _).trans happid)
    (writeLoggingSettings_keys_isSome resolve hok), writeLoggingSettings_stored resolve hok,
    if_pos rfl]

/-- The registry after a registration of the class `c` under the AppID `a` that asked for
debug messages. -/
def earlier : Registry QString where
  keys path :=
    if path = clsidPath (qString "c") then
      some fun name => if name = .AppID then some (.string (qString "a")) else none
    else if path = appidPath (qString "a") then
      some fun name => if name = .LogLevel then some (.string (qString "debug")) else none
    else none

theorem readLoggingSettings_of_write_enabled :
    readLoggingSettings id {} (qString "c")
        (writeLoggingSettings id {} (qString "a") { enabled := true } earlier).2 =
      if ({} : ReadFaults).Opens then
        ({} : ReadFaults).values (LoggingSettings.over { enabled := true }
          (stored earlier (appidKey id (qString "a"))))
      else {} :=
  readLoggingSettings_of_write id {} (by decide +kernel) (by decide +kernel)

/-- The next registration, with no level, leaves the surrogate with the debug messages. -/
theorem level_of_earlier_registration :
    (writeLoggingSettings id {} (qString "a") { enabled := true } earlier).1.1 = S_OK ∧
      (readLoggingSettings id {} (qString "c")
        (writeLoggingSettings id {} (qString "a") { enabled := true } earlier).2).level =
          qString "debug" := by
  decide +kernel

end Successful

/-! ## After many registrations -/

/-- The last string that is given counts, from however long ago it is. -/
theorem foldl_over (field : LoggingSettings → QString)
    (hfield : ∀ settings old : LoggingSettings, field (settings.over old) =
      if (field settings).isEmpty then field old else (field settings).cStr)
    (given : List LoggingSettings) (old : LoggingSettings) :
    field (given.foldl (fun old settings => settings.over old) old) =
      (((given.map field).filter fun s => !s.isEmpty).getLast?.map QString.cStr).getD
        (field old) := by
  induction given generalizing old with
  | nil => rfl
  | cons settings given ih =>
      rw [List.foldl_cons, ih, hfield, List.map_cons]
      cases hempty : (field settings).isEmpty with
      | true => simp [hempty]
      | false =>
          rw [List.filter_cons_of_pos (by simp [hempty]), List.getLast?_cons, Option.map_some,
            Option.getD_some, if_neg Bool.false_ne_true]
          cases ((given.map field).filter fun s => !s.isEmpty).getLast? <;> rfl

end Axhost
