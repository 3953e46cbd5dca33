import Axhost.Platform.Registry
import Axhost.Registration.ClassSpec

/-!
# The registry entries of a surrogate

`registry_helper.cc`: `RegisterSurrogate` and `UnregisterSurrogate`.  The faults of a call are
what happens to it from outside: whether it runs as administrator, and the error of each of its
calls on the registry.

* `registerSurrogate_value`: what a successful registration leaves;
* `unregisterSurrogate_succeeds`, `unregisterSurrogate_value`: when `UnregisterSurrogate`
  reports success, and what it leaves in any case.
-/

namespace Axhost

open Registry

def E_ACCESSDENIED : HRESULT := 0x80070005

/-- `QString::number(hr, 16).toUpper()`, where `hr` is signed. -/
def hresultText (hr : HRESULT) : QString :=
  (Nat.toDigits 16 (hr.signExtend 64).toNat).map fun c => qLatin1Char c.toUpper

def keyPath (root : String) (name : QString) : QString := qString root ++ name

def clsidPath (clsid : QString) : QString := keyPath "CLSID\\" clsid

def appidPath (appid : QString) : QString := keyPath "AppID\\" appid

/-- The path of the running executable, in a buffer of `MAX_PATH` characters. -/
def getExecutablePath (moduleFileName : QString) : QString :=
  QString.cStr (moduleFileName.take 259)

def administratorRequired (action : String) : MessageBox where
  template := "Error: Administrator Privileges Required\n\n" ++ action ++
    " requires administrator privileges.\nPlease run this command as administrator."
  arguments := []

def registryFailed (failure attempt : String) (path : QString) (hr : HRESULT) : MessageBox where
  template := "Error: Failed to " ++ failure ++ "\n\nCould not " ++ attempt ++
    ":\nHKEY_CLASSES_ROOT\\%1\n\nHRESULT: 0x%2"
  arguments := [path, hresultText hr]

def surrogateRegistered (clsid appid exePath : QString) : MessageBox where
  template := "Success: Surrogate Registered\n\nCLSID: %1\nAppID: %2\nDllSurrogate: %3\n\n" ++
    "Registry keys created:\n- HKEY_CLASSES_ROOT\\CLSID\\%1\\AppID\n" ++
    "- HKEY_CLASSES_ROOT\\AppID\\%2\\DllSurrogate"
  arguments := [clsid, appid, exePath]

def surrogateUnregistered (clsid appid : QString) : MessageBox where
  template := "Success: Surrogate Unregistered\n\nCLSID: %1 %2\n\n" ++
    "Registry values removed:\n- HKEY_CLASSES_ROOT\\CLSID\\%1\\AppID %3"
  arguments := [clsid,
    if appid.isEmpty then [] else qString "\nAppID: " ++ appid,
    if appid.isEmpty then [] else
      qString "\n- HKEY_CLASSES_ROOT\\AppID\\" ++ appid ++ qString "\\DllSurrogate"]

structure RegisterFaults where
  admin : Bool := true
  createClsid : LSTATUS := ERROR_SUCCESS
  setAppID : LSTATUS := ERROR_SUCCESS
  createAppid : LSTATUS := ERROR_SUCCESS
  setDllSurrogate : LSTATUS := ERROR_SUCCESS
deriving DecidableEq, Repr

structure UnregisterFaults where
  admin : Bool := true
  openClsidRead : LSTATUS := ERROR_SUCCESS
  getAppID : LSTATUS := ERROR_SUCCESS
  openClsidWrite : LSTATUS := ERROR_SUCCESS
  deleteAppID : LSTATUS := ERROR_SUCCESS
  openAppid : LSTATUS := ERROR_SUCCESS
  deleteDllSurrogate : LSTATUS := ERROR_SUCCESS
deriving DecidableEq, Repr

variable {κ : Type*} [DecidableEq κ] (resolve : QString → κ)

def clsidKey (clsid : QString) : κ := resolve (clsidPath clsid).cStr

def appidKey (appid : QString) : κ := resolve (appidPath appid).cStr

/-- `RegisterSurrogate`, with its message boxes. -/
def registerSurrogate (moduleFileName : QString) (faults : RegisterFaults)
    (clsid appid : QString) (reg : Registry κ) : (HRESULT × List MessageBox) × Registry κ :=
  if faults.admin = false then
    ((E_ACCESSDENIED, [administratorRequired "Registering COM surrogates"]), reg)
  else
    let exePath := getExecutablePath moduleFileName
    let effectiveAppId := if appid.isEmpty then clsid else appid
    let (hr, reg) := reg.createUniqueKey (clsidKey resolve clsid) faults.createClsid
    if failed hr then
      ((hr, [registryFailed "Create Registry Key" "create registry key" (clsidPath clsid) hr]),
        reg)
    else
      let (hr, reg) := reg.setValueString (clsidKey resolve clsid) .AppID effectiveAppId
        faults.setAppID
      if failed hr then
        ((hr, [registryFailed "Set AppID" "set AppID value in" (clsidPath clsid) hr]), reg)
      else
        let (hr, reg) := reg.createUniqueKey (appidKey resolve effectiveAppId) faults.createAppid
        if failed hr then
          ((hr, [registryFailed "Create AppID Key" "create registry key"
            (appidPath effectiveAppId) hr]), reg)
        else
          let (hr, reg) := reg.setValueString (appidKey resolve effectiveAppId) .DllSurrogate
            exePath faults.setDllSurrogate
          if failed hr then
            ((hr, [registryFailed "Set DllSurrogate" "set DllSurrogate value in"
              (appidPath effectiveAppId) hr]), reg)
          else ((S_OK, [surrogateRegistered clsid effectiveAppId exePath]), reg)

/-- Opens a key for writing and deletes a value of it, with the status that is left to check. -/
def removeValue (reg : Registry κ) (key : κ) (name : ValueName) (openFault deleteFault : LSTATUS) :
    LSTATUS × Registry κ :=
  if failed (reg.openUniqueKey key openFault) then (ERROR_SUCCESS, reg)
  else reg.regDeleteValue key name deleteFault

/-- `status != ERROR_FILE_NOT_FOUND`, and then `RETURN_IF_WIN32_ERROR`. -/
def returns (status : LSTATUS) : Bool :=
  status ≠ ERROR_FILE_NOT_FOUND && status ≠ ERROR_SUCCESS

/-- The AppID that `UnregisterSurrogate` reads. -/
def readAppid (faults : UnregisterFaults) (clsid : QString) (reg : Registry κ) : QString :=
  if failed (reg.openUniqueKey (clsidKey resolve clsid) faults.openClsidRead) then []
  else
    let (hr, appidValue) := reg.getValueString (clsidKey resolve clsid) .AppID faults.getAppID
    if failed hr then [] else appidValue.getD []

def unregisterSurrogate (faults : UnregisterFaults) (clsid : QString) (reg : Registry κ) :
    (HRESULT × List MessageBox) × Registry κ :=
  if faults.admin = false then
    ((E_ACCESSDENIED, [administratorRequired "Unregistering COM surrogates"]), reg)
  else
    let appid := readAppid resolve faults clsid reg
    let (status, reg) := removeValue reg (clsidKey resolve clsid) .AppID faults.openClsidWrite
      faults.deleteAppID
    if returns status then ((HRESULT_FROM_WIN32 status, []), reg)
    else
      let (status, reg) := if appid.isEmpty then (ERROR_SUCCESS, reg)
        else removeValue reg (appidKey resolve appid) .DllSurrogate faults.openAppid
          faults.deleteDllSurrogate
      if returns status then ((HRESULT_FROM_WIN32 status, []), reg)
      else ((S_OK, [surrogateUnregistered clsid appid]), reg)

/-! ## What a registration leaves -/

omit [DecidableEq κ] in
theorem appidKey_cStr (appid : QString) : appidKey resolve appid.cStr = appidKey resolve appid :=
  congrArg resolve (QString.cStr_append_cStr _ _)

/-- The two values a registration writes, over those that were there. -/
theorem registerSurrogate_value {moduleFileName : QString} {faults : RegisterFaults}
    {clsid appid : QString} {reg : Registry κ}
    (hok : (registerSurrogate resolve moduleFileName faults clsid appid reg).1.1 = S_OK)
    (k : κ) (n : ValueName) :
    (registerSurrogate resolve moduleFileName faults clsid appid reg).2.value k n =
      if k = appidKey resolve (if appid.isEmpty then clsid else appid) ∧ n = .DllSurrogate then
        some (.string (getExecutablePath moduleFileName).cStr)
      else if k = clsidKey resolve clsid ∧ n = .AppID then
        some (.string (QString.cStr (if appid.isEmpty then clsid else appid)))
      else reg.value k n := by
  unfold registerSurrogate at hok ⊢
  dsimp only at hok ⊢
  generalize (if appid.isEmpty then clsid else appid) = effectiveAppId at hok ⊢
  generalize hleaves : (if k = appidKey resolve effectiveAppId ∧ n = .DllSurrogate then
    some (RegistryValue.string (getExecutablePath moduleFileName).cStr)
    else if k = clsidKey resolve clsid ∧ n = .AppID then some (.string effectiveAppId.cStr)
    else reg.value k n) = leaves
  simp only [createUniqueKey_failed, setValueString_failed, decide_eq_true_eq] at hok ⊢
  split_ifs at hok ⊢ with hadmin hcreate hset hcreate' hset'
  · exact absurd hok (by simp [E_ACCESSDENIED, S_OK])
  · exact absurd (failed_of_eq_S_OK hok) (by simp [createUniqueKey_failed, hcreate])
  · exact absurd (failed_of_eq_S_OK hok) (by simp [setValueString_failed, hset])
  · exact absurd (failed_of_eq_S_OK hok) (by simp [createUniqueKey_failed, hcreate'])
  · exact absurd (failed_of_eq_S_OK hok) (by simp [setValueString_failed, hset'])
  · rw [← hleaves, setValueString_createUniqueKey_value _ _ _ _ (not_not.mp hcreate')
      (not_not.mp hset'), setValueString_createUniqueKey_value _ _ _ _ (not_not.mp hcreate)
      (not_not.mp hset)]

theorem registerSurrogate_appID {moduleFileName : QString} {faults : RegisterFaults}
    {clsid appid : QString} {reg : Registry κ}
    (hok : (registerSurrogate resolve moduleFileName faults clsid appid reg).1.1 = S_OK) (k : κ) :
    (registerSurrogate resolve moduleFileName faults clsid appid reg).2.string k .AppID =
      if k = clsidKey resolve clsid then
        some (QString.cStr (if appid.isEmpty then clsid else appid))
      else reg.string k .AppID := by
  have hvalue := registerSurrogate_value resolve hok k .AppID
  rw [if_neg fun h => ValueName.noConfusion h.2] at hvalue
  by_cases hclass : k = clsidKey resolve clsid
  · rw [if_pos ⟨hclass, rfl⟩] at hvalue
    rw [if_pos hclass, string_eq_of_value hvalue, QString.cStr_cStr]
  · rw [if_neg fun h => hclass h.1] at hvalue
    rw [if_neg hclass, string_congr hvalue]

theorem registerSurrogate_dllSurrogate {moduleFileName : QString} {faults : RegisterFaults}
    {clsid appid : QString} {reg : Registry κ}
    (hok : (registerSurrogate resolve moduleFileName faults clsid appid reg).1.1 = S_OK) (k : κ) :
    (registerSurrogate resolve moduleFileName faults clsid appid reg).2.string k .DllSurrogate =
      if k = appidKey resolve (if appid.isEmpty then clsid else appid) then
        some (getExecutablePath moduleFileName).cStr
      else reg.string k .DllSurrogate := by
  have hvalue := registerSurrogate_value resolve hok k .DllSurrogate
  have hother : ¬ (k = clsidKey resolve clsid ∧ ValueName.DllSurrogate = ValueName.AppID) :=
    fun h => ValueName.noConfusion h.2
  rw [if_neg hother] at hvalue
  by_cases happid : k = appidKey resolve (if appid.isEmpty then clsid else appid)
  · rw [if_pos ⟨happid, rfl⟩] at hvalue
    rw [if_pos happid, string_eq_of_value hvalue, QString.cStr_cStr]
  · rw [if_neg fun h => happid h.1] at hvalue
    rw [if_neg happid, string_congr hvalue]

/-! ## What an attempt to unregister does -/

theorem returns_eq_true (status : LSTATUS) :
    returns status = true ↔ status ≠ ERROR_FILE_NOT_FOUND ∧ status ≠ ERROR_SUCCESS := by
  simp [returns]

@[simp] theorem returns_success : returns ERROR_SUCCESS = false := by decide

@[simp] theorem returns_notFound : returns ERROR_FILE_NOT_FOUND = false := by decide

theorem HRESULT_FROM_WIN32_ne_S_OK {status : LSTATUS} (h : returns status = true) :
    HRESULT_FROM_WIN32 status ≠ S_OK := by
  intro heq
  have hfailed := failed_HRESULT_FROM_WIN32 status
  rw [heq, decide_eq_true ((returns_eq_true status).mp h).2] at hfailed
  exact absurd hfailed (by decide)

theorem removeValue_value (reg : Registry κ) (key : κ) (name : ValueName)
    (openFault deleteFault : LSTATUS) (k : κ) (n : ValueName) :
    (removeValue reg key name openFault deleteFault).2.value k n =
      if (openFault = ERROR_SUCCESS ∧ deleteFault = ERROR_SUCCESS) ∧ k = key ∧ n = name then none
      else reg.value k n := by
  unfold removeValue
  split_ifs with hfailed hremoves hremoves
  · -- a key that could not be opened without a fault is not there, and has no value
    obtain ⟨⟨hopen, -⟩, rfl, rfl⟩ := hremoves
    cases hvalue : reg.value k n with
    | none => rfl
    | some v =>
        have hopens := (openUniqueKey_succeeds reg k openFault).mpr
          ⟨hopen, keys_isSome_of_value hvalue⟩
        exact absurd (hfailed.symm.trans hopens) (by simp)
  · rfl
  · rw [regDeleteValue_value, if_pos ⟨hremoves.1.2, hremoves.2⟩]
  · have hopen := ((openUniqueKey_succeeds reg key openFault).mp (Bool.eq_false_iff.mpr hfailed)).1
    rw [regDeleteValue_value, if_neg fun h => hremoves ⟨⟨hopen, h.1⟩, h.2⟩]

theorem removeValue_keys_isSome (reg : Registry κ) (key : κ) (name : ValueName)
    (openFault deleteFault : LSTATUS) (k : κ) :
    ((removeValue reg key name openFault deleteFault).2.keys k).isSome =
      (reg.keys k).isSome := by
  unfold removeValue regDeleteValue
  split_ifs
  · rfl
  · rfl
  · exact update_keys_isSome reg key name none k
  · rfl

/-- The deletion of a value can only end the attempt with its own error. -/
theorem removeValue_returns (reg : Registry κ) (key : κ) (name : ValueName)
    (openFault deleteFault : LSTATUS) :
    returns (removeValue reg key name openFault deleteFault).1 = true ↔
      openFault = ERROR_SUCCESS ∧ (reg.keys key).isSome = true ∧ returns deleteFault = true := by
  have hdelete : returns (reg.regDeleteValue key name deleteFault).1 = returns deleteFault := by
    unfold regDeleteValue
    split_ifs with hfault
    · rfl
    · rw [not_not.mp hfault]
    · rw [not_not.mp hfault, returns_success]
      exact returns_notFound
  unfold removeValue
  split_ifs with hfailed
  · refine iff_of_false (by simp) fun h => ?_
    have hopens := (openUniqueKey_succeeds reg key openFault).mpr ⟨h.1, h.2.1⟩
    exact absurd (hfailed.symm.trans hopens) (by simp)
  · have hopens := (openUniqueKey_succeeds reg key openFault).mp (Bool.eq_false_iff.mpr hfailed)
    rw [hdelete]
    exact ⟨fun h => ⟨hopens.1, hopens.2, h⟩, fun h => h.2.2⟩

omit [DecidableEq κ] in
theorem readAppid_eq (faults : UnregisterFaults) (clsid : QString) (reg : Registry κ) :
    readAppid resolve faults clsid reg =
      if faults.openClsidRead = ERROR_SUCCESS ∧ faults.getAppID = ERROR_SUCCESS then
        (reg.string (clsidKey resolve clsid) .AppID).getD []
      else [] := by
  have hget := getValueString_snd reg (clsidKey resolve clsid) .AppID faults.getAppID
  unfold readAppid
  split_ifs with hfailed hread hread
  · -- without a fault the key is not there, and has no value
    cases hstring : reg.string (clsidKey resolve clsid) .AppID with
    | none => rfl
    | some appid =>
        have hopens := (openUniqueKey_succeeds reg (clsidKey resolve clsid)
          faults.openClsidRead).mpr ⟨hread.1, keys_isSome_of_string hstring⟩
        exact absurd (hfailed.symm.trans hopens) (by simp)
  · rfl
  · dsimp only
    rw [getValueString_getD, hget, if_pos hread.2]
  · have hopen := ((openUniqueKey_succeeds reg (clsidKey resolve clsid)
      faults.openClsidRead).mp (Bool.eq_false_iff.mpr hfailed)).1
    dsimp only
    rw [getValueString_getD, hget, if_neg fun h => hread ⟨hopen, h⟩]
    rfl

/-- The first deletion ends the attempt. -/
def FailsAppID (faults : UnregisterFaults) (clsid : QString) (reg : Registry κ) : Prop :=
  faults.openClsidWrite = ERROR_SUCCESS ∧
    (reg.keys (clsidKey resolve clsid)).isSome = true ∧ returns faults.deleteAppID = true

/-- The second deletion does. -/
def FailsDllSurrogate (faults : UnregisterFaults) (clsid : QString) (reg : Registry κ) : Prop :=
  readAppid resolve faults clsid reg ≠ [] ∧ faults.openAppid = ERROR_SUCCESS ∧
    (reg.keys (appidKey resolve (readAppid resolve faults clsid reg))).isSome = true ∧
    returns faults.deleteDllSurrogate = true

instance (faults : UnregisterFaults) (clsid : QString) (reg : Registry κ) :
    Decidable (FailsAppID resolve faults clsid reg) :=
  inferInstanceAs (Decidable (_ ∧ _ ∧ _))

instance (faults : UnregisterFaults) (clsid : QString) (reg : Registry κ) :
    Decidable (FailsDllSurrogate resolve faults clsid reg) :=
  inferInstanceAs (Decidable (_ ∧ _ ∧ _ ∧ _))

/-- The value that an attempt takes from the class. -/
def RemovesAppID (faults : UnregisterFaults) : Prop :=
  faults.openClsidWrite = ERROR_SUCCESS ∧ faults.deleteAppID = ERROR_SUCCESS

/-- And the one it takes from the AppID it has read. -/
def RemovesDllSurrogate (faults : UnregisterFaults) : Prop :=
  faults.openAppid = ERROR_SUCCESS ∧ faults.deleteDllSurrogate = ERROR_SUCCESS

instance (faults : UnregisterFaults) : Decidable (RemovesAppID faults) :=
  inferInstanceAs (Decidable (_ ∧ _))

instance (faults : UnregisterFaults) : Decidable (RemovesDllSurrogate faults) :=
  inferInstanceAs (Decidable (_ ∧ _))

/-- The attempt finds an AppID, gets past the class and takes the DllSurrogate value away. -/
def TakesSurrogate (faults : UnregisterFaults) (clsid : QString) (reg : Registry κ) : Prop :=
  faults.admin = true ∧ ¬ FailsAppID resolve faults clsid reg ∧
    readAppid resolve faults clsid reg ≠ [] ∧ RemovesDllSurrogate faults

instance (faults : UnregisterFaults) (clsid : QString) (reg : Registry κ) :
    Decidable (TakesSurrogate resolve faults clsid reg) :=
  inferInstanceAs (Decidable (_ ∧ _ ∧ _ ∧ _))

variable {resolve} {faults : UnregisterFaults} {clsid : QString} {reg : Registry κ}

theorem failsAppID_iff : FailsAppID resolve faults clsid reg ↔
    returns (removeValue reg (clsidKey resolve clsid) .AppID faults.openClsidWrite
      faults.deleteAppID).1 = true := (removeValue_returns _ _ _ _ _).symm

theorem unregisterSurrogate_of_not_admin (h : faults.admin = false) :
    unregisterSurrogate resolve faults clsid reg =
      ((E_ACCESSDENIED, [administratorRequired "Unregistering COM surrogates"]), reg) := if_pos h

theorem unregisterSurrogate_of_failsAppID (hadmin : faults.admin = true)
    (h : FailsAppID resolve faults clsid reg) :
    returns faults.deleteAppID = true ∧ ∃ status, returns status = true ∧
      unregisterSurrogate resolve faults clsid reg =
        ((HRESULT_FROM_WIN32 status, []),
          (removeValue reg (clsidKey resolve clsid) .AppID faults.openClsidWrite
            faults.deleteAppID).2) := by
  have hreturns := failsAppID_iff.mp h
  refine ⟨h.2.2, _, hreturns, ?_⟩
  unfold unregisterSurrogate
  rw [if_neg (by simp [hadmin])]
  dsimp only
  rw [if_pos hreturns]

theorem unregisterSurrogate_of_not_failsAppID (hadmin : faults.admin = true)
    (h : ¬ FailsAppID resolve faults clsid reg) : ∃ removed : LSTATUS × Registry κ,
    removed = (if readAppid resolve faults clsid reg = [] then
        (ERROR_SUCCESS, (removeValue reg (clsidKey resolve clsid) .AppID faults.openClsidWrite
          faults.deleteAppID).2)
      else removeValue (removeValue reg (clsidKey resolve clsid) .AppID faults.openClsidWrite
          faults.deleteAppID).2 (appidKey resolve (readAppid resolve faults clsid reg))
        .DllSurrogate faults.openAppid faults.deleteDllSurrogate) ∧
      (returns removed.1 = true ↔ FailsDllSurrogate resolve faults clsid reg) ∧
      unregisterSurrogate resolve faults clsid reg =
        if returns removed.1 then ((HRESULT_FROM_WIN32 removed.1, []), removed.2)
        else ((S_OK, [surrogateUnregistered clsid (readAppid resolve faults clsid reg)]),
          removed.2) := by
  refine ⟨_, rfl, ?_, ?_⟩
  · split_ifs with hnil
    · exact iff_of_false (by simp) fun h => h.1 hnil
    · rw [removeValue_returns, removeValue_keys_isSome]
      exact (and_iff_right hnil).symm
  · have hgoes := failsAppID_iff.not.mp h
    unfold unregisterSurrogate
    rw [if_neg (by simp [hadmin])]
    dsimp only
    rw [if_neg hgoes]
    simp only [List.isEmpty_iff]

/-- When an attempt reports success. -/
theorem unregisterSurrogate_succeeds (resolve : QString → κ) (faults : UnregisterFaults)
    (clsid : QString) (reg : Registry κ) :
    (unregisterSurrogate resolve faults clsid reg).1.1 = S_OK ↔ faults.admin = true ∧
      ¬ FailsAppID resolve faults clsid reg ∧ ¬ FailsDllSurrogate resolve faults clsid reg := by
  by_cases hadmin : faults.admin = true
  · by_cases hfirst : FailsAppID resolve faults clsid reg
    · obtain ⟨-, status, hstatus, heq⟩ := unregisterSurrogate_of_failsAppID hadmin hfirst
      rw [heq]
      exact iff_of_false (HRESULT_FROM_WIN32_ne_S_OK hstatus) fun h => h.2.1 hfirst
    · obtain ⟨removed, -, hsecond, heq⟩ := unregisterSurrogate_of_not_failsAppID hadmin hfirst
      rw [heq]
      split_ifs with hreturns
      · exact iff_of_false (HRESULT_FROM_WIN32_ne_S_OK hreturns)
          fun h => h.2.2 (hsecond.mp hreturns)
      · exact iff_of_true rfl ⟨hadmin, hfirst, hsecond.not.mp hreturns⟩
  · rw [unregisterSurrogate_of_not_admin (Bool.eq_false_iff.mpr hadmin)]
    exact iff_of_false (by simp [E_ACCESSDENIED, S_OK]) fun h => hadmin h.1

/-- What an attempt leaves, whatever it reports. -/
theorem unregisterSurrogate_value (resolve : QString → κ) (faults : UnregisterFaults)
    (clsid : QString) (reg : Registry κ) (k : κ) (n : ValueName) :
    (unregisterSurrogate resolve faults clsid reg).2.value k n =
      if faults.admin = true ∧ RemovesAppID faults ∧ k = clsidKey resolve clsid ∧ n = .AppID then
        none
      else if TakesSurrogate resolve faults clsid reg ∧
          k = appidKey resolve (readAppid resolve faults clsid reg) ∧ n = .DllSurrogate then none
      else reg.value k n := by
  by_cases hadmin : faults.admin = true
  · by_cases hfirst : FailsAppID resolve faults clsid reg
    · obtain ⟨hfault, status, -, heq⟩ := unregisterSurrogate_of_failsAppID hadmin hfirst
      have hkeeps : ¬ RemovesAppID faults := fun h => ((returns_eq_true _).mp hfault).2 h.2
      rw [heq, removeValue_value, if_neg fun h => hkeeps h.1, if_neg fun h => hkeeps h.2.1,
        if_neg fun h => h.1.2.1 hfirst]
    · obtain ⟨removed, hremoved, -, heq⟩ := unregisterSurrogate_of_not_failsAppID hadmin hfirst
      have hvalue : (unregisterSurrogate resolve faults clsid reg).2 = removed.2 := by
        rw [heq]
        split_ifs
        · rfl
        · rfl
      have hclass : (faults.admin = true ∧ RemovesAppID faults ∧ k = clsidKey resolve clsid ∧
          n = .AppID) ↔ RemovesAppID faults ∧ k = clsidKey resolve clsid ∧ n = .AppID :=
        and_iff_right hadmin
      have happid : TakesSurrogate resolve faults clsid reg ↔
          readAppid resolve faults clsid reg ≠ [] ∧ RemovesDllSurrogate faults :=
        (and_iff_right hadmin).trans (and_iff_right hfirst)
      rw [hvalue, hremoved]
      simp only [hclass, happid]
      by_cases hnil : readAppid resolve faults clsid reg = []
      · rw [if_pos hnil, removeValue_value]
        simp only [hnil, ne_eq, not_true_eq_false, false_and, if_false]
        rfl
      · rw [if_neg hnil, removeValue_value, removeValue_value]
        simp only [ne_eq, hnil, not_false_eq_true, true_and]
        unfold RemovesAppID RemovesDllSurrogate
        split_ifs
        all_goals rfl
  · rw [unregisterSurrogate_of_not_admin (Bool.eq_false_iff.mpr hadmin), if_neg fun h => hadmin h.1,
      if_neg fun h => hadmin h.1.1]

variable (resolve) in
theorem unregisterSurrogate_appID (faults : UnregisterFaults) (clsid : QString)
    (reg : Registry κ) (k : κ) :
    (unregisterSurrogate resolve faults clsid reg).2.value k .AppID =
      if faults.admin = true ∧ RemovesAppID faults ∧ k = clsidKey resolve clsid then none
      else reg.value k .AppID := by
  rw [unregisterSurrogate_value]
  simp

variable (resolve) in
theorem unregisterSurrogate_dllSurrogate (faults : UnregisterFaults) (clsid : QString)
    (reg : Registry κ) (k : κ) :
    (unregisterSurrogate resolve faults clsid reg).2.value k .DllSurrogate =
      if TakesSurrogate resolve faults clsid reg ∧
          k = appidKey resolve (readAppid resolve faults clsid reg) then none
      else reg.value k .DllSurrogate := by
  rw [unregisterSurrogate_value]
  simp

end Axhost
