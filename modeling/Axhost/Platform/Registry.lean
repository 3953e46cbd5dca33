import Mathlib.Logic.Function.Basic
import Axhost.Platform.Windows

/-!
# The Windows registry

Keys with named values, and the calls the host makes on them.  A path names a key by a
`resolve` that is left open, as it depends on letter case and on what is merged into
`HKEY_CLASSES_ROOT`.  Each call takes the error it fails with, which is `ERROR_SUCCESS` where
it is carried out.
-/

namespace Axhost

abbrev LSTATUS := BitVec 32

def ERROR_SUCCESS : LSTATUS := 0
def ERROR_FILE_NOT_FOUND : LSTATUS := 2
def ERROR_ACCESS_DENIED : LSTATUS := 5
def ERROR_UNSUPPORTED_TYPE : LSTATUS := 1630

def HRESULT_FROM_WIN32 (status : LSTATUS) : HRESULT :=
  if status = ERROR_SUCCESS ∨ status.msb = true then status
  else (status &&& 0x0000FFFF) ||| 0x80070000

theorem failed_HRESULT_FROM_WIN32 (status : LSTATUS) :
    failed (HRESULT_FROM_WIN32 status) = decide (status ≠ ERROR_SUCCESS) := by
  unfold HRESULT_FROM_WIN32 failed
  by_cases hzero : status = ERROR_SUCCESS
  · rw [if_pos (Or.inl hzero), hzero]
    decide
  · rw [decide_eq_true hzero]
    split_ifs with hmsb
    · exact hmsb.resolve_left hzero
    · rw [BitVec.msb_or, show (0x80070000 : LSTATUS).msb = true by decide, Bool.or_true]

theorem failed_file_not_found : failed (HRESULT_FROM_WIN32 ERROR_FILE_NOT_FOUND) = true := by
  decide

theorem failed_unsupported_type :
    failed (HRESULT_FROM_WIN32 ERROR_UNSUPPORTED_TYPE) = true := by
  decide

inductive ValueName
  | AppID
  | DllSurrogate
  | LogEnabled
  | LogLevel
  | LogDirectory
  | other (name : QString)
deriving DecidableEq, Repr

inductive RegistryValue
  | string (s : QString)
  | dword (value : DWORD)
  | other (data : List UInt8)
deriving DecidableEq, Repr

/-- The values of each key there is. -/
structure Registry (κ : Type*) where
  keys : κ → Option (ValueName → Option RegistryValue)

namespace Registry

variable {κ : Type*} [DecidableEq κ]

def value (reg : Registry κ) (key : κ) (name : ValueName) : Option RegistryValue :=
  (reg.keys key).bind fun values => values name

/-- Writes a value of a key that is there, or deletes it. -/
def update (reg : Registry κ) (key : κ) (name : ValueName) (value : Option RegistryValue) :
    Registry κ where
  keys := Function.update reg.keys key ((reg.keys key).map fun values =>
    Function.update values name value)

/-- `open_unique_key_nothrow`. -/
def openUniqueKey (reg : Registry κ) (key : κ) (fault : LSTATUS) : HRESULT :=
  if fault ≠ ERROR_SUCCESS then HRESULT_FROM_WIN32 fault
  else if (reg.keys key).isSome then S_OK else HRESULT_FROM_WIN32 ERROR_FILE_NOT_FOUND

/-- `create_unique_key_nothrow`, which opens a key that is there. -/
def createUniqueKey (reg : Registry κ) (key : κ) (fault : LSTATUS) : HRESULT × Registry κ :=
  if fault ≠ ERROR_SUCCESS then (HRESULT_FROM_WIN32 fault, reg)
  else
    let values := (reg.keys key).getD fun _ => none
    (S_OK, { keys := Function.update reg.keys key (some values) })

/-- `get_value_string_nothrow`. -/
def getValueString (reg : Registry κ) (key : κ) (name : ValueName) (fault : LSTATUS) :
    HRESULT × Option QString :=
  if fault ≠ ERROR_SUCCESS then (HRESULT_FROM_WIN32 fault, none)
  else match reg.value key name with
    | some (.string s) => (S_OK, some s.cStr)
    | some _ => (HRESULT_FROM_WIN32 ERROR_UNSUPPORTED_TYPE, none)
    | none => (HRESULT_FROM_WIN32 ERROR_FILE_NOT_FOUND, none)

/-- `get_value_nothrow` of a `DWORD`. -/
def getValueDword (reg : Registry κ) (key : κ) (name : ValueName) (fault : LSTATUS) :
    HRESULT × Option DWORD :=
  if fault ≠ ERROR_SUCCESS then (HRESULT_FROM_WIN32 fault, none)
  else match reg.value key name with
    | some (.dword value) => (S_OK, some value)
    | some _ => (HRESULT_FROM_WIN32 ERROR_UNSUPPORTED_TYPE, none)
    | none => (HRESULT_FROM_WIN32 ERROR_FILE_NOT_FOUND, none)

/-- What the two writes have in common. -/
def setValue (reg : Registry κ) (key : κ) (name : ValueName) (v : RegistryValue)
    (fault : LSTATUS) : HRESULT × Registry κ :=
  if fault ≠ ERROR_SUCCESS then (HRESULT_FROM_WIN32 fault, reg)
  else (S_OK, reg.update key name (some v))

/-- `set_value_string_nothrow` on an open key. -/
def setValueString (reg : Registry κ) (key : κ) (name : ValueName) (s : QString)
    (fault : LSTATUS) : HRESULT × Registry κ :=
  reg.setValue key name (.string s.cStr) fault

/-- `set_value_nothrow` of a `DWORD` on an open key. -/
def setValueDword (reg : Registry κ) (key : κ) (name : ValueName) (value : DWORD)
    (fault : LSTATUS) : HRESULT × Registry κ :=
  reg.setValue key name (.dword value) fault

/-- `RegDeleteValueW` on an open key. -/
def regDeleteValue (reg : Registry κ) (key : κ) (name : ValueName) (fault : LSTATUS) :
    LSTATUS × Registry κ :=
  if fault ≠ ERROR_SUCCESS then (fault, reg)
  else if (reg.value key name).isSome then (ERROR_SUCCESS, reg.update key name none)
  else (ERROR_FILE_NOT_FOUND, reg)

/-! ## What the calls do to the values -/

theorem update_value (reg : Registry κ) (key : κ) (name : ValueName)
    (v : Option RegistryValue) (k : κ) (n : ValueName) :
    (reg.update key name v).value k n =
      if k = key ∧ n = name then (reg.keys key).bind fun _ => v else reg.value k n := by
  unfold update value
  by_cases hk : k = key
  · subst hk
    dsimp only
    rw [Function.update_self]
    cases reg.keys k with
    | none => simp
    | some values =>
        by_cases hn : n = name
        · simp [hn]
        · simp [hn]
  · simp [hk]

omit [DecidableEq κ] in
theorem keys_isSome_of_value {reg : Registry κ} {key : κ} {name : ValueName} {v : RegistryValue}
    (h : reg.value key name = some v) : (reg.keys key).isSome = true := by
  obtain ⟨values, hvalues, -⟩ := Option.bind_eq_some_iff.mp h
  rw [hvalues]
  rfl

theorem update_keys_isSome (reg : Registry κ) (key : κ) (name : ValueName)
    (v : Option RegistryValue) (k : κ) :
    ((reg.update key name v).keys k).isSome = (reg.keys k).isSome := by
  unfold update
  by_cases hk : k = key
  · subst hk
    simp
  · simp [hk]

omit [DecidableEq κ] in
theorem openUniqueKey_succeeds (reg : Registry κ) (key : κ) (fault : LSTATUS) :
    failed (reg.openUniqueKey key fault) = false ↔
      fault = ERROR_SUCCESS ∧ (reg.keys key).isSome = true := by
  unfold openUniqueKey
  split_ifs with hfault hkey
  · simp [failed_HRESULT_FROM_WIN32, hfault]
  · exact iff_of_true (by decide) ⟨not_not.mp hfault, hkey⟩
  · exact iff_of_false (by decide) fun h => hkey h.2

omit [DecidableEq κ] in
theorem openUniqueKey_failed {reg : Registry κ} {key : κ} (hkey : (reg.keys key).isSome = true)
    (fault : LSTATUS) :
    failed (reg.openUniqueKey key fault) = decide (fault ≠ ERROR_SUCCESS) := by
  unfold openUniqueKey
  split_ifs with hfault
  · rw [failed_HRESULT_FROM_WIN32]
  · exact failed_S_OK.trans (decide_eq_false hfault).symm

theorem createUniqueKey_failed (reg : Registry κ) (key : κ) (fault : LSTATUS) :
    failed (reg.createUniqueKey key fault).1 = decide (fault ≠ ERROR_SUCCESS) := by
  unfold createUniqueKey
  split_ifs with hfault
  · rw [failed_HRESULT_FROM_WIN32]
  · exact failed_S_OK.trans (decide_eq_false hfault).symm

theorem setValue_failed (reg : Registry κ) (key : κ) (name : ValueName) (v : RegistryValue)
    (fault : LSTATUS) :
    failed (reg.setValue key name v fault).1 = decide (fault ≠ ERROR_SUCCESS) := by
  unfold setValue
  split_ifs with hfault
  · rw [failed_HRESULT_FROM_WIN32]
  · exact failed_S_OK.trans (decide_eq_false hfault).symm

theorem setValueString_failed (reg : Registry κ) (key : κ) (name : ValueName) (s : QString)
    (fault : LSTATUS) :
    failed (reg.setValueString key name s fault).1 = decide (fault ≠ ERROR_SUCCESS) :=
  setValue_failed reg key name (.string s.cStr) fault

theorem setValueString_of_fault (reg : Registry κ) (key : κ) (name : ValueName) (s : QString)
    {fault : LSTATUS} (h : fault ≠ ERROR_SUCCESS) :
    reg.setValueString key name s fault = (HRESULT_FROM_WIN32 fault, reg) := if_pos h

theorem createUniqueKey_value (reg : Registry κ) (key : κ) (fault : LSTATUS) (k : κ)
    (n : ValueName) : (reg.createUniqueKey key fault).2.value k n = reg.value k n := by
  unfold createUniqueKey value
  split_ifs
  · rfl
  · by_cases hk : k = key
    · subst hk
      dsimp only
      rw [Function.update_self]
      cases reg.keys k with
      | none => rfl
      | some values => rfl
    · simp [hk]

theorem createUniqueKey_keys {reg : Registry κ} {key : κ} {fault : LSTATUS}
    (h : failed (reg.createUniqueKey key fault).1 = false) :
    ((reg.createUniqueKey key fault).2.keys key).isSome = true := by
  unfold createUniqueKey at h ⊢
  split_ifs at h ⊢ with hfault
  · simp [failed_HRESULT_FROM_WIN32, hfault] at h
  · simp

theorem setValue_value {reg : Registry κ} {key : κ} {name : ValueName} {v : RegistryValue}
    {fault : LSTATUS} (hkey : (reg.keys key).isSome = true)
    (h : failed (reg.setValue key name v fault).1 = false) (k : κ) (n : ValueName) :
    (reg.setValue key name v fault).2.value k n =
      if k = key ∧ n = name then some v else reg.value k n := by
  unfold setValue at h ⊢
  split_ifs at h ⊢ with hfault hhere hhere
  · simp [failed_HRESULT_FROM_WIN32, hfault] at h
  · simp [failed_HRESULT_FROM_WIN32, hfault] at h
  · obtain ⟨values, hvalues⟩ := Option.isSome_iff_exists.mp hkey
    rw [update_value, if_pos hhere, hvalues]
    rfl
  · rw [update_value, if_neg hhere]

theorem setValueString_value {reg : Registry κ} {key : κ} {name : ValueName} {s : QString}
    {fault : LSTATUS} (hkey : (reg.keys key).isSome = true)
    (h : failed (reg.setValueString key name s fault).1 = false) (k : κ) (n : ValueName) :
    (reg.setValueString key name s fault).2.value k n =
      if k = key ∧ n = name then some (.string s.cStr) else reg.value k n :=
  setValue_value (v := .string s.cStr) hkey h k n

theorem setValue_keys_isSome (reg : Registry κ) (key : κ) (name : ValueName)
    (v : RegistryValue) (fault : LSTATUS) (k : κ) :
    ((reg.setValue key name v fault).2.keys k).isSome = (reg.keys k).isSome := by
  unfold setValue
  split_ifs
  · rfl
  · exact update_keys_isSome reg key name (some v) k

theorem setValueString_createUniqueKey_value (reg : Registry κ) (key : κ) (name : ValueName)
    (s : QString) {createFault setFault : LSTATUS} (hcreate : createFault = ERROR_SUCCESS)
    (hset : setFault = ERROR_SUCCESS) (k : κ) (n : ValueName) :
    ((reg.createUniqueKey key createFault).2.setValueString key name s setFault).2.value k n =
      if k = key ∧ n = name then some (.string s.cStr) else reg.value k n := by
  have hcreated : failed (reg.createUniqueKey key createFault).1 = false :=
    (createUniqueKey_failed reg key createFault).trans (by simp [hcreate])
  rw [setValueString_value (createUniqueKey_keys hcreated)
    ((setValueString_failed _ _ _ _ _).trans (by simp [hset])), createUniqueKey_value]

/-- The string that a value is read as. -/
def string (reg : Registry κ) (key : κ) (name : ValueName) : Option QString :=
  match reg.value key name with
  | some (.string s) => some s.cStr
  | _ => none

omit [DecidableEq κ] in
theorem getValueString_snd (reg : Registry κ) (key : κ) (name : ValueName) (fault : LSTATUS) :
    (reg.getValueString key name fault).2 =
      if fault = ERROR_SUCCESS then reg.string key name else none := by
  unfold getValueString string
  by_cases hfault : fault = ERROR_SUCCESS
  · rw [if_neg (by simp [hfault]), if_pos hfault]
    rcases reg.value key name with _ | _ | _ | _
    · rfl
    · rfl
    · rfl
    · rfl
  · simp [hfault]

/-- The number that a value is read as. -/
def dword (reg : Registry κ) (key : κ) (name : ValueName) : Option DWORD :=
  match reg.value key name with
  | some (.dword value) => some value
  | _ => none

omit [DecidableEq κ] in
theorem getValueDword_snd (reg : Registry κ) (key : κ) (name : ValueName) (fault : LSTATUS) :
    (reg.getValueDword key name fault).2 =
      if fault = ERROR_SUCCESS then reg.dword key name else none := by
  unfold getValueDword dword
  by_cases hfault : fault = ERROR_SUCCESS
  · rw [if_neg (by simp [hfault]), if_pos hfault]
    rcases reg.value key name with _ | _ | _ | _
    · rfl
    · rfl
    · rfl
    · rfl
  · simp [hfault]

omit [DecidableEq κ] in
theorem getValueString_failed (reg : Registry κ) (key : κ) (name : ValueName)
    (fault : LSTATUS) :
    failed (reg.getValueString key name fault).1 =
      (reg.getValueString key name fault).2.isNone := by
  unfold getValueString
  split_ifs with hfault
  · exact (failed_HRESULT_FROM_WIN32 fault).trans (decide_eq_true hfault)
  · rcases reg.value key name with _ | _ | _ | _
    · exact failed_file_not_found
    · exact failed_S_OK
    · exact failed_unsupported_type
    · exact failed_unsupported_type

omit [DecidableEq κ] in
theorem getValueDword_failed (reg : Registry κ) (key : κ) (name : ValueName)
    (fault : LSTATUS) :
    failed (reg.getValueDword key name fault).1 =
      (reg.getValueDword key name fault).2.isNone := by
  unfold getValueDword
  split_ifs with hfault
  · exact (failed_HRESULT_FROM_WIN32 fault).trans (decide_eq_true hfault)
  · rcases reg.value key name with _ | _ | _ | _
    · exact failed_file_not_found
    · exact failed_unsupported_type
    · exact failed_S_OK
    · exact failed_unsupported_type

omit [DecidableEq κ] in
theorem dword_eq_of_value {reg : Registry κ} {key : κ} {name : ValueName} {value : DWORD}
    (h : reg.value key name = some (.dword value)) : reg.dword key name = some value := by
  unfold dword
  rw [h]

omit [DecidableEq κ] in
theorem dword_congr {reg reg' : Registry κ} {key : κ} {name : ValueName}
    (h : reg'.value key name = reg.value key name) : reg'.dword key name = reg.dword key name := by
  unfold dword
  rw [h]

omit [DecidableEq κ] in
theorem string_eq_of_value {reg : Registry κ} {key : κ} {name : ValueName} {s : QString}
    (h : reg.value key name = some (.string s)) : reg.string key name = some s.cStr := by
  unfold string
  rw [h]

omit [DecidableEq κ] in
theorem string_congr {reg reg' : Registry κ} {key : κ} {name : ValueName}
    (h : reg'.value key name = reg.value key name) :
    reg'.string key name = reg.string key name := by
  unfold string
  rw [h]

omit [DecidableEq κ] in
theorem keys_isSome_of_string {reg : Registry κ} {key : κ} {name : ValueName} {s : QString}
    (h : reg.string key name = some s) : (reg.keys key).isSome = true := by
  unfold string at h
  split at h
  · next hvalue => exact keys_isSome_of_value hvalue
  · exact absurd h (by simp)

omit [DecidableEq κ] in
/-- A failed read gives nothing, so that its result need not be looked at. -/
theorem getValueString_getD (reg : Registry κ) (key : κ) (name : ValueName)
    (fault : LSTATUS) :
    (if failed (reg.getValueString key name fault).1 then []
      else (reg.getValueString key name fault).2.getD []) =
        (reg.getValueString key name fault).2.getD [] := by
  unfold getValueString
  by_cases hfault : fault = ERROR_SUCCESS
  · rw [if_neg (not_not.mpr hfault)]
    rcases reg.value key name with _ | _ | _ | _
    · simp
    · simp [failed_S_OK]
    · simp
    · simp
  · simp [hfault]

theorem regDeleteValue_value (reg : Registry κ) (key : κ) (name : ValueName) (fault : LSTATUS)
    (k : κ) (n : ValueName) :
    (reg.regDeleteValue key name fault).2.value k n =
      if fault = ERROR_SUCCESS ∧ k = key ∧ n = name then none else reg.value k n := by
  unfold regDeleteValue
  by_cases hfault : fault = ERROR_SUCCESS
  · rw [if_neg (by simp [hfault])]
    split_ifs with hsome hhere hhere
    · rw [update_value, if_pos hhere.2]
      exact Option.bind_fun_none _
    · rw [update_value, if_neg fun h => hhere ⟨hfault, h⟩]
    · obtain ⟨-, rfl, rfl⟩ := hhere
      exact Option.not_isSome_iff_eq_none.mp hsome
    · rfl
  · simp [hfault]

end Registry

end Axhost
