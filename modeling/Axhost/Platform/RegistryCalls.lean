import Axhost.Lib.SharedStore
import Axhost.Platform.Registry

/-!
# The registry, call by call

The calls of `Registry` on a single key, which another process may come between.
-/

namespace Axhost

open SharedStore

/-- A key, if it is there, with its values. -/
abbrev RegistryKey := Option (ValueName → Option RegistryValue)

namespace RegistryKey

/-- The registry in which this is the only key. -/
def alone (key : RegistryKey) : Registry Unit := { keys := fun _ => key }

end RegistryKey

inductive RegistryCall
  | openUniqueKey (fault : LSTATUS)
  | createUniqueKey (fault : LSTATUS)
  | getValueString (name : ValueName) (fault : LSTATUS)
  | getValueDword (name : ValueName) (fault : LSTATUS)
  | setValueString (name : ValueName) (s : QString) (fault : LSTATUS)
  | setValueDword (name : ValueName) (value : DWORD) (fault : LSTATUS)
  | regDeleteValue (name : ValueName) (fault : LSTATUS)

namespace RegistryCall

def Answer : RegistryCall → Type
  | openUniqueKey _ => HRESULT
  | createUniqueKey _ => HRESULT
  | getValueString _ _ => HRESULT × Option QString
  | getValueDword _ _ => HRESULT × Option DWORD
  | setValueString _ _ _ => HRESULT
  | setValueDword _ _ _ => HRESULT
  | regDeleteValue _ _ => LSTATUS

/-- The call on a key of any registry. -/
def exec {κ : Type*} [DecidableEq κ] (reg : Registry κ) (key : κ) :
    (c : RegistryCall) → c.Answer × Registry κ
  | openUniqueKey fault => (reg.openUniqueKey key fault, reg)
  | createUniqueKey fault => reg.createUniqueKey key fault
  | getValueString name fault => (reg.getValueString key name fault, reg)
  | getValueDword name fault => (reg.getValueDword key name fault, reg)
  | setValueString name s fault => reg.setValueString key name s fault
  | setValueDword name value fault => reg.setValueDword key name value fault
  | regDeleteValue name fault => reg.regDeleteValue key name fault

def writes : RegistryCall → Bool
  | openUniqueKey _ => false
  | getValueString _ _ => false
  | getValueDword _ _ => false
  | _ => true

end RegistryCall

def registryInterface : Interface RegistryKey where
  Call := RegistryCall
  Answer := RegistryCall.Answer
  exec c key := ((c.exec key.alone ()).1, (c.exec key.alone ()).2.keys ())
  writes := RegistryCall.writes
  exec_snd {c} h key := by
    cases c with
    | openUniqueKey fault => rfl
    | getValueString name fault => rfl
    | getValueDword name fault => rfl
    | createUniqueKey fault => cases h
    | setValueString name s fault => cases h
    | setValueDword name value fault => cases h
    | regDeleteValue name fault => cases h

variable {κ : Type*} [DecidableEq κ]

namespace RegistryCall

theorem update_eq (reg : Registry κ) (key : κ) (name : ValueName) (v : Option RegistryValue) :
    reg.update key name v =
      { keys := Function.update reg.keys key
          (((RegistryKey.alone (reg.keys key)).update () name v).keys ()) } := by
  unfold Registry.update RegistryKey.alone
  dsimp only
  rw [Function.update_self]

/-- What a call answers, and what it leaves, depends on its own key only. -/
theorem exec_eq (reg : Registry κ) (key : κ) (c : RegistryCall) :
    c.exec reg key =
      ((c.exec (RegistryKey.alone (reg.keys key)) ()).1,
        { keys := Function.update reg.keys key
            ((c.exec (RegistryKey.alone (reg.keys key)) ()).2.keys ()) }) := by
  have hsame : reg = { keys := Function.update reg.keys key (reg.keys key) } := by
    rw [Function.update_eq_self]
  cases c with
  | openUniqueKey fault => exact Prod.ext rfl hsame
  | getValueString name fault => exact Prod.ext rfl hsame
  | getValueDword name fault => exact Prod.ext rfl hsame
  | createUniqueKey fault =>
      simp only [exec]
      unfold Registry.createUniqueKey
      split_ifs
      · exact Prod.ext rfl hsame
      · dsimp only [RegistryKey.alone]
        rw [Function.update_self]
        rfl
  | setValueString name s fault =>
      simp only [exec]
      unfold Registry.setValueString Registry.setValue
      split_ifs
      · exact Prod.ext rfl hsame
      · exact Prod.ext rfl (update_eq reg key name _)
  | setValueDword name value fault =>
      simp only [exec]
      unfold Registry.setValueDword Registry.setValue
      split_ifs
      · exact Prod.ext rfl hsame
      · exact Prod.ext rfl (update_eq reg key name _)
  | regDeleteValue name fault =>
      have hvalue : (RegistryKey.alone (reg.keys key)).value () name = reg.value key name := rfl
      simp only [exec]
      unfold Registry.regDeleteValue
      rw [hvalue]
      split_ifs
      · exact Prod.ext rfl hsame
      · exact Prod.ext rfl (update_eq reg key name _)
      · exact Prod.ext rfl hsame

/-- The value that a call sets or deletes. -/
def change : RegistryCall → Option (ValueName × Option RegistryValue)
  | setValueString name s _ => some (name, some (.string s.cStr))
  | setValueDword name value _ => some (name, some (.dword value))
  | regDeleteValue name _ => some (name, none)
  | _ => none

theorem update_cases (reg : Registry κ) (key : κ) (name : ValueName) (v : Option RegistryValue)
    (k : κ) (n : ValueName) :
    (reg.update key name v).value k n = reg.value k n ∨
      k = key ∧ some (name, v) = some (n, (reg.update key name v).value k n) := by
  rw [Registry.update_value]
  by_cases hhere : k = key ∧ n = name
  · obtain ⟨rfl, rfl⟩ := hhere
    rw [if_pos ⟨rfl, rfl⟩]
    cases hkey : reg.keys k with
    | none =>
        left
        unfold Registry.value
        rw [hkey]
        rfl
    | some values => exact Or.inr ⟨rfl, rfl⟩
  · left
    rw [if_neg hhere]

theorem value_cases (c : RegistryCall) (reg : Registry κ) (key k : κ) (n : ValueName) :
    (c.exec reg key).2.value k n = reg.value k n ∨
      k = key ∧ c.change = some (n, (c.exec reg key).2.value k n) := by
  cases c with
  | openUniqueKey fault => exact Or.inl rfl
  | getValueString name fault => exact Or.inl rfl
  | getValueDword name fault => exact Or.inl rfl
  | createUniqueKey fault => exact Or.inl (Registry.createUniqueKey_value reg key fault k n)
  | setValueString name s fault =>
      simp only [exec]
      unfold Registry.setValueString Registry.setValue
      split_ifs
      · exact Or.inl rfl
      · exact update_cases reg key name _ k n
  | setValueDword name value fault =>
      simp only [exec]
      unfold Registry.setValueDword Registry.setValue
      split_ifs
      · exact Or.inl rfl
      · exact update_cases reg key name _ k n
  | regDeleteValue name fault =>
      simp only [exec]
      unfold Registry.regDeleteValue
      split_ifs
      · exact Or.inl rfl
      · exact update_cases reg key name _ k n
      · exact Or.inl rfl

/-- The call makes a key where there is none. -/
def creates : RegistryCall → Bool
  | createUniqueKey fault => fault = ERROR_SUCCESS
  | _ => false

theorem keys_isSome_iff (c : RegistryCall) (reg : Registry κ) (key k : κ) :
    ((c.exec reg key).2.keys k).isSome = true ↔
      (reg.keys k).isSome = true ∨ k = key ∧ c.creates = true := by
  cases c with
  | openUniqueKey fault => simp [exec, creates]
  | getValueString name fault => simp [exec, creates]
  | getValueDword name fault => simp [exec, creates]
  | createUniqueKey fault =>
      simp only [exec, creates]
      unfold Registry.createUniqueKey
      split_ifs with hfault
      · simp [hfault]
      · by_cases hk : k = key
        · simp [hk, not_not.mp hfault]
        · simp [hk]
  | setValueString name s fault =>
      simp only [exec, creates]
      unfold Registry.setValueString Registry.setValue
      split_ifs
      · simp
      · simp [Registry.update_keys_isSome]
  | setValueDword name value fault =>
      simp only [exec, creates]
      unfold Registry.setValueDword
      simp [Registry.setValue_keys_isSome]
  | regDeleteValue name fault =>
      simp only [exec, creates]
      unfold Registry.regDeleteValue
      split_ifs
      · simp
      · simp [Registry.update_keys_isSome]
      · simp

theorem keys_isSome (c : RegistryCall) {reg : Registry κ} (key : κ) {k : κ}
    (h : (reg.keys k).isSome = true) : ((c.exec reg key).2.keys k).isSome = true :=
  (c.keys_isSome_iff reg key k).mpr (Or.inl h)

end RegistryCall

abbrev RegistryProgram (κ α : Type*) := Program registryInterface κ α

namespace RegistryProgram

def call (key : κ) (c : RegistryCall) : RegistryProgram κ c.Answer :=
  Program.single (I := registryInterface) key c

theorem run_call (key : κ) (c : RegistryCall) (reg : Registry κ) :
    (call key c).run reg.keys = ((c.exec reg key).1, (c.exec reg key).2.keys) := by
  rw [RegistryCall.exec_eq]
  rfl

def openUniqueKey (key : κ) (fault : LSTATUS) : RegistryProgram κ HRESULT :=
  call key (.openUniqueKey fault)

def createUniqueKey (key : κ) (fault : LSTATUS) : RegistryProgram κ HRESULT :=
  call key (.createUniqueKey fault)

def getValueString (key : κ) (name : ValueName) (fault : LSTATUS) :
    RegistryProgram κ (HRESULT × Option QString) :=
  call key (.getValueString name fault)

def getValueDword (key : κ) (name : ValueName) (fault : LSTATUS) :
    RegistryProgram κ (HRESULT × Option DWORD) :=
  call key (.getValueDword name fault)

def setValueString (key : κ) (name : ValueName) (s : QString) (fault : LSTATUS) :
    RegistryProgram κ HRESULT :=
  call key (.setValueString name s fault)

def setValueDword (key : κ) (name : ValueName) (value : DWORD) (fault : LSTATUS) :
    RegistryProgram κ HRESULT :=
  call key (.setValueDword name value fault)

def regDeleteValue (key : κ) (name : ValueName) (fault : LSTATUS) :
    RegistryProgram κ LSTATUS :=
  call key (.regDeleteValue name fault)

variable (reg : Registry κ) (key : κ) (name : ValueName) (fault : LSTATUS)

@[simp] theorem run_openUniqueKey :
    (openUniqueKey key fault).run reg.keys = (reg.openUniqueKey key fault, reg.keys) :=
  run_call key _ reg

@[simp] theorem run_createUniqueKey :
    (createUniqueKey key fault).run reg.keys =
      ((reg.createUniqueKey key fault).1, (reg.createUniqueKey key fault).2.keys) :=
  run_call key _ reg

@[simp] theorem run_getValueString :
    (getValueString key name fault).run reg.keys = (reg.getValueString key name fault, reg.keys) :=
  run_call key _ reg

@[simp] theorem run_getValueDword :
    (getValueDword key name fault).run reg.keys = (reg.getValueDword key name fault, reg.keys) :=
  run_call key _ reg

@[simp] theorem run_setValueString (s : QString) :
    (setValueString key name s fault).run reg.keys =
      ((reg.setValueString key name s fault).1, (reg.setValueString key name s fault).2.keys) :=
  run_call key _ reg

@[simp] theorem run_setValueDword (value : DWORD) :
    (setValueDword key name value fault).run reg.keys =
      ((reg.setValueDword key name value fault).1,
        (reg.setValueDword key name value fault).2.keys) :=
  run_call key _ reg

@[simp] theorem run_regDeleteValue :
    (regDeleteValue key name fault).run reg.keys =
      ((reg.regDeleteValue key name fault).1, (reg.regDeleteValue key name fault).2.keys) :=
  run_call key _ reg

end RegistryProgram

end Axhost
