import Mathlib.Data.List.TakeDrop
import Axhost.Registration.SurrogateKeys

/-!
# A registration that fails halfway

`RegisterSurrogate` writes the AppID value of the class before it creates the key of the AppID,
and puts nothing back when a later step fails.  The path it writes last comes from a buffer of
`MAX_PATH` characters, whatever the path of the executable is.

* `registerSurrogate_fails`: what a failed registration leaves;
* `allOrNothing_iff`: when a registration is all or nothing.
-/

namespace Axhost

open Registry

variable {κ : Type*} [DecidableEq κ] {resolve : QString → κ} {moduleFileName : QString}
  {faults : RegisterFaults} {clsid appid : QString} {reg : Registry κ}

/-! ## The executable path -/

theorem getExecutablePath_eq (moduleFileName : QString) :
    getExecutablePath moduleFileName = moduleFileName.cStr.take 259 :=
  List.take_takeWhile.symm

/-- The buffer takes the path if it has room for its terminator as well. -/
theorem getExecutablePath_cStr (moduleFileName : QString) :
    (getExecutablePath moduleFileName).cStr = moduleFileName.cStr ↔
      moduleFileName.cStr.length ≤ 259 := by
  have hcStr : (getExecutablePath moduleFileName).cStr = getExecutablePath moduleFileName :=
    QString.cStr_cStr _
  rw [hcStr, getExecutablePath_eq]
  exact List.take_eq_self_iff _

/-! ## How far a registration gets -/

/-- It writes the AppID value of the class. -/
def WritesAppID (faults : RegisterFaults) : Prop :=
  faults.admin = true ∧ faults.createClsid = ERROR_SUCCESS ∧ faults.setAppID = ERROR_SUCCESS

/-- From there it gets to the end. -/
def WritesDllSurrogate (faults : RegisterFaults) : Prop :=
  faults.createAppid = ERROR_SUCCESS ∧ faults.setDllSurrogate = ERROR_SUCCESS

instance (faults : RegisterFaults) : Decidable (WritesAppID faults) :=
  inferInstanceAs (Decidable (_ ∧ _ ∧ _))

instance (faults : RegisterFaults) : Decidable (WritesDllSurrogate faults) :=
  inferInstanceAs (Decidable (_ ∧ _))

theorem registerSurrogate_succeeds (hfirst : WritesAppID faults)
    (hsecond : WritesDllSurrogate faults) :
    (registerSurrogate resolve moduleFileName faults clsid appid reg).1.1 = S_OK := by
  obtain ⟨hadmin, hcreate, hset⟩ := hfirst
  obtain ⟨hcreate', hset'⟩ := hsecond
  unfold registerSurrogate
  simp only [hadmin, createUniqueKey_failed, setValueString_failed, hcreate, hset, hcreate', hset']
  rfl

/-- A failed registration that has got past the class leaves the AppID value it wrote. -/
theorem registerSurrogate_fails (h : ¬ (WritesAppID faults ∧ WritesDllSurrogate faults)) :
    failed (registerSurrogate resolve moduleFileName faults clsid appid reg).1.1 = true ∧
      ∀ k n, (registerSurrogate resolve moduleFileName faults clsid appid reg).2.value k n =
        if WritesAppID faults ∧ k = clsidKey resolve clsid ∧ n = .AppID then
          some (.string (QString.cStr (if appid.isEmpty then clsid else appid)))
        else reg.value k n := by
  unfold registerSurrogate
  dsimp only
  generalize (if appid.isEmpty then clsid else appid) = effectiveAppId
  have hwrites (hadmin : ¬ faults.admin = false) (hcreate : ¬ faults.createClsid ≠ ERROR_SUCCESS)
      (hset : ¬ faults.setAppID ≠ ERROR_SUCCESS) : WritesAppID faults :=
    ⟨eq_true_of_ne_false hadmin, not_not.mp hcreate, not_not.mp hset⟩
  simp only [createUniqueKey_failed, setValueString_failed, decide_eq_true_eq]
  split_ifs with hadmin hcreate hset hcreate' hset'
  · have hstops : ¬ WritesAppID faults := fun hwrites => by simp [hwrites.1] at hadmin
    refine ⟨show failed E_ACCESSDENIED = true by decide, fun k n => ?_⟩
    rw [if_neg fun hwrites => hstops hwrites.1]
  · refine ⟨(createUniqueKey_failed _ _ _).trans (decide_eq_true hcreate), fun k n => ?_⟩
    rw [createUniqueKey_value, if_neg fun hwrites => hcreate hwrites.1.2.1]
  · rw [setValueString_of_fault _ _ _ _ hset]
    refine ⟨(failed_HRESULT_FROM_WIN32 _).trans (decide_eq_true hset), fun k n => ?_⟩
    rw [createUniqueKey_value, if_neg fun hwrites => hset hwrites.1.2.2]
  · -- the value of the class is written, and the key of the AppID cannot be created
    refine ⟨(createUniqueKey_failed _ _ _).trans (decide_eq_true hcreate'), fun k n => ?_⟩
    rw [createUniqueKey_value, setValueString_createUniqueKey_value _ _ _ _ (not_not.mp hcreate)
      (not_not.mp hset)]
    exact if_congr (and_iff_right (hwrites hadmin hcreate hset)).symm rfl rfl
  · -- nor can the path be written to it
    rw [setValueString_of_fault _ _ _ _ hset']
    refine ⟨(failed_HRESULT_FROM_WIN32 _).trans (decide_eq_true hset'), fun k n => ?_⟩
    rw [createUniqueKey_value, setValueString_createUniqueKey_value _ _ _ _ (not_not.mp hcreate)
      (not_not.mp hset)]
    exact if_congr (and_iff_right (hwrites hadmin hcreate hset)).symm rfl rfl
  · exact absurd ⟨hwrites hadmin hcreate hset, not_not.mp hcreate', not_not.mp hset'⟩ h

/-- `RegisterSurrogate` is all or nothing: it has registered the surrogate with the whole path of
the executable, or it has failed and left every value. -/
def AllOrNothing (resolve : QString → κ) (moduleFileName : QString) (faults : RegisterFaults)
    (clsid appid : QString) (reg : Registry κ) : Prop :=
  let effectiveAppId := if appid.isEmpty then clsid else appid
  let after := registerSurrogate resolve moduleFileName faults clsid appid reg
  (after.1.1 = S_OK ∧ ∀ k n, after.2.value k n =
    if k = appidKey resolve effectiveAppId ∧ n = .DllSurrogate then
      some (.string moduleFileName.cStr)
    else if k = clsidKey resolve clsid ∧ n = .AppID then some (.string effectiveAppId.cStr)
    else reg.value k n) ∨
  (failed after.1.1 = true ∧ ∀ k n, after.2.value k n = reg.value k n)

theorem allOrNothing_iff (resolve : QString → κ) (moduleFileName : QString)
    (faults : RegisterFaults) (clsid appid : QString) (reg : Registry κ) :
    AllOrNothing resolve moduleFileName faults clsid appid reg ↔ (WritesAppID faults →
      if WritesDllSurrogate faults then moduleFileName.cStr.length ≤ 259
      else reg.value (clsidKey resolve clsid) .AppID =
        some (.string (QString.cStr (if appid.isEmpty then clsid else appid)))) := by
  unfold AllOrNothing
  dsimp only
  by_cases hall : WritesAppID faults ∧ WritesDllSurrogate faults
  · have hok : (registerSurrogate resolve moduleFileName faults clsid appid reg).1.1 = S_OK :=
      registerSurrogate_succeeds hall.1 hall.2
    have hvalue := registerSurrogate_value resolve hok
    simp only [hok, hvalue, failed_S_OK, true_and, Bool.false_eq_true, false_and, or_false]
    rw [if_pos hall.2, ← getExecutablePath_cStr, forall_prop_of_true hall.1]
    refine ⟨fun h => ?_, fun h k n => by rw [h]⟩
    have hpath := h (appidKey resolve (if appid.isEmpty then clsid else appid)) .DllSurrogate
    rw [if_pos ⟨rfl, rfl⟩, if_pos ⟨rfl, rfl⟩] at hpath
    exact RegistryValue.string.inj (Option.some.inj hpath)
  · obtain ⟨hfailed, hvalue⟩ :=
      @registerSurrogate_fails κ _ resolve moduleFileName faults clsid appid reg hall
    have hnot : (registerSurrogate resolve moduleFileName faults clsid appid reg).1.1 ≠ S_OK :=
      fun hok => by simp [hok, failed_S_OK] at hfailed
    simp only [hnot, hfailed, hvalue, false_and, false_or, true_and]
    by_cases hfirst : WritesAppID faults
    · have hsecond : ¬ WritesDllSurrogate faults := fun hsecond => hall ⟨hfirst, hsecond⟩
      simp only [hfirst, if_neg hsecond, true_and, forall_const]
      refine ⟨fun h => ?_, fun h k n => ?_⟩
      · have hclass := h (clsidKey resolve clsid) .AppID
        rw [if_pos ⟨rfl, rfl⟩] at hclass
        exact hclass.symm
      · by_cases hhere : k = clsidKey resolve clsid ∧ n = .AppID
        · rw [if_pos hhere, hhere.1, hhere.2, h]
        · rw [if_neg hhere]
    · simp [hfirst]

/-- A class that names an AppID already. -/
def namesOther : Registry QString :=
  (registerSurrogate id (qString "axhost.exe") {} (qString "c") (qString "a")
    { keys := fun _ => none }).2

/-- Nothing of the key of another AppID may be written. -/
def appidDenied : RegisterFaults where
  createAppid := ERROR_ACCESS_DENIED

/-- An executable whose path has 264 characters. -/
def deepPath : QString := List.replicate 255 (qLatin1Char 'a') ++ qString "\\axhost.e"

theorem not_allOrNothing_namesOther :
    -- the registration fails, and the class names the AppID that has no surrogate
    ¬ AllOrNothing id (qString "axhost.exe") appidDenied (qString "c") (qString "b")
        namesOther ∧
      -- it succeeds, with a part of the path
      ¬ AllOrNothing id deepPath {} (qString "c") (qString "a") namesOther := by
  refine ⟨?_, ?_⟩
  · rintro (⟨hok, -⟩ | ⟨-, hkept⟩)
    · exact absurd hok (by decide)
    · exact absurd (hkept (clsidKey id (qString "c")) .AppID) (by decide)
  · have hok : (registerSurrogate id deepPath {} (qString "c") (qString "a") namesOther).1.1 =
        S_OK := registerSurrogate_succeeds (by decide) (by decide)
    rintro (⟨-, hvalue⟩ | ⟨hfailed, -⟩)
    · have hpath := hvalue (appidKey id (qString "a")) .DllSurrogate
      rw [registerSurrogate_value id hok, if_pos ⟨rfl, rfl⟩, if_pos ⟨rfl, rfl⟩] at hpath
      have hfits := (getExecutablePath_cStr deepPath).mp
        (RegistryValue.string.inj (Option.some.inj hpath))
      exact absurd hfits (by decide +kernel)
    · rw [hok, failed_S_OK] at hfailed
      exact absurd hfailed (by simp)

end Axhost
