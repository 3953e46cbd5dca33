import Axhost.Registration.SurrogateKeys

/-!
# Attempts to unregister a surrogate

`UnregisterSurrogate` takes the AppID value from the class first, which is also what it finds the
AppID by.  An attempt that stops in between leaves the second value where no later attempt looks
for it, and a second class that names the AppID loses its surrogate with the first.

* `unregistered_iff`: when every attempt that reports success has taken both values away;
* `surrogatePath_isSome`: every class that has been registered has a surrogate;
* `surrogatePath_unregister_iff`: when unregistering one class leaves another its surrogate.
-/

namespace Axhost

open Registry

variable {κ : Type*} [DecidableEq κ] (resolve : QString → κ)

/-! ## Attempts on one class -/

/-- The AppID that the class names. -/
def Names (clsid appid : QString) (reg : Registry κ) : Prop :=
  reg.string (clsidKey resolve clsid) .AppID = some appid ∧ appid ≠ []

/-- Every attempt of a sequence has a property, of its faults and the registry it finds. -/
def EveryAttempt (clsid : QString) (P : UnregisterFaults → Registry κ → Prop) :
    List UnregisterFaults → Registry κ → Prop
  | [], _ => True
  | faults :: rest, reg =>
    P faults reg ∧ EveryAttempt clsid P rest (unregisterSurrogate resolve faults clsid reg).2

/-- Neither value is left. -/
def Unregistered (clsid appid : QString) (reg : Registry κ) : Prop :=
  reg.value (clsidKey resolve clsid) .AppID = none ∧
    reg.value (appidKey resolve appid) .DllSurrogate = none

/-- The attempt reports success only when it is right to. -/
def Truthful (clsid appid : QString) (faults : UnregisterFaults) (reg : Registry κ) : Prop :=
  (unregisterSurrogate resolve faults clsid reg).1.1 = S_OK →
    Unregistered resolve clsid appid (unregisterSurrogate resolve faults clsid reg).2

/-- An attempt that no deletion ends takes the AppID value if it is there, and if DllSurrogate is
there it can still read where and takes that as well. -/
def Thorough (clsid appid : QString) (faults : UnregisterFaults) (reg : Registry κ) : Prop :=
  faults.admin = true ∧ ¬ FailsAppID resolve faults clsid reg ∧
      ¬ FailsDllSurrogate resolve faults clsid reg →
    (reg.value (clsidKey resolve clsid) .AppID ≠ none → RemovesAppID faults) ∧
    (reg.value (appidKey resolve appid) .DllSurrogate ≠ none →
      reg.value (clsidKey resolve clsid) .AppID ≠ none ∧
        (faults.openClsidRead = ERROR_SUCCESS ∧ faults.getAppID = ERROR_SUCCESS) ∧
        RemovesDllSurrogate faults)

/-- What is left of the class between attempts. -/
def NamesOrNothing (clsid appid : QString) (reg : Registry κ) : Prop :=
  reg.value (clsidKey resolve clsid) .AppID = none ∨ Names resolve clsid appid reg

variable {resolve} {clsid appid : QString} {reg : Registry κ}

theorem NamesOrNothing.unregister (h : NamesOrNothing resolve clsid appid reg)
    (faults : UnregisterFaults) :
    NamesOrNothing resolve clsid appid (unregisterSurrogate resolve faults clsid reg).2 := by
  have hvalue := unregisterSurrogate_appID resolve faults clsid reg
    (clsidKey resolve clsid)
  split_ifs at hvalue
  · exact Or.inl hvalue
  · refine h.imp hvalue.trans fun hnames => ⟨?_, hnames.2⟩
    exact (string_congr hvalue).trans hnames.1

omit [DecidableEq κ] in
theorem NamesOrNothing.readAppid (h : NamesOrNothing resolve clsid appid reg)
    (faults : UnregisterFaults) :
    readAppid resolve faults clsid reg =
      if reg.value (clsidKey resolve clsid) .AppID ≠ none ∧
          faults.openClsidRead = ERROR_SUCCESS ∧ faults.getAppID = ERROR_SUCCESS then appid
      else [] := by
  rw [readAppid_eq]
  rcases h with hnone | ⟨hstring, -⟩
  · have hstring : reg.string (clsidKey resolve clsid) .AppID = none := by
      unfold Registry.string
      rw [hnone]
    rw [hstring, if_neg (not_and_of_not_left _ (not_not.mpr hnone))]
    exact ite_self _
  · have hvalue : reg.value (clsidKey resolve clsid) .AppID ≠ none := by
      intro hnone
      unfold Registry.string at hstring
      rw [hnone] at hstring
      simp at hstring
    rw [hstring]
    simp [hvalue]

theorem truthful_iff (h : NamesOrNothing resolve clsid appid reg) (happid : appid ≠ [])
    (faults : UnregisterFaults) :
    Truthful resolve clsid appid faults reg ↔ Thorough resolve clsid appid faults reg := by
  unfold Truthful Thorough Unregistered
  rw [unregisterSurrogate_succeeds]
  refine imp_congr_right fun ⟨hadmin, hfirst, _⟩ => and_congr ?_ ?_
  · rw [unregisterSurrogate_appID]
    split_ifs with hremoves
    · exact iff_of_true rfl fun _ => hremoves.2.1
    · have hkeeps : ¬ RemovesAppID faults := fun h => hremoves ⟨hadmin, h, rfl⟩
      exact ⟨fun hnone hsome => absurd hnone hsome,
        fun hall => by_contra fun hsome => hkeeps (hall hsome)⟩
  · rw [unregisterSurrogate_dllSurrogate]
    have happ := h.readAppid faults
    by_cases hread : reg.value (clsidKey resolve clsid) .AppID ≠ none ∧
        faults.openClsidRead = ERROR_SUCCESS ∧ faults.getAppID = ERROR_SUCCESS
    · rw [if_pos hread] at happ
      split_ifs with hremoves
      · exact iff_of_true rfl fun _ => ⟨hread.1, hread.2, hremoves.1.2.2.2⟩
      · have hkeeps : ¬ RemovesDllSurrogate faults := fun h =>
          hremoves ⟨⟨hadmin, hfirst, happ ▸ happid, h⟩, congrArg (appidKey resolve) happ.symm⟩
        exact ⟨fun hnone hsome => absurd hnone hsome,
          fun hall => by_contra fun hsome => hkeeps (hall hsome).2.2⟩
    · rw [if_neg hread] at happ
      rw [if_neg fun h => h.1.2.2.1 happ]
      exact ⟨fun hnone hsome => absurd hnone hsome,
        fun hall => by_contra fun hsome => hread ⟨(hall hsome).1, (hall hsome).2.1⟩⟩

/-- When every attempt that reports success is right to. -/
theorem unregistered_iff (resolve : QString → κ) (clsid appid : QString) (reg : Registry κ)
    (hnames : Names resolve clsid appid reg) (attempts : List UnregisterFaults) :
    EveryAttempt resolve clsid (Truthful resolve clsid appid) attempts reg ↔
      EveryAttempt resolve clsid (Thorough resolve clsid appid) attempts reg := by
  have happid := hnames.2
  have hleft : NamesOrNothing resolve clsid appid reg := Or.inr hnames
  clear hnames
  induction attempts generalizing reg with
  | nil => exact Iff.rfl
  | cons faults rest ih =>
      exact and_congr (truthful_iff hleft happid faults) (ih _ (hleft.unregister faults))

/-- One class with an AppID of its own. -/
def oneClass : Registry QString where
  keys k :=
    if k = clsidPath (qString "c") then
      some fun n => if n = .AppID then some (.string (qString "a")) else none
    else if k = appidPath (qString "a") then
      some fun n => if n = .DllSurrogate then some (.string (qString "axhost.exe")) else none
    else none

/-- The first attempt may not delete the surrogate, and the second is left alone. -/
def stoppedMidway : List UnregisterFaults := [{ deleteDllSurrogate := ERROR_ACCESS_DENIED }, {}]

theorem oneClass_names : Names id (qString "c") (qString "a") oneClass := ⟨by decide, by decide⟩

theorem unregistered_iff_oneClass :
    EveryAttempt id (qString "c") (Truthful id (qString "c") (qString "a")) stoppedMidway
        oneClass ↔
      EveryAttempt id (qString "c") (Thorough id (qString "c") (qString "a")) stoppedMidway
        oneClass :=
  unregistered_iff id (qString "c") (qString "a") oneClass ⟨by decide, by decide⟩ stoppedMidway

theorem oneClass_appID {k : QString} (hk : k ≠ clsidPath (qString "c")) :
    oneClass.value k .AppID = none := by
  unfold Registry.value oneClass
  dsimp only
  rw [if_neg hk]
  split_ifs
  · rfl
  · rfl

/-- The second attempt reports success and leaves the surrogate, whose AppID no other class
names. -/
theorem not_truthful_midway :
    Names id (qString "c") (qString "a") oneClass ∧
      (∀ k, k ≠ clsidKey id (qString "c") → oneClass.value k .AppID = none) ∧
      ¬ EveryAttempt id (qString "c") (Truthful id (qString "c") (qString "a")) stoppedMidway
        oneClass :=
  ⟨oneClass_names, fun _ hk => oneClass_appID hk,
    fun h => absurd (h.2.1 (by decide)).2 (by decide)⟩

/-! ## Classes that share an AppID -/

/-- The surrogate of a class, as it is looked up to start it. -/
def surrogatePath (resolve : QString → κ) (reg : Registry κ) (clsid : QString) : Option QString :=
  (reg.string (clsidKey resolve clsid) .AppID).bind fun appid =>
    reg.string (appidKey resolve appid) .DllSurrogate

/-- The registries that successful registrations lead to, with the classes they were for. -/
inductive SurrogatesRegistered (resolve : QString → κ) : Registry κ → List QString → Prop
  | init (reg : Registry κ) : SurrogatesRegistered resolve reg []
  | register {reg : Registry κ} {clsids : List QString}
      (h : SurrogatesRegistered resolve reg clsids) (moduleFileName : QString)
      (faults : RegisterFaults) (clsid appid : QString)
      (hok : (registerSurrogate resolve moduleFileName faults clsid appid reg).1.1 = S_OK) :
      SurrogatesRegistered resolve
        (registerSurrogate resolve moduleFileName faults clsid appid reg).2 (clsid :: clsids)

theorem surrogatePath_isSome {clsids : List QString}
    (h : SurrogatesRegistered resolve reg clsids) :
    ∀ clsid ∈ clsids, (surrogatePath resolve reg clsid).isSome = true := by
  induction h with
  | init reg => simp
  | @register reg clsids _ moduleFileName faults clsid appid hok ih =>
      intro c hc
      unfold surrogatePath
      rw [registerSurrogate_appID resolve hok]
      by_cases hclass : clsidKey resolve c = clsidKey resolve clsid
      · rw [if_pos hclass, Option.bind_some, appidKey_cStr,
          registerSurrogate_dllSurrogate resolve hok, if_pos rfl]
        rfl
      · rw [if_neg hclass]
        have hold : c ∈ clsids :=
          (List.mem_cons.mp hc).resolve_left fun h => hclass (congrArg (clsidKey resolve) h)
        obtain ⟨path, hpath⟩ := Option.isSome_iff_exists.mp (ih c hold)
        obtain ⟨appid', happid', hpath⟩ := Option.bind_eq_some_iff.mp hpath
        rw [happid', Option.bind_some, registerSurrogate_dllSurrogate resolve hok, hpath]
        by_cases hwritten : appidKey resolve appid' =
            appidKey resolve (if appid.isEmpty then clsid else appid)
        · rw [if_pos hwritten]
          rfl
        · rw [if_neg hwritten]
          rfl

variable (resolve) in
/-- The two classes name one AppID. -/
def SharesAppID (reg : Registry κ) (clsid clsid' : QString) : Prop :=
  ∃ appid appid', reg.string (clsidKey resolve clsid) .AppID = some appid ∧
    reg.string (clsidKey resolve clsid') .AppID = some appid' ∧
    appidKey resolve appid = appidKey resolve appid'

omit [DecidableEq κ] in
theorem string_of_readAppid {faults : UnregisterFaults}
    (h : readAppid resolve faults clsid reg ≠ []) :
    reg.string (clsidKey resolve clsid) .AppID = some (readAppid resolve faults clsid reg) := by
  rw [readAppid_eq] at h ⊢
  split_ifs at h ⊢
  · cases hstring : reg.string (clsidKey resolve clsid) .AppID with
    | none => simp [hstring] at h
    | some appid => rfl
  · exact absurd rfl h

/-- When unregistering one registered class leaves another its surrogate. -/
theorem surrogatePath_unregister_iff (resolve : QString → κ) (reg : Registry κ)
    (clsids : List QString) (hreg : SurrogatesRegistered resolve reg clsids)
    (clsid clsid' : QString) (hclsid' : clsid' ∈ clsids)
    (hne : clsidKey resolve clsid' ≠ clsidKey resolve clsid) (faults : UnregisterFaults) :
    surrogatePath resolve (unregisterSurrogate resolve faults clsid reg).2 clsid' =
        surrogatePath resolve reg clsid' ↔
      ¬ (SharesAppID resolve reg clsid clsid' ∧ TakesSurrogate resolve faults clsid reg) := by
  obtain ⟨path, hpath⟩ := Option.isSome_iff_exists.mp (surrogatePath_isSome hreg clsid' hclsid')
  obtain ⟨appid', happid', hdll⟩ := Option.bind_eq_some_iff.mp hpath
  have hclass : (unregisterSurrogate resolve faults clsid reg).2.string
      (clsidKey resolve clsid') .AppID = some appid' := by
    refine (string_congr ?_).trans happid'
    rw [unregisterSurrogate_appID, if_neg fun h => hne h.2.2]
  have hvalue := unregisterSurrogate_dllSurrogate resolve faults clsid reg
    (appidKey resolve appid')
  have hpath' : surrogatePath resolve (unregisterSurrogate resolve faults clsid reg).2 clsid' =
      (unregisterSurrogate resolve faults clsid reg).2.string (appidKey resolve appid')
        .DllSurrogate := by
    unfold surrogatePath
    rw [hclass, Option.bind_some]
  rw [hpath', hpath]
  by_cases htakes : TakesSurrogate resolve faults clsid reg ∧
      appidKey resolve appid' = appidKey resolve (readAppid resolve faults clsid reg)
  · rw [if_pos htakes] at hvalue
    have hshares : SharesAppID resolve reg clsid clsid' :=
      ⟨_, appid', string_of_readAppid htakes.1.2.2.1, happid', htakes.2.symm⟩
    refine iff_of_false ?_ fun h => h ⟨hshares, htakes.1⟩
    unfold Registry.string
    rw [hvalue]
    simp
  · rw [if_neg htakes] at hvalue
    refine iff_of_true ((string_congr hvalue).trans hdll) fun ⟨hshares, htakes'⟩ => htakes ?_
    obtain ⟨appid, other, happid, hother, hkey⟩ := hshares
    rw [string_of_readAppid htakes'.2.2.1] at happid
    obtain rfl := Option.some.inj happid
    obtain rfl := Option.some.inj (hother.symm.trans happid')
    exact ⟨htakes', hkey.symm⟩

/-- Two classes that have been registered with one AppID. -/
def twoClasses : Registry QString :=
  let reg : Registry QString := { keys := fun _ => none }
  let reg := (registerSurrogate id (qString "axhost.exe") {} (qString "c") (qString "a") reg).2
  (registerSurrogate id (qString "axhost.exe") {} (qString "d") (qString "a") reg).2

theorem twoClasses_registered :
    SurrogatesRegistered id twoClasses [qString "d", qString "c"] :=
  .register (.register (.init _) _ _ _ _ (by decide)) _ _ _ _ (by decide)

theorem surrogatePath_unregister_twoClasses :
    surrogatePath id (unregisterSurrogate id {} (qString "c") twoClasses).2 (qString "d") =
        surrogatePath id twoClasses (qString "d") ↔
      ¬ (SharesAppID id twoClasses (qString "c") (qString "d") ∧
        TakesSurrogate id {} (qString "c") twoClasses) :=
  surrogatePath_unregister_iff id twoClasses [qString "d", qString "c"] twoClasses_registered
    (qString "c") (qString "d") (by decide) (by decide) {}

/-- Unregistering the first takes the surrogate of the second. -/
theorem surrogatePath_lost_twoClasses :
    SurrogatesRegistered id twoClasses [qString "d", qString "c"] ∧
      clsidKey id (qString "d") ≠ clsidKey id (qString "c") ∧
      surrogatePath id twoClasses (qString "d") = some (qString "axhost.exe") ∧
      surrogatePath id (unregisterSurrogate id {} (qString "c") twoClasses).2 (qString "d") =
        none :=
  ⟨twoClasses_registered, by decide, by decide, by decide⟩

end Axhost
