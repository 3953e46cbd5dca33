import Axhost.Program.History
import Axhost.Registration.Unregister

/-!
# What a history comes to

What the registry is for: which AppID a class is under, what is started for an AppID, and how it
logs.  A run that succeeds is one command on that, and the logger of a surrogate that is started
after any number of them depends on nothing else.

* `ProgramRun.observed_after`: what is read after a history is what its commands come to;
* `ProgramRun.logger_of_history`: the logger of a surrogate, from the options of all runs before.
-/

namespace Axhost

open Registry WriteLog

@[ext] structure Deployment (κ : Type*) where
  appID : κ → Option QString
  dllSurrogate : κ → Option QString
  settings : κ → LoggingSettings

variable {κ : Type*}

def Registry.deployment (reg : Registry κ) : Deployment κ where
  appID k := reg.string k .AppID
  dllSurrogate k := reg.string k .DllSurrogate
  settings := stored reg

namespace Deployment

variable [DecidableEq κ] (resolve : QString → κ)

def register (d : Deployment κ) (clsid appid exePath : QString) : Deployment κ :=
  { d with
    appID := Function.update d.appID (clsidKey resolve clsid) (some appid.cStr)
    dllSurrogate :=
      Function.update d.dllSurrogate (appidKey resolve appid) (some exePath.cStr) }

def configure (d : Deployment κ) (appid : QString) (settings : LoggingSettings) : Deployment κ :=
  { d with
    settings := Function.update d.settings (appidKey resolve appid)
      (settings.over (d.settings (appidKey resolve appid))) }

def unregister (d : Deployment κ) (clsid : QString) : Deployment κ :=
  let appid := (d.appID (clsidKey resolve clsid)).getD []
  { d with
    appID := Function.update d.appID (clsidKey resolve clsid) none
    dllSurrogate := if appid.isEmpty then d.dllSurrogate
      else Function.update d.dllSurrogate (appidKey resolve appid) none }

/-- What the options of a run ask for. -/
def command (d : Deployment κ) (moduleFileName : QString) (parsed : ParsedOptions) :
    Deployment κ :=
  if !parsed.registerAppId.isEmpty then
    let d := if parsed.registerClassId.isEmpty then d
      else d.register resolve parsed.registerClassId parsed.registerAppId
        (getExecutablePath moduleFileName)
    d.configure resolve parsed.registerAppId parsed.registerSettings
  else if !parsed.unregisterClassId.isEmpty then d.unregister resolve parsed.unregisterClassId
  else d

def run (d : Deployment κ) (r : ProgramRun) : Deployment κ :=
  match r.parsed with
  | .error _ => d
  | .ok parsed => d.command resolve r.moduleFileName parsed

/-- The settings that a surrogate finds for its class. -/
def settingsOf (d : Deployment κ) (clsid : QString) : LoggingSettings :=
  match d.appID (clsidKey resolve clsid) with
  | some appid => d.settings (appidKey resolve appid)
  | none => {}

/-- The program that is started for a class. -/
def surrogateOf (d : Deployment κ) (clsid : QString) : Option QString :=
  (d.appID (clsidKey resolve clsid)).bind fun appid => d.dllSurrogate (appidKey resolve appid)

end Deployment

/-! ## The registry as a deployment -/

theorem stored_congr {reg reg' : Registry κ} {k : κ}
    (h : ∀ n, n ≠ .AppID → n ≠ .DllSurrogate → reg'.value k n = reg.value k n) :
    stored reg' k = stored reg k := by
  unfold stored
  rw [dword_congr (h .LogEnabled (by simp) (by simp)),
    string_congr (h .LogLevel (by simp) (by simp)),
    string_congr (h .LogDirectory (by simp) (by simp))]

theorem string_eq_none {reg : Registry κ} {k : κ} {n : ValueName} (h : reg.value k n = none) :
    reg.string k n = none := by
  unfold Registry.string
  rw [h]

theorem stored_of_no_key {reg : Registry κ} {k : κ} (h : (reg.keys k).isSome = false) :
    stored reg k = {} := by
  have hnone (n : ValueName) : reg.value k n = none := by
    unfold Registry.value
    rw [Option.not_isSome_iff_eq_none.mp (Bool.eq_false_iff.mp h)]
    rfl
  unfold stored Registry.dword Registry.string
  rw [hnone, hnone, hnone]
  rfl

/-- What a surrogate reads, where nothing faults it. -/
theorem readLoggingSettings_deployment (resolve : QString → κ) (clsid : QString)
    (reg : Registry κ) :
    readLoggingSettings resolve {} clsid reg = reg.deployment.settingsOf resolve clsid := by
  have hsnd := getValueString_snd reg (clsidKey resolve clsid) .AppID ERROR_SUCCESS
  have hfailed := getValueString_failed reg (clsidKey resolve clsid) .AppID ERROR_SUCCESS
  rw [if_pos rfl] at hsnd
  rw [hsnd] at hfailed
  unfold Deployment.settingsOf Registry.deployment readLoggingSettings
  dsimp only
  rw [hfailed, hsnd]
  cases hstring : reg.string (clsidKey resolve clsid) .AppID with
  | none => split_ifs <;> first | rfl | contradiction
  | some appid =>
      have hclsid := openUniqueKey_failed (keys_isSome_of_string hstring) ERROR_SUCCESS
      rw [hclsid, if_neg (by simp), if_neg (by simp)]
      dsimp only [Option.getD_some]
      rw [readValues_eq]
      split_ifs with happid
      · -- the key of the AppID is not there, and has no settings
        refine (stored_of_no_key (Bool.eq_false_iff.mpr fun hkey => ?_)).symm
        rw [openUniqueKey_failed hkey] at happid
        simp at happid
      · unfold ReadFaults.values stored
        simp

namespace ProgramRun

variable [DecidableEq κ] {resolve : QString → κ}

/-- The run does what it is asked to. -/
def Succeeds (resolve : QString → κ) (run : ProgramRun) (reg : Registry κ) : Prop :=
  (∀ hr, (run.result resolve reg).1.ending ≠ .throws hr) ∧ run.faults.unregister = {}

theorem Succeeds.of_returns {run : ProgramRun} {reg : Registry κ}
    (h : (run.result resolve reg).1.ending = .returns) (hfaults : run.faults.unregister = {}) :
    run.Succeeds resolve reg :=
  ⟨fun hr hthrows => by simp [h] at hthrows, hfaults⟩

/-! ## One run -/

theorem registryWrites_value (resolve : QString → κ) (moduleFileName : QString)
    (parsed : ParsedOptions) (reg : Registry κ) (k : κ) (n : ValueName) :
    replay (registryWrites resolve moduleFileName parsed) reg.values (k, n) =
      if parsed.registerLogDir.isEmpty = false ∧ k = appidKey resolve parsed.registerAppId ∧
          n = .LogDirectory then some (.string parsed.registerLogDir.cStr)
      else if parsed.registerLogLevel.isEmpty = false ∧
          k = appidKey resolve parsed.registerAppId ∧ n = .LogLevel then
        some (.string parsed.registerLogLevel.cStr)
      else if k = appidKey resolve parsed.registerAppId ∧ n = .LogEnabled then
        some (.dword (if parsed.registerLogging then 1 else 0))
      else if parsed.registerClassId.isEmpty = false ∧
          k = appidKey resolve parsed.registerAppId ∧ n = .DllSurrogate then
        some (.string (getExecutablePath moduleFileName).cStr)
      else if parsed.registerClassId.isEmpty = false ∧
          k = clsidKey resolve parsed.registerClassId ∧ n = .AppID then
        some (.string parsed.registerAppId.cStr)
      else reg.value k n := by
  unfold registryWrites registerWrites loggingWrites specifiedWrites
    ParsedOptions.registerSettings
  cases parsed.registerClassId.isEmpty <;> cases parsed.registerLogLevel.isEmpty <;>
    cases parsed.registerLogDir.isEmpty <;>
    simp only [replay_cons, replay_nil, Write.run, Function.update_apply,
      Prod.mk.injEq, Registry.values_apply, if_true, if_false, Bool.false_eq_true, true_and,
      false_and, reduceCtorEq, List.nil_append, List.append_nil, List.cons_append]

omit [DecidableEq κ] in
theorem string_of_written {reg reg' : Registry κ} {k : κ} {n : ValueName} {s : QString} {P : Prop}
    [Decidable P]
    (h : reg'.value k n = if P then some (.string s.cStr) else reg.value k n) :
    reg'.string k n = if P then some s.cStr else reg.string k n := by
  split_ifs at h ⊢
  · rw [string_eq_of_value h, QString.cStr_cStr]
  · exact string_congr h

theorem registers_stored {moduleFileName : QString} {parsed : ParsedOptions}
    {reg reg' : Registry κ}
    (h : reg'.values = replay (registryWrites resolve moduleFileName parsed) reg.values) (k : κ) :
    stored reg' k = if k = appidKey resolve parsed.registerAppId then
      parsed.registerSettings.over (stored reg k) else stored reg k := by
  have hvalue (n : ValueName) :=
    (congrFun h (k, n)).trans (registryWrites_value resolve moduleFileName parsed reg k n)
  simp only [Registry.values_apply] at hvalue
  split_ifs with hk
  · simp only [hk, true_and] at hvalue ⊢
    unfold stored LoggingSettings.over ParsedOptions.registerSettings
    congr 1
    · rw [dword_eq_of_value (by simpa using hvalue .LogEnabled)]
      cases parsed.registerLogging <;> rfl
    · exact string_of_given (by simpa using hvalue .LogLevel)
    · exact string_of_given (by simpa using hvalue .LogDirectory)
  · refine stored_congr fun n hn _ => ?_
    rw [hvalue]
    simp [hk, hn]

theorem registers_deployment {moduleFileName : QString} {parsed : ParsedOptions}
    (hregisters : parsed.registerAppId ≠ []) {reg reg' : Registry κ}
    (h : reg'.values = replay (registryWrites resolve moduleFileName parsed) reg.values) :
    reg'.deployment = reg.deployment.command resolve moduleFileName parsed := by
  have hvalue (k : κ) (n : ValueName) :=
    (congrFun h (k, n)).trans (registryWrites_value resolve moduleFileName parsed reg k n)
  simp only [Registry.values_apply] at hvalue
  unfold Deployment.command
  rw [if_pos (by simpa using hregisters)]
  refine Deployment.ext (funext fun k => ?_) (funext fun k => ?_) (funext fun k => ?_)
  · have happid := string_of_written (by simpa using hvalue k .AppID)
    refine happid.trans ?_
    cases parsed.registerClassId with
    | nil => simp [Deployment.configure, Registry.deployment]
    | cons c s =>
        simp [Deployment.configure, Deployment.register, Registry.deployment,
          Function.update_apply]
  · have hdll := string_of_written (by simpa using hvalue k .DllSurrogate)
    refine hdll.trans ?_
    cases parsed.registerClassId with
    | nil => simp [Deployment.configure, Registry.deployment]
    | cons c s =>
        simp [Deployment.configure, Deployment.register, Registry.deployment,
          Function.update_apply]
  · refine (registers_stored h k).trans ?_
    generalize hd : (if parsed.registerClassId.isEmpty = true then reg.deployment
      else reg.deployment.register resolve parsed.registerClassId parsed.registerAppId
        (getExecutablePath moduleFileName)) = d
    have hkept : d.settings = stored reg := by
      rw [← hd]
      split_ifs <;> rfl
    unfold Deployment.configure
    dsimp only
    rw [Function.update_apply, hkept]
    split_ifs with hk
    · rw [hk]
    · rfl

theorem unregisters_deployment (resolve : QString → κ) (clsid : QString) (reg : Registry κ) :
    (unregisterSurrogate resolve {} clsid reg).1.1 = S_OK ∧
      (unregisterSurrogate resolve {} clsid reg).2.deployment =
        reg.deployment.unregister resolve clsid := by
  have hfirst : ¬ FailsAppID resolve {} clsid reg := fun h => by simpa using h.2.2
  have hsecond : ¬ FailsDllSurrogate resolve {} clsid reg := fun h => by simpa using h.2.2.2
  have happid := readAppid_eq resolve {} clsid reg
  rw [if_pos ⟨rfl, rfl⟩] at happid
  have htakes : TakesSurrogate resolve {} clsid reg ↔
      (reg.string (clsidKey resolve clsid) .AppID).getD [] ≠ [] := by
    rw [← happid]
    exact ⟨fun h => h.2.2.1, fun h => ⟨rfl, hfirst, h, ⟨rfl, rfl⟩⟩⟩
  have hvalue := unregisterSurrogate_value resolve {} clsid reg
  rw [happid] at hvalue
  refine ⟨(unregisterSurrogate_succeeds resolve {} clsid reg).mpr ⟨rfl, hfirst, hsecond⟩, ?_⟩
  unfold Deployment.unregister
  refine Deployment.ext (funext fun k => ?_) (funext fun k => ?_) (funext fun k => ?_)
  · have hclass := unregisterSurrogate_appID resolve {} clsid reg k
    dsimp only [Registry.deployment]
    rw [Function.update_apply]
    split_ifs with hk
    · rw [if_pos ⟨rfl, ⟨rfl, rfl⟩, hk⟩] at hclass
      exact string_eq_none hclass
    · rw [if_neg fun h => hk h.2.2] at hclass
      exact string_congr hclass
  · have hdll := unregisterSurrogate_dllSurrogate resolve {} clsid reg k
    rw [happid] at hdll
    simp only [htakes] at hdll
    dsimp only [Registry.deployment]
    generalize (reg.string (clsidKey resolve clsid) .AppID).getD [] = appid at hdll ⊢
    cases appid with
    | nil => exact string_congr (hdll.trans (if_neg fun h => h.1 rfl))
    | cons c s =>
        rw [if_neg (by simp), Function.update_apply]
        split_ifs with hk
        · rw [if_pos ⟨by simp, hk⟩] at hdll
          exact string_eq_none hdll
        · exact string_congr (hdll.trans (if_neg fun h => hk h.2))
  · refine stored_congr fun n happID hdllSurrogate => ?_
    rw [hvalue]
    simp [happID, hdllSurrogate]

/-- A run that succeeds is its command. -/
theorem result_deployment {run : ProgramRun} {reg : Registry κ}
    (hsucceeds : run.Succeeds resolve reg) :
    (run.result resolve reg).2.deployment = reg.deployment.run resolve run := by
  obtain ⟨hends, hfaults⟩ := hsucceeds
  unfold Deployment.run
  unfold result at hends ⊢
  cases hparsed : run.parsed with
  | error code =>
      rw [hparsed] at hends
      unfold main at hends ⊢
      dsimp only at hends ⊢
      split_ifs at hends ⊢
      · exact absurd rfl (hends _)
      · exact absurd rfl (hends _)
      · exact absurd rfl (hends _)
      · rfl
  | ok parsed =>
      rw [hparsed] at hends
      dsimp only
      by_cases hregisters : parsed.registerAppId = []
      · rcases main_cases resolve run.env run.moduleFileName run.faults run.tried parsed reg with
          ⟨hr, -, hthrows, -⟩ | ⟨-, hreg⟩
        · exact absurd hthrows (hends hr)
        · rw [hreg]
          unfold dispatch Deployment.command
          have hnone : ¬ (!parsed.registerAppId.isEmpty) = true := by simp [hregisters]
          rw [hfaults, if_neg hnone, if_neg hnone]
          obtain ⟨hok, hunregisters⟩ :=
            unregisters_deployment resolve parsed.unregisterClassId reg
          dsimp only
          rw [hok]
          split_ifs <;> first | exact hunregisters | rfl
      · exact registers_deployment hregisters
          (main_writes resolve run.env run.moduleFileName run.faults run.tried hregisters reg hends)

/-! ## Histories -/

/-- Every run of a history succeeds. -/
def Succeed (resolve : QString → κ) : List ProgramRun → Registry κ → Prop
  | [], _ => True
  | run :: runs, reg =>
    run.Succeeds resolve reg ∧ Succeed resolve runs (run.result resolve reg).2

theorem after_deployment {runs : List ProgramRun} {reg : Registry κ}
    (hsucceed : Succeed resolve runs reg) :
    (after resolve runs reg).deployment = runs.foldl (Deployment.run resolve) reg.deployment := by
  induction runs generalizing reg with
  | nil => rfl
  | cons run runs ih =>
      rw [after_cons, ih hsucceed.2, result_deployment hsucceed.1, List.foldl_cons]

/-- What the registry is read for, after a history that succeeds, is what its commands come to:
the program that is started for a class, and the settings that it finds. -/
theorem observed_after (resolve : QString → κ) {runs : List ProgramRun} {reg : Registry κ}
    (hsucceed : Succeed resolve runs reg) (clsid : QString) :
    surrogatePath resolve (after resolve runs reg) clsid =
        (runs.foldl (Deployment.run resolve) reg.deployment).surrogateOf resolve clsid ∧
      readLoggingSettings resolve {} clsid (after resolve runs reg) =
        (runs.foldl (Deployment.run resolve) reg.deployment).settingsOf resolve clsid := by
  rw [← after_deployment hsucceed]
  exact ⟨rfl, readLoggingSettings_deployment resolve clsid _⟩

/-- Two classes are registered under one AppID, and the first is removed. -/
def sharedRuns : List ProgramRun :=
  [oneClassRun {},
    { oneClassRun {} with
      parsed := .ok { registerClassId := qString "d", registerAppId := qString "a" } },
    removingRun]

theorem sharedRuns_succeed : Succeed id sharedRuns noKeys :=
  ⟨.of_returns (by decide +kernel) rfl, .of_returns (by decide +kernel) rfl,
    .of_returns (by decide +kernel) rfl, trivial⟩

theorem observed_after_shared :
    surrogatePath id (after id sharedRuns noKeys) (qString "d") =
        (sharedRuns.foldl (Deployment.run id) noKeys.deployment).surrogateOf id (qString "d") ∧
      readLoggingSettings id {} (qString "d") (after id sharedRuns noKeys) =
        (sharedRuns.foldl (Deployment.run id) noKeys.deployment).settingsOf id (qString "d") :=
  observed_after id sharedRuns_succeed (qString "d")

/-- The settings that a run gives for the key of an AppID. -/
def givenBy (resolve : QString → κ) (k : κ) (run : ProgramRun) : Option LoggingSettings :=
  match run.parsed with
  | .error _ => none
  | .ok parsed =>
    if parsed.registerAppId ≠ [] ∧ appidKey resolve parsed.registerAppId = k then
      some parsed.registerSettings
    else none

/-- The run registers or unregisters a class. -/
def Concerns (resolve : QString → κ) (k : κ) (run : ProgramRun) : Prop :=
  ∃ parsed, run.parsed = .ok parsed ∧
    (parsed.registerAppId ≠ [] ∧ parsed.registerClassId ≠ [] ∧
        clsidKey resolve parsed.registerClassId = k ∨
      parsed.registerAppId = [] ∧ parsed.unregisterClassId ≠ [] ∧
        clsidKey resolve parsed.unregisterClassId = k)

theorem run_settings (d : Deployment κ) (run : ProgramRun) (k : κ) :
    (d.run resolve run).settings k =
      ((givenBy resolve k run).map fun settings => settings.over (d.settings k)).getD
        (d.settings k) := by
  unfold Deployment.run givenBy
  cases run.parsed with
  | error code => rfl
  | ok parsed =>
      dsimp only
      unfold Deployment.command
      by_cases hregisters : parsed.registerAppId = []
      · have hnone : ¬ (parsed.registerAppId ≠ [] ∧ appidKey resolve parsed.registerAppId = k) :=
          fun h => h.1 hregisters
        rw [if_neg (by simp [hregisters]), if_neg hnone]
        split_ifs <;> rfl
      · rw [if_pos (by simpa using hregisters)]
        generalize hd : (if parsed.registerClassId.isEmpty = true then d
          else d.register resolve parsed.registerClassId parsed.registerAppId
            (getExecutablePath run.moduleFileName)) = d'
        have hkept : d'.settings = d.settings := by
          rw [← hd]
          split_ifs <;> rfl
        unfold Deployment.configure
        dsimp only
        rw [Function.update_apply, hkept]
        by_cases hk : k = appidKey resolve parsed.registerAppId
        · rw [if_pos hk, if_pos ⟨hregisters, hk.symm⟩, hk]
          rfl
        · rw [if_neg hk, if_neg fun h => hk h.2.symm]
          rfl

theorem foldl_settings (d : Deployment κ) (runs : List ProgramRun) (k : κ) :
    (runs.foldl (Deployment.run resolve) d).settings k =
      (runs.filterMap (givenBy resolve k)).foldl (fun old settings => settings.over old)
        (d.settings k) := by
  induction runs generalizing d with
  | nil => rfl
  | cons run runs ih =>
      rw [List.foldl_cons, ih, run_settings]
      cases hgiven : givenBy resolve k run with
      | none => rw [List.filterMap_cons_none hgiven, Option.map_none, Option.getD_none]
      | some settings =>
          rw [List.filterMap_cons_some hgiven, List.foldl_cons, Option.map_some, Option.getD_some]

theorem run_appID {k : κ} {run : ProgramRun} (hrun : ¬ Concerns resolve k run)
    (d : Deployment κ) : (d.run resolve run).appID k = d.appID k := by
  unfold Deployment.run
  cases hparsed : run.parsed with
  | error code => rfl
  | ok parsed =>
      have hconcerns := mt (fun h => (⟨parsed, hparsed, h⟩ : Concerns resolve k run)) hrun
      rw [not_or] at hconcerns
      dsimp only
      unfold Deployment.command
      by_cases hregisters : parsed.registerAppId = []
      · rw [if_neg (by simp [hregisters])]
        split_ifs with hunregisters
        · have hk : k ≠ clsidKey resolve parsed.unregisterClassId := fun hk =>
            hconcerns.2 ⟨hregisters, by simpa using hunregisters, hk.symm⟩
          unfold Deployment.unregister
          dsimp only
          rw [Function.update_of_ne hk]
        · rfl
      · rw [if_pos (by simpa using hregisters)]
        unfold Deployment.configure
        dsimp only
        split_ifs with hclass
        · rfl
        · have hk : k ≠ clsidKey resolve parsed.registerClassId := fun hk =>
            hconcerns.1 ⟨hregisters, by simpa using hclass, hk.symm⟩
          unfold Deployment.register
          dsimp only
          rw [Function.update_of_ne hk]

theorem foldl_appID {k : κ} {runs : List ProgramRun}
    (hruns : ∀ run ∈ runs, ¬ Concerns resolve k run) (d : Deployment κ) :
    (runs.foldl (Deployment.run resolve) d).appID k = d.appID k := by
  induction runs generalizing d with
  | nil => rfl
  | cons run runs ih =>
      rw [List.forall_mem_cons] at hruns
      rw [List.foldl_cons, ih hruns.2, run_appID hruns.1]

theorem run_appID_of_registers {run : ProgramRun} {parsed : ParsedOptions}
    (hparsed : run.parsed = .ok parsed) (hregisters : parsed.registerAppId ≠ [])
    (hclass : parsed.registerClassId ≠ []) (d : Deployment κ) :
    (d.run resolve run).appID (clsidKey resolve parsed.registerClassId) =
      some parsed.registerAppId.cStr := by
  unfold Deployment.run
  rw [hparsed]
  dsimp only
  unfold Deployment.command
  rw [if_pos (by simpa using hregisters), if_neg (by simpa using hclass)]
  unfold Deployment.configure Deployment.register
  exact Function.update_self _ _ _

/-! ## The logger of a surrogate -/

/-- The last string that is not empty. -/
def lastSpecified (strings : List QString) (old : QString) : QString :=
  ((strings.filter fun s => !s.isEmpty).getLast?.map QString.cStr).getD old

/-- What a history of settings comes to. -/
def lastSettings (given : List LoggingSettings) (old : LoggingSettings) : LoggingSettings where
  enabled := ((given.map LoggingSettings.enabled).getLast?).getD old.enabled
  level := lastSpecified (given.map LoggingSettings.level) old.level
  directory := lastSpecified (given.map LoggingSettings.directory) old.directory

theorem foldl_over_eq (given : List LoggingSettings) {old : LoggingSettings}
    (hfile : old.file = []) :
    given.foldl (fun old settings => settings.over old) old = lastSettings given old := by
  have hlevel := foldl_over LoggingSettings.level (fun _ _ => rfl) given old
  have hdirectory := foldl_over LoggingSettings.directory (fun _ _ => rfl) given old
  have hrest : (given.foldl (fun old settings => settings.over old) old).enabled =
      ((given.map LoggingSettings.enabled).getLast?).getD old.enabled ∧
      (given.foldl (fun old settings => settings.over old) old).file = [] := by
    induction given using List.reverseRecOn with
    | nil => exact ⟨rfl, hfile⟩
    | append_singleton given settings _ =>
        rw [List.foldl_append, List.map_append, List.map_singleton, List.getLast?_concat]
        exact ⟨rfl, rfl⟩
  unfold lastSettings lastSpecified
  rw [← hlevel, ← hdirectory, ← hrest.1, ← hrest.2]

/-- Paths that differ in letter case name the same key. -/
def CaseInsensitive (resolve : QString → κ) : Prop :=
  ∀ s t, QString.toLower s = QString.toLower t → resolve s = resolve t

theorem toLower_cStr (s : QString) : QString.toLower s.cStr = (QString.toLower s).cStr := by
  have hzero (c : QChar) : QString.lowerChar c ≠ 0 ↔ c ≠ 0 := by
    rw [ne_eq, ne_eq, ← UInt16.toNat_inj, ← UInt16.toNat_inj, QString.toNat_lowerChar]
    have htoNat : (0 : QChar).toNat = 0 := rfl
    split_ifs <;> omega
  unfold QString.toLower QString.cStr
  rw [List.takeWhile_map]
  congr 2
  funext c
  simp [Function.comp, hzero]

omit [DecidableEq κ] in
/-- All texts of an identifier name one key. -/
theorem clsidKey_of_registryForm (hcase : CaseInsensitive resolve) {s t : QString} {u : QUuid}
    (hs : QUuid.ofRegistryForm s = some u) (ht : QUuid.ofRegistryForm t = some u) :
    clsidKey resolve s = clsidKey resolve t := by
  have hlower : QString.toLower s = QString.toLower t :=
    (QUuid.ofRegistryForm_iff.mp hs).trans (QUuid.ofRegistryForm_iff.mp ht).symm
  apply hcase
  rw [toLower_cStr, toLower_cStr]
  unfold clsidPath keyPath QString.toLower at *
  rw [List.map_append, List.map_append, hlower]

/-- A class is registered by some run of a history, by any text that names it, and no later run
registers or unregisters it.  A surrogate for it that is started after them, and that can read the
registry, logs as the settings say that all runs have given for that AppID: it is enabled or not
by the last of them, and has the last level and the last directory that were not empty. -/
theorem logger_of_history (hcase : CaseInsensitive resolve) {before later : List ProgramRun}
    {run : ProgramRun} {parsed : ParsedOptions} {u : QUuid} (hparsed : run.parsed = .ok parsed)
    (hregisters : parsed.registerAppId ≠ [])
    (hclass : QUuid.ofRegistryForm parsed.registerClassId = some u)
    (hlater : ∀ r ∈ later, ¬ Concerns resolve (clsidKey resolve parsed.registerClassId) r)
    {reg : Registry κ} (hsucceed : Succeed resolve (before ++ run :: later) reg)
    (surrogate : ProgramRun) (hread : surrogate.faults.readLogging = {})
    (htried : surrogate.tried.classId = u ∧ surrogate.tried.runsAsSurrogate = true) :
    (surrogate.result resolve (after resolve (before ++ run :: later) reg)).1.logger =
      loggingFromSettings surrogate.env
        (lastSettings ((before ++ run :: later).filterMap
            (givenBy resolve (appidKey resolve parsed.registerAppId)))
          (stored reg (appidKey resolve parsed.registerAppId))) := by
  have hnamed : parsed.registerClassId ≠ [] := by
    intro hnil
    rw [hnil, show QUuid.ofRegistryForm [] = none by decide] at hclass
    exact absurd hclass (by simp)
  have hkey := clsidKey_of_registryForm hcase (QUuid.ofRegistryForm_toString u) hclass
  have hdeployment := after_deployment hsucceed
  have happid : (after resolve (before ++ run :: later) reg).deployment.appID
      (clsidKey resolve (QUuid.toString u)) = some parsed.registerAppId.cStr := by
    rw [hdeployment, hkey, List.foldl_append, List.foldl_cons, foldl_appID hlater,
      run_appID_of_registers hparsed hregisters hnamed]
  have hfound : (after resolve (before ++ run :: later) reg).deployment.settingsOf resolve
      (QUuid.toString u) = lastSettings ((before ++ run :: later).filterMap
        (givenBy resolve (appidKey resolve parsed.registerAppId)))
        (stored reg (appidKey resolve parsed.registerAppId)) := by
    unfold Deployment.settingsOf
    rw [happid]
    dsimp only
    rw [appidKey_cStr, hdeployment, foldl_settings]
    exact foldl_over_eq _ rfl
  unfold result
  rw [main_logger, initializeLogging, if_pos htried.2, initializeLoggingSurrogate, hread,
    htried.1, readLoggingSettings_deployment, hfound]

/-- A class that is written in capitals, with a log level. -/
def loggedOptions : ParsedOptions where
  registerClassId := qString "{00000000-0000-0000-0000-00000000000A}"
  registerAppId := qString "a"
  registerLogging := true
  registerLogLevel := qString "debug"

def loggedRun : ProgramRun := { oneClassRun {} with parsed := .ok loggedOptions }

def surrogateRun : ProgramRun :=
  { oneClassRun {} with tried := { classId := 10, embedding := true }, parsed := .ok {} }

theorem loggedRun_succeeds :
    Succeed QString.toLower ([] ++ loggedRun :: [oneClassRun {}]) noKeys :=
  ⟨.of_returns (by decide +kernel) rfl, .of_returns (by decide +kernel) rfl, trivial⟩

theorem oneClassRun_not_concerns :
    ¬ Concerns QString.toLower (clsidKey QString.toLower loggedOptions.registerClassId)
      (oneClassRun {}) := by
  rintro ⟨parsed, hparsed, h⟩
  obtain rfl : oneClassOptions = parsed := Except.ok.inj hparsed
  revert h
  decide +kernel

theorem logger_of_history_logged :
    (surrogateRun.result QString.toLower
        (after QString.toLower ([] ++ loggedRun :: [oneClassRun {}]) noKeys)).1.logger =
      loggingFromSettings .plain
        (lastSettings (([] ++ loggedRun :: [oneClassRun {}]).filterMap
            (givenBy QString.toLower (appidKey QString.toLower (qString "a"))))
          (stored noKeys (appidKey QString.toLower (qString "a")))) :=
  @logger_of_history _ _ QString.toLower (fun _ _ h => h) [] [oneClassRun {}] loggedRun
    loggedOptions 10 rfl (by decide) (by decide +kernel)
    (fun _ hr => List.mem_singleton.mp hr ▸ oneClassRun_not_concerns) noKeys loggedRun_succeeds
    surrogateRun rfl (by decide)

end ProgramRun

end Axhost
