import Axhost.Lib.RelyGuarantee
import Axhost.Program.Concurrent
import Axhost.Program.Deployment

/-!
# What runs at the same time find

Runs that get in each other's way, each relying on what the others do at most.

* `ProgramRun.settings_together`: a surrogate may find settings that no one has given as a whole,
  but each of them is one that was there before or that a run writes.
-/

namespace Axhost

open Registry SharedStore

namespace RegistryProgram

variable {κ : Type*} [DecidableEq κ] {R : Rely RegistryKey κ}

theorem ensures_call {α : Type} {key : κ} {c : RegistryCall} {f : c.Answer → RegistryProgram κ α}
    {Q : α → (κ → RegistryKey) → Prop} {reg : Registry κ}
    (h : ∀ reg' : Registry κ, R.changes reg.keys reg'.keys →
      (f (c.exec reg' key).1).Ensures R Q (c.exec reg' key).2.keys) :
    (call key c >>= f).Ensures R Q reg.keys := by
  intro store' hchange
  have hcall := h { keys := store' } hchange
  rw [RegistryCall.exec_eq] at hcall
  exact hcall

theorem ensures_checked {hr : HRESULT} {messages : List MessageBox}
    {rest : RegistryProgram κ (HRESULT × List MessageBox)} {P : (κ → RegistryKey) → Prop}
    {store : κ → RegistryKey}
    (h : failed hr = false → rest.Ensures R (fun r store => failed r.1 = false → P store) store) :
    (if failed hr then pure (hr, messages) else rest).Ensures R
      (fun r store => failed r.1 = false → P store) store :=
  Program.ensures_unless (fun hfailed _ _ hok => absurd (hfailed.symm.trans hok) (by simp))
    fun hok => h (Bool.eq_false_iff.mpr hok)

theorem changes_exec {key : κ} {c : RegistryCall} {store : κ → RegistryKey}
    (h : R.changes store (c.exec { keys := store } key).2.keys) :
    R.changes store (Function.update store key (registryInterface.exec c (store key)).2) := by
  rw [RegistryCall.exec_eq] at h
  exact h

end RegistryProgram

namespace ProgramRun

variable {ι κ : Type*} [DecidableEq κ] {resolve : QString → κ} {runs : ι → ProgramRun}

/-! ## What runs rely on -/

omit [DecidableEq κ] in
theorem ValuesFrom.refl (runs : ι → ProgramRun) (reg : Registry κ) :
    ValuesFrom resolve runs reg reg :=
  ⟨fun _ _ _ hv => Or.inl hv, fun _ _ _ _ hsome => hsome⟩

omit [DecidableEq κ] in
theorem ValuesFrom.trans {a b c : Registry κ} (hab : ValuesFrom resolve runs a b)
    (hbc : ValuesFrom resolve runs b c) : ValuesFrom resolve runs a c where
  written k n v hv := (hbc.written k n v hv).elim (hab.written k n v) Or.inr
  kept k n happid hdll hsome := hbc.kept k n happid hdll (hab.kept k n happid hdll hsome)

/-- The others write no values but theirs, and remove none of the settings. -/
def others (resolve : QString → κ) (runs : ι → ProgramRun) : Rely RegistryKey κ where
  changes a b := ValuesFrom resolve runs { keys := a } { keys := b }
  refl store := .refl runs { keys := store }
  trans hab hbc := hab.trans hbc

/-- A value that was there, or that a run writes. -/
def Given (resolve : QString → κ) (runs : ι → ProgramRun) (reg : Registry κ) (key : κ)
    (name : ValueName) (v : RegistryValue) : Prop :=
  reg.value key name = some v ∨ ∃ i, (runs i).Registers resolve ⟨(key, name), some v⟩

end ProgramRun

/-! ## Settings that are read -/

section Reading

variable {κ : Type*} [DecidableEq κ]

omit [DecidableEq κ] in
theorem string_of_read {reg : Registry κ} {key : κ} {name : ValueName} {fault : LSTATUS}
    (hread : failed (reg.getValueString key name fault).1 = false) :
    ∃ s, reg.value key name = some (.string s) ∧
      (reg.getValueString key name fault).2 = some s.cStr := by
  unfold getValueString at hread ⊢
  split_ifs at hread ⊢ with hfault
  · simp [failed_HRESULT_FROM_WIN32, hfault] at hread
  · split at hread
    · next s hvalue => exact ⟨s, hvalue, rfl⟩
    · exact absurd (failed_unsupported_type.symm.trans hread) (by simp)
    · exact absurd (failed_file_not_found.symm.trans hread) (by simp)

omit [DecidableEq κ] in
theorem dword_of_read {reg : Registry κ} {key : κ} {name : ValueName} {fault : LSTATUS}
    (hread : failed (reg.getValueDword key name fault).1 = false) :
    ∃ v, reg.value key name = some (.dword v) ∧
      (reg.getValueDword key name fault).2 = some v := by
  unfold getValueDword at hread ⊢
  split_ifs at hread ⊢ with hfault
  · simp [failed_HRESULT_FROM_WIN32, hfault] at hread
  · split at hread
    · next v hvalue => exact ⟨v, hvalue, rfl⟩
    · exact absurd (failed_unsupported_type.symm.trans hread) (by simp)
    · exact absurd (failed_file_not_found.symm.trans hread) (by simp)

/-- Each of the settings is the default, or read from a value that is given. -/
structure ReadFrom (given : κ → ValueName → RegistryValue → Prop) (key : κ)
    (settings : LoggingSettings) : Prop where
  enabled : settings.enabled = true → ∃ v, v ≠ 0 ∧ given key .LogEnabled (.dword v)
  level : settings.level ≠ [] → ∃ s, settings.level = s.cStr ∧ given key .LogLevel (.string s)
  directory : settings.directory ≠ [] →
    ∃ s, settings.directory = s.cStr ∧ given key .LogDirectory (.string s)

namespace ReadFrom

variable {given : κ → ValueName → RegistryValue → Prop} {key : κ} {settings : LoggingSettings}
  {reg : Registry κ}

omit [DecidableEq κ] in
theorem default (given : κ → ValueName → RegistryValue → Prop) (key : κ) :
    ReadFrom given key {} :=
  ⟨fun h => absurd h Bool.false_ne_true, fun h => absurd rfl h, fun h => absurd rfl h⟩

omit [DecidableEq κ] in
theorem readEnabled (h : ReadFrom given key settings)
    (hgiven : ∀ v, reg.value key .LogEnabled = some v → given key .LogEnabled v)
    (fault : LSTATUS) :
    ReadFrom given key (if failed (reg.getValueDword key .LogEnabled fault).1 then settings
      else { settings with
        enabled := (reg.getValueDword key .LogEnabled fault).2.getD 0 != 0 }) := by
  split_ifs with hread
  · exact h
  · obtain ⟨v, hvalue, hanswer⟩ := dword_of_read (Bool.eq_false_iff.mpr hread)
    refine ⟨fun henabled => ⟨v, ?_, hgiven _ hvalue⟩, h.level, h.directory⟩
    rw [hanswer] at henabled
    simpa using henabled

omit [DecidableEq κ] in
theorem readLevel (h : ReadFrom given key settings)
    (hgiven : ∀ v, reg.value key .LogLevel = some v → given key .LogLevel v) (fault : LSTATUS) :
    ReadFrom given key (if failed (reg.getValueString key .LogLevel fault).1 then settings
      else { settings with
        level := (reg.getValueString key .LogLevel fault).2.getD [] }) := by
  split_ifs with hread
  · exact h
  · obtain ⟨s, hvalue, hanswer⟩ := string_of_read (Bool.eq_false_iff.mpr hread)
    refine ⟨h.enabled, fun _ => ⟨s, ?_, hgiven _ hvalue⟩, h.directory⟩
    rw [hanswer]
    rfl

omit [DecidableEq κ] in
theorem readDirectory (h : ReadFrom given key settings)
    (hgiven : ∀ v, reg.value key .LogDirectory = some v → given key .LogDirectory v)
    (fault : LSTATUS) :
    ReadFrom given key (if failed (reg.getValueString key .LogDirectory fault).1 then settings
      else { settings with
        directory := (reg.getValueString key .LogDirectory fault).2.getD [] }) := by
  split_ifs with hread
  · exact h
  · obtain ⟨s, hvalue, hanswer⟩ := string_of_read (Bool.eq_false_iff.mpr hread)
    refine ⟨h.enabled, h.level, fun _ => ⟨s, ?_, hgiven _ hvalue⟩⟩
    rw [hanswer]
    rfl

end ReadFrom

/-- What a surrogate finds for a class: no settings, or those of an AppID that is given. -/
def FindsSettings (resolve : QString → κ) (given : κ → ValueName → RegistryValue → Prop)
    (clsid : QString) (settings : LoggingSettings) : Prop :=
  settings = {} ∨ ∃ appid, given (clsidKey resolve clsid) .AppID (.string appid) ∧
    ReadFrom given (appidKey resolve appid) settings

end Reading

namespace RegistryProgram

open ProgramRun

variable {ι κ : Type*} [DecidableEq κ] {resolve : QString → κ} {runs : ι → ProgramRun}
  {reg₀ reg : Registry κ}

theorem ensures_readValues (hreg : ValuesFrom resolve runs reg₀ reg) (faults : ReadFaults)
    (key : κ) :
    (readValues faults key).Ensures (others resolve runs)
      (fun settings _ => ReadFrom (Given resolve runs reg₀) key settings) reg.keys := by
  apply ensures_call
  intro reg₁ h₁
  apply ensures_call
  intro reg₂ h₂
  apply ensures_call
  intro reg₃ h₃
  apply Program.ensures_pure
  intro store _
  have hreg₁ := hreg.trans h₁
  have hreg₂ := hreg₁.trans h₂
  have hreg₃ := hreg₂.trans h₃
  have hdefault := ReadFrom.default (Given resolve runs reg₀) key
  have henabled := hdefault.readEnabled (hreg₁.written key .LogEnabled) faults.getLogEnabled
  have hlevel := henabled.readLevel (hreg₂.written key .LogLevel) faults.getLogLevel
  exact hlevel.readDirectory (hreg₃.written key .LogDirectory) faults.getLogDirectory

theorem ensures_readLoggingSettings (hreg : ValuesFrom resolve runs reg₀ reg)
    (faults : ReadFaults) (clsid : QString) :
    (readLoggingSettings resolve faults clsid).Ensures (others resolve runs)
      (fun settings _ => FindsSettings resolve (Given resolve runs reg₀) clsid settings)
      reg.keys := by
  apply ensures_call
  intro reg₁ h₁
  apply Program.ensures_unless fun _ _ _ => Or.inl rfl
  intro _
  apply ensures_call
  intro reg₂ h₂
  apply Program.ensures_unless fun _ _ _ => Or.inl rfl
  intro hread
  have hreg₂ := (hreg.trans h₁).trans h₂
  obtain ⟨appid, hvalue, hanswer⟩ := string_of_read (Bool.eq_false_iff.mpr hread)
  apply ensures_call
  intro reg₃ h₃
  apply Program.ensures_unless fun _ _ _ => Or.inl rfl
  intro _
  change (readValues faults (appidKey resolve ((reg₂.getValueString (clsidKey resolve clsid) .AppID
    faults.getAppID).2.getD []))).Ensures _ _ reg₃.keys
  rw [hanswer, Option.getD_some, appidKey_cStr]
  exact (ensures_readValues (hreg₂.trans h₃) faults (appidKey resolve appid)).mono
    fun settings _ hfrom => Or.inr ⟨appid, hreg₂.written _ _ _ hvalue, hfrom⟩

end RegistryProgram

namespace ProgramRun

open RegistryProgram

variable {ι κ : Type*} [DecidableEq ι] [DecidableEq κ] {resolve : QString → κ}
  {runs : ι → ProgramRun}

/-- The logger of a run is that of its options, or of settings that it finds. -/
def LoggerFrom (resolve : QString → κ) (given : κ → ValueName → RegistryValue → Prop)
    (run : ProgramRun) (logger : Logger) : Prop :=
  if run.tried.runsAsSurrogate then
    ∃ settings, FindsSettings resolve given (QUuid.toString run.tried.classId) settings ∧
      logger = loggingFromSettings run.env settings
  else logger = initializeLoggingStandalone run.env run.tried

omit [DecidableEq ι] [DecidableEq κ] in
theorem LoggerFrom.of_settings {given : κ → ValueName → RegistryValue → Prop} {run : ProgramRun}
    {settings : LoggingSettings} (hsurrogate : run.tried.runsAsSurrogate = true)
    (hfinds : FindsSettings resolve given (QUuid.toString run.tried.classId) settings) :
    run.LoggerFrom resolve given (loggingFromSettings run.env settings) := by
  unfold LoggerFrom
  rw [if_pos hsurrogate]
  exact ⟨settings, hfinds, rfl⟩

omit [DecidableEq ι] [DecidableEq κ] in
theorem LoggerFrom.of_options (given : κ → ValueName → RegistryValue → Prop) {run : ProgramRun}
    (hstandalone : ¬ run.tried.runsAsSurrogate = true) :
    run.LoggerFrom resolve given (initializeLoggingStandalone run.env run.tried) := by
  unfold LoggerFrom
  rw [if_neg hstandalone]

omit [DecidableEq ι] in
theorem ensures_program (resolve : QString → κ) (runs : ι → ProgramRun) (run : ProgramRun)
    (reg : Registry κ) :
    (run.program resolve).Ensures (others resolve runs)
      (fun result _ => run.LoggerFrom resolve (Given resolve runs reg) result.logger)
      reg.keys := by
  have hlogger : (RegistryProgram.initializeLogging resolve run.env run.faults run.tried).Ensures
      (others resolve runs)
      (fun logger _ => run.LoggerFrom resolve (Given resolve runs reg) logger) reg.keys := by
    apply Program.ensures_ite
    · intro hsurrogate
      apply Program.Ensures.bind
      exact (ensures_readLoggingSettings (.refl runs reg) run.faults.readLogging _).mono
        fun settings _ hfinds => Program.ensures_pure fun _ _ => .of_settings hsurrogate hfinds
    · intro hstandalone
      exact Program.ensures_pure fun _ _ => .of_options _ hstandalone
  apply Program.Ensures.bind
  refine hlogger.mono fun logger store hfrom => ?_
  apply Program.ensures_unless fun _ _ _ => hfrom
  intro _
  apply Program.ensures_unless fun _ _ _ => hfrom
  intro _
  apply Program.ensures_unless fun _ _ _ => hfrom
  intro _
  cases run.parsed with
  | error code => exact Program.ensures_pure fun _ _ => hfrom
  | ok parsed =>
      apply Program.Ensures.bind
      exact Program.ensures_of_forall fun _ _ => Program.ensures_pure fun _ _ => hfrom

omit [DecidableEq ι] in
theorem others_of_makes (resolve : QString → κ) (runs : ι → ProgramRun) (i : ι) (key : κ)
    (c : RegistryCall) (store : κ → RegistryKey) (hmakes : (runs i).Makes resolve key c) :
    (others resolve runs).changes store
      (Function.update store key (registryInterface.exec c (store key)).2) :=
  changes_exec (R := others resolve runs) ((ValuesFrom.refl runs { keys := store }).exec hmakes)

theorem loggerFrom_of_reachable {reg : Registry κ}
    {s : Processes registryInterface ι κ MainResult}
    (h : (together resolve runs reg).system.Reachable s) {i : ι} {result : MainResult}
    (hended : (s.programs i).result? = some result) :
    (runs i).LoggerFrom resolve (Given resolve runs reg) result.logger :=
  Processes.ensured
    (fun i => (only_program resolve (runs i)).keeps (others_of_makes resolve runs i) _)
    (ensures_program resolve runs (runs i) reg) h hended

/-- A surrogate that is started while others register and unregister, whatever fails and whoever
has his turn when: it logs by settings each of which was there before or is written by a run, for
an AppID that its class had before or that a run gives it. -/
theorem settings_together (resolve : QString → κ) (runs : ι → ProgramRun) (reg : Registry κ)
    {s : Processes registryInterface ι κ MainResult}
    (h : (together resolve runs reg).system.Reachable s) {i : ι} {result : MainResult}
    (hended : (s.programs i).result? = some result)
    (hsurrogate : (runs i).tried.runsAsSurrogate = true) :
    ∃ settings, result.logger = loggingFromSettings (runs i).env settings ∧
      FindsSettings resolve (Given resolve runs reg) (QUuid.toString (runs i).tried.classId)
        settings := by
  have hlogger := loggerFrom_of_reachable h hended
  unfold LoggerFrom at hlogger
  rw [if_pos hsurrogate] at hlogger
  obtain ⟨settings, hfinds, hlogger⟩ := hlogger
  exact ⟨settings, hlogger, hfinds⟩

/-- A class under an AppID whose surrogates log to one directory. -/
def configured : Registry QString where
  keys path :=
    if path = clsidKey id (QUuid.toString 10) then
      some fun name => if name = .AppID then some (.string (qString "a")) else none
    else if path = appidKey id (qString "a") then
      some fun name => match name with
        | .LogEnabled => some (.dword 1)
        | .LogLevel => some (.string (qString "debug"))
        | .LogDirectory => some (.string (qString "old"))
        | _ => none
    else none

/-- A surrogate for the class, and a run that gives its AppID another level and directory. -/
def reconfigured : Bool → ProgramRun
  | false => surrogateRun
  | true => { oneClassRun {} with
      parsed := .ok {
        registerAppId := qString "a"
        registerLogLevel := qString "trace"
        registerLogDir := qString "new" } }

/-- The surrogate reads the level before it is written, and the directory after that. -/
theorem settings_together_torn :
    ∃ s result, (together id reconfigured configured).system.exec
        (together id reconfigured configured)
        [false, false, false, false, false, true, true, true, true, false] = some s ∧
      (s.programs false).result? = some result ∧
      result.logger = ⟨qString "axhost", qString "new/axhost-7.log", .debug⟩ ∧
      ∃ settings, result.logger = loggingFromSettings .plain settings ∧
        FindsSettings id (Given id reconfigured configured) (QUuid.toString 10) settings := by
  have hexec : (((together id reconfigured configured).system.exec
      (together id reconfigured configured)
      [false, false, false, false, false, true, true, true, true, false]).bind fun s =>
        (s.programs false).result?.map MainResult.logger) =
      some ⟨qString "axhost", qString "new/axhost-7.log", .debug⟩ := by decide +kernel
  obtain ⟨s, hs, hresult⟩ := Option.bind_eq_some_iff.mp hexec
  obtain ⟨result, hended, hlogger⟩ := Option.map_eq_some_iff.mp hresult
  obtain ⟨trace, -, hrun⟩ := Transition.System.run_of_exec hs
  exact ⟨s, result, hs, hended, hlogger, settings_together id reconfigured configured
    (hrun.reachable (.init rfl)) hended (by decide)⟩

end ProgramRun

end Axhost
