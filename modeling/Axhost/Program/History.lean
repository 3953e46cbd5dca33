import Axhost.Program.Main

/-!
# Histories of the program

Any number of runs of the program over one registry, with any faults.

* `after_log`: a history leaves the registry as some log of its runs' writes does;
* `values_of_retry`: attempts that failed leave no trace once the same command succeeds;
* `value_after`: no value is invented, and the logging settings are not removed.
-/

namespace Axhost

open Registry WriteLog

/-- A run of the program, with what it is given and what becomes of it outside. -/
structure ProgramRun where
  env : LogEnvironment
  moduleFileName : QString
  faults : MainFaults := {}
  tried : ParsedOptions
  parsed : Except Int ParsedOptions

namespace ProgramRun

variable {κ : Type*} [DecidableEq κ] (resolve : QString → κ)

def result (run : ProgramRun) (reg : Registry κ) : MainResult × Registry κ :=
  main resolve run.env run.moduleFileName run.faults run.tried run.parsed reg

def after (runs : List ProgramRun) (reg : Registry κ) : Registry κ :=
  runs.foldl (fun reg run => (run.result resolve reg).2) reg

/-- A write that registering makes. -/
def Registers (run : ProgramRun) (w : Write (κ × ValueName) RegistryValue) : Prop :=
  ∃ parsed, run.parsed = .ok parsed ∧ parsed.registerAppId ≠ [] ∧
    w ∈ registryWrites resolve run.moduleFileName parsed

/-- A removal that unregistering makes. -/
def Unregisters (run : ProgramRun) (w : Write (κ × ValueName) RegistryValue) : Prop :=
  ∃ parsed, run.parsed = .ok parsed ∧ parsed.registerAppId = [] ∧ parsed.unregisterClassId ≠ [] ∧
    w.value = none ∧
      (w.key = (clsidKey resolve parsed.unregisterClassId, .AppID) ∨ w.key.2 = .DllSurrogate)

/-! ## The log of a run -/

variable {resolve}

/-- What an attempt to unregister removes. -/
def unregisterWrites (resolve : QString → κ) (faults : UnregisterFaults) (clsid : QString)
    (reg : Registry κ) : List (Write (κ × ValueName) RegistryValue) :=
  (if faults.admin = true ∧ RemovesAppID faults then
    [⟨(clsidKey resolve clsid, .AppID), none⟩] else []) ++
  (if TakesSurrogate resolve faults clsid reg then
    [⟨(appidKey resolve (readAppid resolve faults clsid reg), .DllSurrogate), none⟩] else [])

theorem unregisterSurrogate_values (resolve : QString → κ) (faults : UnregisterFaults)
    (clsid : QString) (reg : Registry κ) :
    (unregisterSurrogate resolve faults clsid reg).2.values =
      replay (unregisterWrites resolve faults clsid reg) reg.values := by
  funext ⟨k, n⟩
  rw [Registry.values_apply, unregisterSurrogate_value, unregisterWrites, replay_append]
  by_cases hremoves : faults.admin = true ∧ RemovesAppID faults
  · by_cases htakes : TakesSurrogate resolve faults clsid reg
    · simp only [hremoves, htakes, true_and, and_self, if_true, replay_cons, replay_nil, Write.run,
        Function.update_apply, Prod.mk.injEq, Registry.values_apply]
      split_ifs <;> rfl
    · simp only [hremoves, htakes, true_and, and_self, false_and, if_true, if_false, replay_cons,
        replay_nil, Write.run, Function.update_apply, Prod.mk.injEq, Registry.values_apply]
  · have hkeeps : ¬ (faults.admin = true ∧ RemovesAppID faults ∧ k = clsidKey resolve clsid ∧
        n = .AppID) := fun h => hremoves ⟨h.1, h.2.1⟩
    rw [if_neg hkeeps, if_neg hremoves, replay_nil]
    by_cases htakes : TakesSurrogate resolve faults clsid reg
    · simp only [htakes, true_and, if_true, replay_cons, replay_nil, Write.run,
        Function.update_apply, Prod.mk.injEq, Registry.values_apply]
    · simp only [htakes, false_and, if_false, replay_nil, Registry.values_apply]

omit [DecidableEq κ] in
theorem mem_unregisterWrites {faults : UnregisterFaults} {clsid : QString} {reg : Registry κ}
    {w : Write (κ × ValueName) RegistryValue}
    (h : w ∈ unregisterWrites resolve faults clsid reg) :
    w.value = none ∧ (w.key = (clsidKey resolve clsid, .AppID) ∨ w.key.2 = .DllSurrogate) := by
  rcases List.mem_append.mp h with hclass | happid
  · split_ifs at hclass
    · obtain rfl := List.mem_singleton.mp hclass
      exact ⟨rfl, Or.inl rfl⟩
    · exact absurd hclass List.not_mem_nil
  · split_ifs at happid
    · obtain rfl := List.mem_singleton.mp happid
      exact ⟨rfl, Or.inr rfl⟩
    · exact absurd happid List.not_mem_nil

/-- A run that does not register leaves what it removes, or nothing. -/
theorem dispatch_log (resolve : QString → κ) (moduleFileName : QString) (faults : MainFaults)
    {parsed : ParsedOptions} (hregisters : parsed.registerAppId = []) (reg : Registry κ) :
    ∃ log, (dispatch resolve moduleFileName faults parsed reg).2.values = replay log reg.values ∧
      ∀ w ∈ log, parsed.unregisterClassId ≠ [] ∧ w.value = none ∧
        (w.key = (clsidKey resolve parsed.unregisterClassId, .AppID) ∨
          w.key.2 = .DllSurrogate) := by
  unfold dispatch
  rw [if_neg (by simp [hregisters])]
  split_ifs with hunregisters
  · refine ⟨unregisterWrites resolve faults.unregister parsed.unregisterClassId reg, ?_,
      fun w hw => ⟨by simpa using hunregisters, mem_unregisterWrites hw⟩⟩
    rw [← unregisterSurrogate_values]
    dsimp only
    split_ifs <;> rfl
  · exact ⟨[], rfl, by simp⟩
  · exact ⟨[], rfl, by simp⟩
  · exact ⟨[], rfl, by simp⟩

/-- Every run leaves what some writes of its own leave. -/
theorem result_log (resolve : QString → κ) (run : ProgramRun) (reg : Registry κ) :
    ∃ log, (run.result resolve reg).2.values = replay log reg.values ∧
      ∀ w ∈ log, run.Registers resolve w ∨ run.Unregisters resolve w := by
  unfold result
  cases hparsed : run.parsed with
  | error code =>
      refine ⟨[], ?_, by simp⟩
      unfold main
      dsimp only
      split_ifs <;> rfl
  | ok parsed =>
      by_cases hregisters : parsed.registerAppId = []
      · obtain ⟨log, hvalues, hlog⟩ :=
          dispatch_log resolve run.moduleFileName run.faults hregisters reg
        rcases main_cases resolve run.env run.moduleFileName run.faults run.tried parsed reg with
          ⟨-, -, -, hsame⟩ | ⟨-, hreg⟩
        · rw [hsame]
          exact ⟨[], rfl, by simp⟩
        · rw [hreg]
          exact ⟨log, hvalues, fun w hw => Or.inr ⟨parsed, hparsed, hregisters, hlog w hw⟩⟩
      · obtain ⟨-, ⟨written, hprefix, hvalues, -⟩, -⟩ :=
          main_leaves resolve run.env run.moduleFileName run.faults run.tried hregisters reg
        exact ⟨written, hvalues, fun w hw =>
          Or.inl ⟨parsed, hparsed, hregisters, hprefix.subset hw⟩⟩

theorem after_nil (reg : Registry κ) : after resolve [] reg = reg := rfl

theorem after_cons (run : ProgramRun) (runs : List ProgramRun) (reg : Registry κ) :
    after resolve (run :: runs) reg = after resolve runs (run.result resolve reg).2 := rfl

theorem after_append (runs runs' : List ProgramRun) (reg : Registry κ) :
    after resolve (runs ++ runs') reg = after resolve runs' (after resolve runs reg) :=
  List.foldl_append

/-- A history leaves what some writes of its runs leave. -/
theorem after_log (resolve : QString → κ) (runs : List ProgramRun) (reg : Registry κ) :
    ∃ log, (after resolve runs reg).values = replay log reg.values ∧
      ∀ w ∈ log, ∃ run ∈ runs, run.Registers resolve w ∨ run.Unregisters resolve w := by
  induction runs generalizing reg with
  | nil => exact ⟨[], rfl, by simp⟩
  | cons run runs ih =>
      obtain ⟨log, hvalues, hlog⟩ := result_log resolve run reg
      obtain ⟨rest, hrest, hlater⟩ := ih (run.result resolve reg).2
      refine ⟨log ++ rest, ?_, fun w hw => ?_⟩
      · rw [after_cons, hrest, hvalues, replay_append]
      · rcases List.mem_append.mp hw with hfirst | hsecond
        · exact ⟨run, List.mem_cons_self, hlog w hfirst⟩
        · obtain ⟨run', hrun', hmakes⟩ := hlater w hsecond
          exact ⟨run', List.mem_cons_of_mem _ hrun', hmakes⟩

/-! ## Repeated attempts -/

omit [DecidableEq κ] in
theorem keys_registryWrites (moduleFileName moduleFileName' : QString) (parsed : ParsedOptions) :
    WriteLog.keys (registryWrites resolve moduleFileName parsed) =
      WriteLog.keys (registryWrites resolve moduleFileName' parsed) := by
  unfold registryWrites registerWrites WriteLog.keys
  rw [List.map_append, List.map_append]
  split_ifs <;> rfl

/-- Once a command has succeeded, it does not matter how often and how far it was tried before:
the registry is as if it had been the only run. -/
theorem values_of_retry (resolve : QString → κ) {attempts : List ProgramRun} {run : ProgramRun}
    {parsed : ParsedOptions} (hparsed : run.parsed = .ok parsed)
    (hregisters : parsed.registerAppId ≠ [])
    (hattempts : ∀ attempt ∈ attempts, attempt.parsed = .ok parsed) (reg : Registry κ)
    (hreturns : (run.result resolve (after resolve attempts reg)).1.ending = .returns) :
    (after resolve (attempts ++ [run]) reg).values =
      replay (registryWrites resolve run.moduleFileName parsed) reg.values := by
  obtain ⟨log, hvalues, hlog⟩ := after_log resolve attempts reg
  unfold result at hreturns
  rw [hparsed] at hreturns
  have hwritten := main_writes resolve run.env run.moduleFileName run.faults run.tried hregisters
    (after resolve attempts reg) fun hr hthrows => by simp [hreturns] at hthrows
  have hlast : (after resolve (attempts ++ [run]) reg).values =
      replay (registryWrites resolve run.moduleFileName parsed)
        (after resolve attempts reg).values := by
    rw [after_append, after_cons, after_nil, result, hparsed, hwritten]
  rw [hlast, hvalues]
  apply replay_absorb
  intro k hk
  obtain ⟨w, hw, rfl⟩ := List.mem_map.mp hk
  obtain ⟨attempt, hattempt, hmakes⟩ := hlog w hw
  rcases hmakes with ⟨parsed', hparsed', -, hwrites⟩ | ⟨parsed', hparsed', hnone, -⟩
  · -- an attempt writes keys of the command, whatever it writes to them
    rw [hattempts attempt hattempt] at hparsed'
    obtain rfl := Except.ok.inj hparsed'
    rw [keys_registryWrites run.moduleFileName attempt.moduleFileName]
    exact List.mem_map_of_mem hwrites
  · rw [hattempts attempt hattempt] at hparsed'
    obtain rfl := Except.ok.inj hparsed'
    exact absurd hnone hregisters

def oneClassRun (faults : MainFaults) : ProgramRun where
  env := .plain
  moduleFileName := qString "axhost.exe"
  faults := faults
  tried := oneClassOptions
  parsed := .ok oneClassOptions

def removingRun : ProgramRun :=
  { oneClassRun {} with parsed := .ok { unregisterClassId := qString "c" } }

theorem values_of_retry_refused :
    (after id ([oneClassRun refused, oneClassRun refused] ++ [oneClassRun {}]) noKeys).values =
      replay (registryWrites id (qString "axhost.exe") oneClassOptions) noKeys.values :=
  values_of_retry id rfl (by decide) (by simp [oneClassRun]) noKeys (by decide +kernel)

/-! ## Where values come from -/

omit [DecidableEq κ] in
theorem mem_specifiedWrites {key : κ} {name : ValueName} {s : QString}
    {w : Write (κ × ValueName) RegistryValue} (h : w ∈ specifiedWrites key name s) :
    w = ⟨(key, name), some (.string s.cStr)⟩ := by
  unfold specifiedWrites at h
  split_ifs at h
  · exact absurd h List.not_mem_nil
  · exact List.mem_singleton.mp h

omit [DecidableEq κ] in
theorem value_ne_none_of_mem {moduleFileName : QString} {parsed : ParsedOptions}
    {w : Write (κ × ValueName) RegistryValue}
    (h : w ∈ registryWrites resolve moduleFileName parsed) : w.value ≠ none := by
  rcases List.mem_append.mp h with hclass | hlogging
  · split_ifs at hclass
    · exact absurd hclass List.not_mem_nil
    · rcases List.mem_cons.mp hclass with rfl | happid
      · simp
      · rw [List.mem_singleton.mp happid]
        simp
  · rcases List.mem_cons.mp hlogging with rfl | hspecified
    · simp
    · rcases List.mem_append.mp hspecified with hlevel | hdirectory
      · rw [mem_specifiedWrites hlevel]
        simp
      · rw [mem_specifiedWrites hdirectory]
        simp

/-- After any history, with any faults, each value was there before or has been written to its
place by a run, and no value is gone but an AppID and a DllSurrogate. -/
theorem value_after (resolve : QString → κ) (runs : List ProgramRun) (reg : Registry κ) (k : κ)
    (n : ValueName) :
    (∀ v, (after resolve runs reg).value k n = some v → reg.value k n = some v ∨
      ∃ run ∈ runs, run.Registers resolve ⟨(k, n), some v⟩) ∧
    (n ≠ .AppID → n ≠ .DllSurrogate → reg.value k n ≠ none →
      (after resolve runs reg).value k n ≠ none) := by
  obtain ⟨log, hvalues, hlog⟩ := after_log resolve runs reg
  have hvalue : (after resolve runs reg).value k n = replay log reg.values (k, n) :=
    congrFun hvalues (k, n)
  rw [hvalue]
  constructor
  · intro v hv
    refine (exists_write hv).imp_right ?_
    rintro ⟨⟨key, value⟩, hw, rfl, rfl⟩
    obtain ⟨run, hrun, hregisters | ⟨-, -, -, -, hremoves, -⟩⟩ := hlog _ hw
    · exact ⟨run, hrun, hregisters⟩
    · exact absurd hremoves (by simp)
  · intro happid hdll hsome
    have hstored : reg.values (k, n) ≠ none := hsome
    refine replay_ne_none (fun w hw hkey => ?_) hstored
    obtain ⟨run, -, ⟨parsed, -, -, hwrites⟩ | ⟨parsed, -, -, -, -, hremoves⟩⟩ := hlog w hw
    · exact value_ne_none_of_mem hwrites
    · rw [hkey] at hremoves
      rcases hremoves with hclass | hsurrogate
      · exact absurd (Prod.mk.inj hclass).2 happid
      · exact absurd hsurrogate hdll

end ProgramRun

end Axhost
