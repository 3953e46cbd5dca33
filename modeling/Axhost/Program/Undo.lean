import Axhost.Program.Deployment

/-!
# Undoing a registration

Unregistering takes away two values, one of which it finds through the other.  Registering writes
them first, so that however far the attempts to register a class have come, one run that
unregisters it leaves nothing of them but logging settings.

* `ProgramRun.attempts_log`: attempts that have written anything have put the class under its
  AppID;
* `ProgramRun.values_of_undo`: what is left after the class has been unregistered.
-/

namespace Axhost

open Registry WriteLog

variable {κ : Type*} [DecidableEq κ]

/-- What there is to be removed of a class and its AppID. -/
def removals (resolve : QString → κ) (clsid appid : QString) :
    List (Write (κ × ValueName) RegistryValue) :=
  [⟨(clsidKey resolve clsid, .AppID), none⟩, ⟨(appidKey resolve appid, .DllSurrogate), none⟩]

namespace ProgramRun

variable {resolve : QString → κ}

omit [DecidableEq κ] in
theorem unregisterWrites_plain (resolve : QString → κ) (clsid : QString) (reg : Registry κ) :
    unregisterWrites resolve {} clsid reg =
      ⟨(clsidKey resolve clsid, .AppID), none⟩ ::
        if (reg.string (clsidKey resolve clsid) .AppID).getD [] = [] then [] else
          [⟨(appidKey resolve ((reg.string (clsidKey resolve clsid) .AppID).getD []),
            .DllSurrogate), none⟩] := by
  have hread := readAppid_eq resolve {} clsid reg
  rw [if_pos ⟨rfl, rfl⟩] at hread
  have hfirst : ¬ FailsAppID resolve {} clsid reg := fun h => by simpa using h.2.2
  have htakes : TakesSurrogate resolve {} clsid reg ↔
      ¬ (reg.string (clsidKey resolve clsid) .AppID).getD [] = [] := by
    rw [← hread]
    exact ⟨fun h => h.2.2.1, fun h => ⟨rfl, hfirst, h, ⟨rfl, rfl⟩⟩⟩
  unfold unregisterWrites
  rw [if_pos ⟨rfl, ⟨rfl, rfl⟩⟩, hread]
  simp only [htakes, ite_not]
  rfl

theorem unregisters_values {run : ProgramRun} {parsed : ParsedOptions} {reg : Registry κ}
    (hparsed : run.parsed = .ok parsed) (hnone : parsed.registerAppId = [])
    (hclsid : parsed.unregisterClassId ≠ []) (hsucceeds : run.Succeeds resolve reg) :
    (run.result resolve reg).2.values =
      replay (unregisterWrites resolve {} parsed.unregisterClassId reg) reg.values := by
  obtain ⟨hends, hfaults⟩ := hsucceeds
  unfold result at hends ⊢
  rw [hparsed] at hends ⊢
  rcases main_cases resolve run.env run.moduleFileName run.faults run.tried parsed reg with
    ⟨hr, -, hthrows, -⟩ | ⟨-, hreg⟩
  · exact absurd hthrows (hends hr)
  · rw [hreg, ← unregisterSurrogate_values]
    unfold dispatch
    rw [if_neg (by simp [hnone]), if_pos (by simpa using hclsid), hfaults]
    dsimp only
    split_ifs <;> rfl

/-! ## What attempts leave -/

omit [DecidableEq κ] in
theorem registryWrites_eq_cons {parsed : ParsedOptions} (hclass : parsed.registerClassId ≠ [])
    (moduleFileName : QString) :
    registryWrites resolve moduleFileName parsed =
      ⟨(clsidKey resolve parsed.registerClassId, .AppID),
          some (.string parsed.registerAppId.cStr)⟩ ::
        ⟨(appidKey resolve parsed.registerAppId, .DllSurrogate),
          some (.string (getExecutablePath moduleFileName).cStr)⟩ ::
          loggingWrites resolve parsed.registerAppId parsed.registerSettings := by
  unfold registryWrites
  rw [if_neg (by simpa using hclass)]
  rfl

omit [DecidableEq κ] in
theorem registryWrites_cases {parsed : ParsedOptions} (hclass : parsed.registerClassId ≠ [])
    {moduleFileName : QString} {w : Write (κ × ValueName) RegistryValue}
    (h : w ∈ registryWrites resolve moduleFileName parsed) :
    w = ⟨(clsidKey resolve parsed.registerClassId, .AppID),
        some (.string parsed.registerAppId.cStr)⟩ ∨
      w.key = (appidKey resolve parsed.registerAppId, .DllSurrogate) ∨
      w ∈ loggingWrites resolve parsed.registerAppId parsed.registerSettings := by
  rw [registryWrites_eq_cons hclass] at h
  rcases List.mem_cons.mp h with happID | hrest
  · exact Or.inl happID
  · rcases List.mem_cons.mp hrest with hdll | hlogging
    · exact Or.inr (Or.inl (congrArg Write.key hdll))
    · exact Or.inr (Or.inr hlogging)

omit [DecidableEq κ] in
theorem mem_loggingWrites {appid : QString} {settings : LoggingSettings}
    {w : Write (κ × ValueName) RegistryValue} (h : w ∈ loggingWrites resolve appid settings) :
    w.key.2 ≠ .AppID := by
  rcases List.mem_cons.mp h with rfl | hspecified
  · simp
  · rcases List.mem_append.mp hspecified with hlevel | hdirectory
    · rw [mem_specifiedWrites hlevel]
      simp
    · rw [mem_specifiedWrites hdirectory]
      simp

omit [DecidableEq κ] in
theorem value_of_appID {parsed : ParsedOptions} (hclass : parsed.registerClassId ≠ [])
    {w : Write (κ × ValueName) RegistryValue}
    (h : ∃ moduleFileName, w ∈ registryWrites resolve moduleFileName parsed)
    (hkey : w.key = (clsidKey resolve parsed.registerClassId, .AppID)) :
    w.value = some (.string parsed.registerAppId.cStr) := by
  obtain ⟨moduleFileName, hwrites⟩ := h
  rcases registryWrites_cases hclass hwrites with rfl | hdll | hlogging
  · rfl
  · rw [hdll] at hkey
    exact absurd (Prod.mk.inj hkey).2 (by simp)
  · exact absurd (congrArg Prod.snd hkey) (mem_loggingWrites hlogging)

/-- Attempts to register a class leave some writes of the command, among them the one that puts
the class under its AppID, unless there are none. -/
theorem attempts_log (resolve : QString → κ) {attempts : List ProgramRun} {parsed : ParsedOptions}
    (hclass : parsed.registerClassId ≠ []) (happid : parsed.registerAppId ≠ [])
    (hattempts : ∀ attempt ∈ attempts, attempt.parsed = .ok parsed) (reg : Registry κ) :
    ∃ log, (after resolve attempts reg).values = replay log reg.values ∧
      (log ≠ [] → (clsidKey resolve parsed.registerClassId, .AppID) ∈ WriteLog.keys log) ∧
      ∀ w ∈ log, ∃ moduleFileName, w ∈ registryWrites resolve moduleFileName parsed := by
  induction attempts generalizing reg with
  | nil => exact ⟨[], rfl, fun h => absurd rfl h, by simp⟩
  | cons attempt attempts ih =>
      obtain ⟨log, hvalues, hnamed, hlog⟩ :=
        ih (fun run hrun => hattempts run (List.mem_cons_of_mem _ hrun))
          (attempt.result resolve reg).2
      obtain ⟨-, ⟨written, hprefix, hwritten, -⟩, -⟩ := main_leaves resolve attempt.env
        attempt.moduleFileName attempt.faults attempt.tried happid reg
      have hresult : (attempt.result resolve reg).2.values = replay written reg.values := by
        rw [← hwritten, result, hattempts attempt List.mem_cons_self]
      refine ⟨written ++ log, by rw [after_cons, hvalues, hresult, replay_append], ?_, ?_⟩
      · intro hsome
        unfold WriteLog.keys at hnamed ⊢
        rw [List.map_append]
        cases written with
        | nil => exact hnamed hsome
        | cons w rest =>
            -- an attempt that has come to a write has made the first one
            rw [registryWrites_eq_cons hclass] at hprefix
            rw [(List.cons_prefix_cons.mp hprefix).1]
            exact List.mem_cons_self
      · intro w hw
        rcases List.mem_append.mp hw with hfirst | hlater
        · exact ⟨_, hprefix.subset hfirst⟩
        · exact hlog w hlater

/-- After any attempts to register a class, wherever they failed, a run that succeeds in
unregistering it leaves the registry as if there had been none, or without the class's AppID and
the AppID's program, and with some of the logging settings written. -/
theorem values_of_undo (resolve : QString → κ) {attempts : List ProgramRun}
    {unregistering : ProgramRun} {parsed unregister : ParsedOptions}
    (hclass : parsed.registerClassId ≠ []) (happid : parsed.registerAppId.cStr ≠ [])
    (hattempts : ∀ attempt ∈ attempts, attempt.parsed = .ok parsed)
    (hunregister : unregistering.parsed = .ok unregister) (hnone : unregister.registerAppId = [])
    (hclsid : unregister.unregisterClassId ≠ [])
    (hsame : clsidKey resolve unregister.unregisterClassId =
      clsidKey resolve parsed.registerClassId) (reg : Registry κ)
    (hsucceeds : unregistering.Succeeds resolve (after resolve attempts reg)) :
    (after resolve (attempts ++ [unregistering]) reg).values =
        (unregisterSurrogate resolve {} unregister.unregisterClassId reg).2.values ∨
      ∃ log, (∀ w ∈ log, w ∈ loggingWrites resolve parsed.registerAppId parsed.registerSettings) ∧
        (after resolve (attempts ++ [unregistering]) reg).values =
          replay (removals resolve parsed.registerClassId parsed.registerAppId ++ log)
            reg.values := by
  have hgiven : parsed.registerAppId ≠ [] := by
    intro h
    rw [h] at happid
    exact happid rfl
  obtain ⟨log, hvalues, hnamed, hlog⟩ := attempts_log resolve hclass hgiven hattempts reg
  have hafter := unregisters_values hunregister hnone hclsid hsucceeds
  rw [after_append, after_cons, after_nil, hafter, unregisterWrites_plain]
  by_cases hnothing : log = []
  · left
    rw [hnothing, replay_nil] at hvalues
    have hstring := string_congr (congrFun hvalues
      (clsidKey resolve unregister.unregisterClassId, .AppID))
    rw [unregisterSurrogate_values, unregisterWrites_plain, hvalues, hstring]
  · right
    have happID : (after resolve attempts reg).string
        (clsidKey resolve unregister.unregisterClassId) .AppID =
          some parsed.registerAppId.cStr := by
      have hwritten := replay_eq_of_forall (hnamed hnothing)
        (fun w hw hkey => value_of_appID hclass (hlog w hw) hkey) reg.values
      rw [← hvalues, Registry.values_apply, ← hsame] at hwritten
      rw [string_eq_of_value hwritten, QString.cStr_cStr]
    rw [happID, Option.getD_some, if_neg happid, appidKey_cStr, hsame, hvalues]
    have hoverride := replay_override
      (removals resolve parsed.registerClassId parsed.registerAppId) log reg.values
    refine ⟨_, fun w hw => ?_, hoverride.trans (replay_append _ _ _).symm⟩
    obtain ⟨hmem, hkept⟩ := List.mem_filter.mp hw
    obtain ⟨moduleFileName, hwrites⟩ := hlog w hmem
    simp only [WriteLog.keys, removals, List.map_cons, List.map_nil, List.mem_cons,
      List.not_mem_nil, or_false, decide_eq_true_eq, not_or] at hkept
    rcases registryWrites_cases hclass hwrites with rfl | hdll | hlogging
    · exact absurd rfl hkept.1
    · exact absurd hdll hkept.2
    · exact hlogging

theorem values_of_undo_refused :
    (after id ([oneClassRun refused] ++ [removingRun]) noKeys).values =
        (unregisterSurrogate id {} (qString "c") noKeys).2.values ∨
      ∃ log, (∀ w ∈ log, w ∈ loggingWrites id (qString "a") oneClassOptions.registerSettings) ∧
        (after id ([oneClassRun refused] ++ [removingRun]) noKeys).values =
          replay (removals id (qString "c") (qString "a") ++ log) noKeys.values := by
  have hattempts : ∀ attempt ∈ [oneClassRun refused], attempt.parsed = .ok oneClassOptions := by
    simp [oneClassRun]
  have hsucceeds : removingRun.Succeeds id (after id [oneClassRun refused] noKeys) :=
    .of_returns (by decide +kernel) rfl
  exact values_of_undo id (by decide) (by decide) hattempts rfl rfl (by decide) rfl noKeys
    hsucceeds

end ProgramRun

end Axhost
