import Axhost.Program.Registering

/-!
# Returning at the same time

A run that registers asks of the registry that keys are there, and nobody takes a key away.

* `ProgramRun.returns_together`: a run that registers and that returns where it is alone returns
  whoever else registers and unregisters at the same time, and shows what it shows alone.
-/

namespace Axhost

open Registry SharedStore

variable {ι κ : Type*} [DecidableEq κ]

/-- Each key of the one registry is a key of the other. -/
def HasKeys (a b : κ → RegistryKey) : Prop := ∀ k, (a k).isSome = true → (b k).isSome = true

namespace RegistryProgram

variable {R : Rely RegistryKey κ}

theorem follows_checked {p : RegistryProgram κ HRESULT} {messages : HRESULT → List MessageBox}
    {rest : RegistryProgram κ (HRESULT × List MessageBox)}
    (hp : p.Follows R HasKeys fun hr => failed hr = false)
    (hrest : rest.Follows R HasKeys fun r => failed r.1 = false) :
    (p >>= fun hr => if failed hr then pure (hr, messages hr) else rest).Follows R HasKeys
      fun r => failed r.1 = false := by
  refine hp.bind (fun hr hok => ?_) fun hr a hok => ?_
  · rw [hok, if_neg (by simp)]
    exact hrest
  · by_contra hfailed
    rw [Bool.not_eq_false] at hfailed
    rw [hfailed, if_pos rfl, Program.run_pure] at hok
    exact absurd (hfailed.symm.trans hok) (by simp)

variable (hR : ∀ a b, R.changes a b → HasKeys a b)

include hR

omit [DecidableEq κ] in
theorem hasKeys_changes (a b b' : κ → RegistryKey) (h : HasKeys a b) (hchange : R.changes b b') :
    HasKeys a b' :=
  fun k hk => hR b b' hchange k (h k hk)

/-! ## Calls -/

theorem follows_call {key : κ} {c : RegistryCall} {ok : c.Answer → Prop}
    (hanswer : ∀ a b : Registry κ, HasKeys a.keys b.keys → ok (c.exec a key).1 →
      (c.exec b key).1 = (c.exec a key).1) :
    (call key c).Follows R HasKeys ok := by
  apply Program.follows_single (hasKeys_changes hR)
  intro a b hab hok
  have hkeys (k : κ) (hk : ((c.exec { keys := a } key).2.keys k).isSome = true) :
      ((c.exec { keys := b } key).2.keys k).isSome = true := by
    rw [c.keys_isSome_iff] at hk ⊢
    exact hk.imp_left (hab k)
  have hsame := hanswer { keys := a } { keys := b } hab
  rw [c.exec_eq { keys := a } key, c.exec_eq { keys := b } key] at hkeys hsame
  exact ⟨hsame hok, hkeys⟩

theorem follows_openUniqueKey (key : κ) (fault : LSTATUS) :
    (openUniqueKey key fault).Follows R HasKeys fun hr => failed hr = false := by
  refine follows_call (c := .openUniqueKey fault) hR ?_
  intro a b hab hok
  obtain ⟨hfault, hkey⟩ := (openUniqueKey_succeeds a key fault).mp hok
  change b.openUniqueKey key fault = a.openUniqueKey key fault
  unfold Registry.openUniqueKey
  rw [if_neg (not_not.mpr hfault), if_neg (not_not.mpr hfault), if_pos hkey, if_pos (hab key hkey)]

theorem follows_createUniqueKey (key : κ) (fault : LSTATUS) :
    (createUniqueKey key fault).Follows R HasKeys fun hr => failed hr = false := by
  refine follows_call (c := .createUniqueKey fault) hR ?_
  intro a b _ _
  change (b.createUniqueKey key fault).1 = (a.createUniqueKey key fault).1
  unfold Registry.createUniqueKey
  split_ifs <;> rfl

theorem follows_setValueString (key : κ) (name : ValueName) (s : QString) (fault : LSTATUS) :
    (setValueString key name s fault).Follows R HasKeys fun hr => failed hr = false := by
  refine follows_call (c := .setValueString name s fault) hR ?_
  intro a b _ _
  change (b.setValueString key name s fault).1 = (a.setValueString key name s fault).1
  unfold Registry.setValueString Registry.setValue
  split_ifs <;> rfl

theorem follows_setValueDword (key : κ) (name : ValueName) (value : DWORD) (fault : LSTATUS) :
    (setValueDword key name value fault).Follows R HasKeys fun hr => failed hr = false := by
  refine follows_call (c := .setValueDword name value fault) hR ?_
  intro a b _ _
  change (b.setValueDword key name value fault).1 = (a.setValueDword key name value fault).1
  unfold Registry.setValueDword Registry.setValue
  split_ifs <;> rfl

theorem follows_setIfSpecified (key : κ) (name : ValueName) (s : QString) (fault : LSTATUS) :
    (setIfSpecified key name s fault).Follows R HasKeys fun hr => failed hr = false :=
  Program.follows_ite (fun _ => Program.follows_pure (hasKeys_changes hR) _)
    fun _ => follows_setValueString hR key name s fault

/-! ## Registering -/

variable (resolve : QString → κ)

theorem follows_registerSurrogate (moduleFileName : QString) (faults : RegisterFaults)
    (clsid appid : QString) :
    (registerSurrogate resolve moduleFileName faults clsid appid).Follows R HasKeys
      fun r => failed r.1 = false := by
  apply Program.follows_ite
  · exact fun _ => Program.follows_pure (hasKeys_changes hR) _
  intro _
  apply follows_checked (follows_createUniqueKey hR _ _)
  apply follows_checked (follows_setValueString hR _ _ _ _)
  apply follows_checked (follows_createUniqueKey hR _ _)
  apply follows_checked (follows_setValueString hR _ _ _ _)
  exact Program.follows_pure (hasKeys_changes hR) _

theorem follows_writeLoggingSettings (faults : WriteFaults) (appid : QString)
    (settings : LoggingSettings) :
    (writeLoggingSettings resolve faults appid settings).Follows R HasKeys
      fun r => failed r.1 = false := by
  apply Program.follows_ite
  · exact fun _ => Program.follows_pure (hasKeys_changes hR) _
  intro _
  apply follows_checked (follows_openUniqueKey hR _ _)
  apply follows_checked (follows_setValueDword hR _ _ _ _)
  apply follows_checked (follows_setIfSpecified hR _ _ _ _)
  apply follows_checked (follows_setIfSpecified hR _ _ _ _)
  exact Program.follows_pure (hasKeys_changes hR) _

theorem follows_dispatch (moduleFileName : QString) (faults : MainFaults) {parsed : ParsedOptions}
    (happid : parsed.registerAppId ≠ []) :
    (dispatch resolve moduleFileName faults parsed).Follows R HasKeys
      fun r => r.1 = .returns := by
  have hpure {ok : MainEnd × List MessageBox → Prop} (r : MainEnd × List MessageBox) :
      (pure r : RegistryProgram κ _).Follows R HasKeys ok :=
    Program.follows_pure (hasKeys_changes hR) r
  have hclass : (if !parsed.registerClassId.isEmpty then
      registerSurrogate resolve moduleFileName faults.register parsed.registerClassId
        parsed.registerAppId
      else pure (S_OK, [])).Follows R HasKeys fun r => failed r.1 = false :=
    Program.follows_ite (fun _ => follows_registerSurrogate hR resolve _ _ _ _)
      fun _ => Program.follows_pure (hasKeys_changes hR) _
  -- a run that goes wrong does not return
  have hreturns {hr : HRESULT} {messages : List MessageBox}
      {rest : RegistryProgram κ (MainEnd × List MessageBox)} {a : κ → RegistryKey}
      (h : ((if failed hr then pure (.throws hr, messages) else rest).run a).1.1 = .returns) :
      failed hr = false := by
    by_contra hfailed
    rw [if_pos (by simpa using hfailed), Program.run_pure] at h
    simp at h
  unfold dispatch
  rw [if_pos (by simpa using happid)]
  refine hclass.bind (fun r hok => ?_) fun r a h => hreturns h
  obtain ⟨hr, messages⟩ := r
  dsimp only at hok ⊢
  rw [hok, if_neg (by simp)]
  refine (follows_writeLoggingSettings hR resolve _ _ _).bind (fun r hok => ?_)
    fun r a h => hreturns h
  exact Program.follows_ite (fun _ => hpure _) fun _ => hpure _

end RegistryProgram

namespace ProgramRun

open RegistryProgram

variable [DecidableEq ι] {resolve : QString → κ} {runs : ι → ProgramRun}

theorem ensures_returns {R : Rely RegistryKey κ} (hR : ∀ a b, R.changes a b → HasKeys a b)
    {run : ProgramRun} {parsed : ParsedOptions} (hparsed : run.parsed = .ok parsed)
    (happid : parsed.registerAppId ≠ []) {reg : Registry κ}
    (halone : (run.result resolve reg).1.ending = .returns) :
    (run.program resolve).Ensures R
      (fun result _ => result.ending = .returns ∧
        result.messages = (run.result resolve reg).1.messages) reg.keys := by
  have hlogging := only_initializeLogging resolve
    (P := fun _ c => registryInterface.writes c = false) (fun _ _ hreads => hreads) run.env
    run.faults run.tried
  have hresult : (run.result resolve reg).1 = ((run.program resolve).run reg.keys).1 := by
    rw [run_program]
  rw [hresult] at halone ⊢
  unfold program RegistryProgram.main at halone ⊢
  rw [hparsed, Program.run_bind, run_initializeLogging] at halone ⊢
  apply Program.Ensures.bind
  refine (Program.ensures_of_reads hlogging _).mono fun logger b hchange => ?_
  dsimp only at halone ⊢
  split_ifs at halone ⊢ with hlanguages hcom hsecurity
  · simp at halone
  · simp at halone
  · simp at halone
  · rw [Program.run_bind] at halone ⊢
    apply Program.Ensures.bind
    refine (follows_dispatch hR resolve _ _ happid reg.keys b (hR _ _ hchange) halone).mono
      fun r b' hfollows => Program.ensures_pure fun _ _ => ?_
    rw [hfollows.1]
    exact ⟨halone, rfl⟩

/-- Whoever registers and unregisters at the same time, and whatever fails in the others: a run that
registers, and that returns where it is alone, returns, and shows the messages that it shows
alone. -/
theorem returns_together {reg : Registry κ} {s : Processes registryInterface ι κ MainResult}
    (h : (together resolve runs reg).system.Reachable s) {i : ι} {parsed : ParsedOptions}
    (hparsed : (runs i).parsed = .ok parsed) (happid : parsed.registerAppId ≠ [])
    (halone : ((runs i).result resolve reg).1.ending = .returns) {result : MainResult}
    (hended : (s.programs i).result? = some result) :
    result.ending = .returns ∧
      result.messages = ((runs i).result resolve reg).1.messages :=
  Processes.ensured (keeps_program resolve runs reg)
    (ensures_returns (fun _ _ hspares => Spares.keys hspares) hparsed happid halone) h hended

theorem returns_together_crossing :
    ∃ s result, (together id crossing (after id [otherClassRun] noKeys)).system.exec
        (together id crossing (after id [otherClassRun] noKeys))
        (List.replicate 6 [0, 1, 2]).flatten = some s ∧
      (s.programs 0).result? = some result ∧ result.ending = .returns ∧
      result.messages = ((crossing 0).result id (after id [otherClassRun] noKeys)).1.messages := by
  have hexec : (((together id crossing (after id [otherClassRun] noKeys)).system.exec
      (together id crossing (after id [otherClassRun] noKeys))
      (List.replicate 6 [0, 1, 2]).flatten).bind fun s =>
        (s.programs 0).result?).isSome = true := by
    decide +kernel
  obtain ⟨result, hresult⟩ := Option.isSome_iff_exists.mp hexec
  obtain ⟨s, hs, hended⟩ := Option.bind_eq_some_iff.mp hresult
  obtain ⟨trace, -, hrun⟩ := Transition.System.run_of_exec hs
  exact ⟨s, result, hs, hended, returns_together (hrun.reachable (.init rfl)) rfl
    (by decide) (by decide +kernel) hended⟩

end ProgramRun

end Axhost
