import Axhost.Program.Interference

/-!
# Registering at the same time

Runs that register, the same classes or others, while others unregister.  A run that unregisters
takes the AppID of its class from the registry, and what it finds there may be of another run.  Each
run relies on the others to remove nothing else.

* `ProgramRun.keeps_program`: no run removes anything else, as long as no other does;
* `ProgramRun.values_together`: no value is invented, and nothing else is ever gone;
* `ProgramRun.registered_together`: a class that no run unregisters is served by a program, once all
  that register it have returned.
-/

namespace Axhost

open Registry SharedStore

namespace ProgramRun

open RegistryProgram

variable {ι κ : Type*} [DecidableEq κ] {resolve : QString → κ} {runs : ι → ProgramRun}

/-! ## What is removed -/

/-- What runs are there to remove: the AppID of a class that is unregistered, and the program of an
AppID that such a class has. -/
def Removes (resolve : QString → κ) (runs : ι → ProgramRun) (reg : Registry κ) (key : κ)
    (name : ValueName) : Prop :=
  ∃ i parsed, (runs i).parsed = .ok parsed ∧ parsed.registerAppId = [] ∧
    parsed.unregisterClassId ≠ [] ∧
    (key = clsidKey resolve parsed.unregisterClassId ∧ name = .AppID ∨
      ∃ s, Given resolve runs reg (clsidKey resolve parsed.unregisterClassId) .AppID (.string s) ∧
        key = appidKey resolve s ∧ name = .DllSurrogate)

omit [DecidableEq κ] in
theorem Removes.unregisters {reg : Registry κ} {key : κ} {name : ValueName}
    (h : Removes resolve runs reg key name) :
    ∃ i, (runs i).Unregisters resolve ⟨(key, name), none⟩ := by
  obtain ⟨i, parsed, hparsed, happid, hclass, hremoved⟩ := h
  refine ⟨i, parsed, hparsed, happid, hclass, rfl, ?_⟩
  rcases hremoved with ⟨rfl, rfl⟩ | ⟨s, -, rfl, rfl⟩
  · exact Or.inl rfl
  · exact Or.inr rfl

/-- Values come from the runs, no key is gone, and no value but those that runs remove. -/
structure Spares (resolve : QString → κ) (runs : ι → ProgramRun) (reg a b : Registry κ) : Prop
    extends ValuesFrom resolve runs a b where
  keys : ∀ k, (a.keys k).isSome = true → (b.keys k).isSome = true
  values : ∀ k n, ¬ Removes resolve runs reg k n → a.value k n ≠ none → b.value k n ≠ none

omit [DecidableEq κ] in
theorem Spares.refl (runs : ι → ProgramRun) (reg a : Registry κ) :
    Spares resolve runs reg a a :=
  ⟨.refl runs a, fun _ hkey => hkey, fun _ _ _ hsome => hsome⟩

omit [DecidableEq κ] in
theorem Spares.trans {reg a b c : Registry κ} (hab : Spares resolve runs reg a b)
    (hbc : Spares resolve runs reg b c) : Spares resolve runs reg a c :=
  ⟨hab.toValuesFrom.trans hbc.toValuesFrom, fun k hkey => hbc.keys k (hab.keys k hkey),
    fun k n hkept hsome => hbc.values k n hkept (hab.values k n hkept hsome)⟩

/-- The others write no values but theirs, and remove none but those that runs remove. -/
def sparing (resolve : QString → κ) (runs : ι → ProgramRun) (reg : Registry κ) :
    Rely RegistryKey κ where
  changes a b := Spares resolve runs reg { keys := a } { keys := b }
  refl store := .refl runs reg { keys := store }
  trans hab hbc := hab.trans hbc

/-- A call of a run changes a value that the run registers, or removes one that runs remove. -/
def Allowed (resolve : QString → κ) (runs : ι → ProgramRun) (reg : Registry κ) (i : ι) (key : κ)
    (c : RegistryCall) : Prop :=
  ∀ name v, c.change = some (name, v) →
    (runs i).Registers resolve ⟨(key, name), v⟩ ∨ v = none ∧ Removes resolve runs reg key name

namespace Allowed

variable {reg : Registry κ} {i : ι}

omit [DecidableEq κ] in
theorem of_reads (key : κ) (c : RegistryCall) (h : RegistryCall.writes c = false) :
    Allowed resolve runs reg i key c := by
  intro name v hchange
  cases c with
  | openUniqueKey fault => cases hchange
  | getValueString name' fault => cases hchange
  | getValueDword name' fault => cases hchange
  | createUniqueKey fault => cases h
  | setValueString name' s fault => cases h
  | setValueDword name' value fault => cases h
  | regDeleteValue name' fault => cases h

omit [DecidableEq κ] in
theorem of_creates {key : κ} (fault : LSTATUS) :
    Allowed resolve runs reg i key (.createUniqueKey fault) := fun _ _ hchange => by cases hchange

omit [DecidableEq κ] in
theorem of_registers {key : κ} {name : ValueName} {s : QString} {fault : LSTATUS}
    (h : (runs i).Registers resolve ⟨(key, name), some (.string s.cStr)⟩) :
    Allowed resolve runs reg i key (.setValueString name s fault) := by
  intro name' v hchange
  obtain ⟨rfl, rfl⟩ := Prod.mk.inj (Option.some.inj hchange)
  exact Or.inl h

omit [DecidableEq κ] in
theorem of_removes {key : κ} {name : ValueName} {fault : LSTATUS}
    (h : Removes resolve runs reg key name) :
    Allowed resolve runs reg i key (.regDeleteValue name fault) := by
  intro name' v hchange
  obtain ⟨rfl, rfl⟩ := Prod.mk.inj (Option.some.inj hchange)
  exact Or.inr ⟨rfl, h⟩

omit [DecidableEq κ] in
theorem of_makes (honly : ∀ w, ¬ (runs i).Unregisters resolve w) {key : κ} {c : RegistryCall}
    (hmakes : (runs i).Makes resolve key c) : Allowed resolve runs reg i key c := by
  intro name v hchange
  unfold Makes at hmakes
  rw [hchange] at hmakes
  exact Or.inl (hmakes.resolve_right (honly _))

omit [DecidableEq κ] in
theorem makes {key : κ} {c : RegistryCall} (h : Allowed resolve runs reg i key c) :
    ∃ j, (runs j).Makes resolve key c := by
  unfold Makes
  cases hchange : c.change with
  | none => exact ⟨i, trivial⟩
  | some change =>
      obtain ⟨name, v⟩ := change
      rcases h name v hchange with hregisters | ⟨rfl, hremoves⟩
      · exact ⟨i, Or.inl hregisters⟩
      · obtain ⟨j, hunregisters⟩ := hremoves.unregisters
        exact ⟨j, Or.inr hunregisters⟩

theorem spares {key : κ} {c : RegistryCall} (h : Allowed resolve runs reg i key c)
    (a : Registry κ) : Spares resolve runs reg a (c.exec a key).2 := by
  obtain ⟨j, hmakes⟩ := h.makes
  refine ⟨(ValuesFrom.refl runs a).exec hmakes, fun k => c.keys_isSome key,
    fun k n hkept hsome => ?_⟩
  rcases c.value_cases a key k n with hsame | ⟨rfl, hchange⟩
  · rwa [hsame]
  · rcases h _ _ hchange with ⟨parsed, -, -, hwrites⟩ | ⟨-, hremoves⟩
    · exact value_ne_none_of_mem hwrites
    · exact absurd hremoves hkept

theorem changes (key : κ) (c : RegistryCall) (store : κ → RegistryKey)
    (h : Allowed resolve runs reg i key c) :
    (sparing resolve runs reg).changes store
      (Function.update store key (registryInterface.exec c (store key)).2) :=
  changes_exec (R := sparing resolve runs reg) (h.spares { keys := store })

theorem changes_of_makes (honly : ∀ w, ¬ (runs i).Unregisters resolve w) (key : κ)
    (c : RegistryCall) (store : κ → RegistryKey) (hmakes : (runs i).Makes resolve key c) :
    (sparing resolve runs reg).changes store
      (Function.update store key (registryInterface.exec c (store key)).2) :=
  (of_makes honly hmakes).changes key c store

end Allowed

/-! ## Unregistering -/

omit [DecidableEq κ] in
theorem string_of_found {a : Registry κ} {key : κ} {name : ValueName} {fault : LSTATUS}
    (h : (if failed (a.getValueString key name fault).1 then []
      else (a.getValueString key name fault).2.getD []) ≠ []) :
    ∃ s, (if failed (a.getValueString key name fault).1 then []
      else (a.getValueString key name fault).2.getD []) = s.cStr ∧
        a.value key name = some (.string s) := by
  split_ifs at h ⊢ with hread
  · exact absurd rfl h
  · obtain ⟨s, hvalue, hanswer⟩ := string_of_read (Bool.eq_false_iff.mpr hread)
    exact ⟨s, by rw [hanswer, Option.getD_some], hvalue⟩

/-- The AppID that is found for a class is one that it had, or that a run gives it. -/
theorem ensures_readAppid {reg a : Registry κ} (hfrom : ValuesFrom resolve runs reg a)
    (faults : UnregisterFaults) (clsid : QString) :
    (RegistryProgram.readAppid resolve faults clsid).Ensures (sparing resolve runs reg)
      (fun appid _ => appid ≠ [] → ∃ s, appid = s.cStr ∧
        Given resolve runs reg (clsidKey resolve clsid) .AppID (.string s)) a.keys := by
  apply ensures_call
  intro a₁ h₁
  apply Program.ensures_unless fun _ _ _ hsome => absurd rfl hsome
  intro _
  apply ensures_call
  intro a₂ h₂
  apply Program.ensures_pure
  intro store _ hsome
  have hfrom₂ := (hfrom.trans h₁.toValuesFrom).trans h₂.toValuesFrom
  obtain ⟨s, hs, hvalue⟩ := string_of_found hsome
  exact ⟨s, hs, hfrom₂.written _ _ _ hvalue⟩

theorem keeps_unregisterSurrogate {reg a : Registry κ} {i : ι} {parsed : ParsedOptions}
    (hparsed : (runs i).parsed = .ok parsed) (happid : parsed.registerAppId = [])
    (hclass : parsed.unregisterClassId ≠ []) (hfrom : ValuesFrom resolve runs reg a)
    (faults : UnregisterFaults) :
    (RegistryProgram.unregisterSurrogate resolve faults parsed.unregisterClassId).Keeps
      (sparing resolve runs reg) a.keys := by
  have hreads := only_readAppid resolve (P := Allowed resolve runs reg i) Allowed.of_reads faults
    parsed.unregisterClassId
  apply Program.keeps_unless
  intro _
  apply (hreads.keeps Allowed.changes _).bind
  refine (ensures_readAppid hfrom faults _).mono fun appid store hgiven => ?_
  refine Program.Only.keeps (P := Allowed resolve runs reg i) ?_ Allowed.changes store
  have hremoves : Removes resolve runs reg (clsidKey resolve parsed.unregisterClassId) .AppID :=
    ⟨i, parsed, hparsed, happid, hclass, Or.inl ⟨rfl, rfl⟩⟩
  have hremoves' (hsome : appid ≠ []) :
      Removes resolve runs reg (appidKey resolve appid) .DllSurrogate := by
    obtain ⟨s, rfl, hs⟩ := hgiven hsome
    exact ⟨i, parsed, hparsed, happid, hclass, Or.inr ⟨s, hs, appidKey_cStr resolve s, rfl⟩⟩
  apply (only_removeValue Allowed.of_reads (.of_removes hremoves) _).bind
  intro status
  apply Program.only_unless
  refine (Program.only_ite (fun _ => Program.only_pure _) fun hsome => ?_).bind fun status => ?_
  · exact only_removeValue Allowed.of_reads (.of_removes (hremoves' (by simpa using hsome))) _
  · exact Program.only_unless (Program.only_pure _)

/-- No run removes anything but what runs are there to remove, as long as no other one does. -/
theorem keeps_program (resolve : QString → κ) (runs : ι → ProgramRun) (reg : Registry κ) (i : ι) :
    ((runs i).program resolve).Keeps (sparing resolve runs reg) reg.keys := by
  by_cases honly : ∀ w, ¬ (runs i).Unregisters resolve w
  · exact (only_program resolve (runs i)).keeps (Allowed.changes_of_makes honly) _
  · obtain ⟨w, parsed, hparsed, happid, hclass, -⟩ := not_forall_not.mp honly
    have hlogging := only_initializeLogging resolve (P := Allowed resolve runs reg i)
      Allowed.of_reads (runs i).env (runs i).faults (runs i).tried
    unfold program RegistryProgram.main
    apply (hlogging.keeps Allowed.changes _).bind
    refine (hlogging.ensures Allowed.changes _).mono fun logger store hspares => ?_
    apply Program.keeps_unless
    intro _
    apply Program.keeps_unless
    intro _
    apply Program.keeps_unless
    intro _
    rw [hparsed]
    apply Program.Keeps.bind _ (Program.ensures_of_forall fun _ _ => Program.keeps_pure)
    unfold RegistryProgram.dispatch
    rw [if_neg (by simp [happid]), if_pos (by simpa using hclass)]
    exact (keeps_unregisterSurrogate hparsed happid hclass hspares.toValuesFrom _).bind
      (Program.ensures_of_forall fun _ _ => Program.keeps_unless fun _ => Program.keeps_pure)

/-! ## Registering -/

/-- A run has written the value, whichever run it is by now. -/
def Present (resolve : QString → κ) (runs : ι → ProgramRun) (a : Registry κ) (key : κ)
    (name : ValueName) : Prop :=
  ∃ v, a.value key name = some v ∧ ∃ i, (runs i).Registers resolve ⟨(key, name), some v⟩

omit [DecidableEq κ] in
theorem Present.spares {reg a b : Registry κ} {key : κ} {name : ValueName}
    (h : Present resolve runs a key name) (hkept : ¬ Removes resolve runs reg key name)
    (hspares : Spares resolve runs reg a b) : Present resolve runs b key name := by
  obtain ⟨v, hvalue, hgiven⟩ := h
  obtain ⟨v', hv'⟩ :=
    Option.ne_none_iff_exists'.mp (hspares.values key name hkept (by simp [hvalue]))
  rcases hspares.written key name v' hv' with hold | hnew
  · obtain rfl := Option.some.inj (hold.symm.trans hvalue)
    exact ⟨v', hv', hgiven⟩
  · exact ⟨v', hv', hnew⟩

theorem Present.of_setValueString {i : ι} {a : Registry κ} {key : κ} {name : ValueName}
    {s : QString} {fault : LSTATUS} (hkey : (a.keys key).isSome = true)
    (hset : failed (a.setValueString key name s fault).1 = false)
    (hregisters : (runs i).Registers resolve ⟨(key, name), some (.string s.cStr)⟩) :
    Present resolve runs (a.setValueString key name s fault).2 key name :=
  ⟨.string s.cStr, by rw [setValueString_value hkey hset, if_pos ⟨rfl, rfl⟩], i, hregisters⟩

/-- A class is under an AppID, and the AppID has a program, each of them from one of the runs. -/
def PresentFor (resolve : QString → κ) (runs : ι → ProgramRun) (clsid appid : QString)
    (a : Registry κ) : Prop :=
  Present resolve runs a (clsidKey resolve clsid) .AppID ∧
    Present resolve runs a (appidKey resolve appid) .DllSurrogate

/-- No run is there to remove them. -/
def Kept (resolve : QString → κ) (runs : ι → ProgramRun) (reg : Registry κ)
    (clsid appid : QString) : Prop :=
  ¬ Removes resolve runs reg (clsidKey resolve clsid) .AppID ∧
    ¬ Removes resolve runs reg (appidKey resolve appid) .DllSurrogate

omit [DecidableEq κ] in
theorem PresentFor.spares {reg a b : Registry κ} {clsid appid : QString}
    (h : PresentFor resolve runs clsid appid a) (hkept : Kept resolve runs reg clsid appid)
    (hspares : Spares resolve runs reg a b) : PresentFor resolve runs clsid appid b :=
  ⟨h.1.spares hkept.1 hspares, h.2.spares hkept.2 hspares⟩

theorem ensures_registerSurrogate {reg : Registry κ} {i : ι} {clsid appid : QString}
    (hwrites : ∀ w ∈ registerWrites resolve (runs i).moduleFileName clsid appid,
      (runs i).Registers resolve w)
    (happid : appid ≠ []) (hkept : Kept resolve runs reg clsid appid) (faults : RegisterFaults)
    (a : Registry κ) :
    (RegistryProgram.registerSurrogate resolve (runs i).moduleFileName faults clsid appid).Ensures
      (sparing resolve runs reg)
      (fun r store => failed r.1 = false →
        PresentFor resolve runs clsid appid { keys := store }) a.keys := by
  have heffective : (if appid.isEmpty then clsid else appid) = appid :=
    if_neg (by simpa using happid)
  have hAppID := hwrites _ List.mem_cons_self
  have hDllSurrogate := hwrites _ (List.mem_cons_of_mem _ List.mem_cons_self)
  unfold RegistryProgram.registerSurrogate
  rw [heffective]
  apply Program.ensures_unless fun _ _ _ hok => absurd hok (by decide)
  intro _
  apply ensures_call
  intro a₁ _
  apply ensures_checked
  intro hcreated
  have hkey := createUniqueKey_keys hcreated
  apply ensures_call
  intro a₂ h₂
  apply ensures_checked
  intro hset
  have hclass := Present.of_setValueString (h₂.keys _ hkey) hset hAppID
  apply ensures_call
  intro a₃ h₃
  apply ensures_checked
  intro hcreated'
  have hkey' := createUniqueKey_keys hcreated'
  have hspares₃ : Spares resolve runs reg a₃
      (a₃.createUniqueKey (appidKey resolve appid) faults.createAppid).2 :=
    (Allowed.of_creates (i := i) _).spares a₃
  apply ensures_call
  intro a₄ h₄
  apply ensures_checked
  intro hset'
  have hprogram := Present.of_setValueString (h₄.keys _ hkey') hset' hDllSurrogate
  have hspares₄ : Spares resolve runs reg a₄ (a₄.setValueString (appidKey resolve appid)
      .DllSurrogate (getExecutablePath (runs i).moduleFileName) faults.setDllSurrogate).2 :=
    (Allowed.of_registers hDllSurrogate).spares a₄
  apply Program.ensures_pure
  intro store h₅ _
  refine PresentFor.spares ⟨?_, hprogram⟩ hkept h₅
  exact hclass.spares hkept.1 (((h₃.trans hspares₃).trans h₄).trans hspares₄)

/-- The run registers the class, by any text for it. -/
def RegistersClass (resolve : QString → κ) (run : ProgramRun) (clsid : QString)
    (parsed : ParsedOptions) : Prop :=
  run.parsed = .ok parsed ∧ parsed.registerAppId ≠ [] ∧ parsed.registerClassId ≠ [] ∧
    clsidKey resolve parsed.registerClassId = clsidKey resolve clsid

theorem ensures_dispatch {reg : Registry κ} {i : ι} {clsid : QString} {parsed : ParsedOptions}
    (hclass : (runs i).RegistersClass resolve clsid parsed)
    (hkept : Kept resolve runs reg clsid parsed.registerAppId) (faults : MainFaults)
    (a : Registry κ) :
    (RegistryProgram.dispatch resolve (runs i).moduleFileName faults parsed).Ensures
      (sparing resolve runs reg)
      (fun r store => r.1 = .returns →
        PresentFor resolve runs clsid parsed.registerAppId { keys := store }) a.keys := by
  obtain ⟨hparsed, happid, hnamed, hkey⟩ := hclass
  have hregisters (w) (hw : w ∈ registryWrites resolve (runs i).moduleFileName parsed) :
      (runs i).Registers resolve w := ⟨parsed, hparsed, happid, hw⟩
  have honly (w) : ¬ (runs i).Unregisters resolve w := by
    rintro ⟨parsed', hparsed', hnone, -⟩
    obtain rfl := Except.ok.inj (hparsed.symm.trans hparsed')
    exact happid hnone
  unfold registryWrites at hregisters
  rw [if_neg (by simpa using hnamed)] at hregisters
  unfold Kept at hkept
  rw [← hkey] at hkept
  unfold PresentFor
  rw [← hkey]
  have hregister := ensures_registerSurrogate
    (fun w hw => hregisters w (List.mem_append_left _ hw)) happid hkept faults.register a
  have hlogging := only_writeLoggingSettings
    (fun w hw => hregisters w (List.mem_append_right _ hw)) faults.writeLogging
  unfold RegistryProgram.dispatch
  rw [if_pos (by simpa using happid), if_pos (by simpa using hnamed)]
  apply Program.Ensures.bind
  refine hregister.mono fun r store hpresent => ?_
  apply Program.ensures_unless fun _ _ _ hreturns => absurd hreturns (by simp)
  intro hok
  have hpresent := hpresent (Bool.eq_false_iff.mpr hok)
  apply Program.Ensures.bind
  refine (hlogging.ensures (Allowed.changes_of_makes honly) store).mono
    fun r' store' hwritten => ?_
  apply Program.ensures_unless fun _ _ _ hreturns => absurd hreturns (by simp)
  intro _
  exact Program.ensures_pure fun store'' hchange _ =>
    (hpresent.spares hkept hwritten).spares hkept hchange

theorem ensures_registering {reg : Registry κ} {i : ι} {clsid : QString} {parsed : ParsedOptions}
    (hclass : (runs i).RegistersClass resolve clsid parsed)
    (hkept : Kept resolve runs reg clsid parsed.registerAppId) (a : Registry κ) :
    ((runs i).program resolve).Ensures (sparing resolve runs reg)
      (fun result store => result.ending = .returns →
        PresentFor resolve runs clsid parsed.registerAppId { keys := store }) a.keys := by
  unfold program RegistryProgram.main
  rw [hclass.1]
  apply Program.Ensures.bind
  apply Program.ensures_of_forall
  intro logger store
  apply Program.ensures_unless fun _ _ _ hreturns => absurd hreturns (by simp)
  intro _
  apply Program.ensures_unless fun _ _ _ hreturns => absurd hreturns (by simp)
  intro _
  apply Program.ensures_unless fun _ _ _ hreturns => absurd hreturns (by simp)
  intro _
  apply Program.Ensures.bind
  exact (ensures_dispatch hclass hkept (runs i).faults { keys := store }).mono
    fun r store' hpresent => Program.ensures_pure fun store'' hchange hreturns =>
      (hpresent hreturns).spares hkept hchange

/-! ## What is started -/

omit [DecidableEq κ] in
theorem mem_registerWrites {moduleFileName : QString} {parsed : ParsedOptions} {k : κ}
    {n : ValueName} {v : Option RegistryValue} (hn : n = .AppID ∨ n = .DllSurrogate)
    (h : ⟨(k, n), v⟩ ∈ registryWrites resolve moduleFileName parsed) :
    parsed.registerClassId ≠ [] ∧ (⟨(k, n), v⟩ : WriteLog.Write (κ × ValueName) RegistryValue) ∈
      registerWrites resolve moduleFileName parsed.registerClassId parsed.registerAppId := by
  unfold registryWrites at h
  rcases List.mem_append.mp h with hclass | hlogging
  · split_ifs at hclass with hempty
    · exact absurd hclass List.not_mem_nil
    · exact ⟨by simpa using hempty, hclass⟩
  · have hname : n = .LogEnabled ∨ n = .LogLevel ∨ n = .LogDirectory := by
      unfold loggingWrites at hlogging
      rcases List.mem_cons.mp hlogging with henabled | hspecified
      · exact Or.inl (congrArg (fun w => w.key.2) henabled)
      · rcases List.mem_append.mp hspecified with hlevel | hdirectory
        · exact Or.inr (Or.inl (congrArg (fun w => w.key.2) (mem_specifiedWrites hlevel)))
        · exact Or.inr (Or.inr (congrArg (fun w => w.key.2) (mem_specifiedWrites hdirectory)))
    rcases hn with rfl | rfl <;> simp at hname

/-- The class is under the AppID of a run that registers it, and what is started for it is the
program of a run that registers something under that AppID. -/
def Served (resolve : QString → κ) (runs : ι → ProgramRun) (clsid : QString) (d : Deployment κ) :
    Prop :=
  ∃ j parsed, (runs j).RegistersClass resolve clsid parsed ∧
    d.appID (clsidKey resolve clsid) = some parsed.registerAppId.cStr ∧
    ∃ k clsid' parsed', (runs k).RegistersClass resolve clsid' parsed' ∧
      appidKey resolve parsed'.registerAppId = appidKey resolve parsed.registerAppId ∧
      d.surrogateOf resolve clsid = some (getExecutablePath (runs k).moduleFileName)

omit [DecidableEq κ] in
theorem served_of_present {a : Registry κ} {clsid : QString}
    (hpresent : ∀ i parsed, (runs i).RegistersClass resolve clsid parsed →
      PresentFor resolve runs clsid parsed.registerAppId a)
    {i : ι} {parsed : ParsedOptions} (hclass : (runs i).RegistersClass resolve clsid parsed) :
    Served resolve runs clsid a.deployment := by
  obtain ⟨⟨v, hv, j, parsed', hparsed', happid', hwrites⟩, -⟩ := hpresent i parsed hclass
  obtain ⟨hclass', hmem⟩ := mem_registerWrites (Or.inl rfl) hwrites
  simp only [registerWrites, List.mem_cons, WriteLog.Write.mk.injEq, Prod.mk.injEq, reduceCtorEq,
    and_false, false_and, List.not_mem_nil, or_false, and_true, Option.some.injEq] at hmem
  obtain ⟨hkey, rfl⟩ := hmem
  have hj : (runs j).RegistersClass resolve clsid parsed' := ⟨hparsed', happid', hclass', hkey.symm⟩
  obtain ⟨-, v', hv', k, parsed'', hparsed'', happid'', hwrites'⟩ := hpresent j parsed' hj
  obtain ⟨hclass'', hmem'⟩ := mem_registerWrites (Or.inr rfl) hwrites'
  simp only [registerWrites, List.mem_cons, WriteLog.Write.mk.injEq, Prod.mk.injEq, reduceCtorEq,
    and_false, false_and, List.not_mem_nil, or_false, false_or, and_true, Option.some.injEq]
    at hmem'
  obtain ⟨hkey', rfl⟩ := hmem'
  have hAppID : a.deployment.appID (clsidKey resolve clsid) = some parsed'.registerAppId.cStr :=
    (string_eq_of_value hv).trans (congrArg some (QString.cStr_cStr _))
  have hexePath : (getExecutablePath (runs k).moduleFileName).cStr =
      getExecutablePath (runs k).moduleFileName := QString.cStr_cStr _
  refine ⟨j, parsed', hj, hAppID, k, parsed''.registerClassId, parsed'',
    ⟨hparsed'', happid'', hclass'', rfl⟩, hkey'.symm, ?_⟩
  unfold Deployment.surrogateOf
  rw [hAppID, Option.bind_some, appidKey_cStr]
  refine (string_eq_of_value hv').trans ?_
  rw [hexePath, hexePath]

/-! ## Runs at the same time -/

variable [DecidableEq ι]

/-- Runs at the same time, whatever they do, whatever fails and whoever has his turn when: no value
is invented, and none is gone but the AppIDs of the classes that runs unregister, and the programs
of the AppIDs that these classes have had. -/
theorem values_together (resolve : QString → κ) (runs : ι → ProgramRun) (reg : Registry κ)
    {s : Processes registryInterface ι κ MainResult}
    (h : (together resolve runs reg).system.Reachable s) :
    Spares resolve runs reg reg { keys := s.store } :=
  Processes.changes (R := sparing resolve runs reg) (keeps_program resolve runs reg) h

def rivals : Bool → ProgramRun
  | false => oneClassRun {}
  | true => removingRun

/-- The class is registered while it is unregistered. -/
theorem values_together_rivals :
    ∃ s, (together id rivals noKeys).system.exec (together id rivals noKeys)
        [false, false, true, true, true, false, true, false] = some s ∧
      Spares id rivals noKeys noKeys { keys := s.store } := by
  have hexec : ((together id rivals noKeys).system.exec (together id rivals noKeys)
      [false, false, true, true, true, false, true, false]).isSome = true := by decide +kernel
  obtain ⟨s, hs⟩ := Option.isSome_iff_exists.mp hexec
  obtain ⟨trace, -, hrun⟩ := Transition.System.run_of_exec hs
  exact ⟨s, hs, values_together id rivals noKeys (hrun.reachable (.init rfl))⟩

/-- Runs that register and unregister at the same time, whatever fails in them and whoever has his
turn when.  A class that no run is there to remove, and none of the AppIDs that it is given, has a
program once all runs that register it have returned. -/
theorem registered_together {reg : Registry κ} {s : Processes registryInterface ι κ MainResult}
    (h : (together resolve runs reg).system.Reachable s) {clsid : QString}
    (hkept : ∀ i parsed, (runs i).RegistersClass resolve clsid parsed →
      Kept resolve runs reg clsid parsed.registerAppId)
    (hreturned : ∀ i parsed, (runs i).RegistersClass resolve clsid parsed →
      ∃ result, (s.programs i).result? = some result ∧ result.ending = .returns)
    {i : ι} {parsed : ParsedOptions} (hclass : (runs i).RegistersClass resolve clsid parsed) :
    Served resolve runs clsid (Registry.deployment { keys := s.store }) := by
  refine served_of_present (fun i parsed hclass => ?_) hclass
  obtain ⟨result, hended, hreturns⟩ := hreturned i parsed hclass
  exact Processes.ensured (keeps_program resolve runs reg)
    (ensures_registering hclass (hkept i parsed hclass) reg) h hended hreturns

/-- A class is registered twice at once, and another one is unregistered. -/
def crossing : Fin 3 → ProgramRun
  | 0 => oneClassRun {}
  | 1 => { oneClassRun {} with moduleFileName := qString "other.exe" }
  | 2 => { oneClassRun {} with parsed := .ok { unregisterClassId := qString "d" } }

theorem crossing_removes {key : QString} {name : ValueName}
    (h : Removes id crossing (after id [otherClassRun] noKeys) key name) :
    key = clsidKey id (qString "d") ∨ key = appidKey id (qString "b") := by
  obtain ⟨i, parsed, hparsed, happid, -, hremoved⟩ := h
  have hclass : parsed.unregisterClassId = qString "d" := by
    match i with
    | 0 => cases hparsed; exact absurd happid (by decide)
    | 1 => cases hparsed; exact absurd happid (by decide)
    | 2 => cases hparsed; rfl
  rw [hclass] at hremoved
  rcases hremoved with ⟨rfl, -⟩ | ⟨s, hthere | ⟨j, parsed', hparsed', hsome, hwrites⟩, rfl, -⟩
  · exact Or.inl rfl
  · have hvalue : (after id [otherClassRun] noKeys).value (clsidKey id (qString "d")) .AppID =
        some (.string (qString "b")) := by decide +kernel
    have hs := hvalue.symm.trans hthere
    simp only [Option.some.injEq, RegistryValue.string.injEq] at hs
    exact Or.inr (congrArg (appidKey id) hs.symm)
  · have hother : ∀ exePath ∈ [qString "axhost.exe", qString "other.exe"],
        ∀ w ∈ registryWrites id exePath oneClassOptions,
          w.key ≠ (clsidKey id (qString "d"), .AppID) := by decide +kernel
    match j with
    | 0 => cases hparsed'; exact absurd rfl (hother _ List.mem_cons_self _ hwrites)
    | 1 =>
        cases hparsed'
        exact absurd rfl (hother _ (List.mem_cons_of_mem _ List.mem_cons_self) _ hwrites)
    | 2 => cases hparsed'; exact absurd rfl hsome

theorem crossing_kept :
    Kept id crossing (after id [otherClassRun] noKeys) (qString "c") (qString "a") := by
  constructor
  · intro h
    exact absurd (crossing_removes h) (by decide)
  · intro h
    exact absurd (crossing_removes h) (by decide)

theorem registered_together_crossing :
    ∃ s, (together id crossing (after id [otherClassRun] noKeys)).system.exec
        (together id crossing (after id [otherClassRun] noKeys))
        (List.replicate 6 [0, 1, 2]).flatten = some s ∧
      Served id crossing (qString "c") (Registry.deployment { keys := s.store }) := by
  have hall : ∀ i : Fin 3, (((together id crossing
      (after id [otherClassRun] noKeys)).system.exec
        (together id crossing (after id [otherClassRun] noKeys))
        (List.replicate 6 [0, 1, 2]).flatten).bind fun s =>
          (s.programs i).result?.map MainResult.ending) = some .returns := by decide +kernel
  obtain ⟨s, hs, -⟩ := Option.bind_eq_some_iff.mp (hall 0)
  have hoptions {i : Fin 3} {parsed : ParsedOptions}
      (hclass : (crossing i).RegistersClass id (qString "c") parsed) :
      parsed.registerAppId = qString "a" := by
    obtain ⟨hparsed, happid, -⟩ := hclass
    match i with
    | 0 => cases hparsed; rfl
    | 1 => cases hparsed; rfl
    | 2 => cases hparsed; exact absurd rfl happid
  have hclass : (crossing 0).RegistersClass id (qString "c") oneClassOptions :=
    ⟨rfl, by decide, by decide, rfl⟩
  obtain ⟨trace, -, hrun⟩ := Transition.System.run_of_exec hs
  refine ⟨s, hs, registered_together (hrun.reachable (.init rfl)) ?_ ?_ hclass⟩
  · intro i parsed hclass
    rw [hoptions hclass]
    exact crossing_kept
  · intro i _ _
    have hi := hall i
    rw [hs] at hi
    exact Option.map_eq_some_iff.mp hi

end ProgramRun

end Axhost
