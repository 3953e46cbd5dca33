import Axhost.Lifetime.Runtime
import Axhost.Registration.ClassTable

/-!
# Starting a standalone host

The constructor of `RunAsStandalone`: it suspends the class objects, registers those of its
specifications, resumes them, and signals the ready event.  COM may answer each of these calls
as it likes.

* `registerLoop_spec`: what registering a list of specifications leaves in the table;
* `RunAsStandalone.active_iff`: when everything a signalled host has registered is active;
* `RunAsStandalone.not_activatable_resumeFails`: a signalled host whose classes are suspended.
-/

namespace Axhost

/-- The calls of the constructor on top of those of its surrogate. -/
structure StandaloneCom (γ : Type*) extends Com γ where
  coSuspendClassObjects : γ → HRESULT × γ
  coResumeClassObjects : γ → HRESULT × γ

def StandaloneCom.recorded {γ : Type*} (com : StandaloneCom γ) :
    StandaloneCom (γ × ClassTable) where
  toCom := com.toCom.recorded
  coSuspendClassObjects s :=
    let (hr, state) := com.coSuspendClassObjects s.1
    (hr, (state, s.2.suspend hr))
  coResumeClassObjects s :=
    let (hr, state) := com.coResumeClassObjects s.1
    (hr, (state, s.2.resume hr))

/-- A standalone host, and whether it has signalled its ready event. -/
structure RunAsStandalone (γ : Type*) where
  runtime : Runtime
  surrogate : HostSurrogate γ
  specs : List ClassSpec
  ready : Bool

namespace RunAsStandalone

variable {γ : Type*} (com : StandaloneCom γ)

/-- The surrogate after `CoSuspendClassObjects`, with the result. -/
def suspended (state : γ) : HRESULT × HostSurrogate γ :=
  let (sus, state) := com.coSuspendClassObjects state
  (sus, { com := state })

/-- After `RegisterAllClassFactories`, with its result and the specifications. -/
def registered (specs : List ClassSpec) (regcls : DWORD) (state : γ) :
    (HRESULT × List ClassSpec) × HostSurrogate γ :=
  let (sus, s) := suspended com state
  s.registerAllClassFactories com.toCom specs (succeeded sus) regcls

/-- The constructor; `readyEvent` says whether the event could be made, so that it can be
signalled. -/
def new (specs : List ClassSpec) (readyEvent : Bool) (regcls : DWORD) (state : γ) :
    RunAsStandalone γ :=
  let hasMultipleUse := Runtime.checkMultipleUse specs regcls
  let (sus, _) := suspended com state
  let ((hr, specs), s) := registered com specs regcls state
  let hasRegisteredClass := s.hasRegisteredClass
  let (res, state) :=
    if succeeded sus && hasRegisteredClass then
      let (res, state) := com.coResumeClassObjects s.com
      (succeeded res, state)
    else (false, s.com)
  { runtime := .constructed hasMultipleUse (succeeded sus) hasRegisteredClass res
    surrogate := { s with com := state }
    specs := specs
    ready := readyEvent && succeeded hr }

end RunAsStandalone

/-! ## What registering leaves in the table -/

namespace HostSurrogate

variable {γ : Type*} {com : Com γ}

/-- The entry is the class object of a specification. -/
def Serves (spec : ClassSpec) (e : ClassEntry) : Prop :=
  e.clsid = spec.aliasClsid ∧
    e.object = .hostContainerFactory spec.clsid spec.clsctxCreate ∧
    e.clsctx = spec.clsctxRegister ∧ e.regcls = spec.regcls

instance (spec : ClassSpec) (e : ClassEntry) : Decidable (Serves spec e) :=
  inferInstanceAs (Decidable (_ ∧ _ ∧ _ ∧ _))

theorem findOriginal_cookies (com : Com γ) (args : LoadDllServerExArgs) (s : HostSurrogate γ) :
    (findOriginal com args s).2.cookies = s.cookies := by
  unfold findOriginal
  dsimp only
  split
  · split <;> rfl
  · rfl

theorem insertCookie_ne_nil (s : HostSurrogate γ) (cookie : DWORD) :
    (s.insertCookie cookie).cookies ≠ [] := List.ne_nil_of_mem List.mem_insert_self

theorem registerOriginal_ne_nil (com : Com γ) (args : LoadDllServerExArgs)
    (original : Option ClassObject) {s : HostSurrogate γ} (hs : s.cookies ≠ []) :
    (registerOriginal com args original s).cookies ≠ [] := by
  unfold registerOriginal
  cases original with
  | none => exact hs
  | some original =>
      dsimp only
      split
      · exact insertCookie_ne_nil _ _
      · exact hs

theorem findOriginal_table (com : Com γ) (args : LoadDllServerExArgs)
    (s : HostSurrogate (γ × ClassTable)) :
    (findOriginal com.recorded args s).2.com.2 = s.com.2 := by
  unfold findOriginal
  dsimp only
  split
  · split <;> rfl
  · rfl

theorem not_suspended_original :
    hasFlag (REGCLS_MULTIPLEUSE ||| REGCLS_MULTI_SEPARATE) REGCLS_SUSPENDED = false := by
  decide

theorem registerOriginal_adds (com : Com γ) (args : LoadDllServerExArgs)
    (original : Option ClassObject) (s : HostSurrogate (γ × ClassTable)) : ∃ more,
    ClassTable.Adds s.com.2 (registerOriginal com.recorded args original s).com.2 more ∧
      ∀ e ∈ more, e.suspended = false := by
  unfold registerOriginal
  cases original with
  | none => exact ⟨[], .refl _, by simp⟩
  | some original =>
      dsimp only
      cases hfailed : failed (com.recorded.coRegisterClassObject s.com args.clsid original
          args.clsctxCreate (REGCLS_MULTIPLEUSE ||| REGCLS_MULTI_SEPARATE)).1.1 with
      | false =>
          rw [if_pos (by simp [hfailed])]
          refine ⟨_, ClassTable.register_adds _ _ _ _ _ hfailed, fun e he => ?_⟩
          obtain rfl := List.mem_singleton.mp he
          exact not_suspended_original
      | true =>
          rw [if_neg (by simp [hfailed])]
          refine ⟨[], ?_, by simp⟩
          rw [com.recorded_register, ClassTable.register_of_failed hfailed]
          exact .refl _

/-- A load comes to the registration of its class object with the table as it was; if that
fails it ends there. -/
theorem loadDllServerEx_recorded (com : Com γ) (args : LoadDllServerExArgs)
    (s : HostSurrogate (γ × ClassTable)) :
    ∃ original reg state, ∃ s₁ : HostSurrogate (γ × ClassTable), s₁.com.2 = s.com.2 ∧
      s₁.cookies = s.cookies ∧
      com.recorded.coRegisterClassObject s₁.com args.aliasClsid
        (.hostContainerFactory args.clsid args.clsctxCreate) args.clsctxRegister args.regcls =
          (reg, state) ∧
      loadDllServerEx com.recorded args s =
        if failed reg.1 then (reg.1, { s₁ with com := state })
        else (reg.1, registerOriginal com.recorded args original
          ({ s₁ with com := state }.insertCookie reg.2)) := by
  obtain ⟨found, s₁, reg, state, rfl, rfl, hreg, hload⟩ :=
    loadDllServerEx_cases com.recorded args s
  have htable := findOriginal_table com args { s with loads := s.loads ++ [args] }
  have hcookies := findOriginal_cookies com.recorded args { s with loads := s.loads ++ [args] }
  exact ⟨_, reg, state, (newContainerFactory com.recorded _ args.clsid args.clsctxCreate).2,
    htable, hcookies, hreg, hload⟩

theorem state_eq {s₁ : HostSurrogate (γ × ClassTable)} {args : LoadDllServerExArgs}
    {object : ClassObject} {reg : HRESULT × DWORD} {state : γ × ClassTable}
    (hreg : com.recorded.coRegisterClassObject s₁.com args.aliasClsid object args.clsctxRegister
      args.regcls = (reg, state)) :
    state.2 = s₁.com.2.register args.aliasClsid object args.clsctxRegister args.regcls reg := by
  have htable := com.recorded_register s₁.com args.aliasClsid object args.clsctxRegister
    args.regcls
  rwa [hreg] at htable

/-- A load that succeeds registers its class object, suspended as its flags say, and perhaps an
original, which is not. -/
theorem loadDllServerEx_of_succeeded {spec : ClassSpec} {s : HostSurrogate (γ × ClassTable)}
    (hok : failed (loadDllServerEx com.recorded (loadArgs spec) s).1 = false) : ∃ e more,
    ClassTable.Adds s.com.2 (loadDllServerEx com.recorded (loadArgs spec) s).2.com.2
      (e :: more) ∧ Serves spec e ∧ e.suspended = hasFlag spec.regcls REGCLS_SUSPENDED ∧
      ∀ e ∈ more, e.suspended = false := by
  obtain ⟨original, reg, state, s₁, htable, -, hreg, hload⟩ :=
    loadDllServerEx_recorded com (loadArgs spec) s
  rw [hload] at hok ⊢
  split_ifs at hok ⊢ with hr
  · exact absurd (hr.symm.trans hok) (by simp)
  · obtain ⟨more, hmore, hactive⟩ := registerOriginal_adds com (loadArgs spec) original
      ({ s₁ with com := state }.insertCookie reg.2)
    have hadds := ClassTable.register_adds s₁.com.2 (loadArgs spec).aliasClsid
      (.hostContainerFactory (loadArgs spec).clsid (loadArgs spec).clsctxCreate)
      (loadArgs spec).clsctxRegister (loadArgs spec).regcls (Bool.eq_false_iff.mpr hr)
    rw [← state_eq hreg, htable] at hadds
    exact ⟨_, more, hadds.trans hmore, ⟨rfl, rfl, rfl, rfl⟩, rfl, hactive⟩

/-- A surrogate has a cookie after a load if it had one, or if the load succeeds. -/
theorem loadDllServerEx_ne_nil_iff (com : Com γ) (args : LoadDllServerExArgs)
    (s : HostSurrogate γ) : (loadDllServerEx com args s).2.cookies ≠ [] ↔
      s.cookies ≠ [] ∨ failed (loadDllServerEx com args s).1 = false := by
  obtain ⟨found, s₁, reg, state, rfl, rfl, -, hload⟩ := loadDllServerEx_cases com args s
  have hcookies := findOriginal_cookies com args { s with loads := s.loads ++ [args] }
  rw [hload]
  split_ifs with hr
  · simp only [hr, Bool.true_eq_false, or_false]
    exact (Eq.congr_left hcookies).not
  · exact iff_of_true (registerOriginal_ne_nil com args _ (insertCookie_ne_nil _ _))
      (Or.inr (Bool.eq_false_iff.mpr hr))

theorem registerLoop_failed (com : Com γ) (regcls : DWORD) (specs : List ClassSpec)
    {hrOverall : HRESULT} (hfailed : failed hrOverall = true) (s : HostSurrogate γ) :
    failed (registerLoop com regcls specs hrOverall s).1.1 = true := by
  induction specs generalizing hrOverall s with
  | nil => exact hfailed
  | cons spec specs ih =>
      rw [registerLoop]
      dsimp only
      split
      · refine ih ?_ _
        simp [hfailed]
      · exact ih hfailed _

theorem registerLoop_cons_of_succeeded (com : Com γ) {regcls : DWORD} {spec : ClassSpec}
    {specs : List ClassSpec} {hrOverall : HRESULT} {s : HostSurrogate γ}
    (hok : failed (registerLoop com regcls (spec :: specs) hrOverall s).1.1 = false) :
    failed (loadDllServerEx com (loadArgs (spec.sanitize regcls)) s).1 = false ∧
      registerLoop com regcls (spec :: specs) hrOverall s =
        (((registerLoop com regcls specs hrOverall
              (loadDllServerEx com (loadArgs (spec.sanitize regcls)) s).2).1.1,
            { spec.sanitize regcls with
              result := (loadDllServerEx com (loadArgs (spec.sanitize regcls)) s).1 } ::
            (registerLoop com regcls specs hrOverall
              (loadDllServerEx com (loadArgs (spec.sanitize regcls)) s).2).1.2),
          (registerLoop com regcls specs hrOverall
            (loadDllServerEx com (loadArgs (spec.sanitize regcls)) s).2).2) := by
  rw [registerLoop] at hok ⊢
  dsimp only at hok ⊢
  split at hok
  · next hload =>
    -- a load that fails makes the loop fail, now or before
    have hfailed : failed (if succeeded hrOverall then
        (loadDllServerEx com (loadArgs (spec.sanitize regcls)) s).1 else hrOverall) = true := by
      cases hbefore : failed hrOverall with
      | true => simp [hbefore]
      | false => simp [hbefore, hload]
    exact absurd ((registerLoop_failed com regcls specs hfailed _).symm.trans hok) (by simp)
  · next hload =>
    rw [if_neg hload]
    exact ⟨Bool.eq_false_iff.mpr hload, rfl⟩

/-- What the loop has put into the table when it has succeeded: a class object for each
specification, and originals. -/
structure RegistersAll (s : HostSurrogate (γ × ClassTable)) (specs : List ClassSpec)
    (t : HostSurrogate (γ × ClassTable)) (entries : List ClassEntry) : Prop where
  adds : ClassTable.Adds s.com.2 t.com.2 entries
  serves : ∀ spec ∈ specs, ∃ e ∈ entries, Serves spec e ∧
    e.suspended = hasFlag spec.regcls REGCLS_SUSPENDED
  suspends : ∀ e ∈ entries, e.suspended = true →
    ∃ spec ∈ specs, hasFlag spec.regcls REGCLS_SUSPENDED = true
  cookies : s.cookies ≠ [] ∨ specs ≠ [] → t.cookies ≠ []

theorem registerLoop_spec (com : Com γ) {regcls : DWORD} {specs : List ClassSpec}
    {hrOverall : HRESULT} {s : HostSurrogate (γ × ClassTable)}
    (hok : failed (registerLoop com.recorded regcls specs hrOverall s).1.1 = false) :
    ((registerLoop com.recorded regcls specs hrOverall s).1.2.map ClassSpec.regcls =
        specs.map fun spec => (spec.sanitize regcls).regcls) ∧ ∃ entries,
      RegistersAll s (registerLoop com.recorded regcls specs hrOverall s).1.2
        (registerLoop com.recorded regcls specs hrOverall s).2 entries := by
  induction specs generalizing s with
  | nil => exact ⟨rfl, [], .refl _, by simp [registerLoop], by simp, by simp [registerLoop]⟩
  | cons spec specs ih =>
      obtain ⟨hload, heq⟩ := registerLoop_cons_of_succeeded com.recorded hok
      rw [heq] at hok ⊢
      obtain ⟨hregcls, entries, hadds, hserves, hsuspends, hcookies⟩ := ih hok
      obtain ⟨e, more, hadds₁, hserves₁, hsuspended, hactive⟩ := loadDllServerEx_of_succeeded hload
      have hne := (loadDllServerEx_ne_nil_iff com.recorded _ _).mpr (Or.inr hload)
      refine ⟨by rw [List.map_cons, List.map_cons, hregcls], (e :: more) ++ entries,
        hadds₁.trans hadds, ?_, fun e' he' hsus => ?_, fun _ => hcookies (Or.inl hne)⟩
      · rw [List.forall_mem_cons]
        refine ⟨⟨e, by simp, hserves₁, hsuspended⟩, fun x hx => ?_⟩
        obtain ⟨e', he', hx'⟩ := hserves x hx
        exact ⟨e', List.mem_append_right _ he', hx'⟩
      · rcases List.mem_append.mp he' with hfirst | hrest
        · rcases List.mem_cons.mp hfirst with rfl | hmore
          · exact ⟨_, List.mem_cons_self, hsuspended.symm.trans hsus⟩
          · exact absurd ((hactive e' hmore).symm.trans hsus) (by simp)
        · obtain ⟨x, hx, hflag⟩ := hsuspends e' hrest hsus
          exact ⟨x, List.mem_cons_of_mem _ hx, hflag⟩

end HostSurrogate

namespace RunAsStandalone

open HostSurrogate

variable {γ : Type*} (com : StandaloneCom γ)

/-- Every specification has its class object in the table, and none is suspended. -/
def Activatable (host : RunAsStandalone (γ × ClassTable)) : Prop :=
  (∀ spec ∈ host.specs, ∃ e ∈ host.surrogate.com.2.entries, Serves spec e) ∧
    host.surrogate.com.2.Active

instance (host : RunAsStandalone (γ × ClassTable)) : Decidable (Activatable host) :=
  inferInstanceAs (Decidable (_ ∧ _))

/-- The class objects could be suspended and resumed, or could not be suspended and none has
`REGCLS_SUSPENDED` from its item or from the global flags. -/
def Resumed (specs : List ClassSpec) (regcls : DWORD) (state : γ) : Prop :=
  if succeeded (suspended com state).1 = true then
    specs = [] ∨
      succeeded (com.coResumeClassObjects (registered com specs regcls state).2.com).1 = true
  else ∀ spec ∈ specs,
    hasFlag (spec.sanitize (mergedRegcls false regcls)).regcls REGCLS_SUSPENDED = false

/-! ## What the constructor leaves -/

variable {com} {specs : List ClassSpec} {readyEvent : Bool} {regcls : DWORD} {state : γ}

theorem new_ready : (new com specs readyEvent regcls state).ready =
    (readyEvent && succeeded (registered com specs regcls state).1.1) := rfl

/-- The table of a host: that of the registrations, and resumed where COM is asked to. -/
theorem new_table (com : StandaloneCom γ) (state : γ × ClassTable) :
    (new com.recorded specs readyEvent regcls state).surrogate.com.2 =
      if succeeded (suspended com.recorded state).1 &&
          (registered com.recorded specs regcls state).2.hasRegisteredClass then
        (registered com.recorded specs regcls state).2.com.2.resume
          (com.recorded.coResumeClassObjects (registered com.recorded specs regcls state).2.com).1
      else (registered com.recorded specs regcls state).2.com.2 := by
  unfold new
  dsimp only
  split
  · rfl
  · rfl

theorem suspended_table (com : StandaloneCom γ) (state : γ) :
    (suspended com.recorded (state, {})).2.com.2 =
      ClassTable.suspend {} (suspended com.recorded (state, {})).1 := rfl

theorem suspended_entries (com : StandaloneCom γ) (state : γ) :
    (suspended com.recorded (state, {})).2.com.2.entries = [] := by
  rw [suspended_table]
  unfold ClassTable.suspend
  split_ifs
  · rfl
  · rfl

theorem suspended_suspended (com : StandaloneCom γ) (state : γ) :
    (suspended com.recorded (state, {})).2.com.2.suspended =
      succeeded (suspended com.recorded (state, {})).1 := by
  rw [suspended_table]
  unfold ClassTable.suspend
  split_ifs with hfailed
  · simp [hfailed]
  · simp [hfailed]

theorem registered_spec
    (hready : failed (registered com.recorded specs regcls (state, {})).1.1 = false) :
    RegistersAll (suspended com.recorded (state, {})).2
      (registered com.recorded specs regcls (state, {})).1.2
      (registered com.recorded specs regcls (state, {})).2
      (registered com.recorded specs regcls (state, {})).2.com.2.entries := by
  obtain ⟨-, entries, hall⟩ := registerLoop_spec com.toCom hready
  have hentries : (registered com.recorded specs regcls (state, {})).2.com.2.entries = entries :=
    hall.adds.entries_eq.trans ((congrArg (· ++ entries) (suspended_entries com state)).trans
      (List.nil_append entries))
  exact hentries ▸ hall

theorem registered_regcls
    (hready : failed (registered com.recorded specs regcls (state, {})).1.1 = false) :
    (registered com.recorded specs regcls (state, {})).1.2.map ClassSpec.regcls =
      specs.map fun spec => (spec.sanitize (mergedRegcls
        (succeeded (suspended com.recorded (state, {})).1) regcls)).regcls :=
  (registerLoop_spec com.toCom hready).1

/-- When the class objects could not be suspended, those with `REGCLS_SUSPENDED` are. -/
theorem active_iff_of_not_suspended
    (hready : failed (registered com.recorded specs regcls (state, {})).1.1 = false)
    (hsus : succeeded (suspended com.recorded (state, {})).1 = false) :
    (registered com.recorded specs regcls (state, {})).2.com.2.Active ↔
      ∀ spec ∈ specs,
        hasFlag (spec.sanitize (mergedRegcls false regcls)).regcls REGCLS_SUSPENDED = false := by
  have hall := registered_spec hready
  have hregcls := registered_regcls hready
  rw [hsus] at hregcls
  have hflags : (∀ spec ∈ specs,
      hasFlag (spec.sanitize (mergedRegcls false regcls)).regcls REGCLS_SUSPENDED = false) ↔
      ∀ spec ∈ (registered com.recorded specs regcls (state, {})).1.2,
        hasFlag spec.regcls REGCLS_SUSPENDED = false := by
    have hmap := congrArg (fun flags => ∀ f ∈ flags, hasFlag f REGCLS_SUSPENDED = false) hregcls
    simpa using hmap.symm
  have hprocess : (registered com.recorded specs regcls (state, {})).2.com.2.suspended = false :=
    hall.adds.suspended_eq.trans ((suspended_suspended com state).trans hsus)
  rw [hflags]
  constructor
  · intro hactive spec hspec
    obtain ⟨e, he, -, hsuspended⟩ := hall.serves spec hspec
    exact hsuspended.symm.trans (hactive e he).2
  · intro hnone e he
    refine ⟨hprocess, Bool.eq_false_iff.mpr fun hsuspended => ?_⟩
    obtain ⟨spec, hspec, hflag⟩ := hall.suspends e he hsuspended
    exact absurd (hflag.symm.trans (hnone spec hspec)) (by simp)

/-- When they could be suspended, they are active once they are resumed. -/
theorem active_iff_of_suspended
    (hready : failed (registered com.recorded specs regcls (state, {})).1.1 = false)
    (hsus : succeeded (suspended com.recorded (state, {})).1 = true) :
    (new com.recorded specs readyEvent regcls (state, {})).surrogate.com.2.Active ↔
      specs = [] ∨ succeeded (com.recorded.coResumeClassObjects
        (registered com.recorded specs regcls (state, {})).2.com).1 = true := by
  rw [new_table, hsus, Bool.true_and]
  cases specs with
  | nil =>
      -- nothing is registered, and COM is not asked to resume anything
      refine iff_of_true (fun e he => ?_) (Or.inl rfl)
      have hnone : e ∈ (suspended com.recorded (state, {})).2.com.2.entries := he
      rw [suspended_entries] at hnone
      exact absurd hnone List.not_mem_nil
  | cons spec specs =>
      have hall := registered_spec hready
      have hne : (registered com.recorded (spec :: specs) regcls (state, {})).1.2 ≠ [] := by
        intro hnil
        have hregcls := registered_regcls hready
        rw [hnil] at hregcls
        exact absurd hregcls (by simp)
      obtain ⟨first, hfirst⟩ := List.exists_mem_of_ne_nil _ hne
      obtain ⟨e, he, -⟩ := hall.serves first hfirst
      have hhas : (registered com.recorded (spec :: specs) regcls
          (state, {})).2.hasRegisteredClass = true := by
        simpa [hasRegisteredClass] using hall.cookies (Or.inr hne)
      have hprocess := hall.adds.suspended_eq.trans ((suspended_suspended com state).trans hsus)
      rw [if_pos hhas, ClassTable.active_resume_iff he hprocess]
      simp

/-- Whatever became of resuming, each specification keeps its class object. -/
theorem new_serves
    (hready : failed (registered com.recorded specs regcls (state, {})).1.1 = false) :
    ∀ spec ∈ (new com.recorded specs readyEvent regcls (state, {})).specs,
      ∃ e ∈ (new com.recorded specs readyEvent regcls (state, {})).surrogate.com.2.entries,
        Serves spec e := by
  intro spec hspec
  obtain ⟨e, he, hserves, -⟩ := (registered_spec hready).serves spec hspec
  rw [new_table]
  split_ifs
  · obtain ⟨suspended, he'⟩ := ClassTable.mem_resume he _
    exact ⟨_, he', hserves⟩
  · exact ⟨e, he, hserves⟩

/-- When a host that has signalled its ready event can be activated. -/
theorem active_iff (com : StandaloneCom γ) (specs : List ClassSpec) (readyEvent : Bool)
    (regcls : DWORD) (state : γ)
    (hready : (new com.recorded specs readyEvent regcls (state, {})).ready = true) :
    Activatable (new com.recorded specs readyEvent regcls (state, {})) ↔
      Resumed com.recorded specs regcls (state, {}) := by
  have hok : failed (registered com.recorded specs regcls (state, {})).1.1 = false := by
    rw [new_ready, Bool.and_eq_true] at hready
    simpa using hready.2
  rw [Activatable, and_iff_right (new_serves hok), Resumed]
  split_ifs with hsus
  · exact active_iff_of_suspended hok hsus
  · rw [new_table, if_neg fun h => hsus (Bool.and_eq_true_iff.mp h).1]
    exact active_iff_of_not_suspended hok (Bool.eq_false_iff.mpr hsus)

/-- A COM that gives every registration the same cookie, with what its other calls return. -/
def fixedCom (sus res : HRESULT) : StandaloneCom Unit where
  coGetClassObject _ _ _ := ((E_FAIL, none), ())
  coRegisterClassObject _ _ _ _ _ := ((S_OK, 1), ())
  coRevokeClassObject _ _ := (S_OK, ())
  getLastError _ := 0
  getLastErrorMessage _ := []
  coSuspendClassObjects _ := (sus, ())
  coResumeClassObjects _ := (res, ())

theorem active_iff_resumed :
    Activatable (new (fixedCom S_OK S_OK).recorded [{ clsid := 1 }] true 0 ((), {})) ↔
      Resumed (fixedCom S_OK S_OK).recorded [{ clsid := 1 }] 0 ((), {}) :=
  active_iff (fixedCom S_OK S_OK) [{ clsid := 1 }] true 0 () (by decide)

/-- The event is signalled although the class objects could not be resumed. -/
theorem not_activatable_resumeFails :
    (new (fixedCom S_OK E_FAIL).recorded [{ clsid := 1 }] true 0 ((), {})).ready = true ∧
      ¬ Activatable (new (fixedCom S_OK E_FAIL).recorded [{ clsid := 1 }] true 0 ((), {})) := by
  decide

end RunAsStandalone

end Axhost
