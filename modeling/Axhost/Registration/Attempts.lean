import Mathlib.Data.List.Forall2
import Axhost.Registration.Startup

/-!
# What a start attempts

The constructor of `RunAsStandalone` goes on after a registration that fails.  It judges its
success by the cookies it has and by the result of `RegisterAllClassFactories`.

* `registerLoop_attempts`: the calls that registering a list of specifications makes;
* `RunAsStandalone.new_attempts`: what the constructor attempts, records and concludes.
-/

namespace Axhost

/-- A call of the surrogate on COM, with its outcome. -/
inductive ComCall
  | coGetClassObject (clsid : QUuid) (clsctx : DWORD) (outcome : HRESULT × Option ClassObject)
  | coRegisterClassObject (clsid : QUuid) (object : ClassObject) (clsctx regcls : DWORD)
      (outcome : HRESULT × DWORD)
  | coRevokeClassObject (cookie : DWORD) (outcome : HRESULT)
  | coSuspendClassObjects (outcome : HRESULT)
  | coResumeClassObjects (outcome : HRESULT)
deriving DecidableEq, Repr

/-- COM with the calls that have been made on it. -/
def Com.logged {γ : Type*} (com : Com γ) : Com (γ × List ComCall) where
  coGetClassObject s clsid clsctx :=
    let (outcome, state) := com.coGetClassObject s.1 clsid clsctx
    (outcome, (state, s.2 ++ [.coGetClassObject clsid clsctx outcome]))
  coRegisterClassObject s clsid object clsctx regcls :=
    let (outcome, state) := com.coRegisterClassObject s.1 clsid object clsctx regcls
    (outcome, (state, s.2 ++ [.coRegisterClassObject clsid object clsctx regcls outcome]))
  coRevokeClassObject s cookie :=
    let (hr, state) := com.coRevokeClassObject s.1 cookie
    (hr, (state, s.2 ++ [.coRevokeClassObject cookie hr]))
  getLastError s := com.getLastError s.1
  getLastErrorMessage := com.getLastErrorMessage

def StandaloneCom.logged {γ : Type*} (com : StandaloneCom γ) :
    StandaloneCom (γ × List ComCall) where
  toCom := com.toCom.logged
  coSuspendClassObjects s :=
    let (hr, state) := com.coSuspendClassObjects s.1
    (hr, (state, s.2 ++ [.coSuspendClassObjects hr]))
  coResumeClassObjects s :=
    let (hr, state) := com.coResumeClassObjects s.1
    (hr, (state, s.2 ++ [.coResumeClassObjects hr]))

theorem Com.logged_register {γ : Type*} (com : Com γ) (s : γ × List ComCall) (clsid : QUuid)
    (object : ClassObject) (clsctx regcls : DWORD) :
    (com.logged.coRegisterClassObject s clsid object clsctx regcls).2.2 =
      s.2 ++ [.coRegisterClassObject clsid object clsctx regcls
        (com.logged.coRegisterClassObject s clsid object clsctx regcls).1] := rfl

def ComCall.isLookup : ComCall → Bool
  | .coGetClassObject _ _ _ => true
  | _ => false

namespace HostSurrogate

variable {γ : Type*} {com : Com γ}

/-- The registration of the original class object of a specification. -/
def IsExtra (args : LoadDllServerExArgs) (call : ComCall) : Prop :=
  ∃ original outcome, call = .coRegisterClassObject args.clsid original args.clsctxCreate
    (REGCLS_MULTIPLEUSE ||| REGCLS_MULTI_SEPARATE) outcome

/-- One attempt at a specification: lookups, its own registration, and when that has succeeded
perhaps the one of the original. -/
def IsAttempt (args : LoadDllServerExArgs) (hr : HRESULT) (calls : List ComCall) : Prop :=
  ∃ lookups cookie extra, calls = lookups ++ .coRegisterClassObject args.aliasClsid
      (.hostContainerFactory args.clsid args.clsctxCreate) args.clsctxRegister args.regcls
      (hr, cookie) :: extra ∧
    (∀ call ∈ lookups, call.isLookup = true) ∧
    (extra = [] ∨ failed hr = false ∧ ∃ call, extra = [call] ∧ IsExtra args call)

/-! ## One load -/

theorem findOriginal_logged (com : Com γ) (args : LoadDllServerExArgs)
    (s : HostSurrogate (γ × List ComCall)) : ∃ lookups,
    (findOriginal com.logged args s).2.com.2 = s.com.2 ++ lookups ∧
      ∀ call ∈ lookups, call.isLookup = true := by
  unfold findOriginal
  dsimp only
  split
  · refine ⟨[.coGetClassObject args.clsid args.clsctxCreate
      (com.coGetClassObject s.com.1 args.clsid args.clsctxCreate).1], ?_,
      by simp [ComCall.isLookup]⟩
    split
    · rfl
    · rfl
  · exact ⟨[], (List.append_nil _).symm, by simp⟩

theorem registerOriginal_logged (com : Com γ) (args : LoadDllServerExArgs)
    (original : Option ClassObject) (s : HostSurrogate (γ × List ComCall)) : ∃ extra,
    (registerOriginal com.logged args original s).com.2 = s.com.2 ++ extra ∧
      (extra = [] ∨ ∃ call, extra = [call] ∧ IsExtra args call) := by
  unfold registerOriginal
  cases original with
  | none => exact ⟨[], (List.append_nil _).symm, Or.inl rfl⟩
  | some original =>
      dsimp only
      refine ⟨_, ?_, Or.inr ⟨_, rfl, original, (com.coRegisterClassObject s.com.1 args.clsid
        original args.clsctxCreate (REGCLS_MULTIPLEUSE ||| REGCLS_MULTI_SEPARATE)).1, rfl⟩⟩
      split
      · rfl
      · rfl

theorem loadDllServerEx_attempt (com : Com γ) (args : LoadDllServerExArgs)
    (s : HostSurrogate (γ × List ComCall)) : ∃ calls,
    (loadDllServerEx com.logged args s).2.com.2 = s.com.2 ++ calls ∧
      IsAttempt args (loadDllServerEx com.logged args s).1 calls := by
  obtain ⟨found, s₁, ⟨hr, cookie⟩, state, hfound, hs₁, hreg, hload⟩ :=
    loadDllServerEx_cases com.logged args s
  obtain ⟨lookups, hlookups, hall⟩ :=
    findOriginal_logged com args { s with loads := s.loads ++ [args] }
  rw [← hfound] at hlookups
  -- the factory looks its class up as it is made
  have hfactory : s₁.com.2 = s.com.2 ++ (lookups ++ [.coGetClassObject args.clsid
      args.clsctxCreate (com.coGetClassObject found.2.com.1 args.clsid args.clsctxCreate).1]) := by
    rw [hs₁, ← List.append_assoc, ← hlookups]
    rfl
  have hstate := com.logged_register s₁.com args.aliasClsid
    (.hostContainerFactory args.clsid args.clsctxCreate) args.clsctxRegister args.regcls
  rw [hreg, hfactory] at hstate
  dsimp only at hload hstate
  have hlookup : ∀ call ∈ lookups ++ [.coGetClassObject args.clsid args.clsctxCreate
      (com.coGetClassObject found.2.com.1 args.clsid args.clsctxCreate).1],
      ComCall.isLookup call = true := by
    simpa [ComCall.isLookup, or_imp, forall_and] using hall
  rw [hload]
  split_ifs with hfailed
  · refine ⟨_, hstate.trans (List.append_assoc _ _ _), _, cookie, [], rfl, hlookup, Or.inl rfl⟩
  · obtain ⟨extra, hextra, hshape⟩ := registerOriginal_logged com args found.1
      ({ s₁ with com := state }.insertCookie cookie)
    refine ⟨_, ?_, _, cookie, extra, rfl, hlookup, hshape.imp_right fun h =>
      ⟨Bool.eq_false_iff.mpr hfailed, h⟩⟩
    rw [hextra]
    show state.2 ++ extra = _
    rw [hstate]
    simp

/-! ## The loop -/

/-- The calls on COM are attempts at the specifications, in the order of the list, and each has
the result of its own registration. -/
structure Attempts (regcls : DWORD) (specs recorded : List ClassSpec) (calls : List ComCall) :
    Prop where
  records : List.Forall₂ (Records regcls) specs recorded
  calls : ∃ blocks, calls = blocks.flatten ∧
    List.Forall₂ (fun spec block => IsAttempt (loadArgs spec) spec.result block) recorded blocks

def firstFailure (specs : List ClassSpec) : Option HRESULT :=
  (specs.map ClassSpec.result).find? failed

theorem firstFailure_cons (spec : ClassSpec) (specs : List ClassSpec) :
    firstFailure (spec :: specs) =
      if failed spec.result then some spec.result else firstFailure specs := by
  unfold firstFailure
  rw [List.map_cons, List.find?_cons]
  split
  · next hfailed => rw [if_pos hfailed]
  · next hok => rw [hok, if_neg (by simp)]

theorem failed_firstFailure (specs : List ClassSpec) :
    failed ((firstFailure specs).getD S_OK) = false ↔
      ∀ spec ∈ specs, failed spec.result = false := by
  induction specs with
  | nil => simp [firstFailure, failed_S_OK]
  | cons spec specs ih =>
      rw [firstFailure_cons, List.forall_mem_cons]
      split_ifs with hfailed
      · simp [hfailed]
      · rw [ih, and_iff_right (Bool.eq_false_iff.mpr hfailed)]

/-- The loop attempts every specification, whatever becomes of the others. -/
theorem registerLoop_attempts (com : Com γ) (regcls : DWORD) (specs : List ClassSpec)
    (hrOverall : HRESULT) (s : HostSurrogate (γ × List ComCall)) : ∃ calls,
    (registerLoop com.logged regcls specs hrOverall s).2.com.2 = s.com.2 ++ calls ∧
      Attempts regcls specs (registerLoop com.logged regcls specs hrOverall s).1.2 calls := by
  induction specs generalizing hrOverall s with
  | nil => exact ⟨[], (List.append_nil _).symm, .nil, [], rfl, .nil⟩
  | cons spec specs ih =>
      obtain ⟨load, error, t, rfl, hcom, -, hloop⟩ :=
        registerLoop_cons_cases com.logged regcls spec specs hrOverall s
      obtain ⟨block, hblock, hattempt⟩ :=
        loadDllServerEx_attempt com (loadArgs (spec.sanitize regcls)) s
      obtain ⟨calls, hcalls, hrecords, blocks, rfl, hblocks⟩ := ih _ t
      rw [hloop]
      refine ⟨block ++ blocks.flatten, ?_, .cons ⟨_, error, rfl⟩ hrecords,
        block :: blocks, rfl, .cons hattempt hblocks⟩
      rw [hcalls, hcom, hblock, List.append_assoc]

/-- Its result is an error that it starts with, or the first that is recorded. -/
theorem registerLoop_hr (com : Com γ) (regcls : DWORD) (specs : List ClassSpec)
    (hrOverall : HRESULT) (s : HostSurrogate γ) :
    (registerLoop com regcls specs hrOverall s).1.1 =
      if failed hrOverall then hrOverall
      else (firstFailure (registerLoop com regcls specs hrOverall s).1.2).getD hrOverall := by
  induction specs generalizing hrOverall s with
  | nil => exact (ite_self _).symm
  | cons spec specs ih =>
      obtain ⟨load, error, t, -, -, -, hloop⟩ :=
        registerLoop_cons_cases com regcls spec specs hrOverall s
      rw [hloop]
      dsimp only
      rw [ih, firstFailure_cons]
      cases hbefore : failed hrOverall with
      | true => simp [hbefore]
      | false =>
          cases hload : failed load.1 with
          | true => simp [hbefore, hload]
          | false => simp [hbefore]

theorem registerLoop_ne_nil_iff (com : Com γ) (regcls : DWORD) (specs : List ClassSpec)
    (hrOverall : HRESULT) (s : HostSurrogate γ) :
    (registerLoop com regcls specs hrOverall s).2.cookies ≠ [] ↔ s.cookies ≠ [] ∨
      ∃ spec ∈ (registerLoop com regcls specs hrOverall s).1.2, failed spec.result = false := by
  induction specs generalizing hrOverall s with
  | nil => simp [registerLoop]
  | cons spec specs ih =>
      obtain ⟨load, error, t, rfl, -, hcookies, hloop⟩ :=
        registerLoop_cons_cases com regcls spec specs hrOverall s
      rw [hloop]
      dsimp only
      rw [ih, hcookies, loadDllServerEx_ne_nil_iff, or_assoc, List.exists_mem_cons_iff]

end HostSurrogate

namespace RunAsStandalone

open HostSurrogate

variable {γ : Type*}

/-- A start attempts every specification of its list, records what becomes of it, and concludes
from that whether to exit and whether to signal the ready event. -/
structure RightStart (com : StandaloneCom γ) (specs : List ClassSpec) (readyEvent : Bool)
    (regcls : DWORD) (host : RunAsStandalone (γ × List ComCall)) : Prop where
  attempts : ∃ sus calls resumes, host.surrogate.com.2 =
      .coSuspendClassObjects sus :: calls ++ resumes ∧
    Attempts (mergedRegcls (succeeded sus) regcls) specs host.specs calls ∧
    (resumes = [] ∨ ∃ hr, resumes = [.coResumeClassObjects hr])
  exits : host.runtime.exitEvents =
    if ∀ spec ∈ host.specs, failed spec.result = true then 1 else 0
  signals : host.ready = true ↔
    readyEvent = true ∧ ∀ spec ∈ host.specs, failed spec.result = false
  result : ∀ (suspend : Bool) (s : HostSurrogate (γ × List ComCall)),
    (s.registerAllClassFactories com.logged.toCom specs suspend regcls).1.1 =
      (firstFailure (s.registerAllClassFactories com.logged.toCom specs suspend regcls).1.2).getD
        S_OK

/-! ## The calls of a start -/

theorem constructed_exitEvents (hasMultipleUse sus hasRegisteredClass res : Bool) :
    (Runtime.constructed hasMultipleUse sus hasRegisteredClass res).exitEvents =
      if hasRegisteredClass then 0 else 1 := by
  cases hasRegisteredClass with
  | false => cases sus <;> rfl
  | true => cases sus <;> cases res <;> rfl

theorem new_resumes (com : StandaloneCom γ) (specs : List ClassSpec) (readyEvent : Bool)
    (regcls : DWORD) (state : γ × List ComCall) : ∃ resumes,
    (new com.logged specs readyEvent regcls state).surrogate.com.2 =
      (registered com.logged specs regcls state).2.com.2 ++ resumes ∧
      (resumes = [] ∨ ∃ hr, resumes = [.coResumeClassObjects hr]) := by
  unfold new
  dsimp only
  split
  · exact ⟨_, rfl, Or.inr ⟨_, rfl⟩⟩
  · exact ⟨[], (List.append_nil _).symm, Or.inl rfl⟩

theorem registered_hasRegisteredClass (com : StandaloneCom γ) (specs : List ClassSpec)
    (regcls : DWORD) (state : γ) :
    (registered com specs regcls state).2.hasRegisteredClass = true ↔
      ∃ spec ∈ (registered com specs regcls state).1.2, failed spec.result = false := by
  have hcookies := registerLoop_ne_nil_iff com.toCom
    (mergedRegcls (succeeded (suspended com state).1) regcls) specs S_OK (suspended com state).2
  have hfresh : (suspended com state).2.cookies = [] := rfl
  rw [hfresh, or_iff_right (not_not.mpr rfl)] at hcookies
  rw [hasRegisteredClass, Bool.not_eq_true', List.isEmpty_eq_false_iff]
  exact hcookies

theorem registerAllClassFactories_hr (com : Com γ) (specs : List ClassSpec) (suspend : Bool)
    (regcls : DWORD) (s : HostSurrogate γ) :
    (s.registerAllClassFactories com specs suspend regcls).1.1 =
      (firstFailure (s.registerAllClassFactories com specs suspend regcls).1.2).getD S_OK := by
  have hresult := registerLoop_hr com (mergedRegcls suspend regcls) specs S_OK s
  rw [failed_S_OK, if_neg (by simp)] at hresult
  exact hresult

theorem new_attempts (com : StandaloneCom γ) (specs : List ClassSpec) (readyEvent : Bool)
    (regcls : DWORD) (state : γ) :
    RightStart com specs readyEvent regcls
      (new com.logged specs readyEvent regcls (state, [])) where
  attempts := by
    obtain ⟨resumes, hresumes, hshape⟩ :=
      new_resumes com specs readyEvent regcls (state, [])
    obtain ⟨calls, hcalls, hattempts⟩ := registerLoop_attempts com.toCom
      (mergedRegcls (succeeded (suspended com.logged (state, [])).1) regcls) specs S_OK
      (suspended com.logged (state, [])).2
    refine ⟨(suspended com.logged (state, [])).1, calls, resumes, ?_, hattempts, hshape⟩
    rw [hresumes]
    exact congrArg (· ++ resumes) hcalls
  exits := by
    have hhas := registered_hasRegisteredClass com.logged specs regcls (state, [])
    have hexits : (new com.logged specs readyEvent regcls (state, [])).runtime.exitEvents =
        if (registered com.logged specs regcls (state, [])).2.hasRegisteredClass then 0 else 1 :=
      constructed_exitEvents _ _ _ _
    rw [hexits]
    split_ifs with hregistered hall hall
    · obtain ⟨spec, hspec, hok⟩ := hhas.mp hregistered
      exact absurd ((hall spec hspec).symm.trans hok) (by simp)
    · rfl
    · rfl
    · refine absurd (fun spec hspec => ?_) hall
      exact Bool.of_not_eq_false fun hok => hregistered (hhas.mpr ⟨spec, hspec, hok⟩)
  signals := by
    have hresult := registerAllClassFactories_hr com.logged.toCom specs
      (succeeded (suspended com.logged (state, [])).1) regcls (suspended com.logged (state, [])).2
    rw [new_ready, Bool.and_eq_true, succeeded_eq, Bool.not_eq_true', ← failed_firstFailure]
    exact and_congr_right fun _ => by rw [registered, hresult]; rfl
  result suspend s := registerAllClassFactories_hr _ specs suspend regcls s

end RunAsStandalone

end Axhost
