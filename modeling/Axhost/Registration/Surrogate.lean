import Mathlib.Data.List.Forall2
import Axhost.Registration.ClassSpec

/-!
# Registering class factories

`surrogate.cc`.  COM is a parameter: a state of its own and the calls the surrogate
makes on it, with any outcome.  `loads` and `messages` are the calls of
`LoadDllServerEx` and the message boxes so far.
-/

namespace Axhost

/-- An object that can be registered as a class object. -/
inductive ClassObject
  | foreign (object : Nat)
  | hostContainerFactory (classId : QUuid) (classContext : DWORD)
deriving DecidableEq, Repr

/-- The calls the surrogate makes outside its own code. -/
structure Com (γ : Type*) where
  coGetClassObject : γ → QUuid → DWORD → (HRESULT × Option ClassObject) × γ
  coRegisterClassObject : γ → QUuid → ClassObject → DWORD → DWORD → (HRESULT × DWORD) × γ
  coRevokeClassObject : γ → DWORD → HRESULT × γ
  getLastError : γ → DWORD
  getLastErrorMessage : DWORD → QString

structure LoadDllServerExArgs where
  clsid : QUuid
  aliasClsid : QUuid
  clsctxCreate : DWORD
  clsctxRegister : DWORD
  regcls : DWORD
deriving DecidableEq, Repr

/-- The order in which an iteration goes through a `QSet`, with each element once. -/
structure Iteration where
  visit : List DWORD → List DWORD
  perm : ∀ cookies, (visit cookies).Perm cookies

structure HostSurrogate (γ : Type*) where
  com : γ
  cookies : List DWORD := []
  loads : List LoadDllServerExArgs := []
  messages : List MessageBox := []

namespace HostSurrogate

variable {γ : Type*} (com : Com γ)

def originalNotAvailable (clsid : QUuid) : MessageBox where
  template := "Warning: Original InProc Class Factory Not Available\n\n" ++
    "Multiple-use mode with alias == source requires the original InProc DLL.\n" ++
    "CoGetClassObject failed for CLSID: %1\n\n" ++
    "Self-instantiation may occur. Consider using an explicit alias."
  arguments := [QUuid.toString clsid]

def classRegistrationFailed (aliasInput : QString) (clsctx : DWORD) (message : QString) :
    MessageBox where
  template := "Error: Class Registration Failed\n\nCoRegisterClassObject failed.\n\n" ++
    "CLSID: '%1'\nCLSCTX: 0x%2\n\nError message:\n%3"
  arguments := [aliasInput, QString.number16 clsctx, message]

def insertCookie (s : HostSurrogate γ) (cookie : DWORD) : HostSurrogate γ :=
  { s with cookies := s.cookies.insert cookie }

def showMessage (s : HostSurrogate γ) (message : MessageBox) : HostSurrogate γ :=
  { s with messages := s.messages ++ [message] }

/-- `new HostContainerFactory(clsid, clsctx)`: the constructor looks the class up; what it
gets is only read when the factory is marshaled. -/
def newContainerFactory (s : HostSurrogate γ) (clsid : QUuid) (clsctx : DWORD) :
    ClassObject × HostSurrogate γ :=
  let (_, state) := com.coGetClassObject s.com clsid clsctx
  (.hostContainerFactory clsid clsctx, { s with com := state })

/-- The lookup of the original class factory, made before the surrogate's own registration
can shadow it. -/
def findOriginal (args : LoadDllServerExArgs) (s : HostSurrogate γ) :
    Option ClassObject × HostSurrogate γ :=
  let doesAutoInprogRegistration :=
    hasFlag args.clsctxRegister CLSCTX_LOCAL_SERVER && hasFlag args.regcls REGCLS_MULTIPLEUSE
  let canWorkaroundShortCircuit :=
    hasFlag args.clsctxCreate CLSCTX_INPROC_SERVER &&
      !hasFlag args.clsctxCreate CLSCTX_LOCAL_SERVER
  if doesAutoInprogRegistration && canWorkaroundShortCircuit then
    let ((getOrg, original), state) := com.coGetClassObject s.com args.clsid args.clsctxCreate
    let s := { s with com := state }
    if failed getOrg && args.aliasClsid == args.clsid then
      (original, s.showMessage (originalNotAvailable args.clsid))
    else (original, s)
  else (none, s)

/-- The extra registration of the original class factory. -/
def registerOriginal (args : LoadDllServerExArgs) (original : Option ClassObject)
    (s : HostSurrogate γ) : HostSurrogate γ :=
  match original with
  | none => s
  | some original =>
    let ((regCls, cookie), state) := com.coRegisterClassObject s.com args.clsid original
      args.clsctxCreate (REGCLS_MULTIPLEUSE ||| REGCLS_MULTI_SEPARATE)
    let s := { s with com := state }
    if succeeded regCls then s.insertCookie cookie else s

def loadDllServerEx (args : LoadDllServerExArgs) (s : HostSurrogate γ) :
    HRESULT × HostSurrogate γ :=
  let s := { s with loads := s.loads ++ [args] }
  let (original, s) := findOriginal com args s
  let (surrogate, s) := newContainerFactory com s args.clsid args.clsctxCreate
  let ((reg, cookie), state) := com.coRegisterClassObject s.com args.aliasClsid surrogate
    args.clsctxRegister args.regcls
  let s := { s with com := state }
  if failed reg then (reg, s)
  else (reg, registerOriginal com args original (s.insertCookie cookie))

/-- The arguments `RegisterAllClassFactories` takes from a specification. -/
def loadArgs (spec : ClassSpec) : LoadDllServerExArgs where
  clsid := spec.clsid
  aliasClsid := spec.aliasClsid
  clsctxCreate := spec.clsctxCreate
  clsctxRegister := spec.clsctxRegister
  regcls := spec.regcls

/-- The loop of `RegisterAllClassFactories`, with the specifications as it leaves them. -/
def registerLoop (regcls : DWORD) :
    List ClassSpec → HRESULT → HostSurrogate γ → (HRESULT × List ClassSpec) × HostSurrogate γ
  | [], hrOverall, s => ((hrOverall, []), s)
  | spec :: specs, hrOverall, s =>
    let spec := spec.sanitize regcls
    let (result, s) := loadDllServerEx com (loadArgs spec) s
    let spec := { spec with result := result }
    if failed result then
      let spec := { spec with error := com.getLastError s.com }
      let s := s.showMessage (classRegistrationFailed spec.aliasInput spec.clsctxRegister
        (com.getLastErrorMessage spec.error))
      let hrOverall := if succeeded hrOverall then result else hrOverall
      let ((hr, specs), s) := registerLoop regcls specs hrOverall s
      ((hr, spec :: specs), s)
    else
      let ((hr, specs), s) := registerLoop regcls specs hrOverall s
      ((hr, spec :: specs), s)

/-- The flags the loop gets: the global ones, suspended where that is asked for, and
separate in any case. -/
def mergedRegcls (suspend : Bool) (regcls : DWORD) : DWORD :=
  let regcls := if suspend then regcls ||| REGCLS_SUSPENDED else regcls
  regcls ||| REGCLS_MULTI_SEPARATE

def registerAllClassFactories (specs : List ClassSpec) (suspend : Bool) (regcls : DWORD)
    (s : HostSurrogate γ) : (HRESULT × List ClassSpec) × HostSurrogate γ :=
  registerLoop com (mergedRegcls suspend regcls) specs S_OK s

/-- The loop of `RevokeAllClassFactories`, over the cookies that are still to be visited. -/
def revokeLoop : List DWORD → HRESULT → HostSurrogate γ → HRESULT × HostSurrogate γ
  | [], hrOverall, s => (hrOverall, s)
  | cookie :: rest, hrOverall, s =>
    let (hr, state) := com.coRevokeClassObject s.com cookie
    let s := { s with com := state }
    if succeeded hr then revokeLoop rest hrOverall { s with cookies := s.cookies.erase cookie }
    else
      let hrOverall := if succeeded hrOverall then hr else hrOverall
      revokeLoop rest hrOverall s

def revokeAllClassFactories (iteration : Iteration) (s : HostSurrogate γ) :
    HRESULT × HostSurrogate γ :=
  revokeLoop com (iteration.visit s.cookies) S_OK s

def hasRegisteredClass (s : HostSurrogate γ) : Bool := !s.cookies.isEmpty

def loadDllServer (clsid : QUuid) (s : HostSurrogate γ) : HRESULT × HostSurrogate γ :=
  loadDllServerEx com
    { clsid := clsid
      aliasClsid := clsid
      clsctxCreate := CLSCTX_INPROC_SERVER
      clsctxRegister := CLSCTX_LOCAL_SERVER
      regcls := REGCLS_SURROGATE ||| REGCLS_MULTI_SEPARATE } s

/-- `FreeSurrogate`, with whether the exit could be queued. -/
def freeSurrogate (iteration : Iteration) (invoked : Bool) (s : HostSurrogate γ) :
    HRESULT × HostSurrogate γ :=
  let (hr, s) := revokeAllClassFactories com iteration s
  (if succeeded hr && !invoked then E_UNEXPECTED else hr, s)

/-! ## The calls of LoadDllServerEx -/

@[simp] theorem insertCookie_loads (s : HostSurrogate γ) (cookie : DWORD) :
    (s.insertCookie cookie).loads = s.loads := rfl

@[simp] theorem showMessage_loads (s : HostSurrogate γ) (message : MessageBox) :
    (s.showMessage message).loads = s.loads := rfl

@[simp] theorem newContainerFactory_loads (s : HostSurrogate γ) (clsid : QUuid)
    (clsctx : DWORD) : (newContainerFactory com s clsid clsctx).2.loads = s.loads := rfl

@[simp] theorem findOriginal_loads (args : LoadDllServerExArgs) (s : HostSurrogate γ) :
    (findOriginal com args s).2.loads = s.loads := by
  unfold findOriginal
  grind [showMessage_loads]

@[simp] theorem registerOriginal_loads (args : LoadDllServerExArgs)
    (original : Option ClassObject) (s : HostSurrogate γ) :
    (registerOriginal com args original s).loads = s.loads := by
  unfold registerOriginal
  grind [insertCookie_loads]

/-- A load looks the original up, makes the factory, and registers the factory and then the
original. -/
theorem loadDllServerEx_cases (args : LoadDllServerExArgs) (s : HostSurrogate γ) :
    ∃ found : Option ClassObject × HostSurrogate γ, ∃ s₁ : HostSurrogate γ, ∃ reg state,
      found = findOriginal com args { s with loads := s.loads ++ [args] } ∧
      s₁ = (newContainerFactory com found.2 args.clsid args.clsctxCreate).2 ∧
      com.coRegisterClassObject s₁.com args.aliasClsid
        (.hostContainerFactory args.clsid args.clsctxCreate) args.clsctxRegister args.regcls =
          (reg, state) ∧
      loadDllServerEx com args s =
        if failed reg.1 then (reg.1, { s₁ with com := state })
        else (reg.1, registerOriginal com args found.1
          ({ s₁ with com := state }.insertCookie reg.2)) := by
  refine ⟨_, _, _, _, rfl, rfl, rfl, ?_⟩
  rfl

theorem loadDllServerEx_loads (args : LoadDllServerExArgs) (s : HostSurrogate γ) :
    (loadDllServerEx com args s).2.loads = s.loads ++ [args] := by
  unfold loadDllServerEx
  dsimp only
  split
  · simp
  · simp

theorem registerLoop_loads (regcls : DWORD) (specs : List ClassSpec) (hrOverall : HRESULT)
    (s : HostSurrogate γ) :
    (registerLoop com regcls specs hrOverall s).2.loads =
      s.loads ++ specs.map fun spec => loadArgs (spec.sanitize regcls) := by
  induction specs generalizing hrOverall s with
  | nil => simp [registerLoop]
  | cons spec specs ih =>
      have hload := loadDllServerEx_loads com (loadArgs (spec.sanitize regcls)) s
      rw [registerLoop]
      dsimp only
      split
      · simp [ih, hload]
      · simp [ih, hload]

/-! ## What the loop leaves of its specifications -/

/-- What is left of a specification: its defaults, and what became of it. -/
def Records (regcls : DWORD) (spec recorded : ClassSpec) : Prop :=
  ∃ result error, recorded = { spec.sanitize regcls with result := result, error := error }

/-- The loop goes on with what a load leaves but a message, and keeps the first error. -/
theorem registerLoop_cons_cases (regcls : DWORD) (spec : ClassSpec)
    (specs : List ClassSpec) (hrOverall : HRESULT) (s : HostSurrogate γ) :
    ∃ load error, ∃ t : HostSurrogate γ,
      load = loadDllServerEx com (loadArgs (spec.sanitize regcls)) s ∧
      t.com = load.2.com ∧ t.cookies = load.2.cookies ∧
      registerLoop com regcls (spec :: specs) hrOverall s =
        let rest := registerLoop com regcls specs
          (if failed load.1 && succeeded hrOverall then load.1 else hrOverall) t
        ((rest.1.1, { spec.sanitize regcls with result := load.1, error := error } :: rest.1.2),
          rest.2) := by
  rw [registerLoop]
  dsimp only
  generalize loadDllServerEx com (loadArgs (spec.sanitize regcls)) s = load
  by_cases hfailed : failed load.1 = true
  · rw [if_pos hfailed]
    refine ⟨load, com.getLastError load.2.com, load.2.showMessage (classRegistrationFailed
      (spec.sanitize regcls).aliasInput (spec.sanitize regcls).clsctxRegister
      (com.getLastErrorMessage (com.getLastError load.2.com))), rfl, rfl, rfl, ?_⟩
    rw [hfailed, Bool.true_and]
  · rw [if_neg hfailed]
    refine ⟨load, (spec.sanitize regcls).error, load.2, rfl, rfl, rfl, ?_⟩
    rw [Bool.eq_false_iff.mpr hfailed, Bool.false_and, if_neg (by simp)]

theorem registerLoop_records (regcls : DWORD) (specs : List ClassSpec) (hrOverall : HRESULT)
    (s : HostSurrogate γ) :
    List.Forall₂ (Records regcls) specs (registerLoop com regcls specs hrOverall s).1.2 := by
  induction specs generalizing hrOverall s with
  | nil => exact .nil
  | cons spec specs ih =>
      obtain ⟨load, error, t, -, -, -, hloop⟩ :=
        registerLoop_cons_cases com regcls spec specs hrOverall s
      rw [hloop]
      exact .cons ⟨load.1, error, rfl⟩ (ih _ t)

theorem Records.loadArgs_eq {regcls : DWORD} {spec recorded : ClassSpec}
    (h : Records regcls spec recorded) : loadArgs recorded = loadArgs (spec.sanitize regcls) := by
  obtain ⟨result, error, rfl⟩ := h
  rfl

theorem mergedRegcls_ne_zero (suspend : Bool) (regcls : DWORD) :
    mergedRegcls suspend regcls ≠ 0 := by
  intro h
  have hbit := congrArg (fun flags : DWORD => flags.getLsbD 1) h
  simp [mergedRegcls, REGCLS_MULTI_SEPARATE] at hbit

end HostSurrogate

end Axhost
