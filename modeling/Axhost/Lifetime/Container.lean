import Axhost.Platform.Windows
import Axhost.Lifetime.Runtime

/-!
# Containers and their factory

`container.cc` and `container_factory.cc`.  A container answers five interface
identifiers itself and hands every other one to the hosted control, whose own
`QueryInterface` then counts the reference.
-/

namespace Axhost

/-- A pointer to one of the container's bases, or to an interface of the control. -/
inductive InterfacePtr
  | provideClassInfo2
  | provideClassInfo
  | connectionPointContainer
  | externalConnection
  | control (riid : IID)
deriving DecidableEq, Repr

namespace InterfacePtr

/-- Whether the pointer is one to the container, which then counts its references. -/
def ofContainer : InterfacePtr → Bool
  | control _ => false
  | _ => true

end InterfacePtr

/-- The hosted control: whether it loaded (with the system's message if not), and what its
`QueryInterface` supports. -/
structure Control where
  isNull : Bool
  supports : IID → Bool
  errorMessage : QString := []

/-- An interface the control supports is answered with the control's own pointer and a
reference on the control; the container is not involved. -/
def Control.queryInterface (control : Control) (riid : IID) : HRESULT × Option InterfacePtr :=
  if control.supports riid then (S_OK, some (.control riid)) else (E_NOINTERFACE, none)

structure HostContainer where
  ref : DWORD := 0
  classId : QUuid
  classContext : DWORD
  control : Control

namespace HostContainer

/-- The base of the container that a `riid` names. -/
def ownInterface (riid : IID) : Option InterfacePtr :=
  if riid = IID_IUnknown then some .provideClassInfo2
  else if riid = IID_IProvideClassInfo2 then some .provideClassInfo2
  else if riid = IID_IProvideClassInfo then some .provideClassInfo
  else if riid = IID_IConnectionPointContainer then some .connectionPointContainer
  else if riid = IID_IExternalConnection then some .externalConnection
  else none

def addRef (c : HostContainer) : HostContainer := { c with ref := c.ref + 1 }

/-- The container is gone when its count is zero; its destructor gives up the server
reference. -/
def release (c : HostContainer) (rt : Runtime) : Option HostContainer × Runtime :=
  let n := c.ref - 1
  if n = 0 then (none, rt.releaseServerReference) else (some { c with ref := n }, rt)

def isInitialized (c : HostContainer) : Bool := !c.control.isNull

def queryInterface (c : HostContainer) (riid : IID) (ppv : Bool) :
    HRESULT × Option InterfacePtr × HostContainer :=
  if ppv = false then (E_POINTER, none, c)
  else match ownInterface riid with
    | some p => (S_OK, some p, c.addRef)
    | none =>
      if c.control.isNull then (E_NOINTERFACE, none, c)
      else
        let (hr, p) := c.control.queryInterface riid
        (hr, p, c)

def controlLoadingFailed (classId : QUuid) (classContext : DWORD) (message : QString) :
    MessageBox where
  template := "Error: Control Loading Failed\n\nFailed to load control.\n\n" ++
    "CLSID: '%1'\nCLSCTX: 0x%2\n\nError message:\n%3"
  arguments := [QUuid.toString classId, QString.number16 classContext, message]

/-- The constructor takes the server reference before it loads the control. -/
def new (classId : QUuid) (classContext : DWORD) (control : Control) (rt : Runtime) :
    HostContainer × Runtime :=
  let rt := rt.addServerReference
  let rt := if control.isNull then
      { rt with messages :=
          rt.messages ++ [controlLoadingFailed classId classContext control.errorMessage] }
    else rt
  ({ classId := classId, classContext := classContext, control := control }, rt)

@[simp] theorem new_ref (classId : QUuid) (classContext : DWORD) (control : Control)
    (rt : Runtime) : (new classId classContext control rt).1.ref = 0 := rfl

@[simp] theorem new_control (classId : QUuid) (classContext : DWORD) (control : Control)
    (rt : Runtime) : (new classId classContext control rt).1.control = control := rfl

@[simp] theorem new_com (classId : QUuid) (classContext : DWORD) (control : Control)
    (rt : Runtime) :
    (new classId classContext control rt).2.com = rt.addServerReference.com := by
  unfold new
  dsimp only
  split_ifs <;> rfl

@[simp] theorem new_exitEvents (classId : QUuid) (classContext : DWORD) (control : Control)
    (rt : Runtime) : (new classId classContext control rt).2.exitEvents = rt.exitEvents := by
  unfold new
  dsimp only
  split_ifs <;> rfl

@[simp] theorem new_warningOpen (classId : QUuid) (classContext : DWORD) (control : Control)
    (rt : Runtime) : (new classId classContext control rt).2.warningOpen = rt.warningOpen := by
  unfold new
  dsimp only
  split_ifs <;> rfl

@[simp] theorem addRef_ref (c : HostContainer) : c.addRef.ref = c.ref + 1 := rfl

@[simp] theorem addRef_control (c : HostContainer) : c.addRef.control = c.control := rfl

theorem ownInterface_ofContainer {riid : IID} {p : InterfacePtr}
    (h : ownInterface riid = some p) : p.ofContainer = true := by
  unfold ownInterface at h
  split_ifs at h <;> cases h <;> rfl

theorem release_of_one {c : HostContainer} (h : c.ref = 1) (rt : Runtime) :
    c.release rt = (none, rt.releaseServerReference) := by
  simp [release, h]

theorem release_of_ne_one {c : HostContainer} (h : c.ref ≠ 1) (rt : Runtime) :
    c.release rt = (some { c with ref := c.ref - 1 }, rt) := by
  have hne : c.ref - 1 ≠ 0 := by
    intro hzero
    apply h
    calc c.ref = c.ref - 1 + 1 := (BitVec.sub_add_cancel c.ref 1).symm
      _ = 1 := by rw [hzero]; rfl
  simp only [release, if_neg hne]

theorem queryInterface_own {riid : IID} {p : InterfacePtr} (h : ownInterface riid = some p)
    (c : HostContainer) : c.queryInterface riid true = (S_OK, some p, c.addRef) := by
  simp [queryInterface, h]

theorem queryInterface_control {riid : IID} (h : ownInterface riid = none)
    {c : HostContainer} (hnull : c.control.isNull = false)
    (hsupports : c.control.supports riid = true) :
    c.queryInterface riid true = (S_OK, some (.control riid), c) := by
  simp [queryInterface, Control.queryInterface, h, hnull, hsupports]

theorem queryInterface_unsupported {riid : IID} (h : ownInterface riid = none)
    {c : HostContainer} (hsupports : c.control.supports riid = false) :
    c.queryInterface riid true = (E_NOINTERFACE, none, c) := by
  simp [queryInterface, Control.queryInterface, h, hsupports]

theorem queryInterface_delegated {riid : IID} (h : ownInterface riid = none) {c : HostContainer}
    {p : InterfacePtr} (hp : (c.queryInterface riid true).2.1 = some p) : p = .control riid := by
  unfold queryInterface Control.queryInterface at hp
  rw [if_neg (by decide), h] at hp
  dsimp only at hp
  split_ifs at hp
  · exact (Option.some.inj hp).symm

/-- `QueryInterface` hands out one of the container's bases and counts it, hands out a
pointer to the control and counts nothing, or gives nothing. -/
theorem queryInterface_cases (c : HostContainer) (riid : IID) (ppv : Bool) :
    (∃ p, p.ofContainer = true ∧ (c.queryInterface riid ppv).2 = (some p, c.addRef)) ∨
    (c.queryInterface riid ppv).2 = (some (.control riid), c) ∨
    (c.queryInterface riid ppv).2 = (none, c) := by
  cases ppv with
  | false => exact Or.inr (Or.inr rfl)
  | true =>
      cases hown : ownInterface riid with
      | some p =>
          rw [queryInterface_own hown]
          exact Or.inl ⟨p, ownInterface_ofContainer hown, rfl⟩
      | none =>
          cases hsupports : c.control.supports riid with
          | false =>
              rw [queryInterface_unsupported hown hsupports]
              exact Or.inr (Or.inr rfl)
          | true =>
              cases hnull : c.control.isNull with
              | false =>
                  rw [queryInterface_control hown hnull hsupports]
                  exact Or.inr (Or.inl rfl)
              | true =>
                  apply Or.inr
                  apply Or.inr
                  simp [queryInterface, hown, hnull]

end HostContainer

structure HostContainerFactory where
  classId : QUuid
  classContext : DWORD
deriving DecidableEq, Repr

namespace HostContainerFactory

def lockServer (fLock : Bool) (rt : Runtime) : Runtime :=
  if fLock then rt.addServerReference else rt.releaseServerReference

/-- `CreateInstance` on a control that loads as `control` says: the result, the pointer, and
the container if it is still there at the end.  The message box of a control that does not load is
closed at once. -/
def createInstance (f : HostContainerFactory) (control : Control) (outer : Bool) (riid : IID)
    (ppv : Bool) (rt : Runtime) : HRESULT × Option InterfacePtr × Option HostContainer × Runtime :=
  if ppv = false then (E_POINTER, none, none, rt)
  else if outer then (CLASS_E_NOAGGREGATION, none, none, rt)
  else
    let (container, rt) := HostContainer.new f.classId f.classContext control rt
    -- the `CComPtr` holds a reference until `CreateInstance` returns
    let container := container.addRef
    if container.isInitialized = false then
      let (container, rt) := container.release rt
      (CLASS_E_CLASSNOTAVAILABLE, none, container, rt)
    else
      let (hr, p, container) := container.queryInterface riid ppv
      let (container, rt) := container.release rt
      (hr, p, container, rt)

variable (f : HostContainerFactory) {control : Control} {riid : IID} (rt : Runtime)

/-- A pointer to one of the container's own interfaces keeps the container. -/
theorem createInstance_own {p : InterfacePtr} (hnull : control.isNull = false)
    (hown : HostContainer.ownInterface riid = some p) :
    f.createInstance control false riid true rt =
      (S_OK, some p,
        some { (HostContainer.new f.classId f.classContext control rt).1 with ref := 1 },
        (HostContainer.new f.classId f.classContext control rt).2) := by
  set c := (HostContainer.new f.classId f.classContext control rt).1 with hc
  have hrelease := HostContainer.release_of_ne_one (c := c.addRef.addRef) (by simp [hc])
    (HostContainer.new f.classId f.classContext control rt).2
  have hinit : c.addRef.isInitialized = true := by simp [HostContainer.isInitialized, hc, hnull]
  have href : c.addRef.addRef.ref - 1 = 1 := by
    simp [hc]
  simp only [createInstance, ← hc, hinit, HostContainer.queryInterface_own hown, hrelease, href]
  rfl

/-- A pointer to the control does not. -/
theorem createInstance_control (hnull : control.isNull = false)
    (hown : HostContainer.ownInterface riid = none) (hsupports : control.supports riid = true) :
    f.createInstance control false riid true rt =
      (S_OK, some (.control riid), none,
        (HostContainer.new f.classId f.classContext control rt).2.releaseServerReference) := by
  simp [createInstance, HostContainer.isInitialized, HostContainer.queryInterface_control hown,
    hnull, hsupports, HostContainer.release_of_one]

theorem createInstance_unsupported (hnull : control.isNull = false)
    (hown : HostContainer.ownInterface riid = none) (hsupports : control.supports riid = false) :
    f.createInstance control false riid true rt =
      (E_NOINTERFACE, none, none,
        (HostContainer.new f.classId f.classContext control rt).2.releaseServerReference) := by
  simp [createInstance, HostContainer.isInitialized,
    HostContainer.queryInterface_unsupported hown, hnull, hsupports, HostContainer.release_of_one]

theorem createInstance_isNull (hnull : control.isNull = true) :
    f.createInstance control false riid true rt =
      (CLASS_E_CLASSNOTAVAILABLE, none, none,
        (HostContainer.new f.classId f.classContext control rt).2.releaseServerReference) := by
  simp [createInstance, HostContainer.isInitialized, hnull, HostContainer.release_of_one]

end HostContainerFactory

end Axhost
