import Axhost.Lib.Transition
import Axhost.Lifetime.Container

/-!
# One client and its container

A client creates an instance, asks its pointers for others, and takes and gives up
references.  The container lives on the references to its own interfaces only, so it is
gone, and its server reference with it, as soon as the client is left with pointers to
the control.  `backed_iff` states exactly when that does not happen.
-/

namespace Axhost

open Transition

/-- The references a client holds, the container they came from while it exists, and the
control it hosts. -/
structure Session where
  runtime : Runtime
  container : Option HostContainer
  control : Control
  held : List InterfacePtr

/-- A call on a pointer the client holds. -/
inductive ClientCall
  | queryInterface (p : InterfacePtr) (riid : IID) (ppv : Bool)
  | addRef (p : InterfacePtr)
  | release (p : InterfacePtr)
deriving DecidableEq, Repr

namespace ClientCall

def target : ClientCall → InterfacePtr
  | queryInterface p _ _ => p
  | addRef p => p
  | release p => p

end ClientCall

namespace Session

/-- `CreateInstance(nullptr, riid)`. -/
def start (f : HostContainerFactory) (control : Control) (riid : IID) (rt : Runtime) :
    Session :=
  let (_, p, container, rt) := f.createInstance control false riid true rt
  { runtime := rt, container := container, control := control, held := p.toList }

/-- A call on the container, which has to be there. -/
def callContainer (s : Session) (c : HostContainer) : ClientCall → Session
  | .queryInterface _ riid ppv =>
    let (_, q, c) := c.queryInterface riid ppv
    { s with container := some c, held := s.held ++ q.toList }
  | .addRef p => { s with container := some c.addRef, held := s.held ++ [p] }
  | .release p =>
    let (container, rt) := c.release s.runtime
    { s with runtime := rt, container := container, held := s.held.erase p }

/-- A call on the control. -/
def callControl (s : Session) : ClientCall → Session
  | .queryInterface _ riid ppv =>
    if ppv then { s with held := s.held ++ (s.control.queryInterface riid).2.toList } else s
  | .addRef p => { s with held := s.held ++ [p] }
  | .release p => { s with held := s.held.erase p }

/-- Only pointers that are held are called; a call on a destroyed container has no meaning. -/
def step (s : Session) (call : ClientCall) : Option Session :=
  if call.target ∉ s.held then none
  else if call.target.ofContainer then s.container.map fun c => s.callContainer c call
  else some (s.callControl call)

def system (f : HostContainerFactory) (control : Control) (riid : IID) (rt : Runtime) :
    System Session ClientCall where
  init s := s = start f control riid rt
  step := step

/-- While the client holds a pointer, the container is there and holds the server reference
it took. -/
def Backed (rt : Runtime) (s : Session) : Prop :=
  s.held ≠ [] → s.container.isSome ∧ s.runtime.com.refs = rt.com.refs + 1

/-- The client's references to the container. -/
def containerRefs (s : Session) : Nat := s.held.countP InterfacePtr.ofContainer

/-- The call does not bring the container's 32-bit count to zero while the client is left
with a pointer. -/
def KeepsContainer (s : Session) : ClientCall → Prop
  | .release p =>
    p.ofContainer = true → (s.containerRefs - 1) % 2 ^ 32 = 0 → s.held.erase p = []
  | _ => True

/-- The first pointer is one to the container, or there is none. -/
def StartsWithContainer (control : Control) (riid : IID) : Prop :=
  HostContainer.ownInterface riid = none → control.isNull = false →
    control.supports riid = false

/-- The container counts the client's references to it, and keeps its server reference. -/
def Counts (rt : Runtime) (s : Session) : Prop :=
  match s.container with
  | some c => c.ref = BitVec.ofNat 32 s.containerRefs ∧ s.runtime.com.refs = rt.com.refs + 1
  | none => s.runtime.com.refs = rt.com.refs

/-! ## The first call -/

theorem release_new_refs (f : HostContainerFactory) (control : Control) (rt : Runtime) :
    (HostContainer.new f.classId f.classContext control rt).2.releaseServerReference.com.refs =
      rt.com.refs := by
  simp

/-- Nothing is held if the control does not load or does not support the interface. -/
theorem start_fails (f : HostContainerFactory) {control : Control} (riid : IID) (rt : Runtime)
    (h : control.isNull = true ∨
      HostContainer.ownInterface riid = none ∧ control.supports riid = false) :
    (start f control riid rt).container = none ∧ (start f control riid rt).held = [] ∧
      (start f control riid rt).runtime.com.refs = rt.com.refs := by
  have hrefs := release_new_refs f control rt
  unfold start
  cases hnull : control.isNull with
  | true =>
      rw [f.createInstance_isNull rt hnull]
      exact ⟨rfl, rfl, hrefs⟩
  | false =>
      obtain ⟨hown, hsupports⟩ := h.resolve_left (by simp [hnull])
      rw [f.createInstance_unsupported rt hnull hown hsupports]
      exact ⟨rfl, rfl, hrefs⟩

theorem start_counts (f : HostContainerFactory) (control : Control) (riid : IID)
    (rt : Runtime) : Counts rt (start f control riid rt) := by
  have hrefs := release_new_refs f control rt
  cases hnull : control.isNull with
  | true =>
      obtain ⟨hcontainer, -, hstart⟩ := start_fails f riid rt (Or.inl hnull)
      rw [Counts, hcontainer]
      exact hstart
  | false =>
      cases hown : HostContainer.ownInterface riid with
      | some p =>
          unfold start Counts
          rw [f.createInstance_own rt hnull hown]
          simp [containerRefs, HostContainer.ownInterface_ofContainer hown]
      | none =>
          cases hsupports : control.supports riid with
          | true =>
              unfold start Counts
              rw [f.createInstance_control rt hnull hown hsupports]
              exact hrefs
          | false =>
              obtain ⟨hcontainer, -, hstart⟩ := start_fails f riid rt (Or.inr ⟨hown, hsupports⟩)
              rw [Counts, hcontainer]
              exact hstart

theorem start_backed_iff (f : HostContainerFactory) (control : Control) (riid : IID)
    (rt : Runtime) : Backed rt (start f control riid rt) ↔ StartsWithContainer control riid := by
  unfold StartsWithContainer
  cases hnull : control.isNull with
  | true =>
      obtain ⟨-, hheld, -⟩ := start_fails f riid rt (Or.inl hnull)
      simp [Backed, hheld]
  | false =>
      cases hown : HostContainer.ownInterface riid with
      | some p =>
          unfold start Backed
          rw [f.createInstance_own rt hnull hown]
          simp
      | none =>
          cases hsupports : control.supports riid with
          | true =>
              unfold start Backed
              rw [f.createInstance_control rt hnull hown hsupports]
              simp
          | false =>
              obtain ⟨-, hheld, -⟩ := start_fails f riid rt (Or.inr ⟨hown, hsupports⟩)
              simp [Backed, hheld]

/-! ## One call -/

theorem containerRefs_pos {s : Session} {p : InterfacePtr} (hheld : p ∈ s.held)
    (hp : p.ofContainer = true) : 0 < s.containerRefs :=
  List.countP_pos_iff.mpr ⟨p, hheld, hp⟩

theorem countP_erase {held : List InterfacePtr} {p : InterfacePtr} (hheld : p ∈ held) :
    held.countP InterfacePtr.ofContainer =
      (held.erase p).countP InterfacePtr.ofContainer + if p.ofContainer then 1 else 0 := by
  rw [(List.perm_cons_erase hheld).countP_eq, List.countP_cons]

theorem ofNat_pred {n : Nat} (hpos : 0 < n) :
    BitVec.ofNat 32 n - 1 = BitVec.ofNat 32 (n - 1) := by
  obtain ⟨m, rfl⟩ : ∃ m, n = m + 1 := ⟨n - 1, by omega⟩
  rw [Nat.add_sub_cancel, BitVec.ofNat_add]
  exact BitVec.add_sub_cancel _ _

theorem ofNat_eq_zero_iff (n : Nat) : BitVec.ofNat 32 n = 0 ↔ n % 2 ^ 32 = 0 := by
  rw [← BitVec.toNat_inj]
  simp

theorem callControl_frame (s : Session) (call : ClientCall) :
    (s.callControl call).container = s.container ∧
      (s.callControl call).runtime = s.runtime := by
  cases call with
  | queryInterface p riid ppv => cases ppv <;> exact ⟨rfl, rfl⟩
  | addRef p => exact ⟨rfl, rfl⟩
  | release p => exact ⟨rfl, rfl⟩

theorem callControl_containerRefs {s : Session} {call : ClientCall}
    (hheld : call.target ∈ s.held) (hp : call.target.ofContainer = false) :
    (s.callControl call).containerRefs = s.containerRefs := by
  cases call with
  | queryInterface p riid ppv =>
      cases ppv with
      | false => rfl
      | true =>
          cases hsupports : s.control.supports riid <;>
            simp [callControl, Control.queryInterface, hsupports, containerRefs,
              InterfacePtr.ofContainer]
  | addRef p =>
      have hp' : p.ofContainer = false := hp
      simp [callControl, containerRefs, hp']
  | release p =>
      have hp' : p.ofContainer = false := hp
      have herase := countP_erase (p := p) hheld
      simpa [callControl, containerRefs, hp'] using herase.symm

theorem release_cases {s : Session} {c : HostContainer} {p : InterfacePtr} (hheld : p ∈ s.held)
    (hp : p.ofContainer = true) (href : c.ref = BitVec.ofNat 32 s.containerRefs) :
    ((s.containerRefs - 1) % 2 ^ 32 = 0 ∧
      c.release s.runtime = (none, s.runtime.releaseServerReference)) ∨
    ((s.containerRefs - 1) % 2 ^ 32 ≠ 0 ∧
      c.release s.runtime =
        (some { c with ref := BitVec.ofNat 32 (s.containerRefs - 1) }, s.runtime)) := by
  have hpred := ofNat_pred (containerRefs_pos hheld hp)
  unfold HostContainer.release
  simp only [href, hpred, ofNat_eq_zero_iff]
  split_ifs with hzero
  · exact Or.inl ⟨hzero, rfl⟩
  · exact Or.inr ⟨hzero, rfl⟩

theorem callContainer_counts {rt : Runtime} {s : Session} {c : HostContainer}
    {call : ClientCall} (hheld : call.target ∈ s.held)
    (hp : call.target.ofContainer = true) (href : c.ref = BitVec.ofNat 32 s.containerRefs)
    (hrefs : s.runtime.com.refs = rt.com.refs + 1) : Counts rt (s.callContainer c call) := by
  cases call with
  | queryInterface p riid ppv =>
      rcases c.queryInterface_cases riid ppv with ⟨q, hq, h⟩ | h | h
      · simp [callContainer, Counts, h, hrefs, href, containerRefs, hq, BitVec.ofNat_add]
      · simp [callContainer, Counts, h, hrefs, href, containerRefs, InterfacePtr.ofContainer]
      · simp [callContainer, Counts, h, hrefs, href, containerRefs]
  | addRef p =>
      have hp' : p.ofContainer = true := hp
      simp [callContainer, Counts, hrefs, href, containerRefs, hp', BitVec.ofNat_add]
  | release p =>
      have hp' : p.ofContainer = true := hp
      have hcount : (s.held.erase p).countP InterfacePtr.ofContainer = s.containerRefs - 1 := by
        have herase := countP_erase (p := p) hheld
        rw [if_pos hp'] at herase
        exact (Nat.sub_eq_of_eq_add herase).symm
      rcases release_cases hheld hp href with ⟨-, h⟩ | ⟨-, h⟩
      · simp [callContainer, Counts, h, hrefs]
      · simp [callContainer, Counts, h, hrefs, containerRefs, hcount]

theorem step_counts {rt : Runtime} {s t : Session} {call : ClientCall} (hcounts : Counts rt s)
    (h : s.step call = some t) : Counts rt t := by
  unfold step at h
  split_ifs at h with hheld hp
  · obtain ⟨c, hc, rfl⟩ := Option.map_eq_some_iff.mp h
    rw [Counts, hc] at hcounts
    exact callContainer_counts (by simpa using hheld) hp hcounts.1 hcounts.2
  · obtain rfl := Option.some.inj h
    obtain ⟨hcontainer, hruntime⟩ := s.callControl_frame call
    have hrefs := callControl_containerRefs (by simpa using hheld) (by simpa using hp)
    rw [Counts, hcontainer, hruntime]
    cases hc : s.container with
    | none =>
        rw [Counts, hc] at hcounts
        exact hcounts
    | some c =>
        rw [Counts, hc] at hcounts
        exact ⟨by rw [hrefs]; exact hcounts.1, hcounts.2⟩

theorem step_backed_iff {rt : Runtime} {s t : Session} {call : ClientCall}
    (hcounts : Counts rt s) (hbacked : Backed rt s) (h : s.step call = some t) :
    Backed rt t ↔ s.KeepsContainer call := by
  unfold step at h
  split_ifs at h with hheld hp
  · obtain ⟨c, hc, rfl⟩ := Option.map_eq_some_iff.mp h
    rw [Counts, hc] at hcounts
    have hmem : call.target ∈ s.held := by simpa using hheld
    cases call with
    | queryInterface p riid ppv => simp [Backed, KeepsContainer, callContainer, hcounts.2]
    | addRef p => simp [Backed, KeepsContainer, callContainer, hcounts.2]
    | release p =>
        have hp' : p.ofContainer = true := hp
        rcases release_cases hmem hp hcounts.1 with ⟨hzero, hrelease⟩ | ⟨hne, hrelease⟩
        · -- the container goes: only an empty hand is left unharmed
          have hgone : (s.callContainer c (.release p)).container = none := by
            simp only [callContainer, hrelease]
          have hleft : (s.callContainer c (.release p)).held = s.held.erase p := rfl
          constructor
          · intro hbacked _ _
            by_contra hne
            obtain ⟨hsome, -⟩ := hbacked (hleft ▸ hne)
            simp [hgone] at hsome
          · intro hkeeps hne
            exact absurd (hleft.trans (hkeeps hp' hzero)) hne
        · refine iff_of_true ?_ fun _ hzero => absurd hzero hne
          simp [Backed, callContainer, hrelease, hcounts.2]
  · -- a call on the control: the client held a pointer, so the container is there
    obtain rfl := Option.some.inj h
    obtain ⟨hcontainer, hruntime⟩ := s.callControl_frame call
    have hne : s.held ≠ [] := List.ne_nil_of_mem (by simpa using hheld)
    have hkeeps : s.KeepsContainer call := by
      cases call with
      | release p => exact fun hp' => absurd hp' hp
      | queryInterface p riid ppv => trivial
      | addRef p => trivial
    rw [iff_true_right hkeeps]
    intro _
    rw [hcontainer, hruntime]
    exact hbacked hne

/-- The container and its server reference last for as long as the client holds a pointer,
in every state of a run, exactly when the first pointer (if there is one) is one of the
container's own and no release takes the container's count to zero while other pointers
are held. -/
theorem backed_iff (f : HostContainerFactory) (control : Control) (riid : IID) (rt : Runtime)
    {trace : List (Session × ClientCall)} {last : Session}
    (hrun : (system f control riid rt).Run (start f control riid rt) trace last) :
    (∀ s ∈ System.visited trace last, Backed rt s) ↔
      StartsWithContainer control riid ∧ ∀ v ∈ trace, v.1.KeepsContainer v.2 := by
  have hstart := start_backed_iff f control riid rt
  have hrest : Backed rt (start f control riid rt) →
      ((∀ s ∈ System.visited trace last, Backed rt s) ↔
        ∀ v ∈ trace, v.1.KeepsContainer v.2) := fun hbacked =>
    hrun.visited_iff (I := Counts rt) (fun _ _ _ hI hstep => step_counts hI hstep)
      (fun _ _ _ hI hP hstep => step_backed_iff hI hP hstep)
      (start_counts f control riid rt) hbacked
  constructor
  · intro hall
    have hbacked := hall _ hrun.mem_first
    exact ⟨hstart.mp hbacked, (hrest hbacked).mp hall⟩
  · rintro ⟨hfirst, hcalls⟩
    exact (hrest (hstart.mpr hfirst)).mpr hcalls

/-- A control that supports `IDispatch` only. -/
def dispatchControl : Control where
  isNull := false
  supports riid := riid == IID_IDispatch

def anyFactory : HostContainerFactory where
  classId := 0x0002DF0100000000C000000000000046
  classContext := CLSCTX_INPROC_SERVER

/-- `CreateInstance(nullptr, IID_IDispatch)`: the client holds a pointer and the container
is gone. -/
theorem not_backed_dispatch :
    ¬ ∀ (f : HostContainerFactory) (control : Control) (riid : IID) (rt : Runtime)
      (trace : List (Session × ClientCall)) (last : Session),
      (system f control riid rt).Run (start f control riid rt) trace last →
        ∀ s ∈ System.visited trace last, Backed rt s := by
  intro hall
  have hbacked := hall anyFactory dispatchControl IID_IDispatch
    (Runtime.constructed false true true true) [] _ (.nil _) (start anyFactory dispatchControl
      IID_IDispatch (Runtime.constructed false true true true)) (by simp [System.visited])
  have hstart := (start_backed_iff _ _ _ _).mp hbacked
  exact absurd (hstart (by decide) (by decide)) (by decide)

/-- A client that asks for `IUnknown`, then for `IDispatch`, and keeps both. -/
theorem backed_iff_unknown :
    (∀ s ∈ System.visited
        [(start anyFactory dispatchControl IID_IUnknown (Runtime.constructed false true true true),
          ClientCall.queryInterface .provideClassInfo2 IID_IDispatch true)]
        ((start anyFactory dispatchControl IID_IUnknown
            (Runtime.constructed false true true true)).callContainer
          (HostContainer.new anyFactory.classId anyFactory.classContext dispatchControl
            (Runtime.constructed false true true true)).1.addRef
          (.queryInterface .provideClassInfo2 IID_IDispatch true)),
        Backed (Runtime.constructed false true true true) s) ↔
      StartsWithContainer dispatchControl IID_IUnknown ∧
        ∀ v ∈ [(start anyFactory dispatchControl IID_IUnknown
            (Runtime.constructed false true true true),
          ClientCall.queryInterface .provideClassInfo2 IID_IDispatch true)],
          v.1.KeepsContainer v.2 :=
  backed_iff _ _ _ _ (.cons rfl (.nil _))

end Session

end Axhost
