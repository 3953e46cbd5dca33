import Axhost.Events.Acceptance
import Axhost.Events.Identity
import Axhost.Lifetime.Container

/-!
# Walks over the pointers of a hosted object

A client sees the container, the control behind it and the container's connection points as one
object.  The container hands `QueryInterface` on to the control, whose pointers never lead back,
and a connection point names the `HostConnectionPointContainer` it was made by, which knows
nothing of the container.

* `HeldPtr.unknown_iff`: which pointers answer with the container's identity;
* `Walk.findConnectionPoint_leads`: where a connection point leads;
* `Walk.keepsIdentity_iff`: the walks on which everything answers alike.
-/

namespace Axhost

open RefHeap Transition

/-- A pointer that a client holds: to a base of the container or an interface of the control, or
to a `HostConnectionPointContainer`. -/
inductive HeldPtr
  | container (p : InterfacePtr)
  | connectionPointContainer (a : Nat)
deriving DecidableEq, Repr

namespace HeldPtr

/-- Which pointer `QueryInterface` gives.  The container's count has no part in that. -/
def queryInterface (c : HostContainer) (riid : IID) : HeldPtr → HRESULT × Option HeldPtr
  | container (.control _) =>
    let (hr, p) := c.control.queryInterface riid
    (hr, p.map container)
  | container _ =>
    let (hr, p, _) := c.queryInterface riid true
    (hr, p.map container)
  | connectionPointContainer a =>
    let (hr, p) := CUnknownImpl.queryInterface IID_IConnectionPointContainer riid true
    (hr, p.map fun _ => connectionPointContainer a)

def ofContainer : HeldPtr → Bool
  | container p => p.ofContainer
  | connectionPointContainer _ => false

/-- `GetConnectionPointContainer` on the connection point at `p`.  One of the control's own, which
`Next` may leave in its array, names the control. -/
def getConnectionPointContainer (p : Nat) (h : ComHeap) : Option HeldPtr × ComHeap :=
  match h.obj? p with
  | some (.connectionPoint point) =>
    let (r, h) := HostConnectionPoint.getConnectionPointContainer point true h
    (r.ptrs.head?.map connectionPointContainer, h)
  | some (.other _) => (some (.container (.control IID_IConnectionPointContainer)), h)
  | _ => (none, h)

end HeldPtr

/-- Where a client is, and the heap of the event proxies. -/
structure Walk where
  ptr : HeldPtr
  heap : ComHeap

/-- The ways from one pointer to another, and what others do to the heap in between.  A step
through an enumerator calls `Next` any number of times and goes on with one of the connection
points it got. -/
inductive WalkStep
  | queryInterface (riid : IID)
  | findConnectionPoint (riid : IID)
  | enumConnectionPoints (nexts : List DWORD) (index : Nat)
  | elsewhere (h : ComHeap)

namespace Walk

variable (env : Underlying) (c : HostContainer) (t : Nat)

/-- `FindConnectionPoint` on the `HostConnectionPointContainer` at `this`. -/
def find (riid : IID) (this : Nat) (h : ComHeap) : Option Nat × ComHeap :=
  match h.obj? this with
  | some (.connectionPointContainer cpc) =>
    let (r, h) := HostConnectionPointContainer.findConnectionPoint env this cpc riid true h
    (r.ptrs.head?, h)
  | _ => (none, h)

/-- The connection points that an enumerator gives in turn. -/
def nextAll (e : Nat) : List DWORD → ComHeap → List Nat × ComHeap
  | [], h => ([], h)
  | cConnections :: nexts, h =>
    match h.obj? e with
    | some (.enumConnectionPoints enum) =>
      let (r, h) := HostEnumConnectionPoints.next env enum cConnections true true h
      let (rest, h) := nextAll e nexts h
      (r.ptrs ++ rest, h)
    | _ => ([], h)

def enumerate (nexts : List DWORD) (index : Nat) (this : Nat) (h : ComHeap) :
    Option Nat × ComHeap :=
  match h.obj? this with
  | some (.connectionPointContainer cpc) =>
    let (r, h) := HostConnectionPointContainer.enumConnectionPoints env this cpc true h
    match r.ptrs.head? with
    | none => (none, h)
    | some e =>
      let (ps, h) := nextAll env e nexts h
      (ps[index]?, h)
  | _ => (none, h)

/-- From a pointer to `IConnectionPointContainer` to a connection point, and from there to its
container.  `t` is the container's `m_connectionPointContainer`, which is there when the control
has been loaded. -/
def through (point : Nat → ComHeap → Option Nat × ComHeap) (s : Walk) : Option Walk :=
  let follow (this : Nat) : Option Walk := do
    let (p, h) := point this s.heap
    let p ← p
    let (q, h) := HeldPtr.getConnectionPointContainer p h
    let q ← q
    some { ptr := q, heap := h }
  match s.ptr with
  | .container .connectionPointContainer => if c.control.isNull then none else follow t
  | .container (.control riid) =>
    -- the control's own connection points name the control
    if riid = IID_IConnectionPointContainer then some s else none
  | .connectionPointContainer a => follow a
  | _ => none

def step (s : Walk) : WalkStep → Option Walk
  | .queryInterface riid => (s.ptr.queryInterface c riid).2.map fun p => { s with ptr := p }
  | .findConnectionPoint riid => through c t (find env riid) s
  | .enumConnectionPoints nexts index => through c t (enumerate env nexts index) s
  | .elsewhere h => some { s with heap := h }

/-- A walk starts at a pointer to the container. -/
def system : System Walk WalkStep where
  init s := s.ptr.ofContainer = true
  step := step env c t

end Walk

/-! ## What the pointers answer -/

namespace HeldPtr

variable {c : HostContainer} {p : HeldPtr}

theorem queryInterface_of_ofContainer (h : p.ofContainer = true) (riid : IID) :
    p.queryInterface c riid =
      ((c.queryInterface riid true).1, (c.queryInterface riid true).2.1.map container) := by
  cases p with
  | connectionPointContainer a => exact absurd h (by simp [ofContainer])
  | container p =>
      cases p with
      | control riid => exact absurd h (by simp [ofContainer, InterfacePtr.ofContainer])
      | _ => rfl

theorem queryInterface_control (c : HostContainer) (riid riid' : IID) :
    (container (.control riid)).queryInterface c riid' = ((c.control.queryInterface riid').1,
      (c.control.queryInterface riid').2.map container) := rfl

theorem ofContainer_control {riid riid' : IID} {q : HeldPtr}
    (h : ((container (.control riid)).queryInterface c riid').2 = some q) :
    q.ofContainer = false := by
  rw [queryInterface_control] at h
  unfold Control.queryInterface at h
  split_ifs at h
  · obtain rfl := Option.some.inj h
    rfl
  · exact absurd h (by simp)

/-- The `HostConnectionPointContainer` hands out itself. -/
theorem ofContainer_connectionPointContainer {a : Nat} {riid : IID} {q : HeldPtr}
    (h : ((connectionPointContainer a).queryInterface c riid).2 = some q) :
    q.ofContainer = false := by
  obtain ⟨riid', -, rfl⟩ := Option.map_eq_some_iff.mp h
  rfl

theorem unknown_container (c : HostContainer) :
    (c.queryInterface IID_IUnknown true).2.1.map container =
      some (container .provideClassInfo2) := by
  have hown : HostContainer.ownInterface IID_IUnknown = some .provideClassInfo2 := if_pos rfl
  rw [HostContainer.queryInterface_own hown]
  rfl

/-- The pointers that answer with the container's identity are those to the container. -/
theorem unknown_iff (c : HostContainer) (p : HeldPtr) :
    (p.queryInterface c IID_IUnknown).2 =
        (c.queryInterface IID_IUnknown true).2.1.map container ↔ p.ofContainer = true := by
  refine ⟨fun h => ?_, fun h => congrArg Prod.snd (queryInterface_of_ofContainer h IID_IUnknown)⟩
  rw [unknown_container] at h
  cases p with
  | connectionPointContainer a => exact absurd (ofContainer_connectionPointContainer h) (by decide)
  | container p =>
      cases p with
      | control riid => exact absurd (ofContainer_control h) (by decide)
      | _ => rfl

end HeldPtr

namespace Walk

variable {env : Underlying} {c : HostContainer} {t : Nat}

/-! ## Where a step leads -/

/-- The step asks for an interface that the container has itself, or is none of the client's. -/
def OwnStep : WalkStep → Prop
  | .queryInterface riid => (HostContainer.ownInterface riid).isSome = true
  | .elsewhere _ => True
  | _ => False

theorem getConnectionPointContainer_ofContainer {p : Nat} {h : ComHeap} {q : HeldPtr}
    (hq : (HeldPtr.getConnectionPointContainer p h).1 = some q) : q.ofContainer = false := by
  unfold HeldPtr.getConnectionPointContainer at hq
  split at hq
  · obtain rfl := Option.some.inj hq
    rfl
  · obtain rfl := Option.some.inj hq
    rfl
  · exact absurd hq (by simp)

/-- No way through a connection point leads to the container. -/
theorem through_ofContainer {point : Nat → ComHeap → Option Nat × ComHeap} {s s' : Walk}
    (h : through c t point s = some s') : s'.ptr.ofContainer = false := by
  have hfollow : ∀ this, (do
      let (p, h) := point this s.heap
      let p ← p
      let (q, h) := HeldPtr.getConnectionPointContainer p h
      let q ← q
      some ({ ptr := q, heap := h } : Walk)) = some s' → s'.ptr.ofContainer = false := by
    intro this hthis
    obtain ⟨p, -, hp⟩ := Option.bind_eq_some_iff.mp hthis
    obtain ⟨q, hq, hs'⟩ := Option.bind_eq_some_iff.mp hp
    obtain rfl := Option.some.inj hs'
    exact getConnectionPointContainer_ofContainer hq
  unfold through at h
  split at h
  · split_ifs at h
    exact hfollow _ h
  · rename_i riid hptr
    split_ifs at h
    obtain rfl := Option.some.inj h
    rw [hptr]
    rfl
  · exact hfollow _ h
  · exact absurd h (by simp)

/-- A step from the container leads to the container when the container answers it itself. -/
theorem step_ofContainer_iff {s s' : Walk} {a : WalkStep} (hs : s.ptr.ofContainer = true)
    (hstep : step env c t s a = some s') : s'.ptr.ofContainer = true ↔ OwnStep a := by
  cases a with
  | queryInterface riid =>
      obtain ⟨q, hq, rfl⟩ := Option.map_eq_some_iff.mp hstep
      rw [HeldPtr.queryInterface_of_ofContainer hs] at hq
      obtain ⟨p, hp, rfl⟩ := Option.map_eq_some_iff.mp hq
      show p.ofContainer = true ↔ (HostContainer.ownInterface riid).isSome = true
      cases hown : HostContainer.ownInterface riid with
      | some base =>
          rw [HostContainer.queryInterface_own hown] at hp
          obtain rfl := Option.some.inj hp
          exact iff_of_true (HostContainer.ownInterface_ofContainer hown) rfl
      | none =>
          obtain rfl := HostContainer.queryInterface_delegated hown hp
          exact iff_of_false (by simp [InterfacePtr.ofContainer]) (by decide)
  | findConnectionPoint riid =>
      have hthrough : through c t (find env riid) s = some s' := hstep
      exact iff_of_false (by simp [through_ofContainer hthrough]) fun h => h
  | enumConnectionPoints nexts index =>
      have hthrough : through c t (enumerate env nexts index) s = some s' := hstep
      exact iff_of_false (by simp [through_ofContainer hthrough]) fun h => h
  | elsewhere h =>
      obtain rfl := Option.some.inj hstep
      exact iff_of_true hs trivial

theorem through_container {point : Nat → ComHeap → Option Nat × ComHeap} {s : Walk}
    (hs : s.ptr = .container .connectionPointContainer) (hcontrol : c.control.isNull = false)
    {p : Nat} {q : HeldPtr} {h h' : ComHeap} (hpoint : point t s.heap = (some p, h))
    (hget : HeldPtr.getConnectionPointContainer p h = (some q, h')) :
    through c t point s = some { ptr := q, heap := h' } := by
  unfold through
  simp only [hs, hcontrol, Bool.false_eq_true, if_false, hpoint, Option.bind_eq_bind,
    Option.bind_some]
  rw [hget]
  rfl

theorem findConnectionPoint_leads (hassumed : Assumed env t) (hcontrol : c.control.isNull = false)
    {s : Walk} (hs : s.ptr = .container .connectionPointContainer) (hwf : Wf s.heap)
    (hkeyed : Keyed t s.heap) (hstays : Stays t s.heap) {cpc : HostConnectionPointContainer}
    (hcpc : s.heap.obj? t = some (.connectionPointContainer cpc)) {u cp : Nat} {riid : IID}
    (hu : cpc.underlying = some u)
    (hok : failed ((env.findConnectionPoint u riid).run s.heap).1.1 = false)
    (hptr : ((env.findConnectionPoint u riid).run s.heap).1.2 = some cp) :
    ∃ s', step env c t s (.findConnectionPoint riid) = some s' ∧
      s'.ptr = .connectionPointContainer t := by
  obtain ⟨p, houtcome, htracked⟩ :=
    findConnectionPoint_found hassumed hwf hkeyed hstays hu hok hptr
  obtain ⟨cpc', k, q, hcpc', hentry, hq, -⟩ := htracked.proxied _ List.mem_cons_self
  obtain ⟨q', hq', hcontainer⟩ := htracked.holds.wf.proxies t cpc' hcpc' _ hentry
  obtain rfl : q = q' := by simpa [hq] using hq'
  have hfind : find env riid t s.heap = (some p,
      (HostConnectionPointContainer.findConnectionPoint env t cpc riid true s.heap).2) := by
    unfold find
    simp only [hcpc, houtcome, List.head?_cons]
  have hget : HeldPtr.getConnectionPointContainer p
      (HostConnectionPointContainer.findConnectionPoint env t cpc riid true s.heap).2 =
        (some (.connectionPointContainer t),
          (HostConnectionPointContainer.findConnectionPoint env t cpc riid true
            s.heap).2.addRef t) := by
    subst hcontainer
    unfold HeldPtr.getConnectionPointContainer
    rw [hq]
    rfl
  exact ⟨_, through_container hs hcontrol hfind hget, rfl⟩

/-! ## Walks -/

/-- Each of the pointers leads to the container's `IUnknown`, and an interface that one of them
has, all of them have. -/
structure KeepsIdentity (c : HostContainer) (ps : List HeldPtr) : Prop where
  unknown : ∀ p ∈ ps, (p.queryInterface c IID_IUnknown).2 =
    (c.queryInterface IID_IUnknown true).2.1.map .container
  alike : ∀ p ∈ ps, ∀ q ∈ ps, ∀ riid, failed (p.queryInterface c riid).1 = false →
    failed (q.queryInterface c riid).1 = false

theorem keepsIdentity_iff_ofContainer {ps : List HeldPtr} :
    KeepsIdentity c ps ↔ ∀ p ∈ ps, p.ofContainer = true := by
  constructor
  · intro hkeeps p hp
    exact (HeldPtr.unknown_iff c p).mp (hkeeps.unknown p hp)
  · intro hall
    refine ⟨fun p hp => (HeldPtr.unknown_iff c p).mpr (hall p hp), fun p hp q hq riid hok => ?_⟩
    rw [HeldPtr.queryInterface_of_ofContainer (hall p hp)] at hok
    rw [HeldPtr.queryInterface_of_ofContainer (hall q hq)]
    exact hok

/-- Everything on a walk answers alike exactly when it keeps to the interfaces that the container
has itself. -/
theorem keepsIdentity_iff (env : Underlying) (c : HostContainer) (t : Nat) {s last : Walk}
    {trace : List (Walk × WalkStep)} (hinit : (system env c t).init s)
    (hrun : (system env c t).Run s trace last) :
    KeepsIdentity c ((System.visited trace last).map Walk.ptr) ↔ ∀ v ∈ trace, OwnStep v.2 := by
  rw [keepsIdentity_iff_ofContainer, List.forall_mem_map]
  refine System.Run.visited_iff (I := fun _ => True)
    (P := fun w : Walk => w.ptr.ofContainer = true) (C := fun _ a => OwnStep a)
    (fun _ _ _ _ _ => trivial) ?_ hrun trivial hinit
  intro w a w' _ hw hstep
  exact step_ofContainer_iff hw hstep

/-- A container whose control has `IDispatch` and connection points. -/
def sampleContainer : HostContainer where
  ref := 1
  classId := 0x000209FF000000000000C00000000046
  classContext := 4
  control :=
    { isNull := false
      supports riid :=
        decide (riid = IID_IUnknown ∨ riid = IID_IDispatch ∨
          riid = IID_IConnectionPointContainer) }

def started (p : InterfacePtr) (h : ComHeap) : Walk := { ptr := .container p, heap := h }

/-- A client asks for the class information and for the connection points. -/
theorem keepsIdentity_iff_own : ∃ s trace last, (system sampleControl sampleContainer 0).init s ∧
    trace.map Prod.snd = [.queryInterface IID_IProvideClassInfo,
      .queryInterface IID_IConnectionPointContainer] ∧
    (KeepsIdentity sampleContainer ((System.visited trace last).map Walk.ptr) ↔
      ∀ v ∈ trace, OwnStep v.2) := by
  have hinit : (system sampleControl sampleContainer 0).init
    (started .provideClassInfo2 Heap.empty) := rfl
  have hrun : (system sampleControl sampleContainer 0).Run (started .provideClassInfo2 Heap.empty)
      [(started .provideClassInfo2 Heap.empty, .queryInterface IID_IProvideClassInfo),
        (started .provideClassInfo Heap.empty, .queryInterface IID_IConnectionPointContainer)]
      (started .connectionPointContainer Heap.empty) :=
    .cons rfl (.cons rfl (.nil _))
  exact ⟨_, _, _, hinit, rfl, keepsIdentity_iff sampleControl sampleContainer 0 hinit hrun⟩

theorem not_keepsIdentity_of_last {s last : Walk} {a : WalkStep}
    (hlast : last.ptr.ofContainer = false) :
    ¬ KeepsIdentity c ((System.visited [(s, a)] last).map Walk.ptr) := by
  rw [keepsIdentity_iff_ofContainer]
  intro hall
  have hmem : last.ptr ∈ (System.visited [(s, a)] last).map Walk.ptr := by simp [System.visited]
  simp [hall last.ptr hmem] at hlast

/-- `IDispatch` comes from the control, and so does the identity behind it; a connection point
leads to an object without the interfaces of the container. -/
theorem not_keepsIdentity_dispatch : ∃ h t,
    ∀ a ∈ [WalkStep.queryInterface IID_IDispatch, .findConnectionPoint IID_NULL], ∃ last,
      (system sampleControl sampleContainer t).init (started .connectionPointContainer h) ∧
      (system sampleControl sampleContainer t).Run (started .connectionPointContainer h)
        [(started .connectionPointContainer h, a)] last ∧
      ¬ KeepsIdentity sampleContainer
        ((System.visited [(started .connectionPointContainer h, a)] last).map Walk.ptr) := by
  obtain ⟨h, t, hreach, howned, hobj⟩ := ProxyCall.reach_control
  have hinit : (Deliveries.system sampleControl t).init
      { heap := h, handed := [], delivered := [] } :=
    ⟨ClientAction.reachable_wf hreach, rfl, rfl, some 0, hobj⟩
  have hinv := Deliveries.init_inv hinit
  refine ⟨h, t, List.forall_mem_cons.mpr ⟨?_, List.forall_mem_singleton.mpr ?_⟩⟩
  · exact ⟨started (.control IID_IDispatch) h, rfl, .cons rfl (.nil _),
      not_keepsIdentity_of_last rfl⟩
  · obtain ⟨last, hfind, hlast⟩ := @findConnectionPoint_leads sampleControl sampleContainer t
      (Deliveries.assumed_sampleControl t) rfl (started .connectionPointContainer h) rfl hinv.wf
      hinv.keyed (stays_of_owned howned hobj) { underlying := some 0 } hobj 0 h.next IID_NULL rfl
      failed_S_OK rfl
    refine ⟨last, rfl, .cons hfind (.nil _), not_keepsIdentity_of_last ?_⟩
    rw [hlast]
    rfl

end Walk

end Axhost
