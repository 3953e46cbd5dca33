import Axhost.Events.Ownership
import Axhost.Lib.Transition

/-!
# The event proxies and their clients

The clients call the methods of the proxies they hold references to, copy and release these
references, and call other objects.  From a process without objects this reaches every
reference-count state of the proxies.

* `ProxyCall.law_iff`: in such a state a call obeys the ownership law exactly when it is
  `Sound`;
* `ProxyCall.not_law_clone`: the clone of an enumerator of connections is handed out dead.
-/

namespace Axhost

open RefHeap Transition

/-- The methods of the proxies with their arguments; a pointer for a result may be null. -/
inductive ProxyCall
  | getProxyConnectionPoint (pCP : Option Nat) (ppCP : Bool)
  | enumConnectionPoints (ppEnum : Bool)
  | findConnectionPoint (riid : IID) (ppCP : Bool)
  | getConnectionPointContainer (ppCPC : Bool)
  | enumConnections (ppEnum : Bool)
  | nextConnectionPoints (cConnections : DWORD) (ppCP pcFetched : Bool)
  | skipConnectionPoints (cConnections : DWORD)
  | resetConnectionPoints
  | cloneConnectionPoints (ppEnum : Bool)
  | nextConnections (cConnections : DWORD) (rgcd pcFetched : Bool)
  | cloneConnections (ppEnum : Bool)
deriving DecidableEq, Repr

namespace ProxyCall

variable (env : Underlying)

/-- A call to the object at `this`, where that has the method. -/
def run (this : Nat) (call : ProxyCall) (h : ComHeap) : Option (Outcome × ComHeap) :=
  match h.obj? this, call with
  | some (.connectionPointContainer _), getProxyConnectionPoint pCP ppCP =>
    some (HostConnectionPointContainer.getProxyConnectionPoint env this pCP ppCP h)
  | some (.connectionPointContainer c), enumConnectionPoints ppEnum =>
    some (HostConnectionPointContainer.enumConnectionPoints env this c ppEnum h)
  | some (.connectionPointContainer c), findConnectionPoint riid ppCP =>
    some (HostConnectionPointContainer.findConnectionPoint env this c riid ppCP h)
  | some (.connectionPoint p), getConnectionPointContainer ppCPC =>
    some (HostConnectionPoint.getConnectionPointContainer p ppCPC h)
  | some (.connectionPoint p), enumConnections ppEnum =>
    some (HostConnectionPoint.enumConnections env this p ppEnum h)
  | some (.enumConnectionPoints e), nextConnectionPoints cConnections ppCP pcFetched =>
    some (HostEnumConnectionPoints.next env e cConnections ppCP pcFetched h)
  | some (.enumConnectionPoints e), skipConnectionPoints cConnections =>
    some (HostEnumConnectionPoints.skip env e cConnections h)
  | some (.enumConnectionPoints e), resetConnectionPoints =>
    some (HostEnumConnectionPoints.reset env e h)
  | some (.enumConnectionPoints e), cloneConnectionPoints ppEnum =>
    some (HostEnumConnectionPoints.clone env e ppEnum h)
  | some (.enumConnections e), nextConnections cConnections rgcd pcFetched =>
    let ((outcome, _), h) := HostEnumConnections.next env e cConnections rgcd pcFetched h
    some (outcome, h)
  | some (.enumConnections e), cloneConnections ppEnum =>
    some (HostEnumConnections.clone env e ppEnum h)
  | _, _ => none

/-- Not the clone of an enumerator of connections, unless that fails, and not a `Next` that
fetches an element which does not answer for `IUnknown`. -/
def Sound (this : Nat) (call : ProxyCall) (h : ComHeap) : Prop :=
  match h.obj? this, call with
  | some (.enumConnectionPoints e), nextConnectionPoints cConnections ppCP pcFetched =>
    HostEnumConnectionPoints.NextIdentified env e cConnections ppCP pcFetched h
  | some (.enumConnections e), cloneConnections ppEnum =>
    ¬ HostEnumConnections.Clones env e ppEnum h
  | _, _ => True

/-- The call makes a connection point for one of the control's. -/
def makes (this : Nat) (call : ProxyCall) (h : ComHeap) : Bool :=
  match h.obj? this, call with
  | some (.connectionPointContainer _), getProxyConnectionPoint pCP ppCP =>
    HostConnectionPointContainer.getProxyConnectionPointMakes env this pCP ppCP h
  | some (.connectionPointContainer c), findConnectionPoint riid ppCP =>
    HostConnectionPointContainer.findConnectionPointMakes env this c riid ppCP h
  | some (.enumConnectionPoints e), nextConnectionPoints cConnections ppCP pcFetched =>
    HostEnumConnectionPoints.nextMakes env e cConnections ppCP pcFetched h
  | _, _ => false

/-- A call is a sequence of actions, and obeys the law exactly when it is sound. -/
theorem run_spec {this : Nat} {call : ProxyCall} {h : ComHeap} {r : Outcome × ComHeap}
    (hwf : Wf h) (howned : 1 ≤ h.owned this) (hrun : run env this call h = some r) :
    (∃ ws, Traced env.Calls (makes env this call h) h r.2 ws) ∧
      (Law h r ↔ Sound env this call h) := by
  have hobeys {r : Outcome × ComHeap}
      (hr : Performs env.Calls (makes env this call h) h r) (hsound : Sound env this call h) :
      (∃ ws, Traced env.Calls (makes env this call h) h r.2 ws) ∧
        (Law h r ↔ Sound env this call h) :=
    ⟨⟨_, hr.traced⟩, iff_of_true (hr.obeys.law hwf.valid) hsound⟩
  unfold run at hrun
  unfold makes Sound at hobeys ⊢
  split at hrun
  · next c pCP ppCP hobj =>
    obtain rfl := Option.some.inj hrun
    simp only [hobj] at hobeys ⊢
    exact hobeys (HostConnectionPointContainer.getProxyConnectionPoint_performs env hwf
      (stays_of_owned howned hobj) pCP ppCP) trivial
  · next c ppEnum hobj =>
    obtain rfl := Option.some.inj hrun
    simp only [hobj] at hobeys ⊢
    exact hobeys (HostConnectionPointContainer.enumConnectionPoints_performs env hwf
      (stays_of_owned howned hobj) c ppEnum) trivial
  · next c riid ppCP hobj =>
    obtain rfl := Option.some.inj hrun
    simp only [hobj] at hobeys ⊢
    exact hobeys (HostConnectionPointContainer.findConnectionPoint_performs env hwf
      (stays_of_owned howned hobj) c riid ppCP) trivial
  · next p ppCPC hobj =>
    obtain rfl := Option.some.inj hrun
    simp only [hobj] at hobeys ⊢
    exact hobeys (HostConnectionPoint.getConnectionPointContainer_performs env.Calls hwf hobj ppCPC)
      trivial
  · next p ppEnum hobj =>
    obtain rfl := Option.some.inj hrun
    simp only [hobj] at hobeys ⊢
    exact hobeys (HostConnectionPoint.enumConnections_performs env hwf howned hobj ppEnum) trivial
  · next e cConnections ppCP pcFetched hobj =>
    obtain rfl := Option.some.inj hrun
    simp only [hobj]
    exact HostEnumConnectionPoints.next_law_iff env hwf howned hobj cConnections ppCP pcFetched
  · next e cConnections hobj =>
    obtain rfl := Option.some.inj hrun
    simp only [hobj] at hobeys ⊢
    exact hobeys (HostEnumConnectionPoints.skip_performs env hwf e cConnections) trivial
  · next e hobj =>
    obtain rfl := Option.some.inj hrun
    simp only [hobj] at hobeys ⊢
    exact hobeys (HostEnumConnectionPoints.reset_performs env hwf e) trivial
  · next e ppEnum hobj =>
    obtain rfl := Option.some.inj hrun
    simp only [hobj] at hobeys ⊢
    exact hobeys (HostEnumConnectionPoints.clone_performs env hwf howned hobj ppEnum) trivial
  · next e cConnections rgcd pcFetched hobj =>
    obtain rfl := Option.some.inj hrun
    simp only [hobj] at hobeys ⊢
    exact hobeys (HostEnumConnections.next_performs env hwf e cConnections rgcd pcFetched) trivial
  · next e ppEnum hobj =>
    obtain rfl := Option.some.inj hrun
    simp only [hobj]
    exact HostEnumConnections.clone_law_iff env hwf howned hobj ppEnum
  · simp at hrun

theorem run_wf {this : Nat} {call : ProxyCall} {h : ComHeap} {r : Outcome × ComHeap} (hwf : Wf h)
    (howned : 1 ≤ h.owned this) (hrun : run env this call h = some r) : Wf r.2 := by
  obtain ⟨⟨ws, htraced⟩, -⟩ := run_spec env hwf howned hrun
  exact htraced.wf

end ProxyCall

/-! ## Every state of the counts -/

/-- What happens between a host and its clients: a call to a proxy, a pointer copied or
released by who owns it, a container made for an object, and a call to any other object.  The
last takes in `Advise` and `Unadvise`, which the heap sees as changes of a proxy's maps. -/
inductive ClientAction
  | call (this : Nat) (call : ProxyCall)
  | addRef (a : Nat)
  | release (a : Nat)
  | container (underlying : Option Nat)
  | foreign (call : ForeignCall (List Nat) id)

/-- `m_connectionPointContainer = new HostConnectionPointContainer(underlyingCPC)`. -/
def newContainer (env : Underlying) (underlying : Option Nat) (h : ComHeap) : ComHeap :=
  (newProxy env (.connectionPointContainer { underlying := underlying }) h).release h.next

namespace ClientAction

variable (env : Underlying)

def step (h : ComHeap) : ClientAction → Option ComHeap
  | call this c => if 1 ≤ h.owned this then (c.run env this h).map Prod.snd else none
  | addRef a => if 1 ≤ h.owned a then some (h.addRef a) else none
  | release a => if 1 ≤ h.owned a then some (h.release a) else none
  | container underlying =>
    if ∀ a ∈ underlying, 1 ≤ h.owned a then some (newContainer env underlying h) else none
  | foreign f => some (f.run h).2

/-- A process starts without objects. -/
def clients : System ComHeap ClientAction where
  init h := h = Heap.empty
  step := step env

end ClientAction

theorem wf_empty : Wf Heap.empty := by
  have hnone (a : Nat) : (Heap.empty : ComHeap).obj? a = none := rfl
  refine ⟨fun a => Nat.le_of_eq rfl, fun a c hc => ?_, fun a e he => ?_, fun a e he => ?_⟩
  · simp [hnone] at hc
  · simp [hnone] at he
  · simp [hnone] at he

theorem newContainer_traced (calls : ComHeap → ComHeap → Prop) {h : ComHeap}
    {underlying : Option Nat} (env : Underlying) (hwf : Wf h)
    (howned : ∀ a ∈ underlying, 1 ≤ h.owned a) :
    Traced calls false h (newContainer env underlying h) [h.next] := by
  have hlive : ∀ a ∈ ComObject.refs (.connectionPointContainer { underlying := underlying }),
      h.Live a := by
    intro a ha
    have hsome : underlying = some a := by simpa [ComObject.refs] using ha
    exact Gives.live_of_owned (howned a hsome)
  have hnew := (Traced.refl calls hwf).newProxy env hwf.valid hlive rfl ⟨rfl, by simp⟩
  exact hnew.release hwf.valid

theorem newContainer_holds {h : ComHeap} {underlying : Option Nat} (env : Underlying) (hwf : Wf h)
    (howned : ∀ a ∈ underlying, 1 ≤ h.owned a) :
    Holds h (newContainer env underlying h) [h.next] :=
  (newContainer_traced env.Calls env hwf howned).toHolds

theorem newContainer_obj? {h : ComHeap} {underlying : Option Nat} (env : Underlying) (hwf : Wf h)
    (howned : ∀ a ∈ underlying, 1 ≤ h.owned a) :
    (newContainer env underlying h).obj? h.next =
      some (.connectionPointContainer { underlying := underlying }) := by
  obtain ⟨o, ho⟩ := Heap.live_iff.mp
    ((newContainer_holds env hwf howned).live hwf.valid List.mem_cons_self)
  have hbefore := Heap.releaseAll_obj? ho
  rw [newProxy_obj?] at hbefore
  exact ho.trans hbefore.symm

theorem wf_release {h : ComHeap} {a : Nat} (hwf : Wf h) (howned : 1 ≤ h.owned a) :
    Wf (h.release a) :=
  hwf.of_kept (Heap.release_spec hwf.valid howned).1 Heap.releaseAll_obj?

namespace ClientAction

variable {env : Underlying}

theorem step_wf {h h' : ComHeap} {a : ClientAction} (hwf : Wf h) (hstep : step env h a = some h') :
    Wf h' := by
  cases a with
  | call this c =>
      rw [step] at hstep
      split_ifs at hstep with howned
      obtain ⟨r, hrun, rfl⟩ := Option.map_eq_some_iff.mp hstep
      exact ProxyCall.run_wf env hwf howned hrun
  | addRef a =>
      rw [step] at hstep
      split_ifs at hstep with howned
      obtain rfl := Option.some.inj hstep
      exact ((Holds.refl hwf).addRef (Gives.live_of_owned howned)).wf
  | release a =>
      rw [step] at hstep
      split_ifs at hstep with howned
      obtain rfl := Option.some.inj hstep
      exact wf_release hwf howned
  | container underlying =>
      rw [step] at hstep
      split_ifs at hstep with howned
      obtain rfl := Option.some.inj hstep
      exact (newContainer_holds env hwf howned).wf
  | foreign f =>
      obtain rfl := Option.some.inj hstep
      exact f.wf h hwf

theorem reachable_wf {h : ComHeap} (hreach : (clients env).Reachable h) : Wf h := by
  refine hreach.induct ?_ ?_
  · rintro _ rfl
    exact wf_empty
  · intro h a h' _ hwf hstep
    exact step_wf hwf hstep

end ClientAction

namespace ProxyCall

open ClientAction

/-- In every state of the counts, a call obeys the ownership law exactly when it is sound. -/
theorem law_iff {env : Underlying} {h : ComHeap} (hreach : (clients env).Reachable h) {this : Nat}
    (howned : 1 ≤ h.owned this) {call : ProxyCall} {r : Outcome × ComHeap}
    (hrun : run env this call h = some r) : Law h r ↔ Sound env this call h :=
  (run_spec env (reachable_wf hreach) howned hrun).2

end ProxyCall

/-! ## A control -/

theorem created {h : ComHeap} (hwf : Wf h) :
    Holds h ((h.new h.freeAddress (.other [])).addRef h.next) [h.next] := by
  have hnone : ∀ a ∈ ComObject.refs (.other []), h.Live a := fun a ha => by
    simp [ComObject.refs] at ha
  have hnew := (Holds.refl hwf).new h.freeAddress hnone trivial
  exact hnew.addRef (Heap.live_iff.mpr ⟨_, by rw [Heap.new_obj?, if_pos rfl]⟩)

theorem copied {h : ComHeap} {a : Nat} (hwf : Wf h) (hlive : (h.obj? a).isSome) :
    Holds h (h.addRef a) [a] :=
  (Holds.refl hwf).addRef (Heap.live_iff.mpr (Option.isSome_iff_exists.mp hlive))

namespace ForeignCall

variable {ρ : Type} {ptrs : ρ → List Nat}

/-- A method that is not there. -/
def refuse (nothing : ρ) (hnothing : ptrs nothing = []) : ForeignCall ρ ptrs where
  run h := ((E_NOTIMPL, nothing), h)
  wf _ hwf := hwf
  gives h hwf := by
    rw [hnothing]
    exact .refl hwf.valid
  none_of_failed _ _ := hnothing

/-- One that would not hand out a pointer. -/
def silent (nothing : ρ) : ForeignCall ρ fun _ => [] := refuse nothing rfl

/-- A method that makes an object. -/
def create (wrap : Nat → ρ) (hwrap : ∀ a, ptrs (wrap a) = [a]) : ForeignCall ρ ptrs where
  run h := ((S_OK, wrap h.next), (h.new h.freeAddress (.other [])).addRef h.next)
  wf h hwf := (created hwf).wf
  gives h hwf := by
    rw [hwrap]
    exact (created hwf).gives
  none_of_failed _ hfailed := by simp [failed_S_OK] at hfailed

/-- `QueryInterface` of an object that has the interface. -/
def give (a : Nat) : ForeignCall (Option Nat) Option.toList where
  run h := if (h.obj? a).isSome then ((S_OK, some a), h.addRef a) else ((E_NOTIMPL, none), h)
  wf h hwf := by
    split_ifs with hlive
    · exact (copied hwf hlive).wf
    · exact hwf
  gives h hwf := by
    split_ifs with hlive
    · exact (copied hwf hlive).gives
    · exact .refl hwf.valid
  none_of_failed h hfailed := by
    split_ifs at hfailed with hlive
    · simp [failed_S_OK] at hfailed
    · rw [if_neg hlive]
      rfl

end ForeignCall

def newControl : ForeignCall (List Nat) id := .create (fun a => [a]) fun _ => rfl

def sampleControl : Underlying where
  allocate := Heap.freeAddress
  queryUnknown := .give
  queryConnectionPoint := .give
  enumConnectionPoints _ := .create some fun _ => rfl
  findConnectionPoint _ _ := .create some fun _ => rfl
  enumConnections _ := .create some fun _ => rfl
  nextConnectionPoints _ _ := .create (fun a => [a]) fun _ => rfl
  skipConnectionPoints _ _ := .refuse () rfl
  resetConnectionPoints _ := .refuse () rfl
  cloneConnectionPoints _ := .create some fun _ => rfl
  nextConnections _ _ := .refuse [] rfl
  cloneConnections _ := .create some fun _ => rfl

namespace ProxyCall

open ClientAction

theorem reach_container {env : Underlying} {h : ComHeap} (hreach : (clients env).Reachable h)
    {underlying : Option Nat} (howned : ∀ a ∈ underlying, 1 ≤ h.owned a) :
    (clients env).Reachable (newContainer env underlying h) ∧
      1 ≤ (newContainer env underlying h).owned h.next ∧
      (newContainer env underlying h).obj? h.next =
        some (.connectionPointContainer { underlying := underlying }) := by
  have hwf := reachable_wf hreach
  refine ⟨.step (.container underlying) hreach (if_pos howned), ?_,
    newContainer_obj? env hwf howned⟩
  exact (newContainer_holds env hwf howned).gives.owned_of_mem hwf.valid List.mem_cons_self

theorem reach_call {env : Underlying} {h : ComHeap} (hreach : (clients env).Reachable h)
    {this a : Nat} (howned : 1 ≤ h.owned this) {call : ProxyCall} {r : Outcome × ComHeap}
    (hrun : run env this call h = some r) (hobeys : Obeys h r) (hmem : a ∈ r.1.ptrs) :
    (clients env).Reachable r.2 ∧ 1 ≤ r.2.owned a := by
  refine ⟨.step (.call this call) hreach ?_,
    hobeys.holds.gives.owned_of_mem (reachable_wf hreach).valid hmem⟩
  exact (if_pos howned).trans (by rw [hrun]; rfl)

theorem getProxyConnectionPoint_succeeds {env : Underlying} {this pCP u : Nat} {h : ComHeap}
    (hquery : ((env.queryConnectionPoint pCP).run h).1.2 = some u) : ∃ p,
    (HostConnectionPointContainer.getProxyConnectionPoint env this (some pCP) true h).1.ptrs =
      [p] := by
  unfold HostConnectionPointContainer.getProxyConnectionPoint
  rw [if_neg (by decide)]
  dsimp only
  split
  · exact ⟨_, rfl⟩
  · rw [hquery]
    exact ⟨_, rfl⟩

theorem enumConnections_succeeds {env : Underlying} {this u : Nat} {p : HostConnectionPoint}
    {h : ComHeap} (hok : failed ((env.enumConnections p.underlying).run h).1.1 = false)
    (hptr : ((env.enumConnections p.underlying).run h).1.2 = some u) :
    ∃ e, (HostConnectionPoint.enumConnections env this p true h).1.ptrs = [e] := by
  unfold HostConnectionPoint.enumConnections
  rw [if_neg (by decide)]
  simp only [hok, hptr, Bool.false_eq_true, if_false]
  exact ⟨_, rfl⟩

/-- A client makes a control and its container. -/
theorem reach_control : ∃ h this, (clients sampleControl).Reachable h ∧ 1 ≤ h.owned this ∧
    h.obj? this = some (.connectionPointContainer { underlying := some 0 }) := by
  have hcontrol : (clients sampleControl).Reachable (newControl.run Heap.empty).2 :=
    .step (.foreign newControl) (.init rfl) rfl
  have howns : ∀ a ∈ some 0, 1 ≤ (newControl.run Heap.empty).2.owned a := by
    intro a ha
    obtain rfl : 0 = a := Option.some.inj ha
    exact (created wf_empty).gives.owned_of_mem wf_empty.valid List.mem_cons_self
  exact ⟨_, _, reach_container hcontrol howns⟩

/-- It asks for the control's connection point. -/
theorem reach_connectionPoint : ∃ h this p, (clients sampleControl).Reachable h ∧
    1 ≤ h.owned this ∧ h.obj? this = some (.connectionPoint p) := by
  obtain ⟨h, this, hcontainer, hthis, hobj⟩ := reach_control
  have hwf := reachable_wf hcontainer
  have hquery : ((sampleControl.queryConnectionPoint 0).run h).1.2 = some 0 := by
    have hlive : h.Live 0 := Gives.live_of_refs hwf.valid hobj
      (by simp [Object.refs, ComObject.refs])
    obtain ⟨o, ho⟩ := Heap.live_iff.mp hlive
    simp [sampleControl, ForeignCall.give, ho]
  have hrun : run sampleControl this (getProxyConnectionPoint (some 0) true) h =
      some (HostConnectionPointContainer.getProxyConnectionPoint sampleControl this (some 0)
        true h) := by
    simp only [run, hobj]
  have hstays := stays_of_owned hthis hobj
  obtain ⟨p, hp⟩ := @getProxyConnectionPoint_succeeds sampleControl this 0 0 h hquery
  have hmem : p ∈ _ := hp ▸ List.mem_cons_self
  obtain ⟨cp, hcp, -⟩ := HostConnectionPointContainer.getProxyConnectionPoint_hands sampleControl
    hwf hstays (some 0) true p hmem
  obtain ⟨hreach, hown⟩ := reach_call hcontainer hthis hrun
    (HostConnectionPointContainer.getProxyConnectionPoint_performs sampleControl hwf hstays (some 0)
      true).obeys hmem
  exact ⟨_, p, cp, hreach, hown, hcp⟩

/-- It gets an enumerator of the connections, and owns it. -/
theorem law_iff_enumConnections : ∃ h this r e,
    run sampleControl this (enumConnections true) h = some r ∧ r.1.ptrs = [e] ∧ Law h r := by
  obtain ⟨h, this, p, hreach, howned, hobj⟩ := reach_connectionPoint
  have hrun : run sampleControl this (enumConnections true) h =
      some (HostConnectionPoint.enumConnections sampleControl this p true h) := by
    simp only [run, hobj]
  have hsound : Sound sampleControl this (enumConnections true) h := by
    simp only [Sound, hobj]
  obtain ⟨e, he⟩ := @enumConnections_succeeds sampleControl this h.next p h failed_S_OK rfl
  exact ⟨h, this, _, e, hrun, he, (law_iff hreach howned hrun).mpr hsound⟩

/-- The client enumerates the connections. -/
theorem reach_enumConnections : ∃ h this u p, (clients sampleControl).Reachable h ∧
    1 ≤ h.owned this ∧
    h.obj? this = some (.enumConnections { underlying := some u, connectionPoint := p }) := by
  obtain ⟨h, this, p, hpoint, hthis, hobj⟩ := reach_connectionPoint
  have hwf := reachable_wf hpoint
  have hrun : run sampleControl this (enumConnections true) h =
      some (HostConnectionPoint.enumConnections sampleControl this p true h) := by
    simp only [run, hobj]
  obtain ⟨e, he⟩ := @enumConnections_succeeds sampleControl this h.next p h failed_S_OK rfl
  have hmem : e ∈ _ := he ▸ List.mem_cons_self
  obtain ⟨u, hu⟩ := HostConnectionPoint.enumConnections_hands sampleControl hwf hthis hobj true e
    hmem
  obtain ⟨hreach, hown⟩ := reach_call hpoint hthis hrun
    (HostConnectionPoint.enumConnections_performs sampleControl hwf hthis hobj true).obeys hmem
  exact ⟨_, e, u, this, hreach, hown, hu⟩

/-- The clone of an enumerator of connections is destroyed before the client has it. -/
theorem not_law_clone : ¬ ∀ env h this call r, (clients env).Reachable h → 1 ≤ h.owned this →
    run env this call h = some r → Law h r := by
  intro hlaw
  obtain ⟨h, this, u, p, hreach, howned, hobj⟩ := reach_enumConnections
  have hrun : run sampleControl this (cloneConnections true) h =
      some (HostEnumConnections.clone sampleControl
        { underlying := some u, connectionPoint := p } true h) := by
    simp only [run, hobj]
  have hclones : HostEnumConnections.Clones sampleControl
      { underlying := some u, connectionPoint := p } true h := ⟨rfl, u, rfl, failed_S_OK⟩
  obtain ⟨-, hiff⟩ := HostEnumConnections.clone_law_iff sampleControl (reachable_wf hreach) howned
    hobj true
  exact hiff.mp (hlaw sampleControl h this _ _ hreach howned hrun) hclones

end ProxyCall

end Axhost
