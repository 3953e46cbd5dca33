import Axhost.Lib.RefHeap
import Axhost.Lib.UnorderedMap
import Axhost.Platform.Windows

/-!
# The event proxies on the heap

`connection_point_container.h`, `connection_point.h`, `enum_connection_points.h` and
`enum_connections.h`.  Each proxy holds references to the object it stands for and to the
proxy it belongs to; all other objects, the control's and the clients', are `other`.

A call to an object outside the proxies is a `ForeignCall`: it may do anything to the heap
that the rules of COM allow, which are its fields.
-/

namespace Axhost

open RefHeap

/-- `m_proxyConnectionPoints` is keyed by the address of an object's `IUnknown`. -/
structure HostConnectionPointContainer where
  underlying : Option Nat
  proxyConnectionPoints : List (Nat × Nat) := []
deriving DecidableEq, Repr

/-- Both constructor arguments are there wherever one is made. -/
structure HostConnectionPoint where
  underlying : Nat
  container : Nat
  connections : List (DWORD × Nat) := []
  underlyingConnections : List (DWORD × Nat) := []
deriving DecidableEq, Repr

structure HostEnumConnectionPoints where
  underlying : Option Nat
  container : Nat
deriving DecidableEq, Repr

structure HostEnumConnections where
  underlying : Option Nat
  connectionPoint : Nat
deriving DecidableEq, Repr

inductive ComObject
  | connectionPointContainer (c : HostConnectionPointContainer)
  | connectionPoint (p : HostConnectionPoint)
  | enumConnectionPoints (e : HostEnumConnectionPoints)
  | enumConnections (e : HostEnumConnections)
  | other (refs : List Nat)
deriving DecidableEq, Repr

namespace ComObject

def refs : ComObject → List Nat
  | connectionPointContainer c => c.underlying.toList ++ c.proxyConnectionPoints.map Prod.snd
  | connectionPoint p =>
    p.underlying :: p.container ::
      (p.connections.map Prod.snd ++ p.underlyingConnections.map Prod.snd)
  | enumConnectionPoints e => e.underlying.toList ++ [e.container]
  | enumConnections e => e.underlying.toList ++ [e.connectionPoint]
  | other refs => refs

/-- Only the maps of a proxy change after its construction, and that of a container only
grows. -/
def same : ComObject → ComObject → Prop
  | connectionPointContainer c, connectionPointContainer c' =>
    c.underlying = c'.underlying ∧ c.proxyConnectionPoints ⊆ c'.proxyConnectionPoints
  | connectionPoint p, connectionPoint p' =>
    p.underlying = p'.underlying ∧ p.container = p'.container
  | enumConnectionPoints e, enumConnectionPoints e' => e = e'
  | enumConnections e, enumConnections e' => e = e'
  | other _, other _ => True
  | _, _ => False

end ComObject

instance : Object ComObject where
  refs := ComObject.refs
  same := ComObject.same
  same_refl o := by cases o <;> simp [ComObject.same]
  same_trans o p q hop hpq := by
    cases o <;> cases p <;> simp only [ComObject.same] at hop <;>
      cases q <;> simp only [ComObject.same] at hpq ⊢
    · exact ⟨hop.1.trans hpq.1, List.Subset.trans hop.2 hpq.2⟩
    · exact ⟨hop.1.trans hpq.1, hop.2.trans hpq.2⟩
    · exact hop.trans hpq
    · exact hop.trans hpq

abbrev ComHeap := Heap ComObject

/-- A valid heap whose proxies belong to proxies of the right kind. -/
structure Wf (h : ComHeap) : Prop where
  valid : h.Valid
  proxies : ∀ a c, h.obj? a = some (.connectionPointContainer c) →
    ∀ kp ∈ c.proxyConnectionPoints, ∃ p, h.obj? kp.2 = some (.connectionPoint p) ∧ p.container = a
  container : ∀ a e, h.obj? a = some (.enumConnectionPoints e) →
    ∃ c, h.obj? e.container = some (.connectionPointContainer c)
  connectionPoint : ∀ a e, h.obj? a = some (.enumConnections e) →
    ∃ p, h.obj? e.connectionPoint = some (.connectionPoint p)

/-- A call to an object that is not a proxy, with the pointers it hands out.  It keeps the
heap in order, gives one reference for each pointer, and gives none when it fails. -/
structure ForeignCall (ρ : Type) (ptrs : ρ → List Nat) where
  run : ComHeap → (HRESULT × ρ) × ComHeap
  wf : ∀ h, Wf h → Wf (run h).2
  gives : ∀ h, Wf h → Gives h (run h).2 (ptrs (run h).1.2)
  none_of_failed : ∀ h, failed (run h).1.1 = true → ptrs (run h).1.2 = []

/-- What the proxies are linked with: the allocator behind `new`, and the calls they make to
the objects of the control. -/
structure Underlying where
  allocate : (h : ComHeap) → h.FreeAddress
  queryUnknown : Nat → ForeignCall (Option Nat) Option.toList
  queryConnectionPoint : Nat → ForeignCall (Option Nat) Option.toList
  enumConnectionPoints : Nat → ForeignCall (Option Nat) Option.toList
  findConnectionPoint : Nat → IID → ForeignCall (Option Nat) Option.toList
  enumConnections : Nat → ForeignCall (Option Nat) Option.toList
  nextConnectionPoints : Nat → DWORD → ForeignCall (List Nat) id
  skipConnectionPoints : Nat → DWORD → ForeignCall Unit fun _ => []
  resetConnectionPoints : Nat → ForeignCall Unit fun _ => []
  cloneConnectionPoints : Nat → ForeignCall (Option Nat) Option.toList
  nextConnections : Nat → DWORD → ForeignCall (List (DWORD × Nat)) (List.map Prod.snd)
  cloneConnections : Nat → ForeignCall (Option Nat) Option.toList

/-- What a method returns: its result, the pointers it wrote, and the number it fetched
where it reports one. -/
structure Outcome where
  hr : HRESULT
  ptrs : List Nat := []
  fetched : Option Nat := none
deriving DecidableEq, Repr

theorem lt_next_of_obj? {h : ComHeap} {a : Nat} {o : ComObject} (ho : h.obj? a = some o) :
    a < h.next := by
  obtain ⟨c, hc, -⟩ := Option.map_eq_some_iff.mp ho
  exact Heap.lt_next hc

theorem ComObject.live_refs {h : ComHeap} {o q : ComObject} {t : Nat} (u : Option Nat)
    (hrefs : o.refs = u.toList ++ [t]) (hu : ∀ a ∈ u, h.Live a) (ht : h.obj? t = some q) :
    ∀ a ∈ o.refs, h.Live a := by
  intro a ha
  rw [hrefs] at ha
  rcases List.mem_append.mp ha with hmem | hmem
  · exact hu a (Option.mem_toList.mp hmem)
  · obtain rfl := List.mem_singleton.mp hmem
    exact Heap.live_iff.mpr ⟨q, ht⟩

/-! ## What keeps a heap in order -/

/-- A heap stays in order while objects only go. -/
theorem Wf.of_kept {h h' : ComHeap} (hwf : Wf h) (hvalid : h'.Valid)
    (hkept : ∀ {a o}, h'.obj? a = some o → h.obj? a = some o) : Wf h' := by
  have href {a b : Nat} {o : ComObject} (ha : h'.obj? a = some o) (hmem : b ∈ o.refs) :
      h'.obj? b = h.obj? b := by
    obtain ⟨o', ho'⟩ := Heap.live_iff.mp (Gives.live_of_refs hvalid ha hmem)
    rw [ho', hkept ho']
  refine ⟨hvalid, fun a c hc kp hkp => ?_, fun a e he => ?_, fun a e he => ?_⟩
  · rw [href hc (List.mem_append_right _ (List.mem_map_of_mem hkp))]
    exact hwf.proxies a c (hkept hc) kp hkp
  · rw [href he (by simp [ComObject.refs])]
    exact hwf.container a e (hkept he)
  · rw [href he (by simp [ComObject.refs])]
    exact hwf.connectionPoint a e (hkept he)

/-- What a new object has to refer to. -/
def Placed (h : ComHeap) : ComObject → Prop
  | .connectionPointContainer c => c.proxyConnectionPoints = []
  | .enumConnectionPoints e => ∃ c, h.obj? e.container = some (.connectionPointContainer c)
  | .enumConnections e => ∃ p, h.obj? e.connectionPoint = some (.connectionPoint p)
  | _ => True

theorem new_old {h : ComHeap} (x : h.FreeAddress) (o : ComObject) {a : Nat} {q : ComObject}
    (hq : h.obj? a = some q) : (h.new x o).obj? a = some q := by
  obtain ⟨c, hc, -⟩ := Option.map_eq_some_iff.mp hq
  rw [Heap.new_obj?, if_neg (Heap.lt_next hc).ne]
  exact hq

theorem Wf.new {h : ComHeap} (x : h.FreeAddress) {o : ComObject} (hwf : Wf h)
    (hlive : ∀ a ∈ o.refs, h.Live a) (hplaced : Placed h o) : Wf (h.new x o) := by
  have hcases {a : Nat} {q : ComObject} (hq : (h.new x o).obj? a = some q) :
      o = q ∨ h.obj? a = some q := by
    rw [Heap.new_obj?] at hq
    split_ifs at hq
    · exact Or.inl (Option.some.inj hq)
    · exact Or.inr hq
  refine ⟨(Gives.new x hwf.valid hlive).valid, fun a c hc kp hkp => ?_, fun a e he => ?_,
    fun a e he => ?_⟩
  · rcases hcases hc with rfl | hold
    · have hempty : c.proxyConnectionPoints = [] := hplaced
      simp [hempty] at hkp
    · obtain ⟨p, hp, hcontainer⟩ := hwf.proxies a c hold kp hkp
      exact ⟨p, new_old x o hp, hcontainer⟩
  · have hcontainer : ∃ c, h.obj? e.container = some (.connectionPointContainer c) := by
      rcases hcases he with rfl | hold
      · exact hplaced
      · exact hwf.container a e hold
    obtain ⟨c, hc⟩ := hcontainer
    exact ⟨c, new_old x o hc⟩
  · have hpoint : ∃ p, h.obj? e.connectionPoint = some (.connectionPoint p) := by
      rcases hcases he with rfl | hold
      · exact hplaced
      · exact hwf.connectionPoint a e hold
    obtain ⟨p, hp⟩ := hpoint
    exact ⟨p, new_old x o hp⟩

/-- A container's map takes in a proxy that belongs to the container. -/
theorem Wf.emplaced {h : ComHeap} {this key p : Nat} {c : HostConnectionPointContainer}
    {cp : HostConnectionPoint} (hwf : Wf h)
    (hthis : h.obj? this = some (.connectionPointContainer c))
    (hp : h.obj? p = some (.connectionPoint cp)) (hcontainer : cp.container = this)
    (hvalid : (h.setObj this (.connectionPointContainer
      { c with proxyConnectionPoints := (key, p) :: c.proxyConnectionPoints })).Valid) :
    Wf (h.setObj this (.connectionPointContainer
      { c with proxyConnectionPoints := (key, p) :: c.proxyConnectionPoints })) := by
  have hobj := Heap.setObj_obj? (Heap.live_iff.mpr ⟨_, hthis⟩) (.connectionPointContainer
    { c with proxyConnectionPoints := (key, p) :: c.proxyConnectionPoints })
  have hother {a : Nat} {q : ComObject} (hq : ∀ c', q ≠ .connectionPointContainer c')
      (ha : h.obj? a = some q) : (h.setObj this (.connectionPointContainer
        { c with proxyConnectionPoints := (key, p) :: c.proxyConnectionPoints })).obj? a =
          some q := by
    rw [hobj, if_neg]
    · exact ha
    · rintro rfl
      exact hq c (Option.some.inj (ha.symm.trans hthis))
  refine ⟨hvalid, fun a c' hc' kp hkp => ?_, fun a e he => ?_, fun a e he => ?_⟩
  · have hproxy : ∃ p, h.obj? kp.2 = some (.connectionPoint p) ∧ p.container = a := by
      rw [hobj] at hc'
      split_ifs at hc' with ha
      · cases hc'
        rcases List.mem_cons.mp hkp with rfl | hold
        · exact ⟨cp, hp, hcontainer.trans ha.symm⟩
        · rw [ha]
          exact hwf.proxies this c hthis kp hold
      · exact hwf.proxies a c' hc' kp hkp
    obtain ⟨p', hp', hcontainer'⟩ := hproxy
    exact ⟨p', hother (by simp) hp', hcontainer'⟩
  · rw [hobj] at he
    split_ifs at he
    · simp at he
    · obtain ⟨c', hc'⟩ := hwf.container a e he
      rw [hobj]
      split_ifs
      · exact ⟨_, rfl⟩
      · exact ⟨c', hc'⟩
  · rw [hobj] at he
    split_ifs at he
    · simp at he
    · obtain ⟨p', hp'⟩ := hwf.connectionPoint a e he
      exact ⟨p', hother (by simp) hp'⟩

theorem Wf.setObj {h : ComHeap} {this : Nat} {o o' : ComObject} (hwf : Wf h)
    (hobj : h.obj? this = some o) (hvalid : (h.setObj this o').Valid)
    (hold : ∀ c, o ≠ .connectionPointContainer c)
    (hnew : (∀ c, o' ≠ .connectionPointContainer c) ∧ (∀ e, o' ≠ .enumConnectionPoints e) ∧
      ∀ e, o' ≠ .enumConnections e)
    (hpoint : ∀ p, o = .connectionPoint p →
      ∃ p', o' = .connectionPoint p' ∧ p'.container = p.container) : Wf (h.setObj this o') := by
  have hset := Heap.setObj_obj? (Heap.live_iff.mpr ⟨_, hobj⟩) o'
  have hkeep {a : Nat} {q : ComObject} (hne : o' ≠ q) (ha : (h.setObj this o').obj? a = some q) :
      h.obj? a = some q := by
    rw [hset] at ha
    split_ifs at ha
    · exact absurd (Option.some.inj ha) hne
    · exact ha
  have hpoints {a : Nat} {p : HostConnectionPoint} (ha : h.obj? a = some (.connectionPoint p)) :
      ∃ p', (h.setObj this o').obj? a = some (.connectionPoint p') ∧
        p'.container = p.container := by
    rw [hset]
    split_ifs with heq
    · subst heq
      obtain ⟨p', rfl, hcontainer⟩ := hpoint p (Option.some.inj (hobj.symm.trans ha))
      exact ⟨p', rfl, hcontainer⟩
    · exact ⟨p, ha, rfl⟩
  refine ⟨hvalid, fun a c hc kp hkp => ?_, fun a e he => ?_, fun a e he => ?_⟩
  · obtain ⟨p, hp, hcontainer⟩ := hwf.proxies a c (hkeep (hnew.1 c) hc) kp hkp
    obtain ⟨p', hp', hsame⟩ := hpoints hp
    exact ⟨p', hp', hsame.trans hcontainer⟩
  · obtain ⟨c, hc⟩ := hwf.container a e (hkeep (hnew.2.1 e) he)
    refine ⟨c, ?_⟩
    rw [hset, if_neg, hc]
    rintro heq
    exact hold c (Option.some.inj (hobj.symm.trans (heq ▸ hc)))
  · obtain ⟨p, hp⟩ := hwf.connectionPoint a e (hkeep (hnew.2.2 e) he)
    obtain ⟨p', hp', -⟩ := hpoints hp
    exact ⟨p', hp'⟩

/-! ## What a method holds as it goes -/

/-- From `h₀`, the method has got to `h`, and holds the references `ws`. -/
structure Holds (h₀ h : ComHeap) (ws : List Nat) : Prop where
  wf : Wf h
  gives : Gives h₀ h ws

namespace Holds

variable {h₀ h h' : ComHeap} {ws ws' : List Nat} {a : Nat}

theorem refl (hwf : Wf h) : Holds h h [] := ⟨hwf, .refl hwf.valid⟩

theorem perm (hh : Holds h₀ h ws) (hperm : ws.Perm ws') : Holds h₀ h ws' :=
  ⟨hh.wf, hh.gives.perm hperm⟩

theorem trans (hh : Holds h₀ h ws) (hh' : Holds h h' ws') : Holds h₀ h' (ws' ++ ws) :=
  ⟨hh'.wf, (hh.gives.trans hh'.gives).perm List.perm_append_comm⟩

theorem addRef (hh : Holds h₀ h ws) (hlive : h.Live a) : Holds h₀ (h.addRef a) (a :: ws) := by
  have hgives := Gives.addRef hh.wf.valid hlive
  exact ⟨hh.wf.of_kept hgives.valid fun {b o} ho => by rwa [Heap.addRef_obj?] at ho,
    (hh.gives.trans hgives).perm List.perm_append_comm⟩

theorem foreign {ρ : Type} {ptrs : ρ → List Nat} (hh : Holds h₀ h ws) (call : ForeignCall ρ ptrs) :
    Holds h₀ (call.run h).2 (ptrs (call.run h).1.2 ++ ws) :=
  hh.trans ⟨call.wf h hh.wf, call.gives h hh.wf⟩

theorem new (x : h.FreeAddress) {o : ComObject} (hh : Holds h₀ h ws)
    (hlive : ∀ a ∈ o.refs, h.Live a) (hplaced : Placed h o) : Holds h₀ (h.new x o) ws := by
  have hgives := (hh.gives.trans (Gives.new x hh.wf.valid hlive)).perm List.perm_append_comm
  exact ⟨hh.wf.new x hlive hplaced, hgives⟩

theorem emplaced {this key p : Nat} {c : HostConnectionPointContainer} {cp : HostConnectionPoint}
    (hh : Holds h₀ h (p :: ws)) (hvalid : h₀.Valid)
    (hthis : h.obj? this = some (.connectionPointContainer c))
    (hp : h.obj? p = some (.connectionPoint cp)) (hcontainer : cp.container = this) :
    Holds h₀ (h.setObj this (.connectionPointContainer
      { c with proxyConnectionPoints := (key, p) :: c.proxyConnectionPoints })) ws := by
  have hsame : Object.same (.connectionPointContainer c) (.connectionPointContainer
      { c with proxyConnectionPoints := (key, p) :: c.proxyConnectionPoints } : ComObject) :=
    ⟨rfl, List.subset_cons_self _ _⟩
  have hgives := hh.gives.store hthis List.perm_middle hsame hvalid
  exact ⟨hh.wf.emplaced hthis hp hcontainer hgives.valid, hgives⟩

theorem release (hh : Holds h₀ h (a :: ws)) (hvalid : h₀.Valid) : Holds h₀ (h.release a) ws := by
  have hgives := Gives.release hvalid hh.gives
  have howned := hh.gives.owned_of_mem hvalid List.mem_cons_self
  obtain ⟨hvalid', -, -⟩ := Heap.release_spec hh.wf.valid howned
  exact ⟨hh.wf.of_kept hvalid' Heap.releaseAll_obj?, hgives⟩

theorem live (hh : Holds h₀ h ws) (hvalid : h₀.Valid) (hmem : a ∈ ws) : h.Live a :=
  hh.gives.live hvalid hmem

/-- What somebody else owns stays what it is. -/
theorem kept {o : ComObject} (hh : Holds h₀ h ws) (howned : 1 ≤ h₀.owned a)
    (hobj : h₀.obj? a = some o) : ∃ o', h.obj? a = some o' ∧ o.same o' := by
  have hlive : h.Live a := by
    apply Gives.live_of_owned
    rw [hh.gives.owned_eq]
    omega
  obtain ⟨o', ho'⟩ := Heap.live_iff.mp hlive
  obtain ⟨c, hc, -⟩ := Option.map_eq_some_iff.mp hobj
  obtain ⟨o₁, ho₁, hsame⟩ := hh.gives.evolves.obj (Heap.lt_next hc) ho'
  obtain rfl : o₁ = o := Option.some.inj (ho₁.symm.trans hobj)
  exact ⟨o', ho', hsame⟩

end Holds

end Axhost
