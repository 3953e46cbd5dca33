import Axhost.Events.Methods

/-!
# What a method does, one action after another

A method of the event proxies copies and releases references, makes objects, calls the
control, and changes the maps of a connection point.  The one thing to single out is that it
makes a connection point for the control's and puts it into the map of a container.  `Trace`
is a sequence of such actions, and `Traced` is `Holds` together with the sequence that led
there.
-/

namespace Axhost

open RefHeap

/-- A call to the control, by its effect on the heap. -/
inductive Underlying.Calls (env : Underlying) (h : ComHeap) : ComHeap → Prop
  | queryUnknown (a : Nat) : Calls env h ((env.queryUnknown a).run h).2
  | queryConnectionPoint (a : Nat) : Calls env h ((env.queryConnectionPoint a).run h).2
  | enumConnectionPoints (a : Nat) : Calls env h ((env.enumConnectionPoints a).run h).2
  | findConnectionPoint (a : Nat) (riid : IID) :
      Calls env h ((env.findConnectionPoint a riid).run h).2
  | enumConnections (a : Nat) : Calls env h ((env.enumConnections a).run h).2
  | nextConnectionPoints (a : Nat) (cConnections : DWORD) :
      Calls env h ((env.nextConnectionPoints a cConnections).run h).2
  | skipConnectionPoints (a : Nat) (cConnections : DWORD) :
      Calls env h ((env.skipConnectionPoints a cConnections).run h).2
  | resetConnectionPoints (a : Nat) : Calls env h ((env.resetConnectionPoints a).run h).2
  | cloneConnectionPoints (a : Nat) : Calls env h ((env.cloneConnectionPoints a).run h).2
  | nextConnections (a : Nat) (cConnections : DWORD) :
      Calls env h ((env.nextConnections a cConnections).run h).2
  | cloneConnections (a : Nat) : Calls env h ((env.cloneConnections a).run h).2

def ComObject.proxy : ComObject → Bool
  | other _ => false
  | _ => true

/-- An action that leaves the map of every container as it is. -/
inductive Act (calls : ComHeap → ComHeap → Prop) : ComHeap → ComHeap → Prop
  | addRef {h : ComHeap} {a : Nat} (hlive : h.Live a) : Act calls h (h.addRef a)
  | release {h : ComHeap} {a : Nat} (howned : 1 ≤ h.owned a) : Act calls h (h.release a)
  | call {h h' : ComHeap} (hcall : calls h h') : Act calls h h'
  | create {h : ComHeap} {o : ComObject} (x : h.FreeAddress) (hlive : ∀ a ∈ o.refs, h.Live a)
      (hplaced : Placed h o) (hkind : o.proxy = true ∧ ∀ p, o ≠ .connectionPoint p) :
      Act calls h (((h.new x o).addRef h.next).addRef h.next)
  | maps {h : ComHeap} {a : Nat} {p p' : HostConnectionPoint}
      (hobj : h.obj? a = some (.connectionPoint p)) (hunderlying : p'.underlying = p.underlying)
      (hcontainer : p'.container = p.container) :
      Act calls h (h.setObj a (.connectionPoint p'))

/-- A connection point that is made for `u` and put into the map of the container at `this`. -/
def linkProxy (env : Underlying) (this key u : Nat) (h : ComHeap) : ComHeap :=
  HostConnectionPointContainer.emplaceProxy this key h.next
    (newProxy env (.connectionPoint { underlying := u, container := this }) h)

/-- A sequence of actions, and whether a connection point was made in it. -/
inductive Trace (calls : ComHeap → ComHeap → Prop) (h₀ : ComHeap) : Bool → ComHeap → Prop
  | refl : Trace calls h₀ false h₀
  | act {makes : Bool} {h h' : ComHeap} (htrace : Trace calls h₀ makes h) (hwf : Wf h)
      (hact : Act calls h h') : Trace calls h₀ makes h'
  | link {makes : Bool} {h : ComHeap} (env : Underlying) {this key u : Nat}
      {c : HostConnectionPointContainer} (htrace : Trace calls h₀ makes h)
      (hthis : h.obj? this = some (.connectionPointContainer c))
      (hwf : Wf (linkProxy env this key u h)) : Trace calls h₀ true (linkProxy env this key u h)

namespace Trace

variable {calls : ComHeap → ComHeap → Prop} {h₀ h h' : ComHeap} {makes makes' : Bool}

theorem trans (htrace : Trace calls h₀ makes h) (htrace' : Trace calls h makes' h') :
    Trace calls h₀ (makes || makes') h' := by
  induction htrace' with
  | refl =>
      rw [Bool.or_false]
      exact htrace
  | act _ hwf hact ih => exact .act ih hwf hact
  | link env _ hthis hwf ih =>
      rw [Bool.or_true]
      exact .link env ih hthis hwf

theorem mono {calls' : ComHeap → ComHeap → Prop}
    (hcalls : ∀ h h', Wf h → calls h h' → calls' h h') (htrace : Trace calls h₀ makes h) :
    Trace calls' h₀ makes h := by
  induction htrace with
  | refl => exact .refl
  | act _ hwf hact ih =>
      refine .act ih hwf ?_
      cases hact with
      | addRef hlive => exact .addRef hlive
      | release howned => exact .release howned
      | call hcall => exact .call (hcalls _ _ hwf hcall)
      | create x hlive hplaced hkind => exact .create x hlive hplaced hkind
      | maps hobj hunderlying hcontainer => exact .maps hobj hunderlying hcontainer
  | link env _ hthis hwf ih => exact .link env ih hthis hwf

end Trace

theorem ForeignCall.ptr_cases (call : ForeignCall (Option Nat) Option.toList) (h : ComHeap) :
    (call.run h).1.2 = none ∨
      ∃ a, (call.run h).1.2 = some a ∧ failed (call.run h).1.1 = false := by
  cases hptr : (call.run h).1.2 with
  | none => exact Or.inl rfl
  | some a =>
      refine Or.inr ⟨a, rfl, ?_⟩
      cases hfailed : failed (call.run h).1.1 with
      | false => rfl
      | true =>
          have hnone := call.none_of_failed h hfailed
          simp [hptr] at hnone

/-! ## New proxies -/

theorem made_obj?_of_ne {h : ComHeap} (x : h.FreeAddress) (o : ComObject) {a : Nat}
    (ha : a ≠ h.next) : (((h.new x o).addRef h.next).addRef h.next).obj? a = h.obj? a := by
  rw [Heap.addRef_obj?, Heap.addRef_obj?, Heap.new_obj?, if_neg ha]

section NewProxy

variable (env : Underlying)

theorem newProxy_holds {h₀ h : ComHeap} {ws : List Nat} {o : ComObject} (hh : Holds h₀ h ws)
    (hvalid : h₀.Valid) (hlive : ∀ a ∈ o.refs, h.Live a) (hplaced : Placed h o) :
    Holds h₀ (newProxy env o h) (h.next :: h.next :: ws) := by
  have hnew := hh.new (env.allocate h) hlive hplaced
  have hobj : (h.new (env.allocate h) o).Live h.next := by
    rw [Heap.live_iff]
    exact ⟨o, by rw [Heap.new_obj?, if_pos rfl]⟩
  have hone := hnew.addRef hobj
  exact hone.addRef (hone.live hvalid List.mem_cons_self)

theorem newProxy_cell (o : ComObject) (h : ComHeap) :
    (newProxy env o h).cell h.next = some ⟨(env.allocate h).1, 2, o⟩ := by
  simp [newProxy, Heap.addRef, Heap.modify_cell, Heap.new]

theorem newProxy_obj? (o : ComObject) (h : ComHeap) :
    (newProxy env o h).obj? h.next = some o := by
  rw [Heap.obj?, newProxy_cell]
  rfl

theorem newProxy_obj?_of_ne (o : ComObject) {h : ComHeap} {a : Nat} (ha : a ≠ h.next) :
    (newProxy env o h).obj? a = h.obj? a :=
  made_obj?_of_ne (env.allocate h) o ha

end NewProxy

namespace HostConnectionPointContainer

theorem emplaceProxy_holds {h₀ h : ComHeap} {p : Nat} {cp : HostConnectionPoint} {ws : List Nat}
    {this : Nat} (key : Nat) (hh : Holds h₀ h ws) (hvalid : h₀.Valid)
    (hp : h.obj? p = some (.connectionPoint cp)) (hcontainer : cp.container = this) :
    Holds h₀ (emplaceProxy this key p h) ws := by
  unfold emplaceProxy
  split
  · next c hobj =>
    split_ifs with hfind
    · exact hh
    · have hadd := hh.addRef (Heap.live_iff.mpr ⟨_, hp⟩)
      rw [← Heap.addRef_obj? h p] at hobj hp
      have hgrown : UnorderedMap.emplace c.proxyConnectionPoints key p =
          (key, p) :: c.proxyConnectionPoints := if_neg hfind
      rw [hgrown]
      exact hadd.emplaced hvalid hobj hp hcontainer
  · exact hh

end HostConnectionPointContainer

/-! ## What a method holds, and how it got there -/

/-- From `h₀`, the method has got to `h` by a sequence of actions, and holds the references
`ws`. -/
structure Traced (calls : ComHeap → ComHeap → Prop) (makes : Bool) (h₀ h : ComHeap)
    (ws : List Nat) : Prop extends Holds h₀ h ws where
  trace : Trace calls h₀ makes h

namespace Traced

variable {calls : ComHeap → ComHeap → Prop} {makes makes' : Bool} {h₀ h h' : ComHeap}
  {ws ws' : List Nat} {a : Nat}

theorem refl (calls : ComHeap → ComHeap → Prop) (hwf : Wf h) : Traced calls false h h [] :=
  ⟨.refl hwf, .refl⟩

theorem perm (hh : Traced calls makes h₀ h ws) (hperm : ws.Perm ws') :
    Traced calls makes h₀ h ws' := ⟨hh.toHolds.perm hperm, hh.trace⟩

theorem trans (hh : Traced calls makes h₀ h ws) (hh' : Traced calls makes' h h' ws') :
    Traced calls (makes || makes') h₀ h' (ws' ++ ws) :=
  ⟨hh.toHolds.trans hh'.toHolds, hh.trace.trans hh'.trace⟩

theorem addRef (hh : Traced calls makes h₀ h ws) (hlive : h.Live a) :
    Traced calls makes h₀ (h.addRef a) (a :: ws) :=
  ⟨hh.toHolds.addRef hlive, .act hh.trace hh.wf (.addRef hlive)⟩

theorem release (hh : Traced calls makes h₀ h (a :: ws)) (hvalid : h₀.Valid) :
    Traced calls makes h₀ (h.release a) ws :=
  ⟨hh.toHolds.release hvalid, .act hh.trace hh.wf
    (.release (hh.gives.owned_of_mem hvalid List.mem_cons_self))⟩

theorem foreign {ρ : Type} {ptrs : ρ → List Nat} (hh : Traced calls makes h₀ h ws)
    (call : ForeignCall ρ ptrs) (hcall : calls h (call.run h).2) :
    Traced calls makes h₀ (call.run h).2 (ptrs (call.run h).1.2 ++ ws) :=
  ⟨hh.toHolds.foreign call, .act hh.trace hh.wf (.call hcall)⟩

theorem foreign_cases (hh : Traced calls makes h₀ h ws)
    (call : ForeignCall (Option Nat) Option.toList) (hcall : calls h (call.run h).2) :
    ((call.run h).1.2 = none ∧ Traced calls makes h₀ (call.run h).2 ws) ∨
    (∃ a, (call.run h).1.2 = some a ∧ failed (call.run h).1.1 = false ∧
      Traced calls makes h₀ (call.run h).2 (a :: ws)) := by
  have hgives := hh.foreign call hcall
  rcases call.ptr_cases h with hptr | ⟨a, hptr, hok⟩
  · rw [hptr] at hgives
    exact Or.inl ⟨hptr, hgives⟩
  · rw [hptr] at hgives
    exact Or.inr ⟨a, hptr, hok, hgives⟩

theorem newProxy (env : Underlying) {o : ComObject} (hh : Traced calls makes h₀ h ws)
    (hvalid : h₀.Valid) (hlive : ∀ a ∈ o.refs, h.Live a) (hplaced : Placed h o)
    (hkind : o.proxy = true ∧ ∀ p, o ≠ .connectionPoint p) :
    Traced calls makes h₀ (newProxy env o h) (h.next :: h.next :: ws) :=
  ⟨newProxy_holds env hh.toHolds hvalid hlive hplaced,
    .act hh.trace hh.wf (.create (env.allocate h) hlive hplaced hkind)⟩

theorem linkProxy (env : Underlying) {this u : Nat} {c : HostConnectionPointContainer} (key : Nat)
    (hh : Traced calls makes h₀ h ws) (hvalid : h₀.Valid) (hu : h.Live u)
    (hthis : h.obj? this = some (.connectionPointContainer c)) :
    Traced calls true h₀ (linkProxy env this key u h) (h.next :: h.next :: ws) := by
  have hlive : ∀ a ∈ ComObject.refs (.connectionPoint { underlying := u, container := this }),
      h.Live a := ComObject.live_refs (some u) rfl (by simpa using hu) hthis
  have hnew := newProxy_holds env hh.toHolds hvalid hlive trivial
  have hstored := HostConnectionPointContainer.emplaceProxy_holds key hnew hvalid
    (newProxy_obj? env _ _) rfl
  exact ⟨hstored, .link env hh.trace hthis hstored.wf⟩

end Traced

end Axhost
