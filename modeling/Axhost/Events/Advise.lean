import Axhost.Events.Calls

/-!
# Advise and Unadvise on the heap

What `HostConnectionPoint::Advise` and `Unadvise` do to the objects and the references of the
heap.  A `HostEventSink` is one of the other objects: it refers to the client's sink only.
-/

namespace Axhost

open RefHeap

/-- A control with its connection points, the sinks of the clients, and the global interface
table.  What the table holds for a sink is counted with the sink, which revokes it as it goes. -/
structure EventSource extends Underlying where
  queryDispatch : Nat → ForeignCall (Option Nat) Option.toList
  registerInterfaceInGlobal : Nat → ForeignCall (Option Nat) Option.toList
  advise : Nat → Nat → ForeignCall DWORD fun _ => []
  unadvise : Nat → DWORD → ForeignCall Unit fun _ => []

namespace HostEventSink

variable (source : EventSource)

/-- `CreateGlobalSink`, with the reference that stays behind `m_cookie`. -/
def createGlobalSink (pUnkSink : Nat) (h : ComHeap) : Option Nat × ComHeap :=
  let ((_, sink), h) := (source.queryDispatch pUnkSink).run h
  match sink with
  | none => (none, h)
  | some sink =>
    let ((_, registered), h) := (source.registerInterfaceInGlobal sink).run h
    (registered, h.release sink)

/-- What the constructor puts into the fields beside `m_underlying`: `m_underlyingDispatch`, and
the reference behind `m_cookie`. -/
def fields (underlying : Nat) (h : ComHeap) : List Nat × ComHeap :=
  let ((_, underlyingDispatch), h) := (source.queryDispatch underlying).run h
  let (registered, h) := createGlobalSink source underlying h
  (underlyingDispatch.toList ++ registered.toList, h)

/-- `new HostEventSink(underlying)`, and two local pointers to it. -/
def make (underlying : Nat) (h : ComHeap) : Nat × ComHeap :=
  let (held, h) := fields source underlying h
  (h.next, held.foldl Heap.release (newProxy source.toUnderlying (.other (underlying :: held)) h))

end HostEventSink

/-- The two maps of a connection point. -/
inductive ConnectionMap
  | connections
  | underlyingConnections
deriving DecidableEq, Repr

namespace ConnectionMap

def entries : ConnectionMap → HostConnectionPoint → List (DWORD × Nat)
  | connections, p => p.connections
  | underlyingConnections, p => p.underlyingConnections

def setEntries : ConnectionMap → HostConnectionPoint → List (DWORD × Nat) → HostConnectionPoint
  | connections, p, entries => { p with connections := entries }
  | underlyingConnections, p, entries => { p with underlyingConnections := entries }

/-- What the connection point refers to beside the entries of the map. -/
def others : ConnectionMap → HostConnectionPoint → List Nat
  | connections, p => p.underlying :: p.container :: p.underlyingConnections.map Prod.snd
  | underlyingConnections, p => p.underlying :: p.container :: p.connections.map Prod.snd

/-- `emplace` on the map of the connection point at `this`, which copies the pointer. -/
def emplace (map : ConnectionMap) (this : Nat) (dwCookie : DWORD) (a : Nat) (h : ComHeap) :
    ComHeap :=
  match HostConnectionPoint.fields this h with
  | none => h
  | some p =>
    if (UnorderedMap.find (map.entries p) dwCookie).isSome then h
    else (h.addRef a).setObj this (.connectionPoint
      (map.setEntries p (UnorderedMap.emplace (map.entries p) dwCookie a)))

/-- `erase`, which releases the pointer. -/
def erase (map : ConnectionMap) (this : Nat) (dwCookie : DWORD) (h : ComHeap) : ComHeap :=
  match HostConnectionPoint.fields this h with
  | none => h
  | some p =>
    let erased := (map.entries p).filter fun e => e.1 = dwCookie
    (erased.map Prod.snd).foldl Heap.release (h.setObj this (.connectionPoint
      (map.setEntries p (UnorderedMap.erase (map.entries p) dwCookie))))

end ConnectionMap

namespace HostConnectionPoint

variable (source : EventSource)

def advise (this : Nat) (p : HostConnectionPoint) (pUnkSink : Option Nat) (pdwCookie : Bool)
    (h : ComHeap) : (HRESULT × Option DWORD) × ComHeap :=
  match pUnkSink with
  | none => ((E_INVALIDARG, none), h)
  | some pUnkSink =>
    if pdwCookie = false then ((E_INVALIDARG, none), h)
    else
      let (proxy, h) := HostEventSink.make source pUnkSink h
      let ((hr, dwCookie), h) := (source.advise p.underlying proxy).run h
      let h := if failed hr then h
        else ConnectionMap.emplace .underlyingConnections this dwCookie pUnkSink
          (ConnectionMap.emplace .connections this dwCookie proxy h)
      ((hr, some dwCookie), (h.release proxy).release proxy)

def unadvise (this : Nat) (p : HostConnectionPoint) (dwCookie : DWORD) (h : ComHeap) :
    HRESULT × ComHeap :=
  let ((hr, _), h) := (source.unadvise p.underlying dwCookie).run h
  if failed hr then (hr, h)
  else (hr, ConnectionMap.erase .underlyingConnections this dwCookie
    (ConnectionMap.erase .connections this dwCookie h))

end HostConnectionPoint

/-! ## Their actions -/

/-- A call to the control, to a sink or to the global interface table. -/
inductive EventSource.Calls (source : EventSource) (h : ComHeap) : ComHeap → Prop
  | underlying {h' : ComHeap} (hcall : source.toUnderlying.Calls h h') : Calls source h h'
  | queryDispatch (a : Nat) : Calls source h ((source.queryDispatch a).run h).2
  | registerInterfaceInGlobal (a : Nat) :
      Calls source h ((source.registerInterfaceInGlobal a).run h).2
  | advise (a proxy : Nat) : Calls source h ((source.advise a proxy).run h).2
  | unadvise (a : Nat) (dwCookie : DWORD) : Calls source h ((source.unadvise a dwCookie).run h).2

/-- What happens outside the proxies of the connection points: such a call, or that a
`HostEventSink` is made. -/
inductive EventSource.Effects (source : EventSource) (h : ComHeap) : ComHeap → Prop
  | call {h' : ComHeap} (hcall : source.Calls h h') : Effects source h h'
  | sink {refs : List Nat} (x : h.FreeAddress) (hlive : ∀ a ∈ refs, h.Live a) :
      Effects source h (((h.new x (.other refs)).addRef h.next).addRef h.next)

namespace Traced

variable {calls : ComHeap → ComHeap → Prop} {makes : Bool} {h₀ h : ComHeap} {ws : List Nat}

theorem releases (given : List Nat) (hh : Traced calls makes h₀ h (given ++ ws))
    (hvalid : h₀.Valid) : Traced calls makes h₀ (given.foldl Heap.release h) ws := by
  induction given generalizing h with
  | nil => exact hh
  | cons a given ih => exact ih (Traced.release hh hvalid)

theorem live_of_owned (hh : Traced calls makes h₀ h ws) {a : Nat} (howned : 1 ≤ h₀.owned a) :
    h.Live a := by
  apply Gives.live_of_owned
  rw [hh.gives.owned_eq]
  omega

end Traced

namespace ConnectionMap

variable {calls : ComHeap → ComHeap → Prop} {makes : Bool} {h₀ h : ComHeap} {ws : List Nat}

theorem refs_setEntries (map : ConnectionMap) (p : HostConnectionPoint)
    (entries : List (DWORD × Nat)) :
    (ComObject.refs (.connectionPoint (map.setEntries p entries))).Perm
      (entries.map Prod.snd ++ map.others p) := by
  cases map with
  | connections =>
      show (p.underlying :: p.container ::
        (entries.map Prod.snd ++ p.underlyingConnections.map Prod.snd)).Perm _
      exact List.perm_append_comm_assoc [p.underlying, p.container] _ _
  | underlyingConnections =>
      show (p.underlying :: p.container ::
        (p.connections.map Prod.snd ++ entries.map Prod.snd)).Perm _
      exact @List.perm_append_comm _ (p.underlying :: p.container :: p.connections.map Prod.snd) _

theorem refs_entries (map : ConnectionMap) (p : HostConnectionPoint) :
    (ComObject.refs (.connectionPoint p)).Perm ((map.entries p).map Prod.snd ++ map.others p) := by
  have hsame : map.setEntries p (map.entries p) = p := by cases map <;> rfl
  have hrefs := map.refs_setEntries p (map.entries p)
  rwa [hsame] at hrefs

theorem setEntries_underlying (map : ConnectionMap) (p : HostConnectionPoint)
    (entries : List (DWORD × Nat)) : (map.setEntries p entries).underlying = p.underlying := by
  cases map <;> rfl

theorem setEntries_container (map : ConnectionMap) (p : HostConnectionPoint)
    (entries : List (DWORD × Nat)) : (map.setEntries p entries).container = p.container := by
  cases map <;> rfl

theorem same_setEntries (map : ConnectionMap) (p : HostConnectionPoint)
    (entries : List (DWORD × Nat)) :
    Object.same (.connectionPoint p : ComObject) (.connectionPoint (map.setEntries p entries)) :=
  ⟨(map.setEntries_underlying p entries).symm, (map.setEntries_container p entries).symm⟩

theorem wf_setEntries {this : Nat} {p : HostConnectionPoint} (map : ConnectionMap)
    (entries : List (DWORD × Nat)) (hwf : Wf h) (hobj : h.obj? this = some (.connectionPoint p))
    (hvalid : (h.setObj this (.connectionPoint (map.setEntries p entries))).Valid) :
    Wf (h.setObj this (.connectionPoint (map.setEntries p entries))) := by
  refine hwf.setObj hobj hvalid (by simp) (by simp) fun q hq => ⟨_, rfl, ?_⟩
  obtain rfl : p = q := by simpa using hq
  exact map.setEntries_container p entries

theorem obj?_of_fields {this : Nat} {p : HostConnectionPoint}
    (hfields : HostConnectionPoint.fields this h = some p) :
    h.obj? this = some (.connectionPoint p) := by
  unfold HostConnectionPoint.fields at hfields
  split at hfields
  · next q hobj => rw [hobj, Option.some.inj hfields]
  · simp at hfields

theorem emplace_traced (map : ConnectionMap) (this : Nat) (dwCookie : DWORD) {a : Nat}
    (hh : Traced calls makes h₀ h ws) (hvalid : h₀.Valid) (hlive : h.Live a) :
    Traced calls makes h₀ (map.emplace this dwCookie a h) ws := by
  unfold emplace
  split
  · exact hh
  · next p hfields =>
    split_ifs with hfind
    · exact hh
    · have hobj := obj?_of_fields hfields
      have hadd := hh.addRef hlive
      rw [← Heap.addRef_obj? h a] at hobj
      have hgrown : UnorderedMap.emplace (map.entries p) dwCookie a =
          (dwCookie, a) :: map.entries p := if_neg hfind
      rw [hgrown]
      have hperm : (ComObject.refs (.connectionPoint
          (map.setEntries p ((dwCookie, a) :: map.entries p)))).Perm
            (a :: ComObject.refs (.connectionPoint p)) :=
        (map.refs_setEntries p _).trans ((map.refs_entries p).symm.cons a)
      have hgives := hadd.gives.store hobj hperm (map.same_setEntries p _) hvalid
      exact ⟨⟨map.wf_setEntries _ hadd.wf hobj hgives.valid, hgives⟩, .act hadd.trace hadd.wf
        (.maps hobj (map.setEntries_underlying p _) (map.setEntries_container p _))⟩

theorem erase_traced (map : ConnectionMap) (this : Nat) (dwCookie : DWORD)
    (hh : Traced calls makes h₀ h ws) (hvalid : h₀.Valid) :
    Traced calls makes h₀ (map.erase this dwCookie h) ws := by
  unfold erase
  split
  · exact hh
  · next p hfields =>
    have hobj := obj?_of_fields hfields
    have hsplit := List.filter_append_perm (fun e => decide (e.1 = dwCookie)) (map.entries p)
    have hrest : UnorderedMap.erase (map.entries p) dwCookie =
        (map.entries p).filter fun e => !decide (e.1 = dwCookie) := by
      simp [UnorderedMap.erase]
    have hperm : (ComObject.refs (.connectionPoint p)).Perm
        (((map.entries p).filter fun e => e.1 = dwCookie).map Prod.snd ++
          ComObject.refs (.connectionPoint
            (map.setEntries p (UnorderedMap.erase (map.entries p) dwCookie)))) := by
      have hentries := (map.refs_entries p).trans
        ((hsplit.symm.map Prod.snd).append_right (map.others p))
      rw [List.map_append, List.append_assoc, ← hrest] at hentries
      exact hentries.trans ((map.refs_setEntries p _).symm.append_left _)
    have hgives := hh.gives.take hobj hperm (map.same_setEntries p _) hvalid
    have htaken : Traced calls makes h₀ (h.setObj this (.connectionPoint
        (map.setEntries p (UnorderedMap.erase (map.entries p) dwCookie)))) _ :=
      ⟨⟨map.wf_setEntries _ hh.wf hobj hgives.valid, hgives⟩, .act hh.trace hh.wf
        (.maps hobj (map.setEntries_underlying p _) (map.setEntries_container p _))⟩
    exact htaken.releases _ hvalid

end ConnectionMap

namespace HostEventSink

variable {source : EventSource} {makes : Bool} {h₀ h : ComHeap} {ws : List Nat}

theorem createGlobalSink_traced (pUnkSink : Nat) (hh : Traced source.Effects makes h₀ h ws)
    (hvalid : h₀.Valid) :
    Traced source.Effects makes h₀ (createGlobalSink source pUnkSink h).2
      ((createGlobalSink source pUnkSink h).1.toList ++ ws) := by
  unfold createGlobalSink
  rcases hh.foreign_cases (source.queryDispatch pUnkSink) (.call (.queryDispatch pUnkSink)) with
    ⟨hptr, hq⟩ | ⟨sink, hptr, -, hq⟩
  · simp only [hptr]
    exact hq
  · simp only [hptr]
    have hregistered := hq.foreign (source.registerInterfaceInGlobal sink)
      (.call (.registerInterfaceInGlobal sink))
    exact (hregistered.perm List.perm_middle).release hvalid

theorem fields_traced (underlying : Nat) (hh : Traced source.Effects makes h₀ h ws)
    (hvalid : h₀.Valid) :
    Traced source.Effects makes h₀ (fields source underlying h).2
      ((fields source underlying h).1 ++ ws) := by
  have hdispatch := hh.foreign (source.queryDispatch underlying)
    (.call (.queryDispatch underlying))
  have hregistered := createGlobalSink_traced underlying hdispatch hvalid
  unfold fields
  refine hregistered.perm ?_
  rw [← List.append_assoc]
  exact List.perm_append_comm.append_right ws

/-- The sink that is made takes over the references that the constructor got. -/
theorem make_traced {underlying : Nat} (hh : Traced source.Effects makes h₀ h ws)
    (hvalid : h₀.Valid) (howned : 1 ≤ h₀.owned underlying) :
    Traced source.Effects makes h₀ (make source underlying h).2
      ((make source underlying h).1 :: (make source underlying h).1 :: ws) := by
  have hfields := fields_traced underlying hh hvalid
  unfold make
  generalize fields source underlying h = r at hfields ⊢
  obtain ⟨held, h'⟩ := r
  have hlive : ∀ a ∈ ComObject.refs (.other (underlying :: held)), h'.Live a := by
    intro a ha
    rcases List.mem_cons.mp ha with rfl | hmem
    · exact hfields.live_of_owned howned
    · exact hfields.live hvalid (List.mem_append_left ws hmem)
  have hmade : Traced source.Effects makes h₀
      (newProxy source.toUnderlying (.other (underlying :: held)) h')
      (h'.next :: h'.next :: (held ++ ws)) :=
    ⟨newProxy_holds source.toUnderlying hfields.toHolds hvalid hlive trivial,
      .act hfields.trace hfields.wf (.call (.sink (source.allocate h') hlive))⟩
  have hperm : (h'.next :: h'.next :: (held ++ ws)).Perm (held ++ h'.next :: h'.next :: ws) :=
    List.perm_append_comm_assoc [h'.next, h'.next] held ws
  exact (hmade.perm hperm).releases held hvalid

end HostEventSink

namespace HostConnectionPoint

variable (source : EventSource)

theorem advise_traced {this : Nat} {h : ComHeap} {pUnkSink : Option Nat} (hwf : Wf h)
    (p : HostConnectionPoint) (howned : ∀ a ∈ pUnkSink, 1 ≤ h.owned a) (pdwCookie : Bool) :
    Traced source.Effects false h (advise source this p pUnkSink pdwCookie h).2 [] := by
  have hrefl := Traced.refl source.Effects hwf
  have hvalid := hwf.valid
  unfold advise
  cases pUnkSink with
  | none => exact hrefl
  | some sink =>
    dsimp only
    by_cases hnull : pdwCookie = false
    · rw [if_pos hnull]
      exact hrefl
    · rw [if_neg hnull]
      have hmade := HostEventSink.make_traced hrefl hvalid (howned sink rfl)
      generalize HostEventSink.make source sink h = r at hmade ⊢
      obtain ⟨proxy, h₁⟩ := r
      have hadvised := hmade.foreign (source.advise p.underlying proxy)
        (.call (.advise p.underlying proxy))
      rw [List.nil_append] at hadvised
      have hlast {h₃ : ComHeap} (hh : Traced source.Effects false h h₃ [proxy, proxy]) :
          Traced source.Effects false h ((h₃.release proxy).release proxy) [] :=
        (hh.release hvalid).release hvalid
      apply hlast
      split_ifs
      · exact hadvised
      · have hone := ConnectionMap.emplace_traced .connections this
          ((source.advise p.underlying proxy).run h₁).1.2 hadvised hvalid
          (hadvised.live hvalid List.mem_cons_self)
        exact ConnectionMap.emplace_traced .underlyingConnections this _ hone hvalid
          (hone.live_of_owned (howned sink rfl))

theorem unadvise_traced {h : ComHeap} (hwf : Wf h) (this : Nat) (p : HostConnectionPoint)
    (dwCookie : DWORD) :
    Traced source.Effects false h (unadvise source this p dwCookie h).2 [] := by
  have hh := (Traced.refl source.Effects hwf).foreign (source.unadvise p.underlying dwCookie)
    (.call (.unadvise p.underlying dwCookie))
  rw [List.append_nil] at hh
  unfold unadvise
  dsimp only
  split_ifs
  · exact hh
  · exact ConnectionMap.erase_traced .underlyingConnections this dwCookie
      (ConnectionMap.erase_traced .connections this dwCookie hh hwf.valid) hwf.valid

end HostConnectionPoint

end Axhost
