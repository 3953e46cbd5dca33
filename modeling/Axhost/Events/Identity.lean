import Axhost.Events.Calls

/-!
# One proxy for each connection point

A container looks its proxies up by the address of the underlying object's `IUnknown`, and
does not hold a reference to that object itself.  The proxy does: as long as an entry is in
the map, the object behind its key is alive, so the address cannot be given to another one.

* `Keyed`: every entry of the map is a proxy for the object at its key, and no key occurs
  twice;
* `Deliveries.delivered_same_iff`: of all connection points that clients get from a container,
  two are the same proxy exactly when they stand for the same object.
-/

namespace Axhost

open RefHeap Transition

/-! ## The map of a container -/

/-- The map of the container at `t`. -/
structure Keyed (t : Nat) (h : ComHeap) : Prop where
  nodup : ∀ c, h.obj? t = some (.connectionPointContainer c) →
    (c.proxyConnectionPoints.map Prod.fst).Nodup
  address : ∀ c, h.obj? t = some (.connectionPointContainer c) →
    ∀ kp ∈ c.proxyConnectionPoints, ∃ p, h.obj? kp.2 = some (.connectionPoint p) ∧
      h.address p.underlying = some kp.1

/-- `p` is the proxy in the map that stands for `u`. -/
def Proxied (t u p : Nat) (h : ComHeap) : Prop :=
  ∃ c k cp, h.obj? t = some (.connectionPointContainer c) ∧ (k, p) ∈ c.proxyConnectionPoints ∧
    h.obj? p = some (.connectionPoint cp) ∧ cp.underlying = u

/-- From `h` to `h'` nothing was put into the map. -/
def SameMap (t : Nat) (h h' : ComHeap) : Prop :=
  ∀ c, h'.obj? t = some (.connectionPointContainer c) →
    h.obj? t = some (.connectionPointContainer c)

theorem connectionPoint_of_evolves {h h' : ComHeap} (hevolves : h.Evolves h') {a : Nat}
    (ha : a < h.next) {p' : HostConnectionPoint} (hp' : h'.obj? a = some (.connectionPoint p')) :
    ∃ p, h.obj? a = some (.connectionPoint p) ∧ p.underlying = p'.underlying := by
  obtain ⟨o, ho, hsame⟩ := hevolves.obj ha hp'
  cases o <;> simp only [Object.same, ComObject.same] at hsame
  exact ⟨_, ho, hsame.1⟩

/-- A proxy keeps the object behind it alive and in its place. -/
theorem address_of_evolves {h h' : ComHeap} (hwf' : Wf h') (hevolves : h.Evolves h') {a k : Nat}
    {p' : HostConnectionPoint} (hp' : h'.obj? a = some (.connectionPoint p'))
    (haddress : h.address p'.underlying = some k) : h'.address p'.underlying = some k := by
  have hlive : h'.Live p'.underlying := Gives.live_of_refs hwf'.valid hp'
    (by simp [Object.refs, ComObject.refs])
  obtain ⟨c, hc, -⟩ := Option.map_eq_some_iff.mp haddress
  rw [hevolves.address (Heap.lt_next hc) hlive, haddress]

theorem entry_of_evolves {t : Nat} {h h' : ComHeap} (hwf' : Wf h') (hevolves : h.Evolves h')
    {c : HostConnectionPointContainer} (hc : h'.obj? t = some (.connectionPointContainer c))
    {kp : Nat × Nat} (hkp : kp ∈ c.proxyConnectionPoints) {p : HostConnectionPoint}
    (hp : h.obj? kp.2 = some (.connectionPoint p)) (haddress : h.address p.underlying = some kp.1) :
    ∃ p', h'.obj? kp.2 = some (.connectionPoint p') ∧ h'.address p'.underlying = some kp.1 := by
  obtain ⟨p', hp', -⟩ := hwf'.proxies t c hc kp hkp
  obtain ⟨p₀, hp₀, hunderlying⟩ := connectionPoint_of_evolves hevolves (lt_next_of_obj? hp) hp'
  obtain rfl : p = p₀ := by simpa [hp] using hp₀
  exact ⟨p', hp', address_of_evolves hwf' hevolves hp' (hunderlying ▸ haddress)⟩

theorem Keyed.of_evolves {t : Nat} {h h' : ComHeap} (hkeyed : Keyed t h) (hwf' : Wf h')
    (hevolves : h.Evolves h') (hmap : SameMap t h h') : Keyed t h' := by
  refine ⟨fun c hc => hkeyed.nodup c (hmap c hc), fun c hc kp hkp => ?_⟩
  obtain ⟨p, hp, haddress⟩ := hkeyed.address c (hmap c hc) kp hkp
  exact entry_of_evolves hwf' hevolves hc hkp hp haddress

theorem Proxied.of_evolves {t u p : Nat} {h h' : ComHeap} (hproxied : Proxied t u p h)
    (hwf' : Wf h') (hevolves : h.Evolves h') (hlive : h'.Live t) : Proxied t u p h' := by
  obtain ⟨c, k, cp, hc, hentry, hp, rfl⟩ := hproxied
  obtain ⟨o, ho⟩ := Heap.live_iff.mp hlive
  obtain ⟨o₀, ho₀, hsame⟩ := hevolves.obj (lt_next_of_obj? hc) ho
  obtain rfl := Option.some.inj (ho₀.symm.trans hc)
  cases o <;> simp only [Object.same, ComObject.same] at hsame
  obtain ⟨p', hp', -⟩ := hwf'.proxies t _ ho _ (hsame.2 hentry)
  obtain ⟨p₀, hp₀, hunderlying⟩ := connectionPoint_of_evolves hevolves (lt_next_of_obj? hp) hp'
  obtain rfl : cp = p₀ := by simpa [hp] using hp₀
  exact ⟨_, k, p', ho, hsame.2 hentry, hp', hunderlying.symm⟩

theorem eq_of_address {h : ComHeap} {a b k : Nat} (ha : h.address a = some k)
    (hb : h.address b = some k) : a = b := by
  obtain ⟨c, hc, rfl⟩ := Option.map_eq_some_iff.mp ha
  obtain ⟨d, hd, heq⟩ := Option.map_eq_some_iff.mp hb
  exact h.distinct a b c d hc hd heq.symm

/-- Two proxies of the map are the same exactly when they stand for the same object. -/
theorem Proxied.eq_iff {t u u' p p' : Nat} {h : ComHeap} (hkeyed : Keyed t h)
    (h₁ : Proxied t u p h) (h₂ : Proxied t u' p' h) : p = p' ↔ u = u' := by
  obtain ⟨c, k, cp, hc, hentry, hp, rfl⟩ := h₁
  obtain ⟨c', k', cp', hc', hentry', hp', rfl⟩ := h₂
  obtain rfl : c = c' := by simpa [hc] using hc'
  constructor
  · rintro rfl
    obtain rfl : cp = cp' := by simpa [hp] using hp'
    rfl
  · intro hunderlying
    obtain ⟨q, hq, haddress⟩ := hkeyed.address c hc _ hentry
    obtain ⟨q', hq', haddress'⟩ := hkeyed.address c hc _ hentry'
    obtain rfl : cp = q := by simpa [hp] using hq
    obtain rfl : cp' = q' := by simpa [hp'] using hq'
    rw [hunderlying, haddress'] at haddress
    obtain rfl : k' = k := Option.some.inj haddress
    exact (Prod.mk.inj (List.inj_on_of_nodup_map (hkeyed.nodup c hc) hentry hentry' rfl)).2

/-- A call to another object that does not call the container: calls come one after
another. -/
def ForeignCall.Untouched {ρ : Type} {ptrs : ρ → List Nat} (call : ForeignCall ρ ptrs)
    (t : Nat) : Prop := ∀ h, Wf h → SameMap t h (call.run h).2

/-- A method on the container has got from `h₀` to `h`, holds the references `ws`, and has put
the connection points of `ds` in the place of the objects beside them. -/
structure Tracked (t : Nat) (h₀ h : ComHeap) (ws : List Nat) (ds : List (Nat × Nat)) : Prop where
  holds : Holds h₀ h ws
  keyed : Keyed t h
  proxied : ∀ d ∈ ds, Proxied t d.2 d.1 h

namespace Tracked

variable {t : Nat} {h₀ h h' : ComHeap} {ws ws' : List Nat} {ds : List (Nat × Nat)} {a : Nat}

theorem refl (hwf : Wf h) (hkeyed : Keyed t h) : Tracked t h h [] [] :=
  ⟨.refl hwf, hkeyed, fun d hd => by simp at hd⟩

theorem perm (hh : Tracked t h₀ h ws ds) (hperm : ws.Perm ws') : Tracked t h₀ h ws' ds :=
  ⟨hh.holds.perm hperm, hh.keyed, hh.proxied⟩

theorem reorder {ds' : List (Nat × Nat)} (hh : Tracked t h₀ h ws ds) (hperm : ds'.Perm ds) :
    Tracked t h₀ h ws ds' :=
  ⟨hh.holds, hh.keyed, fun d hd => hh.proxied d (hperm.mem_iff.mp hd)⟩

theorem live_container (hstays : Stays t h₀) (hholds : Holds h₀ h ws) : h.Live t := by
  obtain ⟨c, hc⟩ := hstays _ _ hholds
  exact Heap.live_iff.mpr ⟨_, hc⟩

theorem step (hh : Tracked t h₀ h ws ds) (hstays : Stays t h₀) (hholds : Holds h₀ h' ws')
    (hevolves : h.Evolves h') (hmap : SameMap t h h') : Tracked t h₀ h' ws' ds := by
  refine ⟨hholds, hh.keyed.of_evolves hholds.wf hevolves hmap, fun d hd => ?_⟩
  exact (hh.proxied d hd).of_evolves hholds.wf hevolves (live_container hstays hholds)

theorem addRef (hh : Tracked t h₀ h ws ds) (hstays : Stays t h₀) (hlive : h.Live a) :
    Tracked t h₀ (h.addRef a) (a :: ws) ds :=
  hh.step hstays (hh.holds.addRef hlive) (Gives.addRef hh.holds.wf.valid hlive).evolves
    fun c hc => by rwa [Heap.addRef_obj?] at hc

theorem release (hh : Tracked t h₀ h (a :: ws) ds) (hstays : Stays t h₀) (hvalid : h₀.Valid) :
    Tracked t h₀ (h.release a) ws ds := by
  have howned := hh.holds.gives.owned_of_mem hvalid List.mem_cons_self
  obtain ⟨-, hevolves, -⟩ := Heap.release_spec hh.holds.wf.valid howned
  exact hh.step hstays (hh.holds.release hvalid) hevolves fun c hc => Heap.releaseAll_obj? hc

theorem foreign {ρ : Type} {ptrs : ρ → List Nat} (hh : Tracked t h₀ h ws ds)
    (hstays : Stays t h₀) {call : ForeignCall ρ ptrs} (huntouched : call.Untouched t) :
    Tracked t h₀ (call.run h).2 (ptrs (call.run h).1.2 ++ ws) ds :=
  hh.step hstays (hh.holds.foreign call) (call.gives h hh.holds.wf).evolves
    (huntouched h hh.holds.wf)

theorem foreign_cases (hh : Tracked t h₀ h ws ds) (hstays : Stays t h₀)
    {call : ForeignCall (Option Nat) Option.toList} (huntouched : call.Untouched t) :
    ((call.run h).1.2 = none ∧ Tracked t h₀ (call.run h).2 ws ds) ∨
    (∃ a, (call.run h).1.2 = some a ∧ failed (call.run h).1.1 = false ∧
      Tracked t h₀ (call.run h).2 (a :: ws) ds) := by
  have hforeign := hh.foreign hstays huntouched
  rcases call.ptr_cases h with hptr | ⟨a, hptr, hok⟩
  · rw [hptr] at hforeign
    exact Or.inl ⟨hptr, hforeign⟩
  · rw [hptr] at hforeign
    exact Or.inr ⟨a, hptr, hok, hforeign⟩

end Tracked

theorem Tracked.created {t : Nat} {h₀ h : ComHeap} {ws : List Nat} {ds : List (Nat × Nat)}
    (env : Underlying) {o : ComObject} (hh : Tracked t h₀ h ws ds) (hstays : Stays t h₀)
    (hvalid : h₀.Valid) (hlive : ∀ a ∈ o.refs, h.Live a) (hplaced : Placed h o) :
    Tracked t h₀ (newProxy env o h) (h.next :: h.next :: ws) ds := by
  obtain ⟨c, hc⟩ := hstays _ _ hh.holds
  have hne := (lt_next_of_obj? hc).ne
  have hevolves := (newProxy_holds env (.refl hh.holds.wf) hh.holds.wf.valid hlive
    hplaced).gives.evolves
  refine hh.step hstays (newProxy_holds env hh.holds hvalid hlive hplaced) hevolves ?_
  intro c' hc'
  rwa [newProxy_obj?_of_ne env o hne] at hc'

open HostConnectionPointContainer in
/-- A new entry, under the address of the object it stands for. -/
theorem Tracked.emplaced {t : Nat} {h₀ h : ComHeap} {ws : List Nat} {ds : List (Nat × Nat)}
    {key p : Nat} {cp : HostConnectionPoint} (hh : Tracked t h₀ h ws ds) (hstays : Stays t h₀)
    (hvalid : h₀.Valid) (hp : h.obj? p = some (.connectionPoint cp)) (hcontainer : cp.container = t)
    (haddress : h.address cp.underlying = some key)
    (hfind : UnorderedMap.find (proxies t h) key = none) :
    Tracked t h₀ (emplaceProxy t key p h) ws ((p, cp.underlying) :: ds) := by
  have hwf := hh.holds.wf
  have hholds := emplaceProxy_holds key hh.holds hvalid hp hcontainer
  have hevolves := (emplaceProxy_holds key (.refl hwf) hwf.valid hp hcontainer).gives.evolves
  have hp' := emplaceProxy_obj? hp t key p
  obtain ⟨c, hc⟩ := hstays _ _ hh.holds
  have hfind' : UnorderedMap.find c.proxyConnectionPoints key = none := by
    simpa [proxies, hc] using hfind
  have hobj : (emplaceProxy t key p h).obj? t = some (.connectionPointContainer
      { c with proxyConnectionPoints := (key, p) :: c.proxyConnectionPoints }) := by
    unfold emplaceProxy
    simp only [hc, hfind', Option.isSome_none, Bool.false_eq_true, if_false]
    rw [Heap.setObj_obj? (Heap.addRef_live p (Heap.live_iff.mpr ⟨_, hc⟩)), if_pos rfl]
    simp [UnorderedMap.emplace, hfind']
  refine ⟨hholds, ⟨fun c' hc' => ?_, fun c' hc' kp hkp => ?_⟩, fun d hd => ?_⟩
  · obtain rfl : _ = c' := by simpa [hobj] using hc'
    exact List.nodup_cons.mpr ⟨UnorderedMap.not_mem_of_find hfind', hh.keyed.nodup c hc⟩
  · have hentry := hkp
    obtain rfl : _ = c' := by simpa [hobj] using hc'
    rcases List.mem_cons.mp hkp with rfl | hold
    · exact ⟨cp, hp', address_of_evolves hholds.wf hevolves hp' haddress⟩
    · obtain ⟨q, hq, hqaddress⟩ := hh.keyed.address c hc kp hold
      exact entry_of_evolves hholds.wf hevolves hc' hentry hq hqaddress
  · rcases List.mem_cons.mp hd with rfl | hold
    · exact ⟨_, key, cp, hobj, List.mem_cons_self, hp', rfl⟩
    · exact (hh.proxied d hold).of_evolves hholds.wf hevolves
        (Heap.live_iff.mpr ⟨_, hobj⟩)

theorem Tracked.deliver {t u p : Nat} {h₀ h : ComHeap} {ws : List Nat} {ds : List (Nat × Nat)}
    (hh : Tracked t h₀ h ws ds) (hproxied : Proxied t u p h) : Tracked t h₀ h ws ((p, u) :: ds) :=
  ⟨hh.holds, hh.keyed, List.forall_mem_cons.mpr ⟨hproxied, hh.proxied⟩⟩

/-! ## The methods -/

/-- `QueryInterface` on a connection point of the control.  A pointer stands here for the
object it points to, so the identity of the object is the object itself. -/
def Answers (env : Underlying) (u : Nat) : Prop :=
  ∀ h, Wf h → h.Live u →
    failed ((env.queryUnknown u).run h).1.1 = false ∧
    ((env.queryUnknown u).run h).1.2 = some u ∧
    ((env.queryConnectionPoint u).run h).1.2 = some u

/-- What is assumed of the control: its connection points answer, and it does not call the
container at `t` from inside a call that the container makes. -/
structure Assumed (env : Underlying) (t : Nat) : Prop where
  found : ∀ u riid h cp, ((env.findConnectionPoint u riid).run h).1.2 = some cp → Answers env cp
  fetched : ∀ u n h, ∀ cp ∈ ((env.nextConnectionPoints u n).run h).1.2, Answers env cp
  queryUnknown : ∀ u, (env.queryUnknown u).Untouched t
  queryConnectionPoint : ∀ u, (env.queryConnectionPoint u).Untouched t
  findConnectionPoint : ∀ u riid, (env.findConnectionPoint u riid).Untouched t
  enumConnectionPoints : ∀ u, (env.enumConnectionPoints u).Untouched t
  nextConnectionPoints : ∀ u n, (env.nextConnectionPoints u n).Untouched t
  skipConnectionPoints : ∀ u n, (env.skipConnectionPoints u n).Untouched t
  resetConnectionPoints : ∀ u, (env.resetConnectionPoints u).Untouched t
  cloneConnectionPoints : ∀ u, (env.cloneConnectionPoints u).Untouched t

section Methods

variable {env : Underlying} {t : Nat} {h₀ h : ComHeap} {ws : List Nat} {ds : List (Nat × Nat)}

theorem proxies_of_sameMap {h' : ComHeap} (hmap : SameMap t h h') (hlive : ∃ c,
    h'.obj? t = some (.connectionPointContainer c)) :
    HostConnectionPointContainer.proxies t h' = HostConnectionPointContainer.proxies t h := by
  obtain ⟨c, hc⟩ := hlive
  simp only [HostConnectionPointContainer.proxies, hc, hmap c hc]

theorem proxied_of_find {u p k : Nat} (hkeyed : Keyed t h) (haddress : h.address u = some k)
    (hfind : UnorderedMap.find (HostConnectionPointContainer.proxies t h) k = some p) :
    Proxied t u p h := by
  obtain ⟨c, hc, hentry⟩ := HostConnectionPointContainer.entry_of_proxies hfind
  obtain ⟨cp, hp, haddress'⟩ := hkeyed.address c hc _ hentry
  exact ⟨c, k, cp, hc, hentry, hp, eq_of_address haddress' haddress⟩

theorem getProxyConnectionPoint_tracked (hassumed : Assumed env t)
    (hh : Tracked t h₀ h ws ds) (hstays : Stays t h₀) (hvalid : h₀.Valid) {u : Nat} (hu : u ∈ ws)
    (hanswers : Answers env u) : ∃ p,
    (HostConnectionPointContainer.getProxyConnectionPoint env t (some u) true h).1 =
        { hr := S_OK, ptrs := [p] } ∧
      Tracked t h₀ (HostConnectionPointContainer.getProxyConnectionPoint env t (some u) true h).2
        (p :: ws) ((p, u) :: ds) := by
  have hlive := hh.holds.live hvalid hu
  obtain ⟨c, hc⟩ := Option.isSome_iff_exists.mp hlive
  have haddress : h.address u = some c.address := by rw [Heap.address, hc, Option.map_some]
  unfold HostConnectionPointContainer.getProxyConnectionPoint
  rw [if_neg (by decide)]
  simp only [haddress, Option.getD_some]
  cases hfind : UnorderedMap.find (HostConnectionPointContainer.proxies t h) c.address with
  | some p =>
      have hproxied := proxied_of_find hh.keyed haddress hfind
      obtain ⟨-, -, cp, -, -, hp, -⟩ := id hproxied
      have hplive := Heap.live_iff.mpr ⟨_, hp⟩
      have hone := (hh.deliver hproxied).addRef hstays hplive
      have htwo := hone.addRef hstays (Heap.addRef_live p hplive)
      exact ⟨p, rfl, htwo.release hstays hvalid⟩
  | none =>
      obtain ⟨-, -, hquery⟩ := hanswers h hh.holds.wf hlive
      have hforeign := hh.foreign hstays (hassumed.queryConnectionPoint u)
      have hmap := hassumed.queryConnectionPoint u h hh.holds.wf
      have hevolves := ((env.queryConnectionPoint u).gives h hh.holds.wf).evolves
      simp only [hquery]
      rw [hquery] at hforeign
      generalize ((env.queryConnectionPoint u).run h).2 = h₁ at *
      obtain ⟨c₁, hc₁⟩ := hstays _ _ hforeign.holds
      have hlive₁ : ∀ a ∈ ComObject.refs (.connectionPoint { underlying := u, container := t }),
          h₁.Live a :=
        ComObject.live_refs (some u) rfl
          (by simpa using hforeign.holds.live hvalid List.mem_cons_self) hc₁
      have hp := newProxy_obj? env (.connectionPoint { underlying := u, container := t }) h₁
      have hnew := hforeign.created env hstays hvalid hlive₁ trivial
      have hsame := newProxy_obj?_of_ne env (.connectionPoint { underlying := u, container := t })
        (lt_next_of_obj? hc₁).ne
      have hmap₂ : SameMap t h (newProxy env (.connectionPoint { underlying := u, container := t })
          h₁) := fun c' hc' => hmap c' (hsame ▸ hc')
      have hfind₂ : UnorderedMap.find (HostConnectionPointContainer.proxies t (newProxy env
          (.connectionPoint { underlying := u, container := t }) h₁)) c.address = none := by
        rw [proxies_of_sameMap hmap₂ (hstays _ _ hnew.holds), hfind]
      have hnewholds := newProxy_holds env (.refl hforeign.holds.wf) hforeign.holds.wf.valid hlive₁
        trivial
      have haddress₂ := address_of_evolves hnew.holds.wf
        (hevolves.trans hnewholds.gives.evolves) hp haddress
      have hemplaced := hnew.emplaced hstays hvalid hp rfl haddress₂ hfind₂
      have hcopied := hemplaced.addRef hstays (hemplaced.holds.live hvalid List.mem_cons_self)
      have hreleased := (hcopied.release hstays hvalid).release hstays hvalid
      exact ⟨h₁.next, rfl, (hreleased.perm (List.Perm.swap _ _ _)).release hstays hvalid⟩

/-- A method that hands out a connection point in the place of each of `cps`, or fails. -/
structure Delivers (t : Nat) (h : ComHeap) (r : Outcome × ComHeap) (cps : List Nat) : Prop where
  tracked : Tracked t h r.2 r.1.ptrs (r.1.ptrs.zip cps)
  complete : r.1.ptrs.length ≤ cps.length

theorem Delivers.fail {h h' : ComHeap} (hh : Tracked t h h' [] []) (hr : HRESULT)
    (cps : List Nat) : Delivers t h ({ hr := hr }, h') cps :=
  ⟨hh, Nat.zero_le _⟩

/-- The connection points that the underlying container finds. -/
def found (env : Underlying) (c : HostConnectionPointContainer) (riid : IID) (h : ComHeap) :
    List Nat :=
  (c.underlying.bind fun u => ((env.findConnectionPoint u riid).run h).1.2).toList

/-- What the underlying container finds is handed out as its proxy. -/
theorem findConnectionPoint_found (hassumed : Assumed env t) (hwf : Wf h) (hkeyed : Keyed t h)
    (hstays : Stays t h) {c : HostConnectionPointContainer} {u cp : Nat} {riid : IID}
    (hu : c.underlying = some u) (hok : failed ((env.findConnectionPoint u riid).run h).1.1 = false)
    (hptr : ((env.findConnectionPoint u riid).run h).1.2 = some cp) : ∃ p,
    (HostConnectionPointContainer.findConnectionPoint env t c riid true h).1 =
        { hr := S_OK, ptrs := [p] } ∧
      Tracked t h (HostConnectionPointContainer.findConnectionPoint env t c riid true h).2 [p]
        [(p, cp)] := by
  have hvalid := hwf.valid
  have hh := (Tracked.refl hwf hkeyed).foreign hstays (hassumed.findConnectionPoint u riid)
  rw [hptr] at hh
  have hanswers := hassumed.found u riid h cp hptr
  obtain ⟨hidentified, hunk, -⟩ := hanswers _ hh.holds.wf
    (hh.holds.live hvalid List.mem_cons_self)
  have hquery := hh.foreign hstays (hassumed.queryUnknown cp)
  rw [hunk] at hquery
  obtain ⟨p, houtcome, hproxy⟩ := getProxyConnectionPoint_tracked hassumed hquery hstays
    hvalid List.mem_cons_self hanswers
  unfold HostConnectionPointContainer.findConnectionPoint
  rw [if_neg (by decide)]
  simp only [hu, hok, hptr, hidentified, hunk, houtcome, failed_S_OK, Bool.false_eq_true,
    if_false, List.head?_cons]
  -- the pointers of the two blocks, both to the object
  have hinner := (hproxy.perm (List.Perm.swap _ _ _)).release hstays hvalid
  exact ⟨p, rfl, (hinner.perm (List.Perm.swap _ _ _)).release hstays hvalid⟩

theorem findConnectionPoint_delivers (hassumed : Assumed env t) (hwf : Wf h) (hkeyed : Keyed t h)
    (hstays : Stays t h) (c : HostConnectionPointContainer) (riid : IID) (ppCP : Bool) :
    Delivers t h (HostConnectionPointContainer.findConnectionPoint env t c riid ppCP h)
      (found env c riid h) := by
  have hrefl := Tracked.refl hwf hkeyed
  cases ppCP with
  | false => exact .fail hrefl E_POINTER _
  | true =>
    cases hu : c.underlying with
    | none =>
        have hfail : HostConnectionPointContainer.findConnectionPoint env t c riid true h =
            ({ hr := E_UNEXPECTED }, h) := by
          simp [HostConnectionPointContainer.findConnectionPoint, hu]
        rw [hfail]
        exact .fail hrefl E_UNEXPECTED _
    | some u =>
      rcases hrefl.foreign_cases hstays (hassumed.findConnectionPoint u riid) with
        ⟨hptr, hh⟩ | ⟨cp, hptr, hok, -⟩
      · unfold HostConnectionPointContainer.findConnectionPoint
        rw [if_neg (by decide)]
        simp only [hu, hptr]
        split_ifs
        · exact .fail hh _ _
        · exact .fail hh E_UNEXPECTED _
      · obtain ⟨p, houtcome, htracked⟩ := findConnectionPoint_found hassumed hwf hkeyed hstays hu
          hok hptr
        have hfound : found env c riid h = [cp] := by simp [found, hu, hptr]
        refine ⟨?_, ?_⟩
        · rw [houtcome, hfound]
          exact htracked
        · rw [houtcome, hfound]
          exact Nat.le_refl 1

/-- A new enumerator, in the block of the pointer it takes. -/
theorem Tracked.enumerator {u : Nat} (hh : Tracked t h₀ h (u :: ws) ds) (hstays : Stays t h₀)
    (hvalid : h₀.Valid) : Tracked t h₀ (((newProxy env (.enumConnectionPoints
      { underlying := some u, container := t }) h).release h.next).release u)
      (h.next :: ws) ds := by
  obtain ⟨c, hc⟩ := hstays _ _ hh.holds
  have hlive : ∀ a ∈ ComObject.refs
      (.enumConnectionPoints { underlying := some u, container := t }), h.Live a :=
    ComObject.live_refs (some u) rfl (by simpa using hh.holds.live hvalid List.mem_cons_self) hc
  have hnew := hh.created env hstays hvalid hlive ⟨c, hc⟩
  exact ((hnew.release hstays hvalid).perm (List.Perm.swap _ _ _)).release hstays hvalid

theorem enumConnectionPoints_tracked (hassumed : Assumed env t) (hwf : Wf h) (hkeyed : Keyed t h)
    (hstays : Stays t h) (c : HostConnectionPointContainer) (ppEnum : Bool) :
    Tracked t h (HostConnectionPointContainer.enumConnectionPoints env t c ppEnum h).2
      (HostConnectionPointContainer.enumConnectionPoints env t c ppEnum h).1.ptrs [] := by
  have hrefl := Tracked.refl hwf hkeyed
  unfold HostConnectionPointContainer.enumConnectionPoints
  split_ifs with hnull
  · exact hrefl
  · cases c.underlying with
    | none => exact hrefl
    | some u =>
      dsimp only
      rcases hrefl.foreign_cases hstays (hassumed.enumConnectionPoints u) with
        ⟨hptr, hh⟩ | ⟨e, hptr, hok, hh⟩
      · split_ifs
        · exact hh
        · simp only [hptr]
          exact hh
      · simp only [hok, hptr, Bool.false_eq_true, if_false]
        exact hh.enumerator hstays hwf.valid

theorem clone_tracked (hassumed : Assumed env t) (hwf : Wf h) (hkeyed : Keyed t h)
    (hstays : Stays t h) {e : HostEnumConnectionPoints} (he : e.container = t) (ppEnum : Bool) :
    Tracked t h (HostEnumConnectionPoints.clone env e ppEnum h).2
      (HostEnumConnectionPoints.clone env e ppEnum h).1.ptrs [] := by
  have hrefl := Tracked.refl hwf hkeyed
  unfold HostEnumConnectionPoints.clone
  split_ifs with hnull
  · exact hrefl
  · cases e.underlying with
    | none => exact hrefl
    | some u =>
      dsimp only
      rcases hrefl.foreign_cases hstays (hassumed.cloneConnectionPoints u) with
        ⟨hptr, hh⟩ | ⟨uc, hptr, hok, hh⟩
      · split_ifs
        · exact hh
        · simp only [hptr]
          exact hh
      · simp only [hok, hptr, he, Bool.false_eq_true, if_false]
        exact hh.enumerator hstays hwf.valid

theorem skip_tracked (hassumed : Assumed env t) (hwf : Wf h) (hkeyed : Keyed t h)
    (hstays : Stays t h) (e : HostEnumConnectionPoints) (cConnections : DWORD) :
    Tracked t h (HostEnumConnectionPoints.skip env e cConnections h).2
      (HostEnumConnectionPoints.skip env e cConnections h).1.ptrs [] := by
  have hrefl := Tracked.refl hwf hkeyed
  unfold HostEnumConnectionPoints.skip
  cases e.underlying with
  | none => exact hrefl
  | some u => exact hrefl.foreign hstays (hassumed.skipConnectionPoints u cConnections)

theorem reset_tracked (hassumed : Assumed env t) (hwf : Wf h) (hkeyed : Keyed t h)
    (hstays : Stays t h) (e : HostEnumConnectionPoints) :
    Tracked t h (HostEnumConnectionPoints.reset env e h).2
      (HostEnumConnectionPoints.reset env e h).1.ptrs [] := by
  have hrefl := Tracked.refl hwf hkeyed
  unfold HostEnumConnectionPoints.reset
  cases e.underlying with
  | none => exact hrefl
  | some u => exact hrefl.foreign hstays (hassumed.resetConnectionPoints u)

/-! ### Next -/

theorem replaceOne_tracked (hassumed : Assumed env t) {cp : Nat}
    (hh : Tracked t h₀ h (cp :: ws) ds) (hstays : Stays t h₀) (hvalid : h₀.Valid)
    (hanswers : Answers env cp) : ∃ p,
    (HostEnumConnectionPoints.replaceOne env t cp h).1 = .ok p ∧
      Tracked t h₀ (HostEnumConnectionPoints.replaceOne env t cp h).2 (p :: ws)
        ((p, cp) :: ds) := by
  have hadd := hh.addRef hstays (hh.holds.live hvalid List.mem_cons_self)
  obtain ⟨hidentified, hunk, -⟩ := hanswers _ hadd.holds.wf
    (hadd.holds.live hvalid List.mem_cons_self)
  have hquery := hadd.foreign hstays (hassumed.queryUnknown cp)
  rw [hunk] at hquery
  obtain ⟨p, houtcome, hproxy⟩ := getProxyConnectionPoint_tracked hassumed hquery hstays hvalid
    List.mem_cons_self hanswers
  unfold HostEnumConnectionPoints.replaceOne
  simp only [hidentified, hunk, houtcome, failed_S_OK, Bool.false_eq_true, if_false,
    List.head?_cons]
  -- the array's reference, then those of `underlying` and `underlyingConcrete`
  have hfirst := (hproxy.perm (List.Perm.swap _ _ _)).release hstays hvalid
  have hsecond := (hfirst.perm (List.Perm.swap _ _ _)).release hstays hvalid
  exact ⟨p, rfl, (hsecond.perm (List.Perm.swap _ _ _)).release hstays hvalid⟩

theorem replaceFetched_tracked (hassumed : Assumed env t) (hstays : Stays t h₀)
    (hvalid : h₀.Valid) (cps : List Nat) (hanswers : ∀ cp ∈ cps, Answers env cp)
    (hh : Tracked t h₀ h (cps ++ ws) ds) : ∃ ps,
    (HostEnumConnectionPoints.replaceFetched env t cps h).1 = (none, ps) ∧
      ps.length = cps.length ∧
      Tracked t h₀ (HostEnumConnectionPoints.replaceFetched env t cps h).2 (ps ++ ws)
        (ps.zip cps ++ ds) := by
  induction cps generalizing h ws ds with
  | nil => exact ⟨[], rfl, rfl, hh⟩
  | cons cp rest ih =>
      rw [List.forall_mem_cons] at hanswers
      obtain ⟨p, hone, hh₁⟩ := replaceOne_tracked hassumed hh hstays hvalid hanswers.1
      rcases hr : HostEnumConnectionPoints.replaceOne env t cp h with ⟨r, h₁⟩
      rw [hr] at hone hh₁
      obtain rfl : r = .ok p := hone
      obtain ⟨ps, hps, hlength, hh₂⟩ := ih hanswers.2 (hh₁.perm List.perm_middle.symm)
      unfold HostEnumConnectionPoints.replaceFetched
      simp only [hr, hps]
      refine ⟨p :: ps, rfl, congrArg (· + 1) hlength, ?_⟩
      exact (hh₂.perm List.perm_middle).reorder List.perm_middle.symm

/-- The connection points that the underlying enumerator fetches. -/
def fetched (env : Underlying) (e : HostEnumConnectionPoints) (cConnections : DWORD)
    (h : ComHeap) : List Nat :=
  match e.underlying with
  | none => []
  | some u => ((env.nextConnectionPoints u cConnections).run h).1.2

theorem next_delivers (hassumed : Assumed env t) (hwf : Wf h) (hkeyed : Keyed t h)
    (hstays : Stays t h) {e : HostEnumConnectionPoints} (he : e.container = t)
    (cConnections : DWORD) (ppCP pcFetched : Bool) :
    Delivers t h (HostEnumConnectionPoints.next env e cConnections ppCP pcFetched h)
      (fetched env e cConnections h) := by
  have hrefl := Tracked.refl hwf hkeyed
  cases hfetches : HostEnumConnectionPoints.fetches e cConnections ppCP pcFetched with
  | none =>
      obtain ⟨hr, hnext⟩ := HostEnumConnectionPoints.next_of_none env hfetches h
      rw [hnext]
      exact .fail hrefl hr _
  | some u =>
      have hh := hrefl.foreign hstays (hassumed.nextConnectionPoints u cConnections)
      obtain ⟨ps, hps, hlength, hh'⟩ := replaceFetched_tracked hassumed hstays hwf.valid _
        (hassumed.fetched u cConnections h) hh
      rw [HostEnumConnectionPoints.next_of_some env hfetches, fetched,
        HostEnumConnectionPoints.underlying_of_fetches hfetches]
      simp only [he, hps]
      rw [List.append_nil, List.append_nil] at hh'
      exact ⟨hh', hlength.le⟩

end Methods

/-! ## Every delivery -/

/-- A connection point handed to a client, and the object it was handed out for. -/
structure Delivery where
  proxy : Nat
  underlying : Nat
deriving DecidableEq, Repr

/-- The heap, with the connection points that `FindConnectionPoint` and `Next` wrote, and what
they were written for. -/
structure Deliveries where
  heap : ComHeap
  handed : List Nat
  delivered : List Delivery

/-- Calls on the container and its enumerators, pointers copied and released by who owns them,
and calls to any other object, which leave the container alone. -/
inductive ContainerAction (t : Nat)
  | call (this : Nat) (call : ProxyCall)
  | addRef (a : Nat)
  | release (a : Nat)
  | other (call : ForeignCall (List Nat) id) (huntouched : call.Untouched t)

/-- A call on the container at `t`, or on one of its enumerators. -/
def ProxyCall.onContainer (t this : Nat) (call : ProxyCall) (h : ComHeap) : Bool :=
  match h.obj? this, call with
  | some (.connectionPointContainer _), findConnectionPoint _ _ => this == t
  | some (.connectionPointContainer _), enumConnectionPoints _ => this == t
  | some (.enumConnectionPoints e), nextConnectionPoints _ _ _ => e.container == t
  | some (.enumConnectionPoints e), skipConnectionPoints _ => e.container == t
  | some (.enumConnectionPoints e), resetConnectionPoints => e.container == t
  | some (.enumConnectionPoints e), cloneConnectionPoints _ => e.container == t
  | _, _ => false

/-- The connection points of the control that a call is about to hand out proxies for. -/
def ProxyCall.points (env : Underlying) (this : Nat) (call : ProxyCall) (h : ComHeap) :
    Option (List Nat) :=
  match h.obj? this, call with
  | some (.connectionPointContainer c), findConnectionPoint riid _ => some (found env c riid h)
  | some (.enumConnectionPoints e), nextConnectionPoints cConnections _ _ =>
    some (fetched env e cConnections h)
  | _, _ => none

namespace Deliveries

variable (env : Underlying) (t : Nat)

def step (s : Deliveries) : ContainerAction t → Option Deliveries
  | .call this c =>
    if 1 ≤ s.heap.owned this ∧ c.onContainer t this s.heap = true then
      (c.run env this s.heap).map fun r =>
        match c.points env this s.heap with
        | some cps =>
          { heap := r.2
            handed := r.1.ptrs ++ s.handed
            delivered := List.zipWith Delivery.mk r.1.ptrs cps ++ s.delivered }
        | none => { s with heap := r.2 }
    else none
  | .addRef a =>
    if 1 ≤ s.heap.owned a then some { s with heap := s.heap.addRef a } else none
  | .release a =>
    if 1 ≤ s.heap.owned a then some { s with heap := s.heap.release a } else none
  | .other f _ => some { s with heap := (f.run s.heap).2 }

/-- It starts with a container that has just been made, in a heap of any other objects. -/
def system : System Deliveries (ContainerAction t) where
  init s := Wf s.heap ∧ s.handed = [] ∧ s.delivered = [] ∧
    ∃ underlying, s.heap.obj? t = some (.connectionPointContainer { underlying := underlying })
  step := step env t

variable {env : Underlying} {t : Nat}

/-- A call keeps the map in order, and what it hands out for the control's connection points
are their proxies. -/
theorem run_delivers (hassumed : Assumed env t) {this : Nat} {call : ProxyCall} {h : ComHeap}
    {r : Outcome × ComHeap} (hwf : Wf h) (hkeyed : Keyed t h) (howned : 1 ≤ h.owned this)
    (hon : call.onContainer t this h = true) (hrun : call.run env this h = some r) :
    match call.points env this h with
    | some cps => Delivers t h r cps
    | none => Tracked t h r.2 r.1.ptrs [] := by
  unfold ProxyCall.onContainer at hon
  split at hon
  · next c riid ppCP hobj =>
    obtain rfl : this = t := by simpa using hon
    simp only [ProxyCall.run, hobj] at hrun
    obtain rfl := Option.some.inj hrun
    simp only [ProxyCall.points, hobj]
    exact findConnectionPoint_delivers hassumed hwf hkeyed (stays_of_owned howned hobj) c riid
      ppCP
  · next c ppEnum hobj =>
    obtain rfl : this = t := by simpa using hon
    simp only [ProxyCall.run, hobj] at hrun
    obtain rfl := Option.some.inj hrun
    simp only [ProxyCall.points, hobj]
    exact enumConnectionPoints_tracked hassumed hwf hkeyed (stays_of_owned howned hobj) c ppEnum
  · next e cConnections ppCP pcFetched hobj =>
    have hcontainer : e.container = t := by simpa using hon
    simp only [ProxyCall.run, hobj] at hrun
    obtain rfl := Option.some.inj hrun
    simp only [ProxyCall.points, hobj]
    exact next_delivers hassumed hwf hkeyed (hcontainer ▸ stays_of_enum howned hobj) hcontainer
      cConnections ppCP pcFetched
  · next e cConnections hobj =>
    have hcontainer : e.container = t := by simpa using hon
    simp only [ProxyCall.run, hobj] at hrun
    obtain rfl := Option.some.inj hrun
    simp only [ProxyCall.points, hobj]
    exact skip_tracked hassumed hwf hkeyed (hcontainer ▸ stays_of_enum howned hobj) e cConnections
  · next e hobj =>
    have hcontainer : e.container = t := by simpa using hon
    simp only [ProxyCall.run, hobj] at hrun
    obtain rfl := Option.some.inj hrun
    simp only [ProxyCall.points, hobj]
    exact reset_tracked hassumed hwf hkeyed (hcontainer ▸ stays_of_enum howned hobj) e
  · next e ppEnum hobj =>
    have hcontainer : e.container = t := by simpa using hon
    simp only [ProxyCall.run, hobj] at hrun
    obtain rfl := Option.some.inj hrun
    simp only [ProxyCall.points, hobj]
    exact clone_tracked hassumed hwf hkeyed (hcontainer ▸ stays_of_enum howned hobj) hcontainer
      ppEnum
  · simp at hon

/-- What has been delivered: while the container is there its map has all of it, and a proxy
that is alive still stands for its object. -/
structure Inv (t : Nat) (s : Deliveries) : Prop where
  wf : Wf s.heap
  born : t < s.heap.next
  keyed : Keyed t s.heap
  proxied : ∀ d ∈ s.delivered, s.heap.Live t → Proxied t d.underlying d.proxy s.heap
  stands : ∀ d ∈ s.delivered, d.proxy < s.heap.next ∧ ∀ o, s.heap.obj? d.proxy = some o →
    ∃ p, o = .connectionPoint p ∧ p.underlying = d.underlying
  same_iff : ∀ d ∈ s.delivered, ∀ d' ∈ s.delivered,
    d.proxy = d'.proxy ↔ d.underlying = d'.underlying
  complete : s.delivered.map Delivery.proxy = s.handed

theorem Inv.live_of_evolves {s : Deliveries} {h' : ComHeap} (hinv : Inv t s)
    (hevolves : s.heap.Evolves h') (hlive : h'.Live t) : s.heap.Live t := by
  obtain ⟨o, ho⟩ := Heap.live_iff.mp hlive
  obtain ⟨o₀, ho₀, -⟩ := hevolves.obj hinv.born ho
  exact Heap.live_iff.mpr ⟨o₀, ho₀⟩

theorem Inv.advance {s : Deliveries} {h' : ComHeap} {ps : List Nat} {new : List Delivery}
    (hinv : Inv t s) (hwf' : Wf h') (hevolves : s.heap.Evolves h') (hkeyed' : Keyed t h')
    (hnew : ∀ d ∈ new, Proxied t d.underlying d.proxy h') (hps : new.map Delivery.proxy = ps) :
    Inv t { heap := h', handed := ps ++ s.handed, delivered := new ++ s.delivered } := by
  have hproxied : ∀ d ∈ new ++ s.delivered, h'.Live t →
      Proxied t d.underlying d.proxy h' := by
    intro d hd hlive
    rcases List.mem_append.mp hd with hmem | hmem
    · exact hnew d hmem
    · exact (hinv.proxied d hmem (hinv.live_of_evolves hevolves hlive)).of_evolves hwf' hevolves
        hlive
  refine ⟨hwf', Nat.lt_of_lt_of_le hinv.born hevolves.1, hkeyed', hproxied, fun d hd => ?_,
    fun d hd d' hd' => ?_, ?_⟩
  · rcases List.mem_append.mp hd with hmem | hmem
    · obtain ⟨-, -, cp, -, -, hp, hunderlying⟩ := hnew d hmem
      refine ⟨lt_next_of_obj? hp, fun o ho => ⟨cp, ?_, hunderlying⟩⟩
      exact Option.some.inj (ho.symm.trans hp)
    · obtain ⟨hlt, hstands⟩ := hinv.stands d hmem
      refine ⟨Nat.lt_of_lt_of_le hlt hevolves.1, fun o ho => ?_⟩
      obtain ⟨o₀, ho₀, hsame⟩ := hevolves.obj hlt ho
      obtain ⟨p, rfl, hunderlying⟩ := hstands o₀ ho₀
      cases o <;> simp only [Object.same, ComObject.same] at hsame
      exact ⟨_, rfl, hsame.1.symm.trans hunderlying⟩
  · by_cases hlive : h'.Live t
    · exact (hproxied d hd hlive).eq_iff hkeyed' (hproxied d' hd' hlive)
    · -- without the container nothing is delivered any more
      have hempty : new = [] := by
        cases new with
        | nil => rfl
        | cons d₀ rest =>
            obtain ⟨c, -, -, hc, -⟩ := hnew d₀ List.mem_cons_self
            exact absurd (Heap.live_iff.mpr ⟨_, hc⟩) hlive
      subst hempty
      exact hinv.same_iff d hd d' hd'
  · rw [List.map_append, hps, hinv.complete]

theorem Inv.quiet {s : Deliveries} {h' : ComHeap} (hinv : Inv t s) (hwf' : Wf h')
    (hevolves : s.heap.Evolves h') (hkeyed' : Keyed t h') : Inv t { s with heap := h' } := by
  have hnone : ∀ d ∈ ([] : List Delivery), Proxied t d.underlying d.proxy h' :=
    fun d hd => by simp at hd
  exact hinv.advance hwf' hevolves hkeyed' hnone rfl

theorem init_inv {s : Deliveries} (hinit : (system env t).init s) : Inv t s := by
  obtain ⟨hwf, hhanded, hempty, underlying, hobj⟩ := hinit
  have hnone : ∀ c, s.heap.obj? t = some (.connectionPointContainer c) →
      c.proxyConnectionPoints = [] := by
    intro c hc
    obtain rfl : _ = c := by simpa [hobj] using hc
    rfl
  refine ⟨hwf, lt_next_of_obj? hobj, ⟨fun c hc => ?_, fun c hc kp hkp => ?_⟩, ?_, ?_, ?_, ?_⟩
  · rw [hnone c hc]
    exact List.nodup_nil
  · simp [hnone c hc] at hkp
  · simp [hempty]
  · simp [hempty]
  · simp [hempty]
  · rw [hempty, hhanded, List.map_nil]

theorem map_proxy_zipWith {ps cps : List Nat} (hlength : ps.length ≤ cps.length) :
    (List.zipWith Delivery.mk ps cps).map Delivery.proxy = ps := by
  rw [← List.map_uncurry_zip_eq_zipWith, List.map_map]
  exact List.map_fst_zip hlength

theorem step_inv (hassumed : Assumed env t) {s s' : Deliveries} {a : ContainerAction t}
    (hinv : Inv t s) (hstep : step env t s a = some s') : Inv t s' := by
  cases a with
  | call this c =>
      rw [step] at hstep
      split_ifs at hstep with hcall
      obtain ⟨r, hrun, rfl⟩ := Option.map_eq_some_iff.mp hstep
      have hdelivers := run_delivers hassumed hinv.wf hinv.keyed hcall.1 hcall.2 hrun
      cases hpoints : c.points env this s.heap with
      | some cps =>
          rw [hpoints] at hdelivers
          obtain ⟨htracked, hcomplete⟩ := hdelivers
          refine hinv.advance htracked.holds.wf htracked.holds.gives.evolves htracked.keyed ?_
            (map_proxy_zipWith hcomplete)
          intro d hd
          rw [← List.map_uncurry_zip_eq_zipWith] at hd
          obtain ⟨pu, hpu, rfl⟩ := List.mem_map.mp hd
          exact htracked.proxied pu hpu
      | none =>
          rw [hpoints] at hdelivers
          exact hinv.quiet hdelivers.holds.wf hdelivers.holds.gives.evolves hdelivers.keyed
  | addRef a =>
      rw [step] at hstep
      split_ifs at hstep with howned
      obtain rfl := Option.some.inj hstep
      have hadd := (Holds.refl hinv.wf).addRef (Gives.live_of_owned howned)
      exact hinv.quiet hadd.wf hadd.gives.evolves (hinv.keyed.of_evolves hadd.wf
        hadd.gives.evolves fun c hc => by rwa [Heap.addRef_obj?] at hc)
  | release a =>
      rw [step] at hstep
      split_ifs at hstep with howned
      obtain rfl := Option.some.inj hstep
      have hwf' := wf_release hinv.wf howned
      obtain ⟨-, hevolves, -⟩ := Heap.release_spec hinv.wf.valid howned
      exact hinv.quiet hwf' hevolves (hinv.keyed.of_evolves hwf' hevolves
        fun c hc => Heap.releaseAll_obj? hc)
  | other f huntouched =>
      obtain rfl := Option.some.inj hstep
      have hevolves := (f.gives _ hinv.wf).evolves
      exact hinv.quiet (f.wf _ hinv.wf) hevolves
        (hinv.keyed.of_evolves (f.wf _ hinv.wf) hevolves (huntouched _ hinv.wf))

theorem reachable_inv (hassumed : Assumed env t) {s : Deliveries}
    (hreach : (system env t).Reachable s) : Inv t s :=
  hreach.induct (fun _ hinit => init_inv hinit) fun _ _ _ _ hinv hstep =>
    step_inv hassumed hinv hstep

/-- Two connection points that clients got from a container are the same proxy exactly when
they stand for the same object, and each of them stands for the object it was handed out for. -/
theorem delivered_same_iff (hassumed : Assumed env t) {s : Deliveries}
    (hreach : (system env t).Reachable s) :
    s.delivered.map Delivery.proxy = s.handed ∧
    (∀ d ∈ s.delivered, ∀ d' ∈ s.delivered, d.proxy = d'.proxy ↔ d.underlying = d'.underlying) ∧
    ∀ d ∈ s.delivered, s.heap.Live d.proxy →
      ∃ p, s.heap.obj? d.proxy = some (.connectionPoint p) ∧ p.underlying = d.underlying := by
  have hinv := reachable_inv hassumed hreach
  refine ⟨hinv.complete, hinv.same_iff, fun d hd hlive => ?_⟩
  obtain ⟨o, ho⟩ := Heap.live_iff.mp hlive
  obtain ⟨p, rfl, hunderlying⟩ := (hinv.stands d hd).2 o ho
  exact ⟨p, ho, hunderlying⟩

theorem give_untouched (u t : Nat) : (ForeignCall.give u).Untouched t := by
  intro h _ c hc
  unfold ForeignCall.give at hc
  dsimp only at hc
  split_ifs at hc
  · rwa [Heap.addRef_obj?] at hc
  · exact hc

theorem create_untouched {ρ : Type} {ptrs : ρ → List Nat} (wrap : Nat → ρ)
    (hwrap : ∀ a, ptrs (wrap a) = [a]) (t : Nat) : (ForeignCall.create wrap hwrap).Untouched t := by
  intro h _ c hc
  have hnew : (h.new h.freeAddress (.other [])).obj? t = some (.connectionPointContainer c) :=
    (Heap.addRef_obj? _ _ _).symm.trans hc
  rw [Heap.new_obj?] at hnew
  split_ifs at hnew
  · simp at hnew
  · exact hnew

theorem answers_sampleControl (u : Nat) : Answers sampleControl u := by
  intro h _ hlive
  obtain ⟨o, ho⟩ := Heap.live_iff.mp hlive
  simp [sampleControl, ForeignCall.give, ho, failed_S_OK]

theorem assumed_sampleControl (t : Nat) : Assumed sampleControl t where
  found _ _ _ cp _ := answers_sampleControl cp
  fetched _ _ _ cp _ := answers_sampleControl cp
  queryUnknown u := give_untouched u t
  queryConnectionPoint u := give_untouched u t
  findConnectionPoint _ _ := create_untouched some (fun _ => rfl) t
  enumConnectionPoints _ := create_untouched some (fun _ => rfl) t
  nextConnectionPoints _ _ := create_untouched (fun a => [a]) (fun _ => rfl) t
  skipConnectionPoints _ _ _ _ _ hc := hc
  resetConnectionPoints _ _ _ _ hc := hc
  cloneConnectionPoints _ := create_untouched some (fun _ => rfl) t

/-- A client asks for a connection point, and gets one. -/
theorem delivered_same_iff_find : ∃ t s, (system sampleControl t).Reachable s ∧ s.handed ≠ [] ∧
    s.delivered.map Delivery.proxy = s.handed ∧
    (∀ d ∈ s.delivered, ∀ d' ∈ s.delivered, d.proxy = d'.proxy ↔ d.underlying = d'.underlying) ∧
    ∀ d ∈ s.delivered, s.heap.Live d.proxy →
      ∃ p, s.heap.obj? d.proxy = some (.connectionPoint p) ∧ p.underlying = d.underlying := by
  obtain ⟨h, t, hreach, howned, hobj⟩ := ProxyCall.reach_control
  have hwf := ClientAction.reachable_wf hreach
  have hinit : (system sampleControl t).init { heap := h, handed := [], delivered := [] } :=
    ⟨hwf, rfl, rfl, some 0, hobj⟩
  obtain ⟨p, houtcome, -⟩ := @findConnectionPoint_found sampleControl t h
    (assumed_sampleControl t) hwf (init_inv hinit).keyed (stays_of_owned howned hobj)
    { underlying := some 0 } 0 h.next IID_NULL rfl failed_S_OK rfl
  have hon : ProxyCall.onContainer t t (.findConnectionPoint IID_NULL true) h = true := by
    simp [ProxyCall.onContainer, hobj]
  have hrun : ProxyCall.run sampleControl t (.findConnectionPoint IID_NULL true) h =
      some (HostConnectionPointContainer.findConnectionPoint sampleControl t
        { underlying := some 0 } IID_NULL true h) := by
    simp only [ProxyCall.run, hobj]
  have hpoints : ProxyCall.points sampleControl t (.findConnectionPoint IID_NULL true) h =
      some (found sampleControl { underlying := some 0 } IID_NULL h) := by
    simp only [ProxyCall.points, hobj]
  have hstep : (system sampleControl t).step { heap := h, handed := [], delivered := [] }
      (.call t (.findConnectionPoint IID_NULL true)) = some
        { heap := (HostConnectionPointContainer.findConnectionPoint sampleControl t
            { underlying := some 0 } IID_NULL true h).2
          handed := [p]
          delivered := [⟨p, h.next⟩] } := by
    have hcall : 1 ≤ h.owned t ∧
        ProxyCall.onContainer t t (.findConnectionPoint IID_NULL true) h = true := ⟨howned, hon⟩
    simp only [system, step]
    rw [if_pos hcall, hrun, hpoints, Option.map_some, houtcome]
    rfl
  have hreach' := System.Reachable.step (S := system sampleControl t) _ (.init hinit) hstep
  exact ⟨t, _, hreach', by simp, delivered_same_iff (assumed_sampleControl t) hreach'⟩

end Deliveries

end Axhost
