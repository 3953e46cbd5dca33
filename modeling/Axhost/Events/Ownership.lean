import Axhost.Events.Actions

/-!
# Who owns what after a call

Every method of the event proxies obeys the ownership law but for two paths: the clone of
`HostEnumConnections` is destroyed before it is returned, and `HostEnumConnectionPoints::Next`
fails in the middle of its loop with the fetched references already in the caller's array.
-/

namespace Axhost

open RefHeap

/-- The law: a success hands out one new reference to a live object for each pointer
written, a failure none. -/
def Law (h : ComHeap) (r : Outcome × ComHeap) : Prop :=
  if failed r.1.hr then ∀ a, r.2.owned a = h.owned a
  else (∀ a ∈ r.1.ptrs, r.2.Live a) ∧ ∀ a, r.2.owned a = h.owned a + r.1.ptrs.count a

/-- What a method that obeys the law is shown to do: it hands out what it wrote, and writes
nothing when it fails. -/
structure Obeys (h : ComHeap) (r : Outcome × ComHeap) : Prop where
  holds : Holds h r.2 r.1.ptrs
  none_of_failed : failed r.1.hr = true → r.1.ptrs = []

theorem Obeys.law {h : ComHeap} {r : Outcome × ComHeap} (hvalid : h.Valid) (hobeys : Obeys h r) :
    Law h r := by
  have howned := hobeys.holds.gives.owned_eq
  unfold Law
  split_ifs with hfailed
  · intro a
    rw [howned a, hobeys.none_of_failed hfailed]
    simp
  · exact ⟨fun a ha => hobeys.holds.live hvalid ha, howned⟩

theorem not_law_of_leak {h : ComHeap} {r : Outcome × ComHeap} (hh : Holds h r.2 r.1.ptrs)
    (hfailed : failed r.1.hr = true) (hne : r.1.ptrs ≠ []) : ¬ Law h r := by
  obtain ⟨a, ha⟩ := List.exists_mem_of_ne_nil _ hne
  have hcount : 0 < r.1.ptrs.count a := List.count_pos_iff.mpr ha
  have howned := hh.gives.owned_eq a
  unfold Law
  rw [if_pos hfailed]
  intro hlaw
  have hsame := hlaw a
  omega

theorem not_law_of_dangling {h : ComHeap} {r : Outcome × ComHeap} (hh : Holds h r.2 [])
    (hsucceeded : failed r.1.hr = false) (hne : r.1.ptrs ≠ []) : ¬ Law h r := by
  obtain ⟨a, ha⟩ := List.exists_mem_of_ne_nil _ hne
  have hcount : 0 < r.1.ptrs.count a := List.count_pos_iff.mpr ha
  have howned := hh.gives.owned_eq a
  unfold Law
  rw [if_neg (by simp [hsucceeded])]
  intro hlaw
  have hsame := hlaw.2 a
  rw [List.count_nil] at howned
  omega

/-- A method that obeys the law, and the actions by which it does what it does. -/
structure Performs (calls : ComHeap → ComHeap → Prop) (makes : Bool) (h : ComHeap)
    (r : Outcome × ComHeap) : Prop where
  traced : Traced calls makes h r.2 r.1.ptrs
  none_of_failed : failed r.1.hr = true → r.1.ptrs = []

namespace Performs

variable {calls : ComHeap → ComHeap → Prop} {makes : Bool} {h₀ h : ComHeap}

theorem obeys {r : Outcome × ComHeap} (hr : Performs calls makes h r) : Obeys h r :=
  ⟨hr.traced.toHolds, hr.none_of_failed⟩

theorem fail (hh : Traced calls makes h₀ h []) (hr : HRESULT) :
    Performs calls makes h₀ ({ hr := hr }, h) := ⟨hh, fun _ => rfl⟩

theorem success {ws : List Nat} (hh : Traced calls makes h₀ h ws) {hr : HRESULT}
    (hsucceeded : failed hr = false) (fetched : Option Nat) :
    Performs calls makes h₀ ({ hr := hr, ptrs := ws, fetched := fetched }, h) :=
  ⟨hh, fun hfailed => by simp [hsucceeded] at hfailed⟩

theorem scope {a : Nat} {r : Outcome × ComHeap} (hvalid : h₀.Valid)
    (hh : Traced calls false h₀ h [a]) (hr : Performs calls makes h r) :
    Performs calls makes h₀ (scope a r) := by
  have hboth := hh.trans hr.traced
  exact ⟨(hboth.perm List.perm_append_comm).release hvalid, hr.none_of_failed⟩

end Performs

/-! ## New proxies -/

theorem newProxy_performs {calls : ComHeap → ComHeap → Prop} (env : Underlying) {h : ComHeap}
    {o : ComObject} (hwf : Wf h) (hlive : ∀ a ∈ o.refs, h.Live a) (hplaced : Placed h o)
    (hkind : o.proxy = true ∧ ∀ p, o ≠ .connectionPoint p) {hr : HRESULT}
    (hsucceeded : failed hr = false) :
    Performs calls false h ({ hr := hr, ptrs := [h.next] }, (newProxy env o h).release h.next) :=
  .success (((Traced.refl calls hwf).newProxy env hwf.valid hlive hplaced hkind).release hwf.valid)
    hsucceeded none

/-! ## The container -/

/-- The object at `this` is a container and stays one, whatever is called. -/
def Stays (this : Nat) (h : ComHeap) : Prop :=
  ∀ h' ws, Holds h h' ws → ∃ c, h'.obj? this = some (.connectionPointContainer c)

theorem Stays.of_holds {this : Nat} {h h' : ComHeap} {ws : List Nat} (hstays : Stays this h)
    (hh : Holds h h' ws) : Stays this h' :=
  fun h'' ws' hh' => hstays h'' (ws' ++ ws) (hh.trans hh')

/-- A container stays while somebody owns a reference to it. -/
theorem stays_of_owned {this : Nat} {h : ComHeap} {c : HostConnectionPointContainer}
    (howned : 1 ≤ h.owned this) (hobj : h.obj? this = some (.connectionPointContainer c)) :
    Stays this h := by
  intro h' ws hh
  obtain ⟨o, ho, hsame⟩ := hh.kept howned hobj
  cases o <;> simp only [ComObject.same] at hsame
  exact ⟨_, ho⟩

/-- The container of an enumerator stays while somebody owns a reference to the
enumerator. -/
theorem stays_of_enum {this : Nat} {h : ComHeap} {e : HostEnumConnectionPoints}
    (howned : 1 ≤ h.owned this) (hobj : h.obj? this = some (.enumConnectionPoints e)) :
    Stays e.container h := by
  intro h' ws hh
  obtain ⟨o, ho, hsame⟩ := hh.kept howned hobj
  cases o <;> simp only [ComObject.same] at hsame
  subst hsame
  exact hh.wf.container this _ ho

namespace HostConnectionPointContainer

variable (env : Underlying)

theorem entry_of_proxies {h : ComHeap} {this key p : Nat}
    (hfind : UnorderedMap.find (proxies this h) key = some p) :
    ∃ c, h.obj? this = some (.connectionPointContainer c) ∧
      (key, p) ∈ c.proxyConnectionPoints := by
  unfold proxies at hfind
  split at hfind
  · next c hobj => exact ⟨c, hobj, UnorderedMap.mem_of_find hfind⟩
  · simp [UnorderedMap.find] at hfind

/-- `GetProxyConnectionPoint` makes a proxy: there is none for the object yet, and the object is
a connection point. -/
def getProxyConnectionPointMakes (this : Nat) (pCP : Option Nat) (ppCP : Bool) (h : ComHeap) :
    Bool :=
  match pCP with
  | none => false
  | some pCP => ppCP && (UnorderedMap.find (proxies this h) ((h.address pCP).getD 0)).isNone &&
      ((env.queryConnectionPoint pCP).run h).1.2.isSome

theorem getProxyConnectionPoint_performs {this : Nat} {h : ComHeap} (hwf : Wf h)
    (hstays : Stays this h) (pCP : Option Nat) (ppCP : Bool) :
    Performs env.Calls (getProxyConnectionPointMakes env this pCP ppCP h) h
      (getProxyConnectionPoint env this pCP ppCP h) := by
  have hrefl := Traced.refl env.Calls hwf
  have hvalid := hwf.valid
  unfold getProxyConnectionPoint getProxyConnectionPointMakes
  cases ppCP with
  | false => cases pCP <;> exact .fail hrefl E_POINTER
  | true =>
    cases pCP with
    | none => exact .fail hrefl E_INVALIDARG
    | some pCP =>
      simp only [Bool.true_eq_false, if_false, Bool.true_and]
      cases hfind : UnorderedMap.find (proxies this h) ((h.address pCP).getD 0) with
      | some p =>
          obtain ⟨c, hthis, hentry⟩ := entry_of_proxies hfind
          obtain ⟨cp, hp, -⟩ := hwf.proxies this c hthis _ hentry
          have hone := hrefl.addRef (Heap.live_iff.mpr ⟨_, hp⟩)
          have htwo := hone.addRef (hone.live hvalid List.mem_cons_self)
          exact .success (htwo.release hvalid) failed_S_OK none
      | none =>
          dsimp only
          rcases hrefl.foreign_cases (env.queryConnectionPoint pCP) (.queryConnectionPoint pCP) with
            ⟨hptr, hh⟩ | ⟨u, hptr, -, hh⟩
          · simp only [hptr]
            exact .fail hh E_UNEXPECTED
          · simp only [hptr]
            refine Performs.scope hvalid hh ?_
            have hwf' := hh.wf
            have hvalid' := hwf'.valid
            obtain ⟨c, hthis⟩ := hstays _ _ hh.toHolds
            have hstored := (Traced.refl env.Calls hwf').linkProxy env ((h.address pCP).getD 0)
              hvalid' (hh.live hvalid List.mem_cons_self) hthis
            have hproxy := hstored.addRef (hstored.live hvalid' List.mem_cons_self)
            exact .success ((hproxy.release hvalid').release hvalid') failed_S_OK none

theorem emplaceProxy_obj? {h : ComHeap} {p : Nat} {cp : HostConnectionPoint}
    (hp : h.obj? p = some (.connectionPoint cp)) (this key q : Nat) :
    (emplaceProxy this key q h).obj? p = some (.connectionPoint cp) := by
  unfold emplaceProxy
  split
  · next c hobj =>
    split_ifs
    · exact hp
    · rw [Heap.setObj_obj? (Heap.addRef_live q (Heap.live_iff.mpr ⟨_, hobj⟩)), if_neg,
        Heap.addRef_obj?]
      · exact hp
      · rintro rfl
        simp [hp] at hobj
  · exact hp

theorem getProxyConnectionPoint_hands {this : Nat} {h : ComHeap} (hwf : Wf h)
    (hstays : Stays this h) (pCP : Option Nat) (ppCP : Bool) :
    ∀ p ∈ (getProxyConnectionPoint env this pCP ppCP h).1.ptrs,
      ∃ cp, (getProxyConnectionPoint env this pCP ppCP h).2.obj? p = some (.connectionPoint cp) ∧
        cp.container = this := by
  intro p hmem
  have hlive :=
    (getProxyConnectionPoint_performs env hwf hstays pCP ppCP).traced.live hwf.valid hmem
  obtain ⟨o, ho⟩ := Heap.live_iff.mp hlive
  rw [ho]
  revert hmem ho
  unfold getProxyConnectionPoint
  split_ifs with hnull
  · simp
  · cases pCP with
    | none => simp
    | some pCP =>
      dsimp only
      cases hfind : UnorderedMap.find (proxies this h) ((h.address pCP).getD 0) with
      | some q =>
          intro hmem ho
          obtain rfl : p = q := List.mem_singleton.mp hmem
          have hbefore := Heap.releaseAll_obj? ho
          rw [Heap.addRef_obj?, Heap.addRef_obj?] at hbefore
          obtain ⟨c, hthis, hentry⟩ := entry_of_proxies hfind
          obtain ⟨cp, hp, hcontainer⟩ := hwf.proxies this c hthis _ hentry
          exact ⟨cp, hbefore.symm.trans hp, hcontainer⟩
      | none =>
          dsimp only
          cases hptr : ((env.queryConnectionPoint pCP).run h).1.2 with
          | none => simp
          | some u =>
              intro hmem ho
              obtain rfl := List.mem_singleton.mp hmem
              have hbefore := Heap.releaseAll_obj? (Heap.releaseAll_obj? (Heap.releaseAll_obj? ho))
              rw [Heap.addRef_obj?] at hbefore
              have hnew := newProxy_obj? env
                (.connectionPoint { underlying := u, container := this })
                ((env.queryConnectionPoint pCP).run h).2
              exact ⟨_, hbefore.symm.trans (emplaceProxy_obj? hnew _ _ _), rfl⟩

theorem getProxyConnectionPoint_cases (this : Nat) (h : ComHeap) (pCP : Option Nat) (ppCP : Bool) :
    (failed (getProxyConnectionPoint env this pCP ppCP h).1.hr = true ∧
      (getProxyConnectionPoint env this pCP ppCP h).1.ptrs = []) ∨
    ∃ p, failed (getProxyConnectionPoint env this pCP ppCP h).1.hr = false ∧
      (getProxyConnectionPoint env this pCP ppCP h).1.ptrs = [p] := by
  have hpointer : failed E_POINTER = true := by decide
  have hinvalid : failed E_INVALIDARG = true := by decide
  have hunexpected : failed E_UNEXPECTED = true := by decide
  unfold getProxyConnectionPoint
  split_ifs with hnull
  · exact Or.inl ⟨hpointer, rfl⟩
  · cases pCP with
    | none => exact Or.inl ⟨hinvalid, rfl⟩
    | some pCP =>
      dsimp only
      cases UnorderedMap.find (proxies this h) ((h.address pCP).getD 0) with
      | some p => exact Or.inr ⟨p, failed_S_OK, rfl⟩
      | none =>
          dsimp only
          cases ((env.queryConnectionPoint pCP).run h).1.2 with
          | none => exact Or.inl ⟨hunexpected, rfl⟩
          | some u => exact Or.inr ⟨_, failed_S_OK, rfl⟩

/-- An enumerator that belongs to a live container and holds a live enumerator. -/
theorem enumerator_performs {calls : ComHeap → ComHeap → Prop} {h : ComHeap} {u container : Nat}
    {c : HostConnectionPointContainer} (hwf : Wf h) (hu : h.Live u)
    (hcontainer : h.obj? container = some (.connectionPointContainer c)) {hr : HRESULT}
    (hsucceeded : failed hr = false) :
    Performs calls false h ({ hr := hr, ptrs := [h.next] }, (newProxy env
      (.enumConnectionPoints { underlying := some u, container := container }) h).release
        h.next) := by
  have hlive : ∀ a ∈ ComObject.refs
      (.enumConnectionPoints { underlying := some u, container := container }), h.Live a :=
    ComObject.live_refs (some u) rfl (by simpa using hu) hcontainer
  exact newProxy_performs env hwf hlive ⟨c, hcontainer⟩ ⟨rfl, by simp⟩ hsucceeded

theorem enumConnectionPoints_performs {this : Nat} {h : ComHeap} (hwf : Wf h)
    (hstays : Stays this h) (c : HostConnectionPointContainer) (ppEnum : Bool) :
    Performs env.Calls false h (enumConnectionPoints env this c ppEnum h) := by
  have hrefl := Traced.refl env.Calls hwf
  have hvalid := hwf.valid
  unfold enumConnectionPoints
  split_ifs with hnull
  · exact .fail hrefl E_POINTER
  · cases c.underlying with
    | none => exact .fail hrefl E_UNEXPECTED
    | some u =>
      dsimp only
      rcases hrefl.foreign_cases (env.enumConnectionPoints u) (.enumConnectionPoints u) with
        ⟨hptr, hh⟩ | ⟨e, hptr, hok, hh⟩
      · split_ifs
        · exact .fail hh _
        · simp only [hptr]
          exact .fail hh E_UNEXPECTED
      · simp only [hok, hptr, Bool.false_eq_true, if_false]
        obtain ⟨c', hthis⟩ := hstays _ _ hh.toHolds
        exact .scope hvalid hh (enumerator_performs env hh.wf (hh.live hvalid List.mem_cons_self)
          hthis failed_S_OK)

/-- `FindConnectionPoint` makes a proxy for what the control has found. -/
def findConnectionPointMakes (this : Nat) (c : HostConnectionPointContainer) (riid : IID)
    (ppCP : Bool) (h : ComHeap) : Bool :=
  match c.underlying with
  | none => false
  | some u =>
    let ((_, underlying), h) := (env.findConnectionPoint u riid).run h
    match underlying with
    | none => false
    | some underlying =>
      let ((_, underlyingUnk), h) := (env.queryUnknown underlying).run h
      ppCP && underlyingUnk.isSome && getProxyConnectionPointMakes env this underlyingUnk true h

theorem findConnectionPoint_performs {this : Nat} {h : ComHeap} (hwf : Wf h)
    (hstays : Stays this h) (c : HostConnectionPointContainer) (riid : IID) (ppCP : Bool) :
    Performs env.Calls (findConnectionPointMakes env this c riid ppCP h) h
      (findConnectionPoint env this c riid ppCP h) := by
  have hrefl := Traced.refl env.Calls hwf
  have hvalid := hwf.valid
  unfold findConnectionPoint findConnectionPointMakes
  cases ppCP with
  | false =>
      simp only [Bool.false_and, if_true]
      split
      · exact .fail hrefl E_POINTER
      · split <;> exact .fail hrefl E_POINTER
  | true =>
    simp only [Bool.true_eq_false, if_false, Bool.true_and]
    cases c.underlying with
    | none => exact .fail hrefl E_UNEXPECTED
    | some u =>
      dsimp only
      rcases hrefl.foreign_cases (env.findConnectionPoint u riid) (.findConnectionPoint u riid) with
        ⟨hptr, hh⟩ | ⟨cp, hptr, hok, hh⟩
      · simp only [hptr]
        split_ifs
        · exact .fail hh _
        · exact .fail hh E_UNEXPECTED
      · simp only [hok, hptr, Bool.false_eq_true, if_false]
        refine .scope hvalid hh ?_
        have hrefl' := Traced.refl env.Calls hh.wf
        rcases hrefl'.foreign_cases (env.queryUnknown cp) (.queryUnknown cp) with
          ⟨hptr', hh'⟩ | ⟨unk, hptr', hok', hh'⟩
        · simp only [hptr', Option.isSome_none, Bool.false_and]
          split_ifs
          · exact .fail hh' _
          · exact .fail hh' E_UNEXPECTED
        · simp only [hok', hptr', Bool.false_eq_true, if_false, Option.isSome_some, Bool.true_and]
          refine .scope hh.wf.valid hh' ?_
          have hproxy := getProxyConnectionPoint_performs env hh'.wf
            ((hstays.of_holds hh.toHolds).of_holds hh'.toHolds) (some unk) true
          rcases getProxyConnectionPoint_cases env this ((env.queryUnknown cp).run
            ((env.findConnectionPoint u riid).run h).2).2 (some unk) true with
            ⟨hfailed, hptrs⟩ | ⟨p, hsucceeded, hptrs⟩
          · simp only [hfailed, if_true]
            exact .fail (hptrs ▸ hproxy.traced) _
          · simp only [hsucceeded, hptrs, Bool.false_eq_true, if_false, List.head?_cons]
            exact .success (hptrs ▸ hproxy.traced) hsucceeded none

end HostConnectionPointContainer

namespace HostConnectionPoint

variable (env : Underlying)

theorem getConnectionPointContainer_performs (calls : ComHeap → ComHeap → Prop) {this : Nat}
    {h : ComHeap} {p : HostConnectionPoint} (hwf : Wf h)
    (hobj : h.obj? this = some (.connectionPoint p)) (ppCPC : Bool) :
    Performs calls false h (getConnectionPointContainer p ppCPC h) := by
  have hrefl := Traced.refl calls hwf
  unfold getConnectionPointContainer
  split_ifs
  · exact .fail hrefl E_POINTER
  · have hlive : h.Live p.container := Gives.live_of_refs hwf.valid hobj
      (by simp [Object.refs, ComObject.refs])
    exact .success (hrefl.addRef hlive) failed_S_OK none

theorem getUnderlyingSink_performs (calls : ComHeap → ComHeap → Prop) {h : ComHeap} (hwf : Wf h)
    (this : Nat) (dwCookie : DWORD) (ppUnk : Bool) :
    Performs calls false h (getUnderlyingSink this dwCookie ppUnk h) := by
  have hrefl := Traced.refl calls hwf
  unfold getUnderlyingSink
  split_ifs
  · exact .fail hrefl E_POINTER
  · cases hfind : (fields this h).bind fun p =>
        UnorderedMap.find p.underlyingConnections dwCookie with
    | none => exact .fail hrefl E_UNEXPECTED
    | some sink =>
        obtain ⟨p, hp, hsink⟩ := Option.bind_eq_some_iff.mp hfind
        unfold fields at hp
        split at hp
        · next q hobj =>
          obtain rfl := Option.some.inj hp
          have hmem : sink ∈ ComObject.refs (.connectionPoint q) :=
            List.mem_append_right (q.underlying :: q.container :: q.connections.map Prod.snd)
              (List.mem_map_of_mem (UnorderedMap.mem_of_find hsink))
          have hlive : h.Live sink := Gives.live_of_refs hwf.valid hobj hmem
          exact .success (hrefl.addRef hlive) failed_S_OK none
        · simp at hp

/-- An enumerator that belongs to a live connection point and holds a live enumerator. -/
theorem connections_performs {calls : ComHeap → ComHeap → Prop} {h : ComHeap}
    {u connectionPoint : Nat} {p : HostConnectionPoint} (hwf : Wf h) (hu : h.Live u)
    (hobj : h.obj? connectionPoint = some (.connectionPoint p)) {hr : HRESULT}
    (hsucceeded : failed hr = false) :
    Performs calls false h ({ hr := hr, ptrs := [h.next] }, (newProxy env
      (.enumConnections { underlying := some u, connectionPoint := connectionPoint }) h).release
        h.next) := by
  have hlive : ∀ a ∈ ComObject.refs
      (.enumConnections { underlying := some u, connectionPoint := connectionPoint }),
      h.Live a := ComObject.live_refs (some u) rfl (by simpa using hu) hobj
  exact newProxy_performs env hwf hlive ⟨p, hobj⟩ ⟨rfl, by simp⟩ hsucceeded

theorem enumConnections_performs {this : Nat} {h : ComHeap} {p : HostConnectionPoint} (hwf : Wf h)
    (howned : 1 ≤ h.owned this) (hobj : h.obj? this = some (.connectionPoint p)) (ppEnum : Bool) :
    Performs env.Calls false h (enumConnections env this p ppEnum h) := by
  have hrefl := Traced.refl env.Calls hwf
  have hvalid := hwf.valid
  unfold enumConnections
  split_ifs with hnull
  · exact .fail hrefl E_POINTER
  · dsimp only
    rcases hrefl.foreign_cases (env.enumConnections p.underlying) (.enumConnections p.underlying)
      with ⟨hptr, hh⟩ | ⟨e, hptr, hok, hh⟩
    · split_ifs
      · exact .fail hh _
      · simp only [hptr]
        exact .fail hh E_UNEXPECTED
    · simp only [hok, hptr, Bool.false_eq_true, if_false]
      refine .scope hvalid hh ?_
      obtain ⟨o, hthis, hsame⟩ := hh.kept howned hobj
      cases o <;> simp only [ComObject.same] at hsame
      exact connections_performs env hh.wf (hh.live hvalid List.mem_cons_self) hthis hok

theorem enumConnections_hands {this : Nat} {h : ComHeap} {p : HostConnectionPoint} (hwf : Wf h)
    (howned : 1 ≤ h.owned this) (hobj : h.obj? this = some (.connectionPoint p)) (ppEnum : Bool) :
    ∀ e ∈ (enumConnections env this p ppEnum h).1.ptrs, ∃ u,
      (enumConnections env this p ppEnum h).2.obj? e = some
        (.enumConnections { underlying := some u, connectionPoint := this }) := by
  intro e hmem
  have hlive := (enumConnections_performs env hwf howned hobj ppEnum).traced.live hwf.valid hmem
  obtain ⟨o, ho⟩ := Heap.live_iff.mp hlive
  rw [ho]
  revert hmem ho
  unfold enumConnections
  split_ifs with hnull
  · simp
  · dsimp only
    split_ifs
    · simp
    · cases hptr : ((env.enumConnections p.underlying).run h).1.2 with
      | none => simp
      | some u =>
          intro hmem ho
          obtain rfl := List.mem_singleton.mp hmem
          have hbefore := Heap.releaseAll_obj? (Heap.releaseAll_obj? ho)
          rw [newProxy_obj?] at hbefore
          exact ⟨u, hbefore.symm⟩

theorem getUnderlyingSink_cases (this : Nat) (h : ComHeap) (dwCookie : DWORD) :
    (getUnderlyingSink this dwCookie true h).1.ptrs = [] ∨
    ∃ sink, failed (getUnderlyingSink this dwCookie true h).1.hr = false ∧
      (getUnderlyingSink this dwCookie true h).1.ptrs = [sink] := by
  unfold getUnderlyingSink
  rw [if_neg (by simp)]
  cases (fields this h).bind fun p => UnorderedMap.find p.underlyingConnections dwCookie with
  | none => exact Or.inl rfl
  | some sink => exact Or.inr ⟨sink, failed_S_OK, rfl⟩

end HostConnectionPoint

namespace HostEnumConnections

variable (env : Underlying)

theorem replaceFetched_traced {calls : ComHeap → ComHeap → Prop} {h₀ : ComHeap}
    (hvalid : h₀.Valid) (connectionPoint : Nat) (entries : List (DWORD × Nat)) {h : ComHeap}
    {ws : List Nat} (hh : Traced calls false h₀ h (entries.map Prod.snd ++ ws)) :
    Traced calls false h₀ (replaceFetched connectionPoint entries h).2
      ((replaceFetched connectionPoint entries h).1.map Prod.snd ++ ws) := by
  induction entries generalizing h ws with
  | nil => exact hh
  | cons entry rest ih =>
      obtain ⟨dwCookie, pUnk⟩ := entry
      have hsink := hh.trans
        (HostConnectionPoint.getUnderlyingSink_performs calls hh.wf connectionPoint dwCookie
          true).traced
      have hrest {h' : ComHeap} {p : Nat}
          (hh' : Traced calls false h₀ h' (p :: (rest.map Prod.snd ++ ws))) :
          Traced calls false h₀ (replaceFetched connectionPoint rest h').2
            (p :: ((replaceFetched connectionPoint rest h').1.map Prod.snd ++ ws)) :=
        (ih (hh'.perm List.perm_middle.symm)).perm List.perm_middle
      rcases HostConnectionPoint.getUnderlyingSink_cases connectionPoint h dwCookie with
        hptrs | ⟨sink, hsucceeded, hptrs⟩
      · rw [hptrs] at hsink
        simp only [replaceFetched, hptrs, List.head?_nil, List.map_cons]
        exact hrest hsink
      · rw [hptrs] at hsink
        simp only [replaceFetched, hptrs, hsucceeded, List.head?_cons, List.map_cons,
          Bool.false_eq_true, if_false]
        exact hrest ((hsink.perm (List.Perm.swap _ _ _)).release hvalid)

theorem next_performs {h : ComHeap} (hwf : Wf h) (e : HostEnumConnections) (cConnections : DWORD)
    (rgcd pcFetched : Bool) :
    Performs env.Calls false h ((next env e cConnections rgcd pcFetched h).1.1,
      (next env e cConnections rgcd pcFetched h).2) := by
  have hrefl := Traced.refl env.Calls hwf
  unfold next
  by_cases hnull : rgcd = false
  · rw [if_pos hnull]
    exact .fail hrefl E_POINTER
  · by_cases hmany : 1 < cConnections ∧ pcFetched = false
    · rw [if_neg hnull, if_pos hmany]
      exact .fail hrefl E_POINTER
    · rw [if_neg hnull, if_neg hmany]
      cases e.underlying with
      | none => exact .fail hrefl E_UNEXPECTED
      | some u =>
        have hh := hrefl.foreign (env.nextConnections u cConnections)
          (.nextConnections u cConnections)
        have hloop := replaceFetched_traced hwf.valid e.connectionPoint _ hh
        rw [List.append_nil] at hloop
        refine ⟨hloop, fun hfailed => ?_⟩
        have hnone := (env.nextConnections u cConnections).none_of_failed h hfailed
        rw [List.map_eq_nil_iff] at hnone
        simp [hnone, replaceFetched]

theorem connectionPoint_of_holds {this : Nat} {h₀ h : ComHeap} {e : HostEnumConnections}
    {ws : List Nat} (howned : 1 ≤ h₀.owned this) (hobj : h₀.obj? this = some (.enumConnections e))
    (hh : Holds h₀ h ws) : ∃ p, h.obj? e.connectionPoint = some (.connectionPoint p) := by
  obtain ⟨o, ho, hsame⟩ := hh.kept howned hobj
  cases o <;> simp only [ComObject.same] at hsame
  subst hsame
  exact hh.wf.connectionPoint this _ ho

/-- A new enumerator, and no reference to it any more. -/
def cloned (underlying : Option Nat) (connectionPoint : Nat) (h : ComHeap) : ComHeap :=
  ((newProxy env (.enumConnections { underlying := underlying, connectionPoint := connectionPoint })
    h).release h.next).release h.next

theorem cloned_next (underlying : Option Nat) (connectionPoint : Nat) (h : ComHeap) :
    (cloned env underlying connectionPoint h).next = h.next + 1 := by
  unfold cloned Heap.release
  rw [Heap.releaseAll_next, Heap.releaseAll_next]
  exact congrArg (· + 1) rfl

theorem cloned_traced (calls : ComHeap → ComHeap → Prop) {h : ComHeap} {underlying : Option Nat}
    {connectionPoint : Nat} {p : HostConnectionPoint} (hwf : Wf h)
    (hu : ∀ u, underlying = some u → h.Live u)
    (hobj : h.obj? connectionPoint = some (.connectionPoint p)) :
    Traced calls false h (cloned env underlying connectionPoint h) [] ∧
      (cloned env underlying connectionPoint h).cell h.next = none := by
  have hlive : ∀ a ∈ ComObject.refs
      (.enumConnections { underlying := underlying, connectionPoint := connectionPoint }),
      h.Live a := ComObject.live_refs underlying rfl hu hobj
  have hnew := (Traced.refl calls hwf).newProxy env hwf.valid hlive ⟨p, hobj⟩ ⟨rfl, by simp⟩
  have hone := hnew.release hwf.valid
  have hcell : ((newProxy env (.enumConnections
      { underlying := underlying, connectionPoint := connectionPoint }) h).release
        h.next).cell h.next = some ⟨(env.allocate h).1, 1, .enumConnections
          { underlying := underlying, connectionPoint := connectionPoint }⟩ :=
    Heap.release_more (newProxy_cell env _ h) (by simp)
  refine ⟨hone.release hwf.valid, ?_⟩
  exact Heap.release_last hone.wf.valid (hone.gives.owned_of_mem hwf.valid List.mem_cons_self)
    hcell (Nat.le_refl 1)

/-- `Clone` gets to its last line. -/
def Clones (e : HostEnumConnections) (ppEnum : Bool) (h : ComHeap) : Prop :=
  ppEnum = true ∧ ∃ u, e.underlying = some u ∧ failed ((env.cloneConnections u).run h).1.1 = false

theorem clone_performs {h : ComHeap} {e : HostEnumConnections} (hwf : Wf h) {ppEnum : Bool}
    (hclones : ¬ Clones env e ppEnum h) : Performs env.Calls false h (clone env e ppEnum h) := by
  have hrefl := Traced.refl env.Calls hwf
  unfold Clones at hclones
  unfold clone
  by_cases hnull : ppEnum = false
  · rw [if_pos hnull]
    exact .fail hrefl E_POINTER
  · rw [if_neg hnull]
    cases hu : e.underlying with
    | none => exact .fail hrefl E_UNEXPECTED
    | some u =>
      have hfailed : failed ((env.cloneConnections u).run h).1.1 = true := by
        simpa [hnull, hu] using hclones
      rcases hrefl.foreign_cases (env.cloneConnections u) (.cloneConnections u) with
        ⟨-, hh⟩ | ⟨a, -, hok, -⟩
      · simp only [hfailed, if_true]
        exact .fail hh _
      · simp [hfailed] at hok

/-- What is returned on the last line has been destroyed. -/
theorem clone_dangling {this : Nat} {h : ComHeap} {e : HostEnumConnections} (hwf : Wf h)
    (howned : 1 ≤ h.owned this) (hobj : h.obj? this = some (.enumConnections e)) {ppEnum : Bool}
    (hclones : Clones env e ppEnum h) :
    Traced env.Calls false h (clone env e ppEnum h).2 [] ∧
      failed (clone env e ppEnum h).1.hr = false ∧
      ∃ a, (clone env e ppEnum h).1.ptrs = [a] ∧ (clone env e ppEnum h).2.cell a = none := by
  obtain ⟨rfl, u, hu, hok⟩ := hclones
  have hforeign := (Traced.refl env.Calls hwf).foreign_cases (env.cloneConnections u)
    (.cloneConnections u)
  have hpoint {h' : ComHeap} {ws : List Nat} (hh : Holds h h' ws) :=
    connectionPoint_of_holds howned hobj hh
  rcases hrun : (env.cloneConnections u).run h with ⟨⟨hr, underlyingClone⟩, h'⟩
  rw [hrun] at hforeign hok
  have hok' : failed hr = false := hok
  rcases hforeign with ⟨hptr, hh⟩ | ⟨uc, hptr, -, hh⟩
  · obtain rfl : underlyingClone = none := hptr
    have hclone : clone env e true h =
        ({ hr := hr, ptrs := [h'.next] }, cloned env none e.connectionPoint h') := by
      simp [clone, hu, hrun, hok', cloned]
    obtain ⟨p, hp⟩ := hpoint hh.toHolds
    have hnone : ∀ u, (none : Option Nat) = some u → h'.Live u := fun u hu => by simp at hu
    obtain ⟨hcloned, hdead⟩ := cloned_traced env env.Calls hh.wf hnone hp
    rw [hclone]
    exact ⟨hh.trans hcloned, hok', h'.next, rfl, hdead⟩
  · obtain rfl : underlyingClone = some uc := hptr
    have hclone : clone env e true h = scope uc
        ({ hr := hr, ptrs := [h'.next] }, cloned env (some uc) e.connectionPoint h') := by
      simp [clone, hu, hrun, hok', cloned]
    obtain ⟨p, hp⟩ := hpoint hh.toHolds
    have hlive : ∀ u, some uc = some u → h'.Live u :=
      fun u hu => Option.some.inj hu ▸ hh.live hwf.valid List.mem_cons_self
    obtain ⟨hcloned, hdead⟩ := cloned_traced env env.Calls hh.wf hlive hp
    have hboth := hh.trans hcloned
    have hnext : h'.next < (cloned env (some uc) e.connectionPoint h').next := by
      rw [cloned_next]
      exact Nat.lt_succ_self _
    rw [hclone]
    exact ⟨hboth.release hwf.valid, hok', h'.next, rfl,
      Heap.cell_release_eq_none hboth.wf.valid
        (hboth.gives.owned_of_mem hwf.valid List.mem_cons_self) hnext hdead⟩

theorem clone_law_iff {this : Nat} {h : ComHeap} {e : HostEnumConnections} (hwf : Wf h)
    (howned : 1 ≤ h.owned this) (hobj : h.obj? this = some (.enumConnections e)) (ppEnum : Bool) :
    (∃ ws, Traced env.Calls false h (clone env e ppEnum h).2 ws) ∧
      (Law h (clone env e ppEnum h) ↔ ¬ Clones env e ppEnum h) := by
  by_cases hclones : Clones env e ppEnum h
  · obtain ⟨htraced, hok, a, hptrs, -⟩ := clone_dangling env hwf howned hobj hclones
    exact ⟨⟨_, htraced⟩, iff_of_false (not_law_of_dangling htraced.toHolds hok (by simp [hptrs]))
      (not_not.mpr hclones)⟩
  · have hperforms := clone_performs env hwf hclones
    exact ⟨⟨_, hperforms.traced⟩, iff_of_true (hperforms.obeys.law hwf.valid) hclones⟩

end HostEnumConnections

namespace HostEnumConnectionPoints

variable (env : Underlying)

theorem clone_performs {this : Nat} {h : ComHeap} {e : HostEnumConnectionPoints} (hwf : Wf h)
    (howned : 1 ≤ h.owned this) (hobj : h.obj? this = some (.enumConnectionPoints e))
    (ppEnum : Bool) : Performs env.Calls false h (clone env e ppEnum h) := by
  have hrefl := Traced.refl env.Calls hwf
  have hvalid := hwf.valid
  unfold clone
  split_ifs with hnull
  · exact .fail hrefl E_POINTER
  · cases e.underlying with
    | none => exact .fail hrefl E_UNEXPECTED
    | some u =>
      dsimp only
      rcases hrefl.foreign_cases (env.cloneConnectionPoints u) (.cloneConnectionPoints u) with
        ⟨hptr, hh⟩ | ⟨uc, hptr, hok, hh⟩
      · split_ifs
        · exact .fail hh _
        · simp only [hptr]
          exact .fail hh E_UNEXPECTED
      · simp only [hok, hptr, Bool.false_eq_true, if_false]
        obtain ⟨c, hcontainer⟩ := stays_of_enum howned hobj _ _ hh.toHolds
        exact .scope hvalid hh (HostConnectionPointContainer.enumerator_performs env hh.wf
          (hh.live hvalid List.mem_cons_self) hcontainer hok)

/-- `QueryInterface` for `IUnknown` on a fetched element succeeds and gives a pointer. -/
def Identified (cp : Nat) (h : ComHeap) : Prop :=
  failed ((env.queryUnknown cp).run (h.addRef cp)).1.1 = false ∧
    ((env.queryUnknown cp).run (h.addRef cp)).1.2.isSome

/-- It does for each element, when the loop gets to it. -/
def AllIdentified (container : Nat) : List Nat → ComHeap → Prop
  | [], _ => True
  | cp :: rest, h =>
    Identified env cp h ∧ AllIdentified container rest (replaceOne env container cp h).2

/-- A round of the loop makes a proxy for the fetched element. -/
def replaceOneMakes (container cp : Nat) (h : ComHeap) : Bool :=
  let h := h.addRef cp
  let ((_, underlying), h) := (env.queryUnknown cp).run h
  underlying.isSome &&
    HostConnectionPointContainer.getProxyConnectionPointMakes env container underlying true h

/-- A round does, of those that the loop gets to. -/
def replaceFetchedMakes (container : Nat) : List Nat → ComHeap → Bool
  | [], _ => false
  | cp :: rest, h =>
    match replaceOne env container cp h with
    | (.error _, _) => replaceOneMakes env container cp h
    | (.ok _, h') => replaceOneMakes env container cp h || replaceFetchedMakes container rest h'

/-- One round of the loop swaps a reference for another, or leaves it in the array and ends
the loop with a failure. -/
theorem replaceOne_cases {makes : Bool} {h₀ h : ComHeap} (hvalid : h₀.Valid) {container cp : Nat}
    {ws : List Nat} (hh : Traced env.Calls makes h₀ h (cp :: ws)) (hstays : Stays container h₀) :
    (Identified env cp h ∧ ∃ proxy, (replaceOne env container cp h).1 = .ok proxy ∧
      Traced env.Calls (makes || replaceOneMakes env container cp h) h₀
        (replaceOne env container cp h).2 (proxy :: ws)) ∨
    (¬ Identified env cp h ∧ ∃ qry, (replaceOne env container cp h).1 = .error qry ∧
      failed qry = true ∧ Traced env.Calls (makes || replaceOneMakes env container cp h) h₀
        (replaceOne env container cp h).2 (cp :: ws)) := by
  have hadd := hh.addRef (hh.live hvalid List.mem_cons_self)
  unfold Identified replaceOne replaceOneMakes
  rcases hadd.foreign_cases (env.queryUnknown cp) (.queryUnknown cp) with
    ⟨hptr, hq⟩ | ⟨unk, hptr, hok, hq⟩
  · simp only [hptr, Option.isSome_none, Bool.false_and, Bool.or_false]
    refine Or.inr ⟨by simp, ?_⟩
    cases hfailed : failed ((env.queryUnknown cp).run (h.addRef cp)).1.1 with
    | true =>
        rw [if_pos rfl]
        exact ⟨_, rfl, hfailed, hq.release hvalid⟩
    | false =>
        rw [if_neg (by simp)]
        exact ⟨_, rfl, by decide, hq.release hvalid⟩
  · refine Or.inl ⟨⟨hok, by simp [hptr]⟩, ?_⟩
    have hstays' := hstays.of_holds hq.toHolds
    have hproxy := hq.trans (HostConnectionPointContainer.getProxyConnectionPoint_performs env hq.wf
      hstays' (some unk) true).traced
    simp only [hok, hptr, Bool.false_eq_true, if_false, Option.isSome_some, Bool.true_and]
    rcases HostConnectionPointContainer.getProxyConnectionPoint_cases env container
      ((env.queryUnknown cp).run (h.addRef cp)).2 (some unk) true with
      ⟨-, hptrs⟩ | ⟨proxy, hsucceeded, hptrs⟩
    · rw [hptrs] at hproxy
      simp only [hptrs, List.head?_nil]
      exact ⟨cp, rfl, (hproxy.release hvalid).release hvalid⟩
    · rw [hptrs] at hproxy
      simp only [hptrs, hsucceeded, List.head?_cons, Bool.false_eq_true, if_false]
      -- the array's reference, then those of `underlying` and `underlyingConcrete`
      have hfirst : ([proxy, unk] ++ cp :: cp :: ws).Perm (cp :: ([proxy, unk] ++ cp :: ws)) :=
        List.perm_middle
      have hsecond : ([proxy] ++ unk :: cp :: ws).Perm (unk :: ([proxy] ++ cp :: ws)) :=
        List.perm_middle
      have hthird : ([proxy] ++ cp :: ws).Perm (cp :: ([proxy] ++ ws)) := List.perm_middle
      exact ⟨proxy, rfl, (((hproxy.perm hfirst).release hvalid).perm hsecond |>.release hvalid
        |>.perm hthird).release hvalid⟩

/-- The loop swaps references one for one, and ends early exactly when an element is not
identified. -/
theorem replaceFetched_cases {makes : Bool} {h₀ : ComHeap} (hvalid : h₀.Valid) {container : Nat}
    (hstays : Stays container h₀) (cps : List Nat) {h : ComHeap} {ws : List Nat}
    (hh : Traced env.Calls makes h₀ h (cps ++ ws)) :
    Traced env.Calls (makes || replaceFetchedMakes env container cps h) h₀
        (replaceFetched env container cps h).2
        ((replaceFetched env container cps h).1.2 ++ ws) ∧
      (AllIdentified env container cps h ∧ (replaceFetched env container cps h).1.1 = none ∨
        ¬ AllIdentified env container cps h ∧ (replaceFetched env container cps h).1.2 ≠ [] ∧
          ∃ qry, (replaceFetched env container cps h).1.1 = some qry ∧ failed qry = true) := by
  induction cps generalizing makes h ws with
  | nil =>
      unfold replaceFetchedMakes
      rw [Bool.or_false]
      exact ⟨hh, Or.inl ⟨trivial, rfl⟩⟩
  | cons cp rest ih =>
      rcases replaceOne_cases env hvalid hh hstays with
        ⟨hid, proxy, hone, hholds⟩ | ⟨hid, qry, hone, hfailed, hholds⟩
      · unfold replaceFetched replaceFetchedMakes AllIdentified
        rcases hr : replaceOne env container cp h with ⟨r, h'⟩
        rw [hr] at hone hholds
        obtain rfl : r = .ok proxy := hone
        obtain ⟨hrest, hcases⟩ := ih (hholds.perm List.perm_middle.symm)
        rw [Bool.or_assoc] at hrest
        refine ⟨hrest.perm List.perm_middle, ?_⟩
        rcases hcases with ⟨hall, hnone⟩ | ⟨hall, -, qry, hqry, hfailed⟩
        · exact Or.inl ⟨⟨hid, hall⟩, hnone⟩
        · exact Or.inr ⟨fun hboth => hall hboth.2, by simp, qry, hqry, hfailed⟩
      · unfold replaceFetched replaceFetchedMakes AllIdentified
        rcases hr : replaceOne env container cp h with ⟨r, h'⟩
        rw [hr] at hone hholds
        obtain rfl : r = .error qry := hone
        exact ⟨hholds, Or.inr ⟨fun hall => hid hall.1, by simp, qry, rfl, hfailed⟩⟩

/-- `Next` gets to its loop. -/
def fetches (e : HostEnumConnectionPoints) (cConnections : DWORD) (ppCP pcFetched : Bool) :
    Option Nat :=
  if ppCP = false ∨ 1 < cConnections ∧ pcFetched = false then none else e.underlying

/-- Each element that `Next` fetches is identified. -/
def NextIdentified (e : HostEnumConnectionPoints) (cConnections : DWORD) (ppCP pcFetched : Bool)
    (h : ComHeap) : Prop :=
  ∀ u, fetches e cConnections ppCP pcFetched = some u →
    AllIdentified env e.container ((env.nextConnectionPoints u cConnections).run h).1.2
      ((env.nextConnectionPoints u cConnections).run h).2

/-- A proxy is made while `Next` runs. -/
def nextMakes (e : HostEnumConnectionPoints) (cConnections : DWORD) (ppCP pcFetched : Bool)
    (h : ComHeap) : Bool :=
  match fetches e cConnections ppCP pcFetched with
  | none => false
  | some u =>
    let ((_, cps), h) := (env.nextConnectionPoints u cConnections).run h
    replaceFetchedMakes env e.container cps h

theorem skip_performs {h : ComHeap} (hwf : Wf h) (e : HostEnumConnectionPoints)
    (cConnections : DWORD) : Performs env.Calls false h (skip env e cConnections h) := by
  have hrefl := Traced.refl env.Calls hwf
  unfold skip
  cases e.underlying with
  | none => exact .fail hrefl E_UNEXPECTED
  | some u =>
    exact .fail (hrefl.foreign (env.skipConnectionPoints u cConnections)
      (.skipConnectionPoints u cConnections)) _

theorem reset_performs {h : ComHeap} (hwf : Wf h) (e : HostEnumConnectionPoints) :
    Performs env.Calls false h (reset env e h) := by
  have hrefl := Traced.refl env.Calls hwf
  unfold reset
  cases e.underlying with
  | none => exact .fail hrefl E_UNEXPECTED
  | some u =>
    exact .fail (hrefl.foreign (env.resetConnectionPoints u) (.resetConnectionPoints u)) _

theorem next_of_none {e : HostEnumConnectionPoints} {cConnections : DWORD} {ppCP pcFetched : Bool}
    (hnone : fetches e cConnections ppCP pcFetched = none) (h : ComHeap) :
    ∃ hr, next env e cConnections ppCP pcFetched h = ({ hr := hr }, h) := by
  unfold next
  by_cases hnull : ppCP = false
  · rw [if_pos hnull]
    exact ⟨E_POINTER, rfl⟩
  · by_cases hmany : 1 < cConnections ∧ pcFetched = false
    · rw [if_neg hnull, if_pos hmany]
      exact ⟨E_POINTER, rfl⟩
    · have hunderlying : e.underlying = none :=
        (if_neg (not_or.mpr ⟨hnull, hmany⟩)).symm.trans hnone
      rw [if_neg hnull, if_neg hmany, hunderlying]
      exact ⟨E_UNEXPECTED, rfl⟩

theorem underlying_of_fetches {e : HostEnumConnectionPoints} {cConnections : DWORD}
    {ppCP pcFetched : Bool} {u : Nat} (hu : fetches e cConnections ppCP pcFetched = some u) :
    e.underlying = some u := (Option.ite_none_left_eq_some.mp hu).2

theorem next_of_some {e : HostEnumConnectionPoints} {cConnections : DWORD} {ppCP pcFetched : Bool}
    {u : Nat} (hu : fetches e cConnections ppCP pcFetched = some u) (h : ComHeap) :
    next env e cConnections ppCP pcFetched h =
      let ((hr, cps), h) := (env.nextConnectionPoints u cConnections).run h
      let fetched := if pcFetched then some cps.length else none
      let ((qry, cps), h) := replaceFetched env e.container cps h
      ({ hr := qry.getD hr, ptrs := cps, fetched := fetched }, h) := by
  obtain ⟨hnull, hmany⟩ := not_or.mp (Option.ite_none_left_eq_some.mp hu).1
  unfold next
  rw [if_neg hnull, if_neg hmany, underlying_of_fetches hu]

theorem next_law_iff {this : Nat} {h : ComHeap} {e : HostEnumConnectionPoints} (hwf : Wf h)
    (howned : 1 ≤ h.owned this) (hobj : h.obj? this = some (.enumConnectionPoints e))
    (cConnections : DWORD) (ppCP pcFetched : Bool) :
    (∃ ws, Traced env.Calls (nextMakes env e cConnections ppCP pcFetched h) h
      (next env e cConnections ppCP pcFetched h).2 ws) ∧
      (Law h (next env e cConnections ppCP pcFetched h) ↔
        NextIdentified env e cConnections ppCP pcFetched h) := by
  have hrefl := Traced.refl env.Calls hwf
  have hvalid := hwf.valid
  unfold nextMakes NextIdentified
  cases hfetches : fetches e cConnections ppCP pcFetched with
  | none =>
      obtain ⟨hr, hnext⟩ := next_of_none env hfetches h
      rw [hnext]
      exact ⟨⟨_, hrefl⟩, iff_of_true ((Performs.fail hrefl hr).obeys.law hvalid)
        fun u hu => by simp at hu⟩
  | some u =>
      have hh := hrefl.foreign (env.nextConnectionPoints u cConnections)
        (.nextConnectionPoints u cConnections)
      have hempty := (env.nextConnectionPoints u cConnections).none_of_failed h
      simp only [Option.some.injEq, forall_eq']
      rw [next_of_some env hfetches]
      rcases hrun : (env.nextConnectionPoints u cConnections).run h with ⟨⟨hr, cps⟩, h'⟩
      rw [hrun] at hh hempty
      obtain ⟨htraced, hcases⟩ :=
        replaceFetched_cases env hvalid (stays_of_enum howned hobj) cps hh
      rw [List.append_nil] at htraced
      have hholds := htraced.toHolds
      simp only [hrun]
      refine ⟨⟨_, htraced⟩, ?_⟩
      rcases hcases with ⟨hall, hnone⟩ | ⟨hall, hne, qry, hqry, hfailed⟩
      · refine iff_of_true (Obeys.law hvalid ⟨hholds, fun hfailed => ?_⟩) hall
        rw [hnone] at hfailed
        obtain rfl : cps = [] := hempty hfailed
        rfl
      · refine iff_of_false (not_law_of_leak hholds ?_ hne) hall
        rw [hqry]
        exact hfailed

end HostEnumConnectionPoints

end Axhost
