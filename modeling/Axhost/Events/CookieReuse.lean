import Axhost.Events.Advise
import Axhost.Lib.Transition

/-!
# The maps of a connection point whose cookies come back

`connection_point.cc`.  `HostConnectionPoint` keeps a proxy and a client's sink for each cookie
that the underlying connection point has given it.  That one may drop a connection without a word
and give its cookie out again, while `emplace` leaves an entry that is there alone.

* `AdvisedPoint.exact_iff`: in a run the maps have what the last `Advise` under each cookie put
  there, exactly when no cookie comes back before it has been unadvised;
* `HostConnectionPoint.fields_advise`, `HostConnectionPoint.fields_unadvise`: the methods do that to
  the fields on the heap.
-/

namespace Axhost

open RefHeap Transition

namespace HostConnectionPoint

/-- `Advise` on the fields, with the `HostEventSink` it makes, and the result and the cookie of the
underlying connection point. -/
def adviseFields (p : HostConnectionPoint) (pUnkSink : Option Nat) (pdwCookie : Bool) (proxy : Nat)
    (hr : HRESULT) (dwCookie : DWORD) : HRESULT × HostConnectionPoint :=
  match pUnkSink with
  | none => (E_INVALIDARG, p)
  | some sink =>
    if pdwCookie = false then (E_INVALIDARG, p)
    else if failed hr then (hr, p)
    else (hr,
      { p with
        connections := UnorderedMap.emplace p.connections dwCookie proxy
        underlyingConnections := UnorderedMap.emplace p.underlyingConnections dwCookie sink })

/-- `Unadvise` on the fields, with the result of the underlying connection point. -/
def unadviseFields (p : HostConnectionPoint) (dwCookie : DWORD) (hr : HRESULT) :
    HRESULT × HostConnectionPoint :=
  if failed hr then (hr, p)
  else (hr,
    { p with
      connections := UnorderedMap.erase p.connections dwCookie
      underlyingConnections := UnorderedMap.erase p.underlyingConnections dwCookie })

/-- `GetUnderlyingSink` on the fields. -/
def underlyingSink (p : HostConnectionPoint) (dwCookie : DWORD) (ppUnk : Bool) :
    HRESULT × Option Nat :=
  if ppUnk = false then (E_POINTER, none)
  else match UnorderedMap.find p.underlyingConnections dwCookie with
    | none => (E_UNEXPECTED, none)
    | some underlying => (S_OK, some underlying)

/-- Whether `Advise` gets to a cookie. -/
def Advises (pUnkSink : Option Nat) (pdwCookie : Bool) (hr : HRESULT) : Prop :=
  pUnkSink.isSome = true ∧ pdwCookie = true ∧ failed hr = false

instance (pUnkSink : Option Nat) (pdwCookie : Bool) (hr : HRESULT) :
    Decidable (Advises pUnkSink pdwCookie hr) := inferInstanceAs (Decidable (_ ∧ _))

theorem adviseFields_of_not {pUnkSink : Option Nat} {pdwCookie : Bool} {hr : HRESULT}
    (h : ¬ Advises pUnkSink pdwCookie hr) (p : HostConnectionPoint) (proxy : Nat)
    (dwCookie : DWORD) : (p.adviseFields pUnkSink pdwCookie proxy hr dwCookie).2 = p := by
  unfold adviseFields
  unfold Advises at h
  grind

theorem adviseFields_of_advises {sink : Nat} {pdwCookie : Bool} {hr : HRESULT}
    (h : Advises (some sink) pdwCookie hr) (p : HostConnectionPoint) (proxy : Nat)
    (dwCookie : DWORD) : (p.adviseFields (some sink) pdwCookie proxy hr dwCookie).2 =
      { p with
        connections := UnorderedMap.emplace p.connections dwCookie proxy
        underlyingConnections := UnorderedMap.emplace p.underlyingConnections dwCookie sink } := by
  obtain ⟨-, rfl, hok⟩ := h
  simp [adviseFields, hok]

theorem underlyingSink_eq_iff (p : HostConnectionPoint) (dwCookie : DWORD) (sink : Nat) :
    p.underlyingSink dwCookie true = (S_OK, some sink) ↔
      UnorderedMap.find p.underlyingConnections dwCookie = some sink := by
  unfold underlyingSink
  cases UnorderedMap.find p.underlyingConnections dwCookie with
  | none => simp
  | some underlying => simp

end HostConnectionPoint

/-- A connection point with what it stands for.  `held` are the cookies of the underlying one's
connections, `next` is the `HostEventSink` that is made next, and `promised` has for each cookie
the sink and the proxy of the last successful `Advise`, until it is unadvised. -/
structure AdvisedPoint where
  point : HostConnectionPoint
  held : List DWORD := []
  next : Nat := 0
  promised : List (DWORD × Nat × Nat) := []
deriving DecidableEq, Repr

inductive AdviseStep
  | advise (pUnkSink : Option Nat) (pdwCookie : Bool) (hr : HRESULT) (dwCookie : DWORD)
  | unadvise (dwCookie : DWORD) (hr : HRESULT)
  | drop (dwCookie : DWORD)
deriving DecidableEq, Repr

namespace AdvisedPoint

open HostConnectionPoint

/-- The underlying connection point gives out a cookie that it does not hold. -/
def step (s : AdvisedPoint) : AdviseStep → Option AdvisedPoint
  | .advise pUnkSink pdwCookie hr dwCookie =>
    let point := (s.point.adviseFields pUnkSink pdwCookie s.next hr dwCookie).2
    match pUnkSink with
    | none => some { s with point := point }
    | some sink =>
      if Advises pUnkSink pdwCookie hr then
        if dwCookie ∈ s.held then none
        else some
          { point := point
            held := dwCookie :: s.held
            next := s.next + 1
            promised := (dwCookie, sink, s.next) :: UnorderedMap.erase s.promised dwCookie }
      else some { s with point := point, next := s.next + 1 }
  | .unadvise dwCookie hr =>
    let point := (s.point.unadviseFields dwCookie hr).2
    if failed hr then some { s with point := point }
    else some
      { s with
        point := point
        held := s.held.erase dwCookie
        promised := UnorderedMap.erase s.promised dwCookie }
  | .drop dwCookie => some { s with held := s.held.erase dwCookie }

def system : System AdvisedPoint AdviseStep where
  init s := ∃ underlying container, s = { point := ⟨underlying, container, [], []⟩ }
  step := step

/-- The maps have what was promised, and the same keys. -/
structure Exact (s : AdvisedPoint) : Prop where
  promised : ∀ dwCookie sink proxy, UnorderedMap.find s.promised dwCookie = some (sink, proxy) →
    s.point.underlyingSink dwCookie true = (S_OK, some sink) ∧
      UnorderedMap.find s.point.connections dwCookie = some proxy
  keys : ∀ dwCookie, (UnorderedMap.find s.point.connections dwCookie).isSome =
    (UnorderedMap.find s.point.underlyingConnections dwCookie).isSome

/-- A cookie that an `Advise` is given is not in the map. -/
def FreshCookie (s : AdvisedPoint) : AdviseStep → Prop
  | .advise pUnkSink pdwCookie hr dwCookie =>
    Advises pUnkSink pdwCookie hr → UnorderedMap.find s.point.connections dwCookie = none
  | _ => True

/-- The maps have the same keys, and proxies that have been made. -/
structure Inv (s : AdvisedPoint) : Prop where
  keys : ∀ dwCookie, (UnorderedMap.find s.point.connections dwCookie).isSome =
    (UnorderedMap.find s.point.underlyingConnections dwCookie).isSome
  made : ∀ dwCookie proxy, UnorderedMap.find s.point.connections dwCookie = some proxy →
    proxy < s.next

theorem init_inv (underlying container : Nat) :
    Inv { point := ⟨underlying, container, [], []⟩ } :=
  ⟨fun _ => rfl, fun _ _ h => by simp [UnorderedMap.find] at h⟩

theorem init_exact (underlying container : Nat) :
    Exact { point := ⟨underlying, container, [], []⟩ } :=
  ⟨fun _ _ _ h => by simp [UnorderedMap.find] at h, fun _ => rfl⟩

/-- A step gives a cookie to an `Advise`, takes one away, or leaves the maps alone. -/
inductive Change (s t : AdvisedPoint) : AdviseStep → Prop
  | advises (sink : Nat) (pdwCookie : Bool) (hr : HRESULT) (dwCookie : DWORD)
      (hadvises : Advises (some sink) pdwCookie hr)
      (hpoint : t.point = { s.point with
        connections := UnorderedMap.emplace s.point.connections dwCookie s.next
        underlyingConnections :=
          UnorderedMap.emplace s.point.underlyingConnections dwCookie sink })
      (hnext : t.next = s.next + 1)
      (hpromised : t.promised = (dwCookie, sink, s.next) ::
        UnorderedMap.erase s.promised dwCookie) :
      Change s t (.advise (some sink) pdwCookie hr dwCookie)
  | unadvises (dwCookie : DWORD) (hr : HRESULT)
      (hpoint : t.point = { s.point with
        connections := UnorderedMap.erase s.point.connections dwCookie
        underlyingConnections := UnorderedMap.erase s.point.underlyingConnections dwCookie })
      (hnext : t.next = s.next)
      (hpromised : t.promised = UnorderedMap.erase s.promised dwCookie) :
      Change s t (.unadvise dwCookie hr)
  | keeps (a : AdviseStep) (hfresh : s.FreshCookie a) (hpoint : t.point = s.point)
      (hnext : s.next ≤ t.next) (hpromised : t.promised = s.promised) : Change s t a

theorem step_cases {s t : AdvisedPoint} {a : AdviseStep} (h : s.step a = some t) :
    Change s t a := by
  cases a with
  | advise pUnkSink pdwCookie hr dwCookie =>
      by_cases hadvises : Advises pUnkSink pdwCookie hr
      · obtain ⟨sink, rfl⟩ := Option.isSome_iff_exists.mp hadvises.1
        simp only [step, if_pos hadvises, Option.ite_none_left_eq_some, Option.some.injEq] at h
        obtain ⟨-, rfl⟩ := h
        exact .advises sink pdwCookie hr dwCookie hadvises
          (adviseFields_of_advises hadvises _ _ _) rfl rfl
      · have hpoint := adviseFields_of_not hadvises s.point s.next dwCookie
        have hfresh : s.FreshCookie (.advise pUnkSink pdwCookie hr dwCookie) :=
          fun h => absurd h hadvises
        cases pUnkSink with
        | none =>
            obtain rfl := Option.some.inj h
            exact .keeps _ hfresh hpoint (Nat.le_refl _) rfl
        | some sink =>
            simp only [step, if_neg hadvises, Option.some.injEq] at h
            obtain rfl := h
            exact .keeps _ hfresh hpoint (Nat.le_succ _) rfl
  | unadvise dwCookie hr =>
      rw [step] at h
      split_ifs at h with hfailed
      · obtain rfl := Option.some.inj h
        exact .keeps _ trivial (by simp [unadviseFields, hfailed]) (Nat.le_refl _) rfl
      · obtain rfl := Option.some.inj h
        exact .unadvises dwCookie hr (by simp [unadviseFields, hfailed]) rfl rfl
  | drop dwCookie =>
      obtain rfl := Option.some.inj h
      exact .keeps _ trivial rfl (Nat.le_refl _) rfl

theorem step_inv {s t : AdvisedPoint} {a : AdviseStep} (hinv : Inv s) (h : s.step a = some t) :
    Inv t := by
  cases step_cases h with
  | advises sink pdwCookie hr dwCookie hadvises hpoint hnext hpromised =>
      refine ⟨fun d => ?_, fun d proxy hproxy => ?_⟩
      · simp only [hpoint, UnorderedMap.isSome_find_emplace, hinv.keys]
      · rw [hpoint, UnorderedMap.find_emplace] at hproxy
        rw [hnext]
        split_ifs at hproxy
        · obtain rfl := Option.some.inj hproxy
          exact Nat.lt_succ_self _
        · exact Nat.lt_succ_of_lt (hinv.made d proxy hproxy)
  | unadvises dwCookie hr hpoint hnext hpromised =>
      refine ⟨fun d => ?_, fun d proxy hproxy => ?_⟩
      · simp only [hpoint, UnorderedMap.isSome_find_erase, hinv.keys]
      · rw [hpoint, UnorderedMap.find_erase] at hproxy
        rw [hnext]
        split_ifs at hproxy
        exact hinv.made d proxy hproxy
  | keeps _ hfresh hpoint hnext hpromised =>
      exact ⟨fun d => hpoint ▸ hinv.keys d, fun d proxy hproxy =>
        (hinv.made d proxy (hpoint ▸ hproxy)).trans_le hnext⟩

theorem step_exact_iff {s t : AdvisedPoint} {a : AdviseStep} (hinv : Inv s) (hexact : Exact s)
    (h : s.step a = some t) : Exact t ↔ s.FreshCookie a := by
  have hkeys := (step_inv hinv h).keys
  cases step_cases h with
  | advises sink pdwCookie hr dwCookie hadvises hpoint hnext hpromised =>
      constructor
      · intro hexact' _
        have hnew := (hexact'.promised dwCookie sink s.next (by
          rw [hpromised, UnorderedMap.find_cons, if_pos rfl])).2
        rw [hpoint, UnorderedMap.find_emplace] at hnew
        split_ifs at hnew with hnone
        · exact hnone.2
        · -- the entry that was there is of a proxy made before
          exact absurd (hinv.made dwCookie s.next hnew) (Nat.lt_irrefl _)
      · intro hfresh
        have hnone := hfresh hadvises
        have hnone' : UnorderedMap.find s.point.underlyingConnections dwCookie = none := by
          have hsome := hinv.keys dwCookie
          rw [hnone] at hsome
          simpa using hsome.symm
        refine ⟨fun d sink' proxy hd => ?_, hkeys⟩
        rw [underlyingSink_eq_iff, hpoint, UnorderedMap.find_emplace, UnorderedMap.find_emplace]
        rw [hpromised, UnorderedMap.find_cons, UnorderedMap.find_erase] at hd
        by_cases hcookie : d = dwCookie
        · rw [if_pos hcookie] at hd
          obtain ⟨rfl, rfl⟩ := Prod.mk.inj (Option.some.inj hd)
          exact ⟨if_pos ⟨hcookie, hnone'⟩, if_pos ⟨hcookie, hnone⟩⟩
        · rw [if_neg hcookie, if_neg hcookie] at hd
          rw [if_neg fun h => hcookie h.1, if_neg fun h => hcookie h.1]
          exact (hexact.promised d sink' proxy hd).imp_left (underlyingSink_eq_iff _ _ _).mp
  | unadvises dwCookie hr hpoint hnext hpromised =>
      refine iff_of_true ⟨fun d sink proxy hd => ?_, hkeys⟩ trivial
      rw [hpromised, UnorderedMap.find_erase] at hd
      split_ifs at hd with hcookie
      rw [underlyingSink_eq_iff, hpoint, UnorderedMap.find_erase, UnorderedMap.find_erase,
        if_neg hcookie, if_neg hcookie]
      exact (hexact.promised d sink proxy hd).imp_left (underlyingSink_eq_iff _ _ _).mp
  | keeps _ hfresh hpoint hnext hpromised =>
      refine iff_of_true ⟨fun d sink proxy hd => ?_, hkeys⟩ hfresh
      rw [hpoint]
      exact hexact.promised d sink proxy (hpromised ▸ hd)

/-- In every state of a run each cookie that has been advised finds its own sink and proxy, and
the two maps have the same keys, exactly when no `Advise` is given a cookie that is still there. -/
theorem exact_iff (underlying container : Nat) {last : AdvisedPoint}
    {trace : List (AdvisedPoint × AdviseStep)}
    (hrun : system.Run { point := ⟨underlying, container, [], []⟩ } trace last) :
    (∀ s ∈ System.visited trace last, Exact s) ↔ ∀ v ∈ trace, v.1.FreshCookie v.2 :=
  hrun.visited_iff (I := Inv) (P := Exact) (C := FreshCookie)
    (fun _ _ _ hI hstep => step_inv hI hstep)
    (fun _ _ _ hI hP hstep => step_exact_iff hI hP hstep)
    (init_inv underlying container) (init_exact underlying container)

/-- The first sink is advised under the cookie 1 and dropped, and the second is given the cookie. -/
def reusedCookie : List (AdvisedPoint × AdviseStep) :=
  [({ point := ⟨0, 0, [], []⟩ }, .advise (some 10) true S_OK 1),
    ({ point := ⟨0, 0, [(1, 0)], [(1, 10)]⟩, held := [1], next := 1, promised := [(1, 10, 0)] },
      .drop 1),
    ({ point := ⟨0, 0, [(1, 0)], [(1, 10)]⟩, next := 1, promised := [(1, 10, 0)] },
      .advise (some 20) true S_OK 1)]

/-- The maps still have the first sink. -/
def keptFirst : AdvisedPoint where
  point := ⟨0, 0, [(1, 0)], [(1, 10)]⟩
  held := [1]
  next := 2
  promised := [(1, 20, 1)]

theorem run_reusedCookie :
    system.Run { point := ⟨0, 0, [], []⟩ } reusedCookie keptFirst :=
  .cons rfl (.cons rfl (.cons rfl (.nil _)))

theorem exact_iff_reusedCookie :
    (∀ s ∈ System.visited reusedCookie keptFirst, Exact s) ↔
      ∀ v ∈ reusedCookie, v.1.FreshCookie v.2 :=
  exact_iff 0 0 run_reusedCookie

/-- `GetUnderlyingSink` returns the first client's sink under the second client's cookie. -/
theorem not_exact_reusedCookie :
    ¬ ∀ (underlying container : Nat) (last : AdvisedPoint)
      (trace : List (AdvisedPoint × AdviseStep)),
      system.Run { point := ⟨underlying, container, [], []⟩ } trace last →
        ∀ s ∈ System.visited trace last, Exact s := by
  intro hall
  have hexact := hall 0 0 _ _ run_reusedCookie keptFirst (by simp [System.visited])
  have hsink := (hexact.promised 1 20 1 rfl).1
  exact absurd hsink (by decide)

end AdvisedPoint

/-! ## The same on the heap -/

/-- The calls to the outside leave the fields of a connection point alone: they do not call it. -/
def EventSource.Leaves (source : EventSource) (this : Nat) : Prop :=
  ∀ h h', source.Calls h h' → HostConnectionPoint.fields this h' = HostConnectionPoint.fields this h

theorem foldl_release_obj? {h : ComHeap} (given : List Nat) {a : Nat} {o : ComObject}
    (ho : (given.foldl Heap.release h).obj? a = some o) : h.obj? a = some o := by
  induction given generalizing h with
  | nil => exact ho
  | cons b given ih => exact Heap.releaseAll_obj? (ih ho)

theorem fields_releases {h : ComHeap} (given : List Nat) {this : Nat}
    (hlive : (given.foldl Heap.release h).Live this) :
    HostConnectionPoint.fields this (given.foldl Heap.release h) =
      HostConnectionPoint.fields this h := by
  obtain ⟨o, ho⟩ := Heap.live_iff.mp hlive
  rw [HostConnectionPoint.fields, HostConnectionPoint.fields, ho, foldl_release_obj? given ho]

namespace ConnectionMap

theorem fields_emplace (map : ConnectionMap) (this : Nat) (dwCookie : DWORD) (a : Nat)
    (h : ComHeap) :
    HostConnectionPoint.fields this (map.emplace this dwCookie a h) =
      (HostConnectionPoint.fields this h).map fun p =>
        map.setEntries p (UnorderedMap.emplace (map.entries p) dwCookie a) := by
  unfold emplace
  cases hfields : HostConnectionPoint.fields this h with
  | none => simpa using hfields
  | some p =>
      dsimp only
      split_ifs with hfind
      · have hsame : UnorderedMap.emplace (map.entries p) dwCookie a = map.entries p :=
          if_pos hfind
        have hentries : map.setEntries p (map.entries p) = p := by cases map <;> rfl
        rw [hfields, Option.map_some, hsame, hentries]
      · have hlive : (h.addRef a).Live this :=
          Heap.addRef_live a (Heap.live_iff.mpr ⟨_, obj?_of_fields hfields⟩)
        rw [HostConnectionPoint.fields, Heap.setObj_obj? hlive, if_pos rfl]
        rfl

theorem fields_erase (map : ConnectionMap) {this : Nat} {dwCookie : DWORD} {h : ComHeap}
    (hlive : (map.erase this dwCookie h).Live this) :
    HostConnectionPoint.fields this (map.erase this dwCookie h) =
      (HostConnectionPoint.fields this h).map fun p =>
        map.setEntries p (UnorderedMap.erase (map.entries p) dwCookie) := by
  unfold erase at hlive ⊢
  cases hfields : HostConnectionPoint.fields this h with
  | none => simpa using hfields
  | some p =>
      simp only [hfields] at hlive
      dsimp only
      rw [fields_releases _ hlive, HostConnectionPoint.fields,
        Heap.setObj_obj? (Heap.live_iff.mpr ⟨_, obj?_of_fields hfields⟩), if_pos rfl]
      rfl

end ConnectionMap

section Heap

variable {source : EventSource} {this : Nat} {makes : Bool} {h₀ h : ComHeap} {ws : List Nat}

theorem HostEventSink.fields_createGlobalSink (hleaves : source.Leaves this) (pUnkSink : Nat)
    (hh : Traced source.Effects makes h₀ h ws) (hvalid : h₀.Valid) (hthis : 1 ≤ h₀.owned this) :
    HostConnectionPoint.fields this (createGlobalSink source pUnkSink h).2 =
      HostConnectionPoint.fields this h := by
  have hlive := (createGlobalSink_traced pUnkSink hh hvalid).live_of_owned hthis
  have hquery := hleaves h _ (.queryDispatch pUnkSink)
  unfold createGlobalSink at hlive ⊢
  dsimp only at hlive ⊢
  split
  · exact hquery
  · next sink hsink =>
    simp only [hsink] at hlive
    exact (fields_releases [sink] hlive).trans
      ((hleaves _ _ (.registerInterfaceInGlobal sink)).trans hquery)

theorem HostEventSink.fields_make (hleaves : source.Leaves this) {underlying : Nat}
    (hh : Traced source.Effects makes h₀ h ws) (hvalid : h₀.Valid) (hthis : 1 ≤ h₀.owned this)
    (howned : 1 ≤ h₀.owned underlying) :
    HostConnectionPoint.fields this (make source underlying h).2 =
      HostConnectionPoint.fields this h := by
  have hlive := (make_traced hh hvalid howned).live_of_owned hthis
  have hdispatch := hh.foreign (source.queryDispatch underlying)
    (.call (.queryDispatch underlying))
  have hmiddle := (fields_traced underlying hh hvalid).live_of_owned hthis
  have hfields : HostConnectionPoint.fields this (fields source underlying h).2 =
      HostConnectionPoint.fields this h :=
    (fields_createGlobalSink hleaves underlying hdispatch hvalid hthis).trans
      (hleaves _ _ (.queryDispatch underlying))
  unfold make at hlive ⊢
  generalize fields source underlying h = r at hlive hmiddle hfields ⊢
  obtain ⟨held, h'⟩ := r
  obtain ⟨o, ho⟩ := Heap.live_iff.mp hmiddle
  have hne : this ≠ h'.next := (lt_next_of_obj? ho).ne
  rw [fields_releases held hlive, ← hfields, HostConnectionPoint.fields,
    HostConnectionPoint.fields, newProxy_obj?_of_ne _ _ hne]

end Heap

namespace HostConnectionPoint

/-- `Advise` on the heap does to the fields what `adviseFields` does, with the sink it makes and
the answer of the underlying connection point. -/
theorem fields_advise {source : EventSource} {this : Nat} (hleaves : source.Leaves this)
    {h : ComHeap} (hwf : Wf h) (hthis : 1 ≤ h.owned this) {p : HostConnectionPoint}
    (hp : fields this h = some p) {sink : Nat} (hsink : 1 ≤ h.owned sink) :
    fields this (advise source this p (some sink) true h).2 =
      some (p.adviseFields (some sink) true (HostEventSink.make source sink h).1
        ((source.advise p.underlying (HostEventSink.make source sink h).1).run
          (HostEventSink.make source sink h).2).1.1
        ((source.advise p.underlying (HostEventSink.make source sink h).1).run
          (HostEventSink.make source sink h).2).1.2).2 := by
  have hrefl := Traced.refl source.Effects hwf
  have hadvised : Traced source.Effects false h (advise source this p (some sink) true h).2 [] :=
    advise_traced source hwf p (by simpa using hsink) true
  have hlive := hadvised.live_of_owned hthis
  have hmake := HostEventSink.fields_make hleaves hrefl hwf.valid hthis hsink
  unfold advise at hlive ⊢
  cases hr : HostEventSink.make source sink h with
  | mk proxy h₁ =>
      have hadvise := hleaves h₁ _ (.advise p.underlying proxy)
      rw [hr] at hmake
      simp only [hr, Bool.true_eq_false, if_false] at hlive ⊢
      refine (fields_releases [proxy, proxy] hlive).trans ?_
      simp only [adviseFields, Bool.true_eq_false, if_false]
      split_ifs
      · rw [hadvise, hmake, hp]
      · rw [ConnectionMap.fields_emplace, ConnectionMap.fields_emplace, hadvise, hmake, hp]
        rfl

theorem fields_unadvise {source : EventSource} {this : Nat} (hleaves : source.Leaves this)
    {h : ComHeap} (hwf : Wf h) (hthis : 1 ≤ h.owned this) {p : HostConnectionPoint}
    (hp : fields this h = some p) (dwCookie : DWORD) :
    fields this (unadvise source this p dwCookie h).2 =
      some (p.unadviseFields dwCookie ((source.unadvise p.underlying dwCookie).run h).1.1).2 := by
  have hcall := (Traced.refl source.Effects hwf).foreign (source.unadvise p.underlying dwCookie)
    (.call (.unadvise p.underlying dwCookie))
  have hunadvise := hleaves h _ (.unadvise p.underlying dwCookie)
  have hone := ConnectionMap.erase_traced .connections this dwCookie hcall hwf.valid
  have htwo := ConnectionMap.erase_traced .underlyingConnections this dwCookie hone hwf.valid
  unfold unadvise unadviseFields
  dsimp only
  split_ifs
  · rw [hunadvise, hp]
  · rw [ConnectionMap.fields_erase _ (htwo.live_of_owned hthis),
      ConnectionMap.fields_erase _ (hone.live_of_owned hthis), hunadvise, hp]
    rfl

end HostConnectionPoint

end Axhost
