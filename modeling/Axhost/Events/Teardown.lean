import Axhost.Events.Advise
import Axhost.Lib.RefCycle
import Mathlib.Logic.Relation

/-!
# What is left of the proxies in the end

A container refers to the connection points in its map, and each of these refers to the
container.  Nothing ever takes an entry out of the map, so that with the first connection point
that is made both stay for good, also when the `HostContainer` and all clients have released
what they had.

* `Trace.tied` and `Trace.clean` say what a sequence of actions leads to when it makes a
  connection point, and when it makes none;
* `EventAction.tornDown_iff`: in the end of a run the proxies are gone exactly when none of its
  steps made a connection point.
-/

namespace Axhost

open RefHeap Transition

/-! ## The code of others -/

/-- One action of the control or of a client: it copies a reference or releases one, makes an
object, or changes what one of its objects refers to.  The fields of a proxy it does not
touch. -/
inductive Outside : ComHeap → ComHeap → Prop
  | addRef {h : ComHeap} {a : Nat} (hlive : h.Live a) : Outside h (h.addRef a)
  | release {h : ComHeap} {a : Nat} (howned : 1 ≤ h.owned a) : Outside h (h.release a)
  | create {h : ComHeap} {refs : List Nat} (x : h.FreeAddress) (hlive : ∀ a ∈ refs, h.Live a) :
      Outside h ((h.new x (.other refs)).addRef h.next)
  | change {h : ComHeap} {a : Nat} {refs refs' : List Nat} (hobj : h.obj? a = some (.other refs))
      (howned : ∀ b, (refs'.count b : Int) ≤ refs.count b + h.owned b) :
      Outside h (h.setObj a (.other refs'))

/-- Any number of them. -/
def Others : ComHeap → ComHeap → Prop := Relation.ReflTransGen Outside

theorem Outside.wf {h h' : ComHeap} (houtside : Outside h h') (hwf : Wf h) : Wf h' := by
  cases houtside with
  | addRef hlive => exact ((Holds.refl hwf).addRef hlive).wf
  | release howned => exact wf_release hwf howned
  | @create refs x hlive =>
      have hnew := (Holds.refl hwf).new x (o := .other refs) hlive trivial
      exact (hnew.addRef (Heap.live_iff.mpr ⟨_, by rw [Heap.new_obj?, if_pos rfl]⟩)).wf
  | @change a refs refs' hobj howned =>
      refine hwf.setObj hobj ?_ (by simp) (by simp) fun p hp => by simp at hp
      rw [Heap.valid_iff]
      intro b
      have hb := howned b
      have hset := Heap.owned_setObj hobj (.other refs') b
      simp only [Object.refs, ComObject.refs] at hset
      omega

/-! ## Properties that actions keep -/

structure Kept (calls : ComHeap → ComHeap → Prop) (P : ComHeap → Prop) : Prop where
  addRef : ∀ {h : ComHeap} {a : Nat}, Wf h → h.Live a → P h → P (h.addRef a)
  release : ∀ {h : ComHeap} {a : Nat}, Wf h → 1 ≤ h.owned a → P h → P (h.release a)
  call : ∀ {h h' : ComHeap}, Wf h → calls h h' → P h → P h'
  create : ∀ {h : ComHeap} {o : ComObject} (x : h.FreeAddress), (∀ a ∈ o.refs, h.Live a) →
    (o.proxy = true ∧ ∀ p, o ≠ .connectionPoint p) → P h →
      P (((h.new x o).addRef h.next).addRef h.next)
  maps : ∀ {h : ComHeap} {a : Nat} {p p' : HostConnectionPoint},
    h.obj? a = some (.connectionPoint p) → p'.container = p.container → P h →
      P (h.setObj a (.connectionPoint p'))

namespace Kept

variable {calls : ComHeap → ComHeap → Prop} {P : ComHeap → Prop}

theorem act (hkept : Kept calls P) {h h' : ComHeap} (hwf : Wf h) (hact : Act calls h h')
    (hP : P h) : P h' := by
  cases hact with
  | addRef hlive => exact hkept.addRef hwf hlive hP
  | release howned => exact hkept.release hwf howned hP
  | call hcall => exact hkept.call hwf hcall hP
  | create x hlive _ hkind => exact hkept.create x hlive hkind hP
  | maps hobj _ hcontainer => exact hkept.maps hobj hcontainer hP

/-- A sequence of actions keeps it, when making connection points does or none is made. -/
theorem trace (hkept : Kept calls P) {h₀ h : ComHeap} {makes : Bool}
    (htrace : Trace calls h₀ makes h)
    (hlink : makes = true → ∀ env this key u (c : _) (h : ComHeap),
      h.obj? this = some (.connectionPointContainer c) → P h → P (linkProxy env this key u h))
    (hP : P h₀) : P h := by
  induction htrace with
  | refl => exact hP
  | act _ hwf hact ih => exact hkept.act hwf hact (ih hlink)
  | link env _ hthis _ ih => exact hlink rfl _ _ _ _ _ _ hthis (ih fun _ => hlink rfl)

theorem others (houtside : ∀ {h h' : ComHeap}, Wf h → Outside h h' → P h → P h')
    {h h' : ComHeap} (hwf : Wf h) (hothers : Others h h') (hP : P h) : P h' := by
  have hboth : Wf h' ∧ P h' := by
    induction hothers with
    | refl => exact ⟨hwf, hP⟩
    | tail _ hstep ih => exact ⟨hstep.wf ih.1, houtside ih.1 hstep ih.2⟩
  exact hboth.2

end Kept

/-! ## A connection point in the map -/

/-- The container at `t` has the connection point at `p` in its map. -/
def Tied (t p : Nat) (h : ComHeap) : Prop :=
  ∃ c k cp, h.obj? t = some (.connectionPointContainer c) ∧ (k, p) ∈ c.proxyConnectionPoints ∧
    h.obj? p = some (.connectionPoint cp) ∧ cp.container = t

namespace Tied

variable {t p : Nat} {h : ComHeap}

theorem knot (htied : Tied t p h) : Knot h {t, p} := by
  obtain ⟨c, k, cp, hc, hentry, hp, hcontainer⟩ := htied
  intro a ha
  rcases ha with rfl | rfl
  · exact ⟨p, by simp, _, hp, by simp [Object.refs, ComObject.refs, hcontainer]⟩
  · exact ⟨t, by simp, _, hc, List.mem_append_right _ (List.mem_map_of_mem hentry)⟩

theorem lt_next (htied : Tied t p h) : t < h.next ∧ p < h.next := by
  obtain ⟨c, k, cp, hc, -, hp, -⟩ := htied
  exact ⟨lt_next_of_obj? hc, lt_next_of_obj? hp⟩

theorem congr {h' : ComHeap} (htied : Tied t p h) (ht : h'.obj? t = h.obj? t)
    (hp : h'.obj? p = h.obj? p) : Tied t p h' := by
  obtain ⟨c, k, cp, hc, hentry, hcp, hcontainer⟩ := htied
  exact ⟨c, k, cp, ht.trans hc, hentry, hp.trans hcp, hcontainer⟩

theorem addRef (htied : Tied t p h) (a : Nat) : Tied t p (h.addRef a) :=
  htied.congr (Heap.addRef_obj? h a t) (Heap.addRef_obj? h a p)

theorem release (htied : Tied t p h) (hwf : Wf h) {a : Nat} (howned : 1 ≤ h.owned a) :
    Tied t p (h.release a) := by
  have hsame := htied.knot.release_obj? hwf.valid howned
  exact htied.congr (hsame t (by simp)) (hsame p (by simp))

theorem create (htied : Tied t p h) (x : h.FreeAddress) (o : ComObject) :
    Tied t p (((h.new x o).addRef h.next).addRef h.next) :=
  htied.congr (made_obj?_of_ne x o htied.lt_next.1.ne) (made_obj?_of_ne x o htied.lt_next.2.ne)

theorem outside {h' : ComHeap} (hwf : Wf h) (houtside : Outside h h') (htied : Tied t p h) :
    Tied t p h' := by
  cases houtside with
  | addRef hlive => exact htied.addRef _
  | release howned => exact htied.release hwf howned
  | create x hlive =>
      refine htied.congr ?_ ?_
      · rw [Heap.addRef_obj?, Heap.new_obj?, if_neg htied.lt_next.1.ne]
      · rw [Heap.addRef_obj?, Heap.new_obj?, if_neg htied.lt_next.2.ne]
  | change hobj howned =>
      have hset := Heap.setObj_obj? (Heap.live_iff.mpr ⟨_, hobj⟩)
      obtain ⟨c, k, cp, hc, -, hp, -⟩ := id htied
      refine htied.congr ?_ ?_
      · rw [hset, if_neg]
        rintro rfl
        simp [hobj] at hc
      · rw [hset, if_neg]
        rintro rfl
        simp [hobj] at hp

theorem maps (htied : Tied t p h) {a : Nat} {q q' : HostConnectionPoint}
    (hobj : h.obj? a = some (.connectionPoint q)) (hsame : q'.container = q.container) :
    Tied t p (h.setObj a (.connectionPoint q')) := by
  have hset := Heap.setObj_obj? (Heap.live_iff.mpr ⟨_, hobj⟩) (.connectionPoint q')
  obtain ⟨c, k, cp, hc, hentry, hp, hcontainer⟩ := htied
  have hc' : (h.setObj a (.connectionPoint q')).obj? t = some (.connectionPointContainer c) := by
    rw [hset, if_neg, hc]
    rintro rfl
    simp [hobj] at hc
  by_cases hpa : p = a
  · subst hpa
    obtain rfl : q = cp := by simpa [hobj] using hp
    exact ⟨c, k, q', hc', hentry, by rw [hset, if_pos rfl], hsame.trans hcontainer⟩
  · exact ⟨c, k, cp, hc', hentry, by rw [hset, if_neg hpa, hp], hcontainer⟩

open HostConnectionPointContainer in
/-- The map of a container takes in an entry and loses none. -/
theorem emplaceProxy (htied : Tied t p h) (this key a : Nat) :
    Tied t p (emplaceProxy this key a h) := by
  obtain ⟨c, k, cp, hc, hentry, hp, hcontainer⟩ := htied
  have hp' := emplaceProxy_obj? hp this key a
  by_cases hthis : this = t
  · subst hthis
    unfold HostConnectionPointContainer.emplaceProxy at hp' ⊢
    simp only [hc] at hp' ⊢
    split_ifs at hp' ⊢ with hfind
    · exact ⟨c, k, cp, hc, hentry, hp', hcontainer⟩
    · refine ⟨{ c with proxyConnectionPoints := (key, a) :: c.proxyConnectionPoints }, k, cp, ?_,
        List.mem_cons_of_mem _ hentry, hp', hcontainer⟩
      rw [Heap.setObj_obj? (Heap.addRef_live a (Heap.live_iff.mpr ⟨_, hc⟩)), if_pos rfl,
        UnorderedMap.emplace, if_neg hfind]
  · refine ⟨c, k, cp, ?_, hentry, hp', hcontainer⟩
    unfold HostConnectionPointContainer.emplaceProxy
    split
    · next c' hobj =>
      split_ifs
      · exact hc
      · rw [Heap.setObj_obj? (Heap.addRef_live a (Heap.live_iff.mpr ⟨_, hobj⟩)),
          if_neg (Ne.symm hthis), Heap.addRef_obj?, hc]
    · exact hc

theorem kept (t p : Nat) : Kept Others (Tied t p) where
  addRef _ _ htied := htied.addRef _
  release hwf howned htied := htied.release hwf howned
  call hwf hcall htied := Kept.others outside hwf hcall htied
  create x _ _ htied := htied.create x _
  maps hobj hcontainer htied := htied.maps hobj hcontainer

theorem linkProxy (htied : Tied t p h) (env : Underlying) (this key u : Nat) :
    Tied t p (linkProxy env this key u h) :=
  (htied.create (env.allocate h) _).emplaceProxy this key h.next

end Tied

open HostConnectionPointContainer in
/-- The connection point that is made is in the map, or another one was under its key. -/
theorem tied_linkProxy {h : ComHeap} {env : Underlying} {this key u : Nat}
    {c : HostConnectionPointContainer} (hthis : h.obj? this = some (.connectionPointContainer c))
    (hwf : Wf (linkProxy env this key u h)) : ∃ p, Tied this p (linkProxy env this key u h) := by
  have hobj : (newProxy env (.connectionPoint { underlying := u, container := this }) h).obj? this =
      some (.connectionPointContainer c) :=
    (newProxy_obj?_of_ne env _ (lt_next_of_obj? hthis).ne).trans hthis
  have hentry : ∃ c' k p, (linkProxy env this key u h).obj? this =
      some (.connectionPointContainer c') ∧ (k, p) ∈ c'.proxyConnectionPoints := by
    unfold linkProxy emplaceProxy
    simp only [hobj]
    cases hfind : UnorderedMap.find c.proxyConnectionPoints key with
    | some q =>
        simp only [Option.isSome_some, if_true]
        exact ⟨c, key, q, hobj, UnorderedMap.mem_of_find hfind⟩
    | none =>
        simp only [Option.isSome_none, Bool.false_eq_true, if_false, UnorderedMap.emplace, hfind]
        rw [Heap.setObj_obj? (Heap.addRef_live _ (Heap.live_iff.mpr ⟨_, hobj⟩)), if_pos rfl]
        exact ⟨_, key, h.next, rfl, List.mem_cons_self⟩
  obtain ⟨c', k, p, hc', hmem⟩ := hentry
  obtain ⟨cp, hcp, hcontainer⟩ := hwf.proxies this c' hc' _ hmem
  exact ⟨p, c', k, cp, hc', hmem, hcp, hcontainer⟩

/-- Once a connection point is made, it and its container stay. -/
theorem Trace.tied {h₀ h : ComHeap} {makes : Bool} (htrace : Trace Others h₀ makes h)
    (hmakes : makes = true) : ∃ t p, Tied t p h := by
  induction htrace with
  | refl => simp at hmakes
  | act _ hwf hact ih =>
      obtain ⟨t, p, htied⟩ := ih hmakes
      exact ⟨t, p, (Tied.kept t p).act hwf hact htied⟩
  | link env _ hthis hwf _ => exact ⟨_, tied_linkProxy hthis hwf⟩

/-! ## No connection point -/

/-- There is no connection point, and each proxy is there because of a reference and refers to
objects that are older than it is. -/
structure Clean (h : ComHeap) : Prop where
  counted : Counted (fun o : ComObject => o.proxy = true) h
  noPoint : ∀ a p, h.obj? a ≠ some (.connectionPoint p)
  older : ∀ a o, h.obj? a = some o → o.proxy = true → ∀ b ∈ o.refs, b < a

namespace Clean

variable {h h' : ComHeap}

theorem empty : Clean Heap.empty := by
  have hnone (a : Nat) : (Heap.empty : ComHeap).obj? a = none := rfl
  refine ⟨fun a c hc => ?_, fun a p => by simp [hnone], fun a o ho => ?_⟩
  · simp [Heap.empty] at hc
  · simp [hnone] at ho

theorem of_kept (hclean : Clean h) (hcounted : Counted (fun o : ComObject => o.proxy = true) h')
    (hkept : ∀ {a o}, h'.obj? a = some o → h.obj? a = some o) : Clean h' :=
  ⟨hcounted, fun a p hp => hclean.noPoint a p (hkept hp),
    fun a o ho => hclean.older a o (hkept ho)⟩

theorem addRef (hclean : Clean h) (a : Nat) : Clean (h.addRef a) :=
  hclean.of_kept (hclean.counted.addRef a) fun {b o} ho => by rwa [Heap.addRef_obj?] at ho

theorem release (hclean : Clean h) (a : Nat) : Clean (h.release a) :=
  hclean.of_kept (Counted.releaseAll h [a] hclean.counted) Heap.releaseAll_obj?

theorem new (hclean : Clean h) (x : h.FreeAddress) {o : ComObject}
    (hlive : ∀ a ∈ o.refs, h.Live a) (hkind : ∀ p, o ≠ .connectionPoint p) :
    Clean ((h.new x o).addRef h.next) := by
  have hcases {a : Nat} {q : ComObject} (hq : ((h.new x o).addRef h.next).obj? a = some q) :
      (a = h.next ∧ o = q) ∨ h.obj? a = some q := by
    rw [Heap.addRef_obj?, Heap.new_obj?] at hq
    split_ifs at hq with ha
    · exact Or.inl ⟨ha, Option.some.inj hq⟩
    · exact Or.inr hq
  refine ⟨hclean.counted.new_addRef x o, fun a p hp => ?_, fun a q hq hproxy b hb => ?_⟩
  · rcases hcases hp with ⟨-, hnew⟩ | hold
    · exact hkind p hnew
    · exact hclean.noPoint a p hold
  · rcases hcases hq with ⟨rfl, rfl⟩ | hold
    · obtain ⟨o', ho'⟩ := Heap.live_iff.mp (hlive b hb)
      exact lt_next_of_obj? ho'
    · exact hclean.older a q hold hproxy b hb

theorem outside (houtside : Outside h h') (hclean : Clean h) : Clean h' := by
  cases houtside with
  | addRef hlive => exact hclean.addRef _
  | release howned => exact hclean.release _
  | create x hlive => exact hclean.new x hlive (by simp)
  | @change a refs refs' hobj howned =>
      have hset := Heap.setObj_obj? (Heap.live_iff.mpr ⟨_, hobj⟩) (.other refs')
      have hkeep {b : Nat} {q : ComObject} (hne : q ≠ .other refs')
          (hq : (h.setObj a (.other refs')).obj? b = some q) : h.obj? b = some q := by
        rw [hset] at hq
        split_ifs at hq
        · exact absurd (Option.some.inj hq).symm hne
        · exact hq
      refine ⟨hclean.counted.setObj hobj (by simp [ComObject.proxy]), fun b p hp => ?_,
        fun b q hq hproxy => ?_⟩
      · exact hclean.noPoint b p (hkeep (by simp) hp)
      · have hne : q ≠ .other refs' := by
          rintro rfl
          simp [ComObject.proxy] at hproxy
        exact hclean.older b q (hkeep hne hq) hproxy

theorem kept : Kept Others Clean where
  addRef _ _ hclean := hclean.addRef _
  release _ _ hclean := hclean.release _
  call hwf hcall hclean := Kept.others (fun _ => outside) hwf hcall hclean
  create x hlive hkind hclean := (hclean.new x hlive hkind.2).addRef _
  maps hobj _ hclean := absurd hobj (hclean.noPoint _ _)

end Clean

theorem Trace.clean {h₀ h : ComHeap} (htrace : Trace Others h₀ false h) (hclean : Clean h₀) :
    Clean h :=
  Clean.kept.trace htrace (fun hmakes => by simp at hmakes) hclean

/-! ## The end -/

/-- Clients and the `HostContainer` have released the proxies: nobody owns a reference to one,
and only proxies refer to them. -/
def Released (h : ComHeap) : Prop :=
  ∀ a o, h.obj? a = some o → o.proxy = true →
    h.owned a = 0 ∧ ∀ b refs, h.obj? b = some (.other refs) → a ∉ refs

/-- What containers and connection points refer to. -/
def pointRefs : Option (Cell ComObject) → List Nat
  | some ⟨_, _, .connectionPointContainer c⟩ => ComObject.refs (.connectionPointContainer c)
  | some ⟨_, _, .connectionPoint p⟩ => ComObject.refs (.connectionPoint p)
  | _ => []

/-- The containers and the connection points are gone, and none of the references that they
held is left. -/
structure TornDown (h : ComHeap) : Prop where
  container : ∀ a c, h.obj? a ≠ some (.connectionPointContainer c)
  connectionPoint : ∀ a p, h.obj? a ≠ some (.connectionPoint p)
  references : ∀ u, (h.weight fun c => (pointRefs c).count u) = 0

theorem TornDown.of_gone {h : ComHeap} (hcontainer : ∀ a c, h.obj? a ≠ some
    (.connectionPointContainer c)) (hpoint : ∀ a p, h.obj? a ≠ some (.connectionPoint p)) :
    TornDown h := by
  refine ⟨hcontainer, hpoint, fun u => Finset.sum_eq_zero fun b _ => ?_⟩
  have hnone : pointRefs (h.cell b) = [] := by
    unfold pointRefs
    split
    · next c hcell => exact absurd (by rw [Heap.obj?, hcell, Option.map_some]) (hcontainer b c)
    · next p hcell => exact absurd (by rw [Heap.obj?, hcell, Option.map_some]) (hpoint b p)
    · rfl
  show (pointRefs (h.cell b)).count u = 0
  rw [hnone, List.count_nil]

theorem Clean.tornDown {h : ComHeap} (hclean : Clean h) (hreleased : Released h) : TornDown h := by
  have hgone := hclean.counted.not_mem_of_descending
    (fun a o ho hproxy => (hreleased a o ho hproxy).1.le) ?_
  · exact .of_gone (fun a c hc => hgone a _ hc rfl) fun a p hp => hgone a _ hp rfl
  · intro a o ho hproxy b o' hb hmem
    have hproxy' : o'.proxy = true := by
      cases o' with
      | other refs => exact absurd hmem ((hreleased a o ho hproxy).2 b refs hb)
      | _ => rfl
    exact ⟨hproxy', hclean.older b o' hb hproxy' a hmem⟩

theorem Tied.not_tornDown {t p : Nat} {h : ComHeap} (htied : Tied t p h) : ¬ TornDown h := by
  obtain ⟨c, k, cp, hc, -⟩ := htied
  intro htorn
  exact htorn.container t c hc

/-! ## Runs -/

/-- The control and the clients act on the heap by actions of their own. -/
def ClientAction.Abides : ClientAction → Prop
  | foreign f => ∀ h, Wf h → Others h (f.run h).2
  | _ => True

/-- So do they from inside a call: they do not call the proxies back. -/
def EventSource.Abides (source : EventSource) : Prop :=
  ∀ h h', Wf h → source.Calls h h' → Others h h'

/-- What happens between a host, its clients and the control. -/
inductive EventAction
  | client (a : ClientAction) (habides : a.Abides)
  | advise (this : Nat) (pUnkSink : Option Nat) (pdwCookie : Bool)
  | unadvise (this : Nat) (dwCookie : DWORD)

namespace EventAction

variable (source : EventSource)

def step (h : ComHeap) : EventAction → Option ComHeap
  | client a _ => a.step source.toUnderlying h
  | advise this pUnkSink pdwCookie =>
    if 1 ≤ h.owned this ∧ ∀ a ∈ pUnkSink, 1 ≤ h.owned a then
      (HostConnectionPoint.fields this h).map fun p =>
        (HostConnectionPoint.advise source this p pUnkSink pdwCookie h).2
    else none
  | unadvise this dwCookie =>
    if 1 ≤ h.owned this then
      (HostConnectionPoint.fields this h).map fun p =>
        (HostConnectionPoint.unadvise source this p dwCookie h).2
    else none

/-- A process starts without objects. -/
def events : System ComHeap EventAction where
  init h := h = Heap.empty
  step := step source

/-- The action makes a connection point: a call finds one of the control's that is not in the
map yet. -/
def makes (h : ComHeap) : EventAction → Bool
  | client (.call this call) _ => call.makes source.toUnderlying this h
  | _ => false

variable {source}

theorem others_of_effects (habides : source.Abides) {h h' : ComHeap} (hwf : Wf h)
    (heffects : source.Effects h h') : Others h h' := by
  cases heffects with
  | call hcall => exact habides h h' hwf hcall
  | @sink refs x hlive =>
      have hmade : ((h.new x (.other refs)).addRef h.next).Live h.next :=
        Heap.live_iff.mpr ⟨_, by rw [Heap.addRef_obj?, Heap.new_obj?, if_pos rfl]⟩
      exact .tail (.single (.create x hlive)) (.addRef hmade)

theorem trace_effects (habides : source.Abides) {makes : Bool} {h h' : ComHeap} {ws : List Nat}
    (hh : Traced source.Effects makes h h' ws) : Trace Others h makes h' ∧ Wf h' :=
  ⟨hh.trace.mono fun _ _ => others_of_effects habides, hh.wf⟩

theorem client_trace (habides : source.Abides) {h h' : ComHeap} {a : ClientAction}
    (ha : a.Abides) (hwf : Wf h) (hstep : a.step source.toUnderlying h = some h') :
    Trace Others h ((client a ha).makes source h) h' ∧ Wf h' := by
  cases a with
  | call this c =>
      rw [ClientAction.step] at hstep
      split_ifs at hstep with howned
      obtain ⟨r, hrun, rfl⟩ := Option.map_eq_some_iff.mp hstep
      obtain ⟨⟨ws, htraced⟩, -⟩ := ProxyCall.run_spec source.toUnderlying hwf howned hrun
      refine ⟨htraced.trace.mono fun h₁ h₂ hwf₁ hcall => ?_, htraced.wf⟩
      exact habides h₁ h₂ hwf₁ (.underlying hcall)
  | addRef a =>
      rw [ClientAction.step] at hstep
      split_ifs at hstep with howned
      obtain rfl := Option.some.inj hstep
      have hlive := Gives.live_of_owned howned
      exact ⟨.act .refl hwf (.addRef hlive), ((Holds.refl hwf).addRef hlive).wf⟩
  | release a =>
      rw [ClientAction.step] at hstep
      split_ifs at hstep with howned
      obtain rfl := Option.some.inj hstep
      exact ⟨.act .refl hwf (.release howned), wf_release hwf howned⟩
  | container underlying =>
      rw [ClientAction.step] at hstep
      split_ifs at hstep with howned
      obtain rfl := Option.some.inj hstep
      have htraced := newContainer_traced Others source.toUnderlying hwf howned
      exact ⟨htraced.trace, htraced.wf⟩
  | foreign f =>
      obtain rfl := Option.some.inj hstep
      exact ⟨.act .refl hwf (.call (ha h hwf)), f.wf h hwf⟩

theorem step_trace (habides : source.Abides) {h h' : ComHeap} {a : EventAction} (hwf : Wf h)
    (hstep : step source h a = some h') : Trace Others h (a.makes source h) h' ∧ Wf h' := by
  cases a with
  | client a ha => exact client_trace habides ha hwf hstep
  | advise this pUnkSink pdwCookie =>
      rw [step] at hstep
      split_ifs at hstep with howned
      obtain ⟨p, -, rfl⟩ := Option.map_eq_some_iff.mp hstep
      exact trace_effects habides
        (HostConnectionPoint.advise_traced source hwf p howned.2 pdwCookie)
  | unadvise this dwCookie =>
      rw [step] at hstep
      split_ifs at hstep with howned
      obtain ⟨p, -, rfl⟩ := Option.map_eq_some_iff.mp hstep
      exact trace_effects habides (HostConnectionPoint.unadvise_traced source hwf this p dwCookie)

theorem run_trace (habides : source.Abides) {h h' : ComHeap} {trace : List (ComHeap × EventAction)}
    (hrun : (events source).Run h trace h') (hwf : Wf h) :
    Trace Others h (trace.any fun v => v.2.makes source v.1) h' ∧ Wf h' := by
  induction hrun with
  | nil h => exact ⟨.refl, hwf⟩
  | cons hstep _ ih =>
      obtain ⟨hfirst, hwf'⟩ := step_trace habides hwf hstep
      obtain ⟨hrest, hwf''⟩ := ih hwf'
      exact ⟨hfirst.trans hrest, hwf''⟩

/-- When the proxies have been released in the end, they are gone exactly if no connection point
was made. -/
theorem tornDown_iff (habides : source.Abides) {h : ComHeap}
    {trace : List (ComHeap × EventAction)} (hrun : (events source).Run Heap.empty trace h)
    (hreleased : Released h) : TornDown h ↔ ∀ v ∈ trace, v.2.makes source v.1 = false := by
  obtain ⟨htrace, -⟩ := run_trace habides hrun wf_empty
  constructor
  · intro htorn v hv
    by_contra hmakes
    have hany : (trace.any fun v => v.2.makes source v.1) = true :=
      List.any_eq_true.mpr ⟨v, hv, by simpa using hmakes⟩
    obtain ⟨t, p, htied⟩ := htrace.tied hany
    exact htied.not_tornDown htorn
  · intro hnone
    have hany : (trace.any fun v => v.2.makes source v.1) = false :=
      List.any_eq_false.mpr fun v hv => by simp [hnone v hv]
    rw [hany] at htrace
    exact (htrace.clean .empty).tornDown hreleased

end EventAction

/-! ## A client that asks for one connection point -/

namespace ForeignCall

variable {ρ : Type} {ptrs : ρ → List Nat}

theorem refuse_others (nothing : ρ) (hnothing : ptrs nothing = []) (h : ComHeap) :
    Others h ((refuse nothing hnothing).run h).2 := .refl

theorem create_others (wrap : Nat → ρ) (hwrap : ∀ a, ptrs (wrap a) = [a]) (h : ComHeap) :
    Others h ((create wrap hwrap).run h).2 :=
  .single (.create h.freeAddress fun a ha => by simp at ha)

theorem give_others (a : Nat) (h : ComHeap) : Others h ((give a).run h).2 := by
  unfold give
  dsimp only
  split_ifs with hlive
  · exact .single (.addRef (Heap.live_iff.mpr (Option.isSome_iff_exists.mp hlive)))
  · exact .refl

/-- It hands out the object while that is there. -/
theorem give_ptr {a : Nat} {h : ComHeap} {o : ComObject} (hobj : h.obj? a = some o) :
    (give a).run h = ((S_OK, some a), h.addRef a) := by
  simp [give, hobj]

end ForeignCall

def sampleSource : EventSource where
  toUnderlying := sampleControl
  queryDispatch := .give
  registerInterfaceInGlobal := .give
  advise _ _ := .silent 0
  unadvise _ _ := .silent ()

theorem sampleControl_others {h h' : ComHeap} (hcall : sampleControl.Calls h h') : Others h h' := by
  cases hcall with
  | queryUnknown a => exact ForeignCall.give_others a h
  | queryConnectionPoint a => exact ForeignCall.give_others a h
  | skipConnectionPoints => exact ForeignCall.refuse_others () rfl h
  | resetConnectionPoints => exact ForeignCall.refuse_others () rfl h
  | nextConnections => exact ForeignCall.refuse_others [] rfl h
  | nextConnectionPoints =>
      exact @ForeignCall.create_others _ id (fun a => [a]) (fun _ => rfl) h
  | _ => exact ForeignCall.create_others some (fun _ => rfl) h

theorem sampleSource_abides : sampleSource.Abides := by
  intro h h' _ hcall
  cases hcall with
  | underlying hcall => exact sampleControl_others hcall
  | queryDispatch a => exact ForeignCall.give_others a h
  | registerInterfaceInGlobal a => exact ForeignCall.give_others a h
  | advise => exact ForeignCall.refuse_others 0 rfl h
  | unadvise => exact ForeignCall.refuse_others () rfl h

/-- The objects of others refer to nothing. -/
def Plain (h : ComHeap) : Prop := ∀ a refs, h.obj? a = some (.other refs) → refs = []

theorem Plain.kept : Kept sampleControl.Calls Plain where
  addRef _ _ hplain a refs ha := hplain a refs (by rwa [Heap.addRef_obj?] at ha)
  release _ _ hplain a refs ha := hplain a refs (Heap.releaseAll_obj? ha)
  call := by
    intro h h' _ hcall hplain
    have hgive (a : Nat) : Plain ((ForeignCall.give a).run h).2 := by
      intro b refs hb
      unfold ForeignCall.give at hb
      dsimp only at hb
      split_ifs at hb
      · exact hplain b refs (by rwa [Heap.addRef_obj?] at hb)
      · exact hplain b refs hb
    have hcreate : Plain ((h.new h.freeAddress (.other [])).addRef h.next) := by
      intro b refs hb
      rw [Heap.addRef_obj?, Heap.new_obj?] at hb
      split_ifs at hb
      · simpa using hb.symm
      · exact hplain b refs hb
    cases hcall with
    | queryUnknown a => exact hgive a
    | queryConnectionPoint a => exact hgive a
    | skipConnectionPoints => exact hplain
    | resetConnectionPoints => exact hplain
    | nextConnections => exact hplain
    | _ => exact hcreate
  create := by
    intro h o x _ hkind hplain a refs ha
    by_cases hne : a = h.next
    · rw [hne, Heap.addRef_obj?, Heap.addRef_obj?, Heap.new_obj?, if_pos rfl] at ha
      obtain rfl := Option.some.inj ha
      simp [ComObject.proxy] at hkind
    · exact hplain a refs (by rwa [made_obj?_of_ne x o hne] at ha)
  maps := by
    intro h a p p' hobj _ hplain b refs hb
    rw [Heap.setObj_obj? (Heap.live_iff.mpr ⟨_, hobj⟩)] at hb
    split_ifs at hb
    · simp at hb
    · exact hplain b refs hb

open HostConnectionPointContainer in
theorem Plain.linkProxy {h : ComHeap} (hplain : Plain h) (env : Underlying) (this key u : Nat) :
    Plain (linkProxy env this key u h) := by
  have hnew : Plain (newProxy env (.connectionPoint { underlying := u, container := this }) h) := by
    intro a refs ha
    by_cases hne : a = h.next
    · rw [hne, newProxy_obj?] at ha
      simp at ha
    · exact hplain a refs (by rwa [newProxy_obj?_of_ne env _ hne] at ha)
  intro a refs ha
  unfold Axhost.linkProxy emplaceProxy at ha
  split at ha
  · next c hobj =>
    split_ifs at ha
    · exact hnew a refs ha
    · rw [Heap.setObj_obj? (Heap.addRef_live _ (Heap.live_iff.mpr ⟨_, hobj⟩))] at ha
      split_ifs at ha
      · simp at ha
      · exact hnew a refs (by rwa [Heap.addRef_obj?] at ha)
  · exact hnew a refs ha

theorem Plain.trace {h₀ h : ComHeap} {makes : Bool}
    (htrace : Trace sampleControl.Calls h₀ makes h) (hplain : Plain h₀) : Plain h :=
  Plain.kept.trace htrace (fun _ env this key u _ _ _ hold => hold.linkProxy env this key u) hplain

namespace EventAction

theorem find_makes {env : Underlying} {this u cp unk : Nat} {riid : IID}
    {c : HostConnectionPointContainer} {h : ComHeap} (hu : c.underlying = some u)
    (hfound : ((env.findConnectionPoint u riid).run h).1 = (S_OK, some cp))
    (hunk : ((env.queryUnknown cp).run ((env.findConnectionPoint u riid).run h).2).1 =
      (S_OK, some unk))
    (hmakes : HostConnectionPointContainer.getProxyConnectionPointMakes env this (some unk) true
      ((env.queryUnknown cp).run ((env.findConnectionPoint u riid).run h).2).2 = true) :
    HostConnectionPointContainer.findConnectionPointMakes env this c riid true h = true ∧
      ∃ p, (HostConnectionPointContainer.findConnectionPoint env this c riid true h).1.ptrs =
        [p] := by
  constructor
  · unfold HostConnectionPointContainer.findConnectionPointMakes
    simp only [hu, hfound, hunk, Option.isSome_some, Bool.true_and, hmakes]
  · have hquery : ((env.queryConnectionPoint unk).run
        ((env.queryUnknown cp).run ((env.findConnectionPoint u riid).run h).2).2).1.2.isSome =
          true := by
      unfold HostConnectionPointContainer.getProxyConnectionPointMakes at hmakes
      rw [Bool.and_eq_true] at hmakes
      exact hmakes.2
    obtain ⟨v, hv⟩ := Option.isSome_iff_exists.mp hquery
    obtain ⟨p, hp⟩ := @ProxyCall.getProxyConnectionPoint_succeeds env this unk v _ hv
    refine ⟨p, ?_⟩
    have hcases := HostConnectionPointContainer.getProxyConnectionPoint_cases env this
      ((env.queryUnknown cp).run ((env.findConnectionPoint u riid).run h).2).2 (some unk) true
    have hok : failed (HostConnectionPointContainer.getProxyConnectionPoint env this (some unk) true
        ((env.queryUnknown cp).run ((env.findConnectionPoint u riid).run h).2).2).1.hr = false := by
      rcases hcases with ⟨-, hnone⟩ | ⟨q, hok, -⟩
      · simp [hp] at hnone
      · exact hok
    unfold HostConnectionPointContainer.findConnectionPoint
    simp only [hu, hfound, hunk, failed_S_OK, Bool.true_eq_false, Bool.false_eq_true, if_false,
      scope, hok, hp, List.head?_cons]

theorem sample_find {h : ComHeap} {this : Nat} (riid : IID)
    (hobj : h.obj? this = some (.connectionPointContainer { underlying := some 0 })) :
    HostConnectionPointContainer.findConnectionPointMakes sampleControl this
        { underlying := some 0 } riid true h = true ∧
      ∃ p, (HostConnectionPointContainer.findConnectionPoint sampleControl this
        { underlying := some 0 } riid true h).1.ptrs = [p] := by
  have hpoint : ((h.new h.freeAddress (.other [])).addRef h.next).obj? h.next =
      some (.other []) := by
    rw [Heap.addRef_obj?, Heap.new_obj?, if_pos rfl]
  have hunk : (sampleControl.queryUnknown h.next).run
      ((sampleControl.findConnectionPoint 0 riid).run h).2 =
        ((S_OK, some h.next), ((h.new h.freeAddress (.other [])).addRef h.next).addRef h.next) :=
    ForeignCall.give_ptr hpoint
  refine find_makes rfl rfl (congrArg Prod.fst hunk) ?_
  have hmap : HostConnectionPointContainer.proxies this
      (((h.new h.freeAddress (.other [])).addRef h.next).addRef h.next) = [] := by
    unfold HostConnectionPointContainer.proxies
    rw [made_obj?_of_ne _ _ (lt_next_of_obj? hobj).ne, hobj]
  have hquery : (sampleControl.queryConnectionPoint h.next).run
      (((h.new h.freeAddress (.other [])).addRef h.next).addRef h.next) = _ :=
    ForeignCall.give_ptr ((Heap.addRef_obj? _ _ _).trans hpoint)
  rw [hunk]
  simp [HostConnectionPointContainer.getProxyConnectionPointMakes, hmap, hquery,
    UnorderedMap.find]

theorem newControl_abides : (ClientAction.foreign newControl).Abides :=
  fun h _ => ForeignCall.create_others _ _ h

/-- A client finds a connection point, and releases it; its host goes, and so does the
control. -/
def findAndRelease (p : Nat) : List EventAction :=
  [.client (.foreign newControl) newControl_abides, .client (.container (some 0)) trivial,
    .client (.call 1 (.findConnectionPoint 0 true)) trivial, .client (.release p) trivial,
    .client (.release 1) trivial, .client (.release 0) trivial]

theorem plain_newControl : Plain (newControl.run Heap.empty).2 := by
  intro a refs ha
  have hnone : (Heap.empty : ComHeap).obj? a = none := rfl
  change (((Heap.empty : ComHeap).new _ (.other [])).addRef _).obj? a = _ at ha
  rw [Heap.addRef_obj?, Heap.new_obj?] at ha
  split_ifs at ha
  · simpa using ha.symm
  · simp [hnone] at ha

theorem released_of_holds {h : ComHeap} (hh : Holds Heap.empty h []) (hplain : Plain h) :
    Released h := by
  intro a o _ _
  refine ⟨?_, fun b refs hb hmem => ?_⟩
  · rw [hh.gives.owned_eq]
    simp [Heap.owned, Heap.count, Heap.inbound, Heap.weight, Heap.empty]
  · simp [hplain b refs hb] at hmem

/-- A control, its container, and a client with a connection point. -/
theorem found_step : ∃ (h₁ h₂ h₃ : ComHeap) (p : Nat),
    (events sampleSource).step Heap.empty (.client (.foreign newControl) newControl_abides) =
      some h₁ ∧
    (events sampleSource).step h₁ (.client (.container (some 0)) trivial) = some h₂ ∧
    (events sampleSource).step h₂ (.client (.call 1 (.findConnectionPoint 0 true)) trivial) =
      some h₃ ∧
    ProxyCall.makes sampleControl 1 (.findConnectionPoint 0 true) h₂ = true ∧
    Holds Heap.empty h₃ [p, 1, 0] ∧ Plain h₃ := by
  have hcontrol : Holds Heap.empty (newControl.run Heap.empty).2 [0] := created wf_empty
  have howned : ∀ a ∈ some 0, 1 ≤ (newControl.run Heap.empty).2.owned a := by
    intro a ha
    obtain rfl : 0 = a := Option.some.inj ha
    exact hcontrol.gives.owned_of_mem wf_empty.valid List.mem_cons_self
  have hcontainer := newContainer_traced sampleControl.Calls sampleControl hcontrol.wf howned
  have hobj : (newContainer sampleControl (some 0) (newControl.run Heap.empty).2).obj? 1 =
      some (.connectionPointContainer { underlying := some 0 }) :=
    newContainer_obj? sampleControl hcontrol.wf howned
  have hplain := Plain.trace hcontainer.trace plain_newControl
  have hstep : ClientAction.step sampleControl (newControl.run Heap.empty).2 (.container (some 0)) =
      some (newContainer sampleControl (some 0) (newControl.run Heap.empty).2) := by
    rw [ClientAction.step, if_pos howned]
  generalize newContainer sampleControl (some 0) (newControl.run Heap.empty).2 = h₂ at *
  have hthis : 1 ≤ h₂.owned 1 :=
    hcontainer.gives.owned_of_mem hcontrol.wf.valid List.mem_cons_self
  have hfind := HostConnectionPointContainer.findConnectionPoint_performs sampleControl
    hcontainer.wf (stays_of_owned hthis hobj) { underlying := some 0 } 0 true
  obtain ⟨hmakes, p, hp⟩ := sample_find 0 hobj
  have hall := (hcontrol.trans hcontainer.toHolds).trans hfind.traced.toHolds
  rw [hp] at hall
  have hcall : ProxyCall.run sampleControl 1 (.findConnectionPoint 0 true) h₂ =
      some (HostConnectionPointContainer.findConnectionPoint sampleControl 1
        { underlying := some 0 } 0 true h₂) := by
    simp only [ProxyCall.run, hobj]
  refine ⟨_, h₂, _, p, rfl, hstep, (if_pos hthis).trans (congrArg (Option.map Prod.snd) hcall), ?_,
    hall, Plain.trace hfind.traced.trace hplain⟩
  simp only [ProxyCall.makes, hobj]
  exact hmakes

theorem run_findAndRelease : ∃ (p : Nat) (trace : List (ComHeap × EventAction)) (h : ComHeap),
    trace.map Prod.snd = findAndRelease p ∧ (events sampleSource).Run Heap.empty trace h ∧
    Released h ∧ (trace.any fun v => v.2.makes sampleSource v.1) = true := by
  obtain ⟨h₁, h₂, h₃, p, hcontrol, hcontainer, hfind, hmakes, hall, hplain⟩ := found_step
  have hvalid := wf_empty.valid
  have hreleased₁ := hall.release hvalid
  have hreleased₂ := hreleased₁.release hvalid
  have hreleased₃ := hreleased₂.release hvalid
  have hrelease {h : ComHeap} {a : Nat} {ws : List Nat} (hh : Holds Heap.empty h (a :: ws)) :
      (events sampleSource).step h (.client (.release a) trivial) = some (h.release a) :=
    if_pos (hh.gives.owned_of_mem hvalid List.mem_cons_self)
  have hrun : (events sampleSource).Run Heap.empty _ (((h₃.release p).release 1).release 0) :=
    .cons hcontrol <| .cons hcontainer <| .cons hfind <| .cons (hrelease hall) <|
      .cons (hrelease hreleased₁) <| .cons (hrelease hreleased₂) (.nil _)
  refine ⟨p, _, _, rfl, hrun, released_of_holds hreleased₃ fun a refs ha => ?_, ?_⟩
  · exact hplain a refs (Heap.releaseAll_obj? (Heap.releaseAll_obj? (Heap.releaseAll_obj? ha)))
  · exact List.any_eq_true.mpr ⟨_, List.mem_cons_of_mem _ (List.mem_cons_of_mem _
      List.mem_cons_self), hmakes⟩

/-- The client's connection point was the one that a step made. -/
theorem tornDown_iff_findAndRelease : ∃ (p : Nat) (trace : List (ComHeap × EventAction))
    (h : ComHeap), trace.map Prod.snd = findAndRelease p ∧
      (TornDown h ↔ ∀ v ∈ trace, v.2.makes sampleSource v.1 = false) := by
  obtain ⟨p, trace, h, hactions, hrun, hreleased, -⟩ := run_findAndRelease
  exact ⟨p, trace, h, hactions, tornDown_iff sampleSource_abides hrun hreleased⟩

/-- Everything is released, and the connection point and its container are still there. -/
theorem not_tornDown_findAndRelease : ∃ (p : Nat) (trace : List (ComHeap × EventAction))
    (h : ComHeap), trace.map Prod.snd = findAndRelease p ∧
      (events sampleSource).Run Heap.empty trace h ∧ Released h ∧ ¬ TornDown h := by
  obtain ⟨p, trace, h, hactions, hrun, hreleased, hmakes⟩ := run_findAndRelease
  obtain ⟨htrace, -⟩ := run_trace sampleSource_abides hrun wf_empty
  obtain ⟨t, q, htied⟩ := htrace.tied hmakes
  exact ⟨p, trace, h, hactions, hrun, hreleased, htied.not_tornDown⟩

end EventAction

end Axhost
