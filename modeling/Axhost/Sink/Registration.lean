import Mathlib.Data.List.Nodup
import Axhost.Sink.ThreadPool

/-!
# The cookie of a sink

`sink.cc`.  The constructor of a `HostEventSink` registers the client's sink in the global
interface table and keeps the cookie in `m_cookie`, which it sets nowhere else; where it comes to
no registration, the member holds what was in its memory before.  `Invoke` passes the cookie on to
its worker, and the destructor revokes it.

* `Sinks.ownCookies_iff`: in a run every lookup and every revocation is of the sink's own
  registration, and takes away no other, exactly when each is of a sink that has one.
-/

namespace Axhost

open Transition

/-- What the constructor meets: the client's sink, the global interface table, and what is in the
memory of `m_cookie`. -/
structure SinkOutcome where
  pUnkSink : Bool := true
  queryInterface : HRESULT := S_OK
  dispatch : Bool := true
  create : Bool := true
  register : HRESULT := S_OK
  cookie : DWORD := 0
  memory : DWORD := 0
deriving DecidableEq, Repr

namespace Sinks

/-- Whether there is a table; `CoCreateInstance` is asked for one while there is none. -/
def getGlobalInterfaceTable (git create : Bool) : Bool := git || create

/-- `CreateGlobalSink`: its result, the cookie that it stores, and whether there is a table then. -/
def createGlobalSink (git : Bool) (o : SinkOutcome) : (HRESULT × Option DWORD) × Bool :=
  if o.pUnkSink = false then ((E_INVALIDARG, none), git)
  else if failed o.queryInterface then ((o.queryInterface, none), git)
  else if o.dispatch = false then ((E_UNEXPECTED, none), git)
  else
    let git := getGlobalInterfaceTable git o.create
    if git = false then ((E_UNEXPECTED, none), git)
    else if failed o.register then ((o.register, none), git)
    else ((o.register, some o.cookie), git)

/-- `RemoveGlobalSink`: its result, the cookie that it revokes, what is left of the sink, and
whether there is a table then. -/
def removeGlobalSink (sink : HostEventSink) (git create : Bool) (revoke : HRESULT) :
    (HRESULT × Option DWORD) × HostEventSink × Bool :=
  if sink.cookie = 0 then ((S_OK, none), sink, git)
  else
    let git := getGlobalInterfaceTable git create
    if git = false then ((E_UNEXPECTED, none), sink, git)
    else ((revoke, some sink.cookie), { cookie := 0 }, git)

theorem createGlobalSink_git (git : Bool) (o : SinkOutcome)
    (h : git = true ∨ (createGlobalSink git o).1.2.isSome = true) :
    (createGlobalSink git o).2 = true := by
  unfold createGlobalSink getGlobalInterfaceTable at h ⊢
  grind

theorem removeGlobalSink_git (sink : HostEventSink) (git create : Bool) (revoke : HRESULT)
    (h : git = true) : (removeGlobalSink sink git create revoke).2.2 = true := by
  unfold removeGlobalSink getGlobalInterfaceTable
  grind

end Sinks

/-- A sink with the cookie that its constructor registered.  `revoked` says that its destructor
has revoked it. -/
structure SinkRecord where
  fields : HostEventSink
  registration : Option DWORD
  destroyed : Bool := false
  revoked : Bool := false
deriving DecidableEq, Repr

/-- A call of `Invoke`, with the cookie its worker was given. -/
structure SinkCall where
  sink : Nat
  cookie : DWORD
  invocation : Invocation
deriving DecidableEq, Repr

/-- The sinks that have been made, by number, the calls on them, and the global interface table:
its cookies with the sinks that registered them. -/
structure Sinks where
  git : Bool := false
  entries : List (DWORD × Nat) := []
  sinks : List SinkRecord := []
  calls : List SinkCall := []
deriving DecidableEq, Repr

inductive SinkStep
  | construct (o : SinkOutcome)
  | invoke (k : Nat) (riid : IID) (hEvent : Bool)
  | call (i : Nat) (a : InvokeStep)
  | destroy (k : Nat) (create : Bool) (revoke : HRESULT)
deriving DecidableEq, Repr

namespace Sinks

/-- The table after a successful revocation. -/
def revoke (entries : List (DWORD × Nat)) (cookie : DWORD) : List (DWORD × Nat) :=
  entries.filter fun e => e.1 ≠ cookie

def construct (s : Sinks) (o : SinkOutcome) : Sinks :=
  let ((_, registration), git) := createGlobalSink s.git o
  { s with
    git := git
    entries := s.entries ++ registration.toList.map fun cookie => (cookie, s.sinks.length)
    sinks := s.sinks ++ [⟨⟨registration.getD o.memory⟩, registration, false, false⟩] }

def destroy (s : Sinks) (k : Nat) (r : SinkRecord) (create : Bool) (hr : HRESULT) : Sinks :=
  let ((_, cookie), sink, git) := removeGlobalSink r.fields s.git create hr
  let cookie := if failed hr then none else cookie
  { s with
    git := git
    entries := cookie.elim s.entries (revoke s.entries)
    sinks := s.sinks.set k
      { r with fields := sink, destroyed := true, revoked := r.revoked || cookie.isSome } }

/-- A cookie of a registration is not zero, and not that of another.  Who calls a sink has a
reference to it until the call returns. -/
def step (s : Sinks) : SinkStep → Option Sinks
  | .construct o =>
    if (createGlobalSink s.git o).1.2.all fun cookie =>
        cookie ≠ 0 ∧ cookie ∉ s.entries.map Prod.fst then some (s.construct o)
    else none
  | .invoke k riid hEvent =>
    match s.sinks[k]? with
    | none => none
    | some r =>
      if r.destroyed then none
      else match r.fields.invoke riid hEvent with
        | .error _ => some s
        | .ok invocation => some { s with calls := s.calls ++ [⟨k, r.fields.cookie, invocation⟩] }
  | .call i a =>
    match s.calls[i]? with
    | none => none
    | some c => (c.invocation.stepAny a).map fun invocation =>
      { s with calls := s.calls.set i { c with invocation := invocation } }
  | .destroy k create hr =>
    match s.sinks[k]? with
    | none => none
    | some r =>
      if r.destroyed then none
      else if ∀ c ∈ s.calls, c.sink = k → c.invocation.hasReturned = true then
        some (s.destroy k r create hr)
      else none

def system : System Sinks SinkStep where
  init s := s = {}
  step := step

/-- The sink and the cookie of a lookup or a revocation. -/
def uses (s : Sinks) : SinkStep → Option (Nat × DWORD)
  | .call i (.getInterfaceFromGlobal _ _) => (s.calls[i]?).map fun c => (c.sink, c.cookie)
  | .destroy k create hr => (s.sinks[k]?).bind fun r =>
    (removeGlobalSink r.fields s.git create hr).1.2.map fun cookie => (k, cookie)
  | _ => none

/-- What is looked up or revoked has been registered by the same sink and still is, and who is
destroyed leaves the registrations of the others. -/
def OwnCookies (s : Sinks) (a : SinkStep) : Prop :=
  (∀ u ∈ s.uses a, (u.2, u.1) ∈ s.entries) ∧
    ∀ k create hr, a = .destroy k create hr → ∀ t, s.step a = some t →
      ∀ e ∈ s.entries, e.2 ≠ k → e ∈ t.entries

/-- A sink whose cookie is looked up has been registered by its constructor and not been revoked;
one that is destroyed with a cookie other than zero, while there is a table, has been registered. -/
def Registered (s : Sinks) : SinkStep → Prop
  | .call i (.getInterfaceFromGlobal _ _) => ∀ c ∈ s.calls[i]?, ∀ r ∈ s.sinks[c.sink]?,
    r.registration.isSome = true ∧ r.revoked = false
  | .destroy k create _ => ∀ r ∈ s.sinks[k]?, r.fields.cookie ≠ 0 →
    getGlobalInterfaceTable s.git create = true → r.registration.isSome = true
  | _ => True

/-! ## The table and the sinks -/

/-- The table has the registrations that have not been revoked, and a sink or a call has the cookie
of its own if there is one. -/
structure Inv (s : Sinks) : Prop where
  nodup : (s.entries.map Prod.fst).Nodup
  mem_entries : ∀ cookie k, (cookie, k) ∈ s.entries ↔
    ∃ r, s.sinks[k]? = some r ∧ r.registration = some cookie ∧ r.revoked = false
  registered : ∀ r ∈ s.sinks, ∀ cookie, r.registration = some cookie → cookie ≠ 0 ∧ s.git = true
  live : ∀ r ∈ s.sinks, r.destroyed = false →
    r.revoked = false ∧ ∀ cookie, r.registration = some cookie → r.fields.cookie = cookie
  calls : ∀ c ∈ s.calls, ∃ r, s.sinks[c.sink]? = some r ∧
    ∀ cookie, r.registration = some cookie → c.cookie = cookie

theorem init_inv : Inv {} where
  nodup := List.nodup_nil
  mem_entries _ _ := by simp
  registered _ h := by simp at h
  live _ h := by simp at h
  calls _ h := by simp at h

theorem getElem?_concat {l : List SinkRecord} {new r : SinkRecord} {k : Nat} :
    (l ++ [new])[k]? = some r ↔ l[k]? = some r ∨ k = l.length ∧ new = r := by
  grind

theorem construct_inv {s : Sinks} {o : SinkOutcome} (hinv : Inv s)
    (hnew : ∀ cookie ∈ (createGlobalSink s.git o).1.2,
      cookie ≠ 0 ∧ cookie ∉ s.entries.map Prod.fst) : Inv (s.construct o) := by
  have hgit := createGlobalSink_git s.git o
  unfold construct
  generalize createGlobalSink s.git o = made at hnew hgit
  obtain ⟨⟨hr, registration⟩, git⟩ := made
  refine ⟨?_, fun cookie k => ?_, fun r hr cookie hcookie => ?_, fun r hr hlive => ?_,
    fun c hc => ?_⟩
  · cases registration with
    | none => simpa using hinv.nodup
    | some cookie =>
        have hfresh := (hnew cookie rfl).2
        simpa [List.nodup_append] using ⟨hinv.nodup, fun c k hk hc => hfresh (List.mem_map.mpr
          ⟨(c, k), hk, hc⟩)⟩
  · have hold := hinv.mem_entries cookie k
    simp only [List.mem_append, getElem?_concat, hold]
    constructor
    · rintro (⟨r, hr, hreg⟩ | hmem)
      · exact ⟨r, Or.inl hr, hreg⟩
      · obtain ⟨c, hc, heq⟩ := List.mem_map.mp hmem
        obtain ⟨rfl, rfl⟩ := Prod.mk.inj heq
        exact ⟨_, Or.inr ⟨rfl, rfl⟩, Option.mem_toList.mp hc, rfl⟩
    · rintro ⟨r, hr | ⟨rfl, rfl⟩, hreg, hrevoked⟩
      · exact Or.inl ⟨r, hr, hreg, hrevoked⟩
      · exact Or.inr (List.mem_map.mpr ⟨cookie, Option.mem_toList.mpr hreg, rfl⟩)
  · rcases List.mem_append.mp hr with hold | hmade
    · obtain ⟨hne, hbefore⟩ := hinv.registered r hold cookie hcookie
      exact ⟨hne, hgit (Or.inl hbefore)⟩
    · obtain rfl := List.mem_singleton.mp hmade
      obtain rfl : registration = some cookie := hcookie
      exact ⟨(hnew cookie rfl).1, hgit (Or.inr rfl)⟩
  · rcases List.mem_append.mp hr with hold | hmade
    · exact hinv.live r hold hlive
    · obtain rfl := List.mem_singleton.mp hmade
      exact ⟨rfl, fun cookie hcookie => by simp [show registration = some cookie from hcookie]⟩
  · obtain ⟨r, hr, hcookie⟩ := hinv.calls c hc
    exact ⟨r, getElem?_concat.mpr (Or.inl hr), hcookie⟩

theorem removeGlobalSink_cookie (sink : HostEventSink) (git create : Bool) (hr : HRESULT) :
    (removeGlobalSink sink git create hr).1.2 =
      if sink.cookie ≠ 0 ∧ getGlobalInterfaceTable git create = true then some sink.cookie
      else none := by
  unfold removeGlobalSink
  grind

theorem getElem?_set_iff {l : List SinkRecord} {k : Nat} {r new : SinkRecord}
    (hr : l[k]? = some r) {j : Nat} {x : SinkRecord} :
    (l.set k new)[j]? = some x ↔ (j = k ∧ new = x) ∨ (j ≠ k ∧ l[j]? = some x) := by
  grind

theorem Inv.mem_entries_iff {s : Sinks} (hinv : Inv s) {k : Nat} {r : SinkRecord}
    (hr : s.sinks[k]? = some r) {cookie : DWORD} :
    (cookie, k) ∈ s.entries ↔ r.registration = some cookie ∧ r.revoked = false := by
  rw [hinv.mem_entries]
  constructor
  · rintro ⟨r', hr', hreg⟩
    obtain rfl := Option.some.inj (hr.symm.trans hr')
    exact hreg
  · intro hreg
    exact ⟨r, hr, hreg⟩

/-- The registration of a live sink is in the table under its cookie. -/
theorem Inv.mem_entries_of_live {s : Sinks} (hinv : Inv s) {k : Nat} {r : SinkRecord}
    (hr : s.sinks[k]? = some r) (hlive : r.destroyed = false) {cookie : DWORD} :
    (cookie, k) ∈ s.entries ↔ r.registration = some cookie := by
  rw [hinv.mem_entries_iff hr, and_iff_left (hinv.live r (List.mem_of_getElem? hr) hlive).1]

theorem Inv.registration_eq {s : Sinks} (hinv : Inv s) {k : Nat} {r : SinkRecord}
    (hr : s.sinks[k]? = some r) (hlive : r.destroyed = false)
    (hsome : r.registration.isSome = true) : r.registration = some r.fields.cookie := by
  obtain ⟨cookie, hreg⟩ := Option.isSome_iff_exists.mp hsome
  rw [hreg, (hinv.live r (List.mem_of_getElem? hr) hlive).2 cookie hreg]

theorem Inv.cookie_ne {s : Sinks} (hinv : Inv s) {cookie cookie' : DWORD} {k k' : Nat}
    (h : (cookie, k) ∈ s.entries) (h' : (cookie', k') ∈ s.entries) (hne : k' ≠ k) :
    cookie' ≠ cookie := by
  rintro rfl
  have hsame := List.inj_on_of_nodup_map hinv.nodup h' h rfl
  exact hne (Prod.mk.inj hsame).2

theorem Inv.calls_set {s : Sinks} (hinv : Inv s) {k : Nat} {r : SinkRecord}
    (hk : s.sinks[k]? = some r) (fields : HostEventSink) (destroyed revoked : Bool)
    {c : SinkCall} (hc : c ∈ s.calls) : ∃ r',
      (s.sinks.set k ⟨fields, r.registration, destroyed, revoked⟩)[c.sink]? = some r' ∧
        ∀ cookie, r'.registration = some cookie → c.cookie = cookie := by
  obtain ⟨r', hr', hreg⟩ := hinv.calls c hc
  by_cases hsink : c.sink = k
  · obtain rfl : r' = r := Option.some.inj (hr'.symm.trans (hsink ▸ hk))
    exact ⟨_, (getElem?_set_iff hk).mpr (Or.inl ⟨hsink, rfl⟩), hreg⟩
  · exact ⟨r', (getElem?_set_iff hk).mpr (Or.inr ⟨hsink, hr'⟩), hreg⟩

theorem Inv.destroy_kept {s : Sinks} (hinv : Inv s) {k : Nat} {r : SinkRecord} {git : Bool}
    (hk : s.sinks[k]? = some r) (hgit : s.git = true → git = true) (fields : HostEventSink) :
    Inv { s with
      git := git
      sinks := s.sinks.set k { r with fields := fields, destroyed := true } } := by
  refine ⟨hinv.nodup, fun cookie j => ?_, fun x hx cookie hcookie => ?_, fun x hx hlive => ?_,
    fun c hc => hinv.calls_set hk fields true _ hc⟩
  · simp only [getElem?_set_iff hk, hinv.mem_entries]
    constructor
    · rintro ⟨x, hx, hreg⟩
      by_cases hj : j = k
      · obtain rfl : x = r := Option.some.inj (hx.symm.trans (hj ▸ hk))
        exact ⟨_, Or.inl ⟨hj, rfl⟩, hreg⟩
      · exact ⟨x, Or.inr ⟨hj, hx⟩, hreg⟩
    · rintro ⟨x, ⟨rfl, rfl⟩ | ⟨-, hx⟩, hreg⟩
      · exact ⟨r, hk, hreg⟩
      · exact ⟨x, hx, hreg⟩
  · rcases List.mem_or_eq_of_mem_set hx with hold | rfl
    · exact (hinv.registered x hold cookie hcookie).imp_right hgit
    · exact (hinv.registered r (List.mem_of_getElem? hk) cookie hcookie).imp_right hgit
  · rcases List.mem_or_eq_of_mem_set hx with hold | rfl
    · exact hinv.live x hold hlive
    · simp at hlive

theorem Inv.destroy_revoked {s : Sinks} (hinv : Inv s) {k : Nat} {r : SinkRecord} {git : Bool}
    (hk : s.sinks[k]? = some r) (hgit : s.git = true → git = true) (fields : HostEventSink)
    {cookie : DWORD} (hown : (cookie, k) ∈ s.entries) :
    Inv { s with
      git := git
      entries := revoke s.entries cookie
      sinks := s.sinks.set k { r with fields := fields, destroyed := true, revoked := true } } := by
  refine ⟨hinv.nodup.sublist (List.filter_sublist.map Prod.fst), fun c j => ?_,
    fun x hx c hc => ?_, fun x hx hlive => ?_, fun c hc => hinv.calls_set hk fields true _ hc⟩
  · simp only [getElem?_set_iff hk, revoke, List.mem_filter, decide_eq_true_eq]
    constructor
    · rintro ⟨hentry, hne⟩
      obtain ⟨x, hx, hreg⟩ := (hinv.mem_entries c j).mp hentry
      have hj : j ≠ k := by
        rintro rfl
        have hreg' := ((hinv.mem_entries_iff hx).mp hown).1
        exact hne (Option.some.inj (hreg.1.symm.trans hreg'))
      exact ⟨x, Or.inr ⟨hj, hx⟩, hreg⟩
    · rintro ⟨x, ⟨rfl, rfl⟩ | ⟨hj, hx⟩, hreg⟩
      · simp at hreg
      · have hentry := (hinv.mem_entries c j).mpr ⟨x, hx, hreg⟩
        exact ⟨hentry, hinv.cookie_ne hown hentry hj⟩
  · rcases List.mem_or_eq_of_mem_set hx with hold | rfl
    · exact (hinv.registered x hold c hc).imp_right hgit
    · exact (hinv.registered r (List.mem_of_getElem? hk) c hc).imp_right hgit
  · rcases List.mem_or_eq_of_mem_set hx with hold | rfl
    · exact hinv.live x hold hlive
    · simp at hlive

theorem destroy_inv {s : Sinks} {k : Nat} {r : SinkRecord} {create : Bool} {hr : HRESULT}
    (hinv : Inv s) (hk : s.sinks[k]? = some r) (hlive : r.destroyed = false)
    (hregistered : r.fields.cookie ≠ 0 → getGlobalInterfaceTable s.git create = true →
      r.registration.isSome = true) : Inv (s.destroy k r create hr) := by
  have hgit := removeGlobalSink_git r.fields s.git create hr
  have hcookie := removeGlobalSink_cookie r.fields s.git create hr
  have hrevoked := (hinv.live r (List.mem_of_getElem? hk) hlive).1
  unfold destroy
  generalize removeGlobalSink r.fields s.git create hr = removed at hgit hcookie
  obtain ⟨⟨result, cookie⟩, sink, git⟩ := removed
  dsimp only at hgit hcookie ⊢
  have hkept := hinv.destroy_kept hk hgit sink
  cases cookie with
  | none => simpa using hkept
  | some cookie =>
      split_ifs at hcookie with htable
      obtain rfl := Option.some.inj hcookie
      have hown := (hinv.mem_entries_of_live hk hlive).mpr
        (hinv.registration_eq hk hlive (hregistered htable.1 htable.2))
      cases failed hr with
      | true => simpa using hkept
      | false => simpa using hinv.destroy_revoked hk hgit sink hown

/-! ## What a step does -/

/-- A step makes a sink, starts a call or moves one on, or destroys a sink that nobody calls. -/
inductive Change (s : Sinks) : SinkStep → Sinks → Prop
  | constructs (o : SinkOutcome)
      (hnew : ∀ cookie ∈ (createGlobalSink s.git o).1.2,
        cookie ≠ 0 ∧ cookie ∉ s.entries.map Prod.fst) :
      Change s (.construct o) (s.construct o)
  | returns (k : Nat) (riid : IID) (hEvent : Bool) : Change s (.invoke k riid hEvent) s
  | invokes (k : Nat) (riid : IID) (hEvent : Bool) (r : SinkRecord) (invocation : Invocation)
      (hk : s.sinks[k]? = some r) (hlive : r.destroyed = false) :
      Change s (.invoke k riid hEvent)
        { s with calls := s.calls ++ [⟨k, r.fields.cookie, invocation⟩] }
  | moves (i : Nat) (a : InvokeStep) (c : SinkCall) (invocation : Invocation)
      (hi : s.calls[i]? = some c) :
      Change s (.call i a) { s with calls := s.calls.set i { c with invocation := invocation } }
  | destroys (k : Nat) (create : Bool) (hr : HRESULT) (r : SinkRecord)
      (hk : s.sinks[k]? = some r) (hlive : r.destroyed = false) :
      Change s (.destroy k create hr) (s.destroy k r create hr)

theorem step_cases {s t : Sinks} {a : SinkStep} (h : s.step a = some t) : Change s a t := by
  cases a with
  | construct o =>
      obtain ⟨hnew, hmade⟩ := Option.ite_none_right_eq_some.mp h
      obtain rfl := Option.some.inj hmade
      refine .constructs o fun cookie hcookie => ?_
      simpa [Option.mem_def.mp hcookie] using hnew
  | invoke k riid hEvent =>
      rw [step] at h
      cases hk : s.sinks[k]? with
      | none => simp [hk] at h
      | some r =>
          simp only [hk, Option.ite_none_left_eq_some, Bool.not_eq_true] at h
          obtain ⟨hlive, h⟩ := h
          split at h
          · obtain rfl := Option.some.inj h
            exact .returns k riid hEvent
          · next invocation _ =>
            obtain rfl := Option.some.inj h
            exact .invokes k riid hEvent r invocation hk hlive
  | call i a' =>
      rw [step] at h
      cases hi : s.calls[i]? with
      | none => simp [hi] at h
      | some c =>
          simp only [hi] at h
          obtain ⟨invocation, -, rfl⟩ := Option.map_eq_some_iff.mp h
          exact .moves i a' c invocation hi
  | destroy k create hr =>
      rw [step] at h
      cases hk : s.sinks[k]? with
      | none => simp [hk] at h
      | some r =>
          simp only [hk, Option.ite_none_left_eq_some, Bool.not_eq_true,
            Option.ite_none_right_eq_some] at h
          obtain ⟨hlive, -, h⟩ := h
          obtain rfl := Option.some.inj h
          exact .destroys k create hr r hk hlive

theorem step_inv {s t : Sinks} {a : SinkStep} (hinv : Inv s) (hregistered : s.Registered a)
    (h : s.step a = some t) : Inv t := by
  cases step_cases h with
  | constructs o hnew => exact construct_inv hinv hnew
  | returns k riid hEvent => exact hinv
  | invokes k riid hEvent r invocation hk hlive =>
      refine ⟨hinv.nodup, hinv.mem_entries, hinv.registered, hinv.live, fun c hc => ?_⟩
      rcases List.mem_append.mp hc with hold | hmade
      · exact hinv.calls c hold
      · obtain rfl := List.mem_singleton.mp hmade
        exact ⟨r, hk, (hinv.live r (List.mem_of_getElem? hk) hlive).2⟩
  | moves i a' c invocation hi =>
      refine ⟨hinv.nodup, hinv.mem_entries, hinv.registered, hinv.live, fun c' hc' => ?_⟩
      rcases List.mem_or_eq_of_mem_set hc' with hold | rfl
      · exact hinv.calls c' hold
      · exact hinv.calls c (List.mem_of_getElem? hi)
  | destroys k create hr r hk hlive => exact destroy_inv hinv hk hlive (hregistered r hk)

/-- Revoking a sink's own cookie leaves the registrations of the others. -/
theorem destroy_entries {s : Sinks} {k : Nat} {r : SinkRecord} {create : Bool} {hr : HRESULT}
    (hinv : Inv s) (hown : ∀ cookie ∈ (removeGlobalSink r.fields s.git create hr).1.2,
      (cookie, k) ∈ s.entries) {e : DWORD × Nat} (he : e ∈ s.entries) (hne : e.2 ≠ k) :
    e ∈ (s.destroy k r create hr).entries := by
  unfold destroy
  generalize removeGlobalSink r.fields s.git create hr = removed at hown
  obtain ⟨⟨result, cookie⟩, sink, git⟩ := removed
  dsimp only at hown ⊢
  split_ifs
  · exact he
  · cases cookie with
    | none => exact he
    | some cookie =>
        have hcookie := hinv.cookie_ne (hown cookie rfl) he hne
        exact List.mem_filter.mpr ⟨he, decide_eq_true hcookie⟩

theorem uses_call_iff {s : Sinks} (hinv : Inv s) {i : Nat} {c : SinkCall}
    (hi : s.calls[i]? = some c) (a : InvokeStep) :
    (∀ u ∈ s.uses (.call i a), (u.2, u.1) ∈ s.entries) ↔ s.Registered (.call i a) := by
  cases a with
  | getInterfaceFromGlobal hr sink =>
      obtain ⟨r, hsink, hcookie⟩ := hinv.calls c (List.mem_of_getElem? hi)
      have huses : s.uses (.call i (.getInterfaceFromGlobal hr sink)) =
          some (c.sink, c.cookie) := by simp [uses, hi]
      simp only [huses, Registered, hi, hsink, Option.mem_def, Option.some.injEq, forall_eq',
        hinv.mem_entries_iff hsink]
      constructor
      · rintro ⟨hreg, hrevoked⟩
        exact ⟨by simp [hreg], hrevoked⟩
      · rintro ⟨hsome, hrevoked⟩
        obtain ⟨cookie, hreg⟩ := Option.isSome_iff_exists.mp hsome
        exact ⟨hcookie cookie hreg ▸ hreg, hrevoked⟩
  | _ => simp [uses, Registered]

/-- A revocation is of the sink's own registration exactly when there is one. -/
theorem uses_destroy_iff {s : Sinks} (hinv : Inv s) {k : Nat} {r : SinkRecord}
    (hk : s.sinks[k]? = some r) (hlive : r.destroyed = false) (create : Bool) (hr : HRESULT) :
    (∀ u ∈ s.uses (.destroy k create hr), (u.2, u.1) ∈ s.entries) ↔
      s.Registered (.destroy k create hr) := by
  have hfirst : (∀ u ∈ s.uses (.destroy k create hr), (u.2, u.1) ∈ s.entries) ↔
      ∀ cookie ∈ (removeGlobalSink r.fields s.git create hr).1.2, (cookie, k) ∈ s.entries := by
    simp [uses, hk]
  rw [hfirst]
  simp only [Registered, hk, removeGlobalSink_cookie, Option.mem_def, Option.some.injEq,
    forall_eq', hinv.mem_entries_of_live hk hlive]
  constructor
  · intro hall hne hgit
    rw [hall r.fields.cookie (if_pos ⟨hne, hgit⟩)]
    rfl
  · intro hreg cookie hcookie
    split_ifs at hcookie with htable
    rw [hinv.registration_eq hk hlive (hreg htable.1 htable.2), hcookie]

theorem step_ownCookies_iff {s t : Sinks} {a : SinkStep} (hinv : Inv s) (h : s.step a = some t) :
    s.OwnCookies a ↔ s.Registered a := by
  have hother (hne : ∀ k create hr, a ≠ .destroy k create hr) :
      s.OwnCookies a ↔ ∀ u ∈ s.uses a, (u.2, u.1) ∈ s.entries :=
    and_iff_left fun k create hr heq => absurd heq (hne k create hr)
  cases step_cases h with
  | constructs o hnew => exact iff_of_true ((hother (by simp)).mpr (by simp [uses])) trivial
  | returns k riid hEvent => exact iff_of_true ((hother (by simp)).mpr (by simp [uses])) trivial
  | invokes k riid hEvent r invocation hk hlive =>
      exact iff_of_true ((hother (by simp)).mpr (by simp [uses])) trivial
  | moves i a' c invocation hi => exact (hother (by simp)).trans (uses_call_iff hinv hi a')
  | destroys k create hr r hk hlive =>
      rw [← uses_destroy_iff hinv hk hlive create hr]
      refine and_iff_left_of_imp fun hown k' create' hr' heq t ht e he hne => ?_
      obtain ⟨rfl, rfl, rfl⟩ := SinkStep.destroy.inj heq
      obtain rfl := Option.some.inj (h.symm.trans ht)
      refine destroy_entries hinv (fun cookie hcookie => ?_) he hne
      exact hown (k, cookie) (by simpa [uses, hk] using hcookie)

/-- In a run every lookup and revocation of a sink is of its own registration exactly when each
sink that is looked up or revoked has one. -/
theorem ownCookies_iff {last : Sinks} {trace : List (Sinks × SinkStep)}
    (hrun : system.Run {} trace last) :
    (∀ v ∈ trace, v.1.OwnCookies v.2) ↔ ∀ v ∈ trace, v.1.Registered v.2 :=
  hrun.steps_iff (I := Inv) (P := OwnCookies) (C := Registered)
    (fun _ _ _ hI hC hstep => step_inv hI hC hstep)
    (fun _ _ _ hI hstep => step_ownCookies_iff hI hstep) init_inv

/-- A registered sink, and one whose client has no `IDispatch` and whose memory holds the cookie of
the first. -/
def sameCookie : Sinks where
  git := true
  entries := [(7, 0)]
  sinks := [⟨⟨7⟩, some 7, false, false⟩, ⟨⟨7⟩, none, false, false⟩]

/-- The second is destroyed. -/
def noDispatch : List (Sinks × SinkStep) :=
  [({}, .construct { cookie := 7 }),
    ({ sameCookie with sinks := [⟨⟨7⟩, some 7, false, false⟩] },
      .construct { queryInterface := E_NOINTERFACE, memory := 7 }),
    (sameCookie, .destroy 1 true S_OK)]

/-- The first is left, without its registration. -/
def disconnected : Sinks where
  git := true
  sinks := [⟨⟨7⟩, some 7, false, false⟩, ⟨⟨0⟩, none, true, true⟩]

theorem destroy_sameCookie : sameCookie.step (.destroy 1 true S_OK) = some disconnected := by
  decide

theorem run_noDispatch : system.Run {} noDispatch disconnected :=
  .cons (by decide) (.cons (by decide) (.cons destroy_sameCookie (.nil _)))

theorem ownCookies_iff_noDispatch :
    (∀ v ∈ noDispatch, v.1.OwnCookies v.2) ↔ ∀ v ∈ noDispatch, v.1.Registered v.2 :=
  ownCookies_iff run_noDispatch

/-- The destructor of the second sink revokes the registration of the first. -/
theorem not_ownCookies_noDispatch :
    ¬ ∀ (last : Sinks) (trace : List (Sinks × SinkStep)), system.Run {} trace last →
      ∀ v ∈ trace, v.1.OwnCookies v.2 := by
  intro hall
  obtain ⟨-, hothers⟩ := hall _ _ run_noDispatch _
    (List.mem_cons_of_mem _ (List.mem_cons_of_mem _ List.mem_cons_self))
  have hkept := hothers 1 true S_OK rfl _ destroy_sameCookie (7, 0) (by decide) (by decide)
  exact absurd hkept (by decide)

end Sinks

end Axhost
