import Axhost.Events.Calls

/-!
# Whose sink `Next` returns

`HostConnectionPoint::Advise` gives the control a `HostEventSink` in the place of the client's
sink, and `HostEnumConnections::Next` puts the client's sink back, by the cookie and at the time
of `Next`.  Here are the maps of one proxy beside the connections that its underlying connection
point holds, with connections that others make and end there directly.

* `Subscriptions.returned_iff`: in a run every `Next` returns the sinks of the connections it
  enumerates exactly when each of these is `Current` as it is fetched;
* `Subscriptions.fetchesCurrent_of_live`: on a live view they always are;
* `HostEnumConnections.replaceFetched_eq`: the loop of `Next` on the heap.
-/

namespace Axhost

open RefHeap Transition

/-- What an element holds after a round of the loop of `Next`: the sink that was advised under
the cookie, or what the underlying enumerator put there. -/
def HostConnectionPoint.replaced {σ : Type*} (underlyingConnections : List (DWORD × σ))
    (dwCookie : DWORD) (pUnk : σ) : σ :=
  (UnorderedMap.find underlyingConnections dwCookie).getD pUnk

/-! ## The loop on the heap -/

theorem fields_of_obj? {h : ComHeap} {this : Nat} {p : HostConnectionPoint}
    (hobj : h.obj? this = some (.connectionPoint p)) :
    HostConnectionPoint.fields this h = some p := by
  rw [HostConnectionPoint.fields, hobj]

/-- While the connection point is there, the loop replaces what its map has. -/
theorem HostEnumConnections.replaceFetched_eq {h₀ : ComHeap} (hvalid : h₀.Valid)
    {connectionPoint : Nat} {p : HostConnectionPoint}
    (hstays : ∀ h ws, Holds h₀ h ws → ∃ q, h.obj? connectionPoint = some (.connectionPoint q))
    (entries : List (DWORD × Nat)) {h : ComHeap} {ws : List Nat}
    (hh : Holds h₀ h (entries.map Prod.snd ++ ws))
    (hobj : h.obj? connectionPoint = some (.connectionPoint p)) :
    (replaceFetched connectionPoint entries h).1 = entries.map fun entry =>
      (entry.1, HostConnectionPoint.replaced p.underlyingConnections entry.1 entry.2) := by
  induction entries generalizing h ws with
  | nil => rfl
  | cons entry rest ih =>
      obtain ⟨dwCookie, pUnk⟩ := entry
      have hsink := (HostConnectionPoint.getUnderlyingSink_performs (fun _ _ => False) hh.wf
        connectionPoint dwCookie true).obeys.holds
      rw [List.map_cons]
      cases hfind : UnorderedMap.find p.underlyingConnections dwCookie with
      | none =>
          have hrun : HostConnectionPoint.getUnderlyingSink connectionPoint dwCookie true h =
              ({ hr := E_UNEXPECTED }, h) := by
            simp [HostConnectionPoint.getUnderlyingSink, fields_of_obj? hobj, hfind]
          simp only [replaceFetched, hrun, List.head?_nil]
          rw [ih (hh.perm List.perm_middle.symm) hobj]
          simp [HostConnectionPoint.replaced, hfind]
      | some sink =>
          have hrun : HostConnectionPoint.getUnderlyingSink connectionPoint dwCookie true h =
              ({ hr := S_OK, ptrs := [sink] }, h.addRef sink) := by
            simp [HostConnectionPoint.getUnderlyingSink, fields_of_obj? hobj, hfind]
          rw [hrun] at hsink
          have hswapped := ((hh.trans hsink).perm (List.Perm.swap _ _ _)).release hvalid
          obtain ⟨q, hq⟩ := hstays _ _ hswapped
          have hbefore := Heap.releaseAll_obj? hq
          rw [Heap.addRef_obj?, hobj] at hbefore
          obtain rfl : p = q := by simpa using hbefore
          simp only [replaceFetched, hrun, failed_S_OK, List.head?_cons, Bool.false_eq_true,
            if_false]
          rw [ih (hswapped.perm List.perm_middle.symm) hq]
          simp [HostConnectionPoint.replaced, hfind]

/-! ## Advise and Unadvise -/

/-- A sink of a client or of another party, or the object that `Advise` wraps around one. -/
inductive Sink
  | object (a : Nat)
  | hostEventSink (pUnkSink : Sink)
deriving DecidableEq, Repr

/-- `m_connections` and `m_underlyingConnections` of a proxy. -/
structure AdvisedConnections where
  connections : List (DWORD × Sink) := []
  underlyingConnections : List (DWORD × Sink) := []
deriving DecidableEq, Repr

namespace AdvisedConnections

/-- `Advise`, with the result and the cookie that the underlying connection point gives. -/
def advise (p : AdvisedConnections) (pUnkSink : Option Sink) (pdwCookie : Bool) (hr : HRESULT)
    (dwCookie : DWORD) : HRESULT × AdvisedConnections :=
  match pUnkSink with
  | none => (E_INVALIDARG, p)
  | some sink =>
    if pdwCookie = false then (E_INVALIDARG, p)
    else if failed hr then (hr, p)
    else (hr,
      { connections := UnorderedMap.emplace p.connections dwCookie (.hostEventSink sink)
        underlyingConnections := UnorderedMap.emplace p.underlyingConnections dwCookie sink })

theorem advise_of_failed (p : AdvisedConnections) (sink : Sink) {pdwCookie : Bool} {hr : HRESULT}
    (dwCookie : DWORD) (hnone : pdwCookie = false ∨ failed hr = true) :
    (p.advise (some sink) pdwCookie hr dwCookie).2 = p := by
  unfold advise
  rcases hnone with hnull | hfailed
  · simp [hnull]
  · cases pdwCookie <;> simp [hfailed]

theorem advise_of_succeeded (p : AdvisedConnections) (sink : Sink) {pdwCookie : Bool}
    {hr : HRESULT} (dwCookie : DWORD) (hnone : ¬ (pdwCookie = false ∨ failed hr = true)) :
    (p.advise (some sink) pdwCookie hr dwCookie).2 =
      { connections := UnorderedMap.emplace p.connections dwCookie (.hostEventSink sink)
        underlyingConnections := UnorderedMap.emplace p.underlyingConnections dwCookie sink } := by
  rw [not_or] at hnone
  unfold advise
  simp [hnone.1, hnone.2]

/-- `Unadvise`, with the result that the underlying connection point gives. -/
def unadvise (p : AdvisedConnections) (dwCookie : DWORD) (hr : HRESULT) :
    HRESULT × AdvisedConnections :=
  if failed hr then (hr, p)
  else (hr,
    { connections := UnorderedMap.erase p.connections dwCookie
      underlyingConnections := UnorderedMap.erase p.underlyingConnections dwCookie })

end AdvisedConnections

/-- A connection of the underlying connection point, with the client's own sink where it was
made through the proxy. -/
structure Connection where
  cookie : DWORD
  sink : Sink
  client : Option Sink
deriving DecidableEq, Repr

/-- The sink that an enumeration is to return for a connection. -/
def Connection.own (c : Connection) : Sink := c.client.getD c.sink

/-- A `HostEnumConnections`, by the underlying enumerator: a snapshot, or a live view. -/
structure ConnectionEnum where
  snapshot : Option (List Connection)
  position : Nat := 0
deriving DecidableEq, Repr

def ConnectionEnum.items (e : ConnectionEnum) (live : List Connection) : List Connection :=
  e.snapshot.getD live

/-- One proxy and its underlying connection point, with every sink that `Next` has returned. -/
structure Subscriptions where
  live : List Connection := []
  proxy : AdvisedConnections := {}
  enumerators : List ConnectionEnum := []
  returned : List (Connection × Sink) := []
deriving DecidableEq, Repr

inductive SubscriptionStep
  | advise (pUnkSink : Option Sink) (pdwCookie : Bool) (hr : HRESULT) (dwCookie : DWORD)
  | unadvise (dwCookie : DWORD) (hr : HRESULT)
  | adviseDirect (sink : Sink) (dwCookie : DWORD)
  | unadviseDirect (dwCookie : DWORD)
  | enumConnections (snapshot : Bool)
  | next (i : Nat) (cConnections : DWORD) (rgcd pcFetched : Bool) (fetched : Nat)
  | skip (i : Nat) (cConnections : DWORD)
  | reset (i : Nat)
deriving DecidableEq, Repr

namespace Subscriptions

def cookies (live : List Connection) : List DWORD := live.map Connection.cookie

/-- The client's sink of the live connection that was made through the proxy under a cookie. -/
def clientOf (live : List Connection) (dwCookie : DWORD) : Option Sink :=
  (live.find? fun c => c.cookie = dwCookie).bind Connection.client

/-- The elements that the underlying enumerator puts in the array of a `Next`. -/
def fetch (s : Subscriptions) (e : ConnectionEnum) (cConnections : DWORD) (rgcd pcFetched : Bool)
    (fetched : Nat) : List Connection :=
  if rgcd = false then []
  else if 1 < cConnections ∧ pcFetched = false then []
  else ((e.items s.live).drop e.position).take fetched

/-- The underlying connection point never gives out the cookie of a live connection, and a
connection that was made through the proxy ends only through it. -/
def step (s : Subscriptions) : SubscriptionStep → Option Subscriptions
  | .advise pUnkSink pdwCookie hr dwCookie =>
    let proxy := (s.proxy.advise pUnkSink pdwCookie hr dwCookie).2
    match pUnkSink with
    | none => some { s with proxy := proxy }
    | some sink =>
      if pdwCookie = false ∨ failed hr then some { s with proxy := proxy }
      else if dwCookie ∈ cookies s.live then none
      else some { s with
        proxy := proxy
        live := s.live ++ [⟨dwCookie, .hostEventSink sink, some sink⟩] }
  | .unadvise dwCookie hr =>
    let proxy := (s.proxy.unadvise dwCookie hr).2
    if failed hr then some { s with proxy := proxy }
    else some { s with proxy := proxy, live := s.live.filter fun c => c.cookie ≠ dwCookie }
  | .adviseDirect sink dwCookie =>
    if dwCookie ∈ cookies s.live then none
    else some { s with live := s.live ++ [⟨dwCookie, sink, none⟩] }
  | .unadviseDirect dwCookie =>
    if clientOf s.live dwCookie = none then
      some { s with live := s.live.filter fun c => c.cookie ≠ dwCookie }
    else none
  | .enumConnections snapshot =>
    let items := if snapshot then some s.live else none
    some { s with enumerators := s.enumerators ++ [{ snapshot := items }] }
  | .next i cConnections rgcd pcFetched fetched =>
    match s.enumerators[i]? with
    | none => none
    | some e =>
      if cConnections.toNat < fetched then none
      else
        let entries := fetch s e cConnections rgcd pcFetched fetched
        some { s with
          enumerators := s.enumerators.set i { e with position := e.position + entries.length }
          returned := entries.map (fun c => (c, HostConnectionPoint.replaced
            s.proxy.underlyingConnections c.cookie c.sink)) ++ s.returned }
  | .skip i cConnections =>
    match s.enumerators[i]? with
    | none => none
    | some e =>
      let position := min (e.position + cConnections.toNat) (e.items s.live).length
      some { s with enumerators := s.enumerators.set i { e with position := position } }
  | .reset i =>
    match s.enumerators[i]? with
    | none => none
    | some e => some { s with enumerators := s.enumerators.set i { e with position := 0 } }

def system : System Subscriptions SubscriptionStep where
  init s := s = {}
  step := step

/-- Every connection that an enumeration returned came with its own sink. -/
def Faithful (s : Subscriptions) : Prop := ∀ r ∈ s.returned, r.2 = r.1.own

/-- The cookie of a connection made through the proxy is held by one with the same client's
sink, and that of another connection is not held by one made through the proxy with another
sink. -/
def Current (live : List Connection) (c : Connection) : Prop :=
  match c.client with
  | some sink => clientOf live c.cookie = some sink
  | none => ∀ sink, clientOf live c.cookie = some sink → sink = c.sink

/-- What a `Next` fetches is current. -/
def FetchesCurrent (s : Subscriptions) : SubscriptionStep → Prop
  | .next i cConnections rgcd pcFetched fetched =>
    ∀ e, s.enumerators[i]? = some e →
      ∀ c ∈ fetch s e cConnections rgcd pcFetched fetched, Current s.live c
  | _ => True

/-! ## The map and the connections -/

theorem clientOf_append {live : List Connection} {c : Connection}
    (hfresh : c.cookie ∉ cookies live) (dwCookie : DWORD) :
    clientOf (live ++ [c]) dwCookie =
      if dwCookie = c.cookie then c.client else clientOf live dwCookie := by
  unfold clientOf
  rw [List.find?_append]
  by_cases hcookie : dwCookie = c.cookie
  · have hnone : live.find? (fun d => d.cookie = dwCookie) = none := by
      rw [List.find?_eq_none]
      intro d hd heq
      exact hfresh (List.mem_map.mpr ⟨d, hd, (of_decide_eq_true heq).trans hcookie⟩)
    rw [hnone, if_pos hcookie]
    simp [hcookie]
  · rw [if_neg hcookie]
    simp [Ne.symm hcookie]

theorem clientOf_filter (live : List Connection) (ended dwCookie : DWORD) :
    clientOf (live.filter fun c => c.cookie ≠ ended) dwCookie =
      if dwCookie = ended then none else clientOf live dwCookie := by
  unfold clientOf
  rw [List.find?_filter]
  by_cases hcookie : dwCookie = ended
  · rw [if_pos hcookie, List.find?_eq_none.mpr, Option.bind_none]
    intro c _
    simp [hcookie]
  · rw [if_neg hcookie]
    congr 2
    funext c
    by_cases hc : c.cookie = dwCookie
    · simp [hc, hcookie]
    · simp [hc]

theorem clientOf_eq_none {live : List Connection} {dwCookie : DWORD}
    (hfresh : dwCookie ∉ cookies live) : clientOf live dwCookie = none := by
  unfold clientOf
  rw [List.find?_eq_none.mpr, Option.bind_none]
  intro c hc heq
  exact hfresh (List.mem_map.mpr ⟨c, hc, of_decide_eq_true heq⟩)

theorem clientOf_of_mem {live : List Connection} (hnodup : (cookies live).Nodup) {c : Connection}
    (hc : c ∈ live) : clientOf live c.cookie = c.client := by
  induction live with
  | nil => simp at hc
  | cons d rest ih =>
      rw [cookies, List.map_cons, List.nodup_cons] at hnodup
      unfold clientOf
      rw [List.find?_cons]
      rcases List.mem_cons.mp hc with rfl | hrest
      · simp
      · have hne : d.cookie ≠ c.cookie := by
          intro heq
          exact hnodup.1 (heq ▸ List.mem_map_of_mem hrest)
        simp only [hne, decide_false]
        exact ih hnodup.2 hrest

/-- The underlying connection point holds a wrapper for each connection made through the
proxy. -/
def Wrapped (c : Connection) : Prop := ∀ sink, c.client = some sink → c.sink = .hostEventSink sink

/-- The proxy's map has the live connections that were made through it, and no others. -/
structure Inv (s : Subscriptions) : Prop where
  find_eq : ∀ dwCookie, UnorderedMap.find s.proxy.underlyingConnections dwCookie =
    clientOf s.live dwCookie
  nodup : (cookies s.live).Nodup
  wrapped : ∀ c ∈ s.live, Wrapped c
  snapshots : ∀ e ∈ s.enumerators, ∀ items, e.snapshot = some items → ∀ c ∈ items, Wrapped c

theorem init_inv : Inv {} :=
  ⟨fun _ => rfl, List.nodup_nil, fun c hc => by simp at hc, fun e he => by simp at he⟩

theorem Inv.connect {s : Subscriptions} (hinv : Inv s) {c : Connection}
    (hfresh : c.cookie ∉ cookies s.live) (hwrapped : Wrapped c) {proxy : AdvisedConnections}
    (hfind : ∀ dwCookie, UnorderedMap.find proxy.underlyingConnections dwCookie =
      if dwCookie = c.cookie then c.client
      else UnorderedMap.find s.proxy.underlyingConnections dwCookie) :
    Inv { s with proxy := proxy, live := s.live ++ [c] } := by
  refine ⟨fun dwCookie => ?_, ?_, fun d hd => ?_, hinv.snapshots⟩
  · rw [hfind, clientOf_append hfresh, hinv.find_eq]
  · have hnodup := hinv.nodup
    unfold cookies at hfresh hnodup ⊢
    rw [List.map_append, List.map_singleton]
    exact hnodup.append (List.nodup_singleton _) (List.disjoint_singleton.mpr hfresh)
  · rcases List.mem_append.mp hd with hlive | hnew
    · exact hinv.wrapped d hlive
    · exact List.mem_singleton.mp hnew ▸ hwrapped

theorem Inv.disconnect {s : Subscriptions} (hinv : Inv s) {ended : DWORD}
    {proxy : AdvisedConnections}
    (hfind : ∀ dwCookie, UnorderedMap.find proxy.underlyingConnections dwCookie =
      if dwCookie = ended then none
      else UnorderedMap.find s.proxy.underlyingConnections dwCookie) :
    Inv { s with proxy := proxy, live := s.live.filter fun c => c.cookie ≠ ended } := by
  refine ⟨fun dwCookie => ?_, ?_, fun c hc => ?_, hinv.snapshots⟩
  · rw [hfind, clientOf_filter, hinv.find_eq]
  · exact hinv.nodup.sublist (List.filter_sublist.map Connection.cookie)
  · exact hinv.wrapped c (List.mem_of_mem_filter hc)

/-- An enumerator that moves, or a new one, has what it had. -/
theorem Inv.enumerate {s : Subscriptions} (hinv : Inv s) {enumerators : List ConnectionEnum}
    (hsnapshots : ∀ e ∈ enumerators, ∀ items, e.snapshot = some items → ∀ c ∈ items, Wrapped c)
    (returned : List (Connection × Sink)) :
    Inv { s with enumerators := enumerators, returned := returned } :=
  ⟨hinv.find_eq, hinv.nodup, hinv.wrapped, hsnapshots⟩

theorem Inv.move {s : Subscriptions} (hinv : Inv s) {i : Nat} {e : ConnectionEnum}
    (he : s.enumerators[i]? = some e) (position : Nat) (returned : List (Connection × Sink)) :
    Inv { s with
      enumerators := s.enumerators.set i { e with position := position }
      returned := returned } := by
  refine hinv.enumerate (fun e' he' => ?_) returned
  rcases List.mem_or_eq_of_mem_set he' with hold | rfl
  · exact hinv.snapshots e' hold
  · exact hinv.snapshots e (List.mem_of_getElem? he)

/-- What a step comes to: nothing, a new connection, an ended one, a new enumerator, or one that
has moved.  Only `Next` returns sinks. -/
inductive Change (s : Subscriptions) (a : SubscriptionStep) : Subscriptions → Prop
  | unchanged : Change s a s
  | connects (c : Connection) (proxy : AdvisedConnections) (hfresh : c.cookie ∉ cookies s.live)
      (hwrapped : Wrapped c)
      (hfind : ∀ d, UnorderedMap.find proxy.underlyingConnections d = if d = c.cookie then c.client
        else UnorderedMap.find s.proxy.underlyingConnections d) :
      Change s a { s with proxy := proxy, live := s.live ++ [c] }
  | disconnects (ended : DWORD) (proxy : AdvisedConnections)
      (hfind : ∀ d, UnorderedMap.find proxy.underlyingConnections d = if d = ended then none
        else UnorderedMap.find s.proxy.underlyingConnections d) :
      Change s a { s with proxy := proxy, live := s.live.filter fun c => c.cookie ≠ ended }
  | enumerates (e : ConnectionEnum) (he : ∀ items, e.snapshot = some items → items = s.live) :
      Change s a { s with enumerators := s.enumerators ++ [e] }
  | moves (i : Nat) (e : ConnectionEnum) (position : Nat) (returned : List (Connection × Sink))
      (he : s.enumerators[i]? = some e)
      (hreturned : (∀ n r f k, a ≠ .next i n r f k) → returned = s.returned) :
      Change s a { s with
        enumerators := s.enumerators.set i { e with position := position }
        returned := returned }

theorem step_cases {s s' : Subscriptions} {a : SubscriptionStep} (hinv : Inv s)
    (hstep : step s a = some s') : Change s a s' := by
  cases a with
  | advise pUnkSink pdwCookie hr dwCookie =>
      cases pUnkSink with
      | none =>
          obtain rfl := Option.some.inj hstep
          exact .unchanged
      | some sink =>
          rw [step] at hstep
          split_ifs at hstep with hnone hlive
          · obtain rfl := Option.some.inj hstep
            rw [AdvisedConnections.advise_of_failed _ sink dwCookie hnone]
            exact .unchanged
          · obtain rfl := Option.some.inj hstep
            rw [AdvisedConnections.advise_of_succeeded _ sink dwCookie hnone]
            refine .connects _ _ hlive (fun w hw => by rw [Option.some.inj hw]) fun d => ?_
            have hfree := (hinv.find_eq dwCookie).trans (clientOf_eq_none hlive)
            rw [UnorderedMap.find_emplace]
            simp [hfree]
  | unadvise dwCookie hr =>
      simp only [step, AdvisedConnections.unadvise] at hstep
      cases hfailed : failed hr with
      | true =>
          simp only [hfailed, if_true] at hstep
          obtain rfl := Option.some.inj hstep
          exact .unchanged
      | false =>
          simp only [hfailed, Bool.false_eq_true, if_false] at hstep
          obtain rfl := Option.some.inj hstep
          exact .disconnects dwCookie _ fun d => UnorderedMap.find_erase _ _ _
  | adviseDirect sink dwCookie =>
      simp only [step] at hstep
      split_ifs at hstep with hlive
      obtain rfl := Option.some.inj hstep
      refine .connects _ s.proxy hlive (fun w hw => by simp at hw) fun d => ?_
      have hfree := (hinv.find_eq dwCookie).trans (clientOf_eq_none hlive)
      split_ifs with hd
      · exact hd ▸ hfree
      · rfl
  | unadviseDirect dwCookie =>
      simp only [step] at hstep
      split_ifs at hstep with hdirect
      obtain rfl := Option.some.inj hstep
      refine .disconnects dwCookie s.proxy fun d => ?_
      split_ifs with hd
      · exact hd ▸ (hinv.find_eq dwCookie).trans hdirect
      · rfl
  | enumConnections snapshot =>
      obtain rfl := Option.some.inj hstep
      refine .enumerates _ fun items hitems => ?_
      cases snapshot with
      | false => simp at hitems
      | true => exact (Option.some.inj hitems).symm
  | next i cConnections rgcd pcFetched fetched =>
      simp only [step] at hstep
      split at hstep
      · simp at hstep
      · next e he =>
        split_ifs at hstep
        obtain rfl := Option.some.inj hstep
        exact .moves i e _ _ he
          fun hother => absurd rfl (hother cConnections rgcd pcFetched fetched)
  | skip i cConnections =>
      simp only [step] at hstep
      split at hstep
      · simp at hstep
      · next e he =>
        obtain rfl := Option.some.inj hstep
        exact .moves i e _ s.returned he fun _ => rfl
  | reset i =>
      simp only [step] at hstep
      split at hstep
      · simp at hstep
      · next e he =>
        obtain rfl := Option.some.inj hstep
        exact .moves i e _ s.returned he fun _ => rfl

theorem step_inv {s s' : Subscriptions} {a : SubscriptionStep} (hinv : Inv s)
    (hstep : step s a = some s') : Inv s' := by
  cases step_cases hinv hstep with
  | unchanged => exact hinv
  | connects c proxy hfresh hwrapped hfind => exact hinv.connect hfresh hwrapped hfind
  | disconnects ended proxy hfind => exact hinv.disconnect hfind
  | enumerates e he =>
      refine hinv.enumerate (fun e' he' items hitems => ?_) s.returned
      rcases List.mem_append.mp he' with hold | hnew
      · exact hinv.snapshots e' hold items hitems
      · obtain rfl := List.mem_singleton.mp hnew
        exact he items hitems ▸ hinv.wrapped
  | moves i e position returned he hreturned => exact hinv.move he position returned

/-! ## What `Next` returns -/

theorem hostEventSink_ne (sink : Sink) : Sink.hostEventSink sink ≠ sink := by
  intro heq
  have hsize := congrArg sizeOf heq
  simp at hsize

/-- The sink that `Next` puts in an element is that of its connection exactly when the
connection is current. -/
theorem replaced_eq_own_iff {s : Subscriptions} (hinv : Inv s) {c : Connection}
    (hwrapped : Wrapped c) : HostConnectionPoint.replaced s.proxy.underlyingConnections c.cookie
      c.sink = c.own ↔ Current s.live c := by
  unfold HostConnectionPoint.replaced Connection.own Current
  rw [hinv.find_eq]
  cases hclient : c.client with
  | some sink =>
      have hsink : c.sink = .hostEventSink sink := hwrapped sink hclient
      cases hholder : clientOf s.live c.cookie with
      | some holder => simp
      | none => simp [hsink, hostEventSink_ne]
  | none =>
      cases hholder : clientOf s.live c.cookie with
      | some holder => simp
      | none => simp

theorem current_of_mem {s : Subscriptions} (hinv : Inv s) {c : Connection} (hc : c ∈ s.live) :
    Current s.live c := by
  have hclient := clientOf_of_mem hinv.nodup hc
  unfold Current
  rw [hclient]
  cases c.client with
  | some sink => rfl
  | none => simp

theorem fetch_current {s : Subscriptions} (hinv : Inv s) {e : ConnectionEnum}
    (hview : e.snapshot = none) {cConnections : DWORD} {rgcd pcFetched : Bool} {fetched : Nat} :
    ∀ c ∈ fetch s e cConnections rgcd pcFetched fetched, Current s.live c := by
  intro c hc
  unfold fetch ConnectionEnum.items at hc
  split_ifs at hc
  · simp at hc
  · simp at hc
  · rw [hview] at hc
    exact current_of_mem hinv (List.mem_of_mem_drop (List.mem_of_mem_take hc))

theorem fetch_wrapped {s : Subscriptions} (hinv : Inv s) {i : Nat} {e : ConnectionEnum}
    (he : s.enumerators[i]? = some e) {cConnections : DWORD} {rgcd pcFetched : Bool}
    {fetched : Nat} : ∀ c ∈ fetch s e cConnections rgcd pcFetched fetched, Wrapped c := by
  intro c hc
  have hitem : c ∈ e.items s.live := by
    unfold fetch at hc
    split_ifs at hc
    · simp at hc
    · simp at hc
    · exact List.mem_of_mem_drop (List.mem_of_mem_take hc)
  unfold ConnectionEnum.items at hitem
  cases hsnapshot : e.snapshot with
  | none => exact hinv.wrapped c (by simpa [hsnapshot] using hitem)
  | some items =>
      exact hinv.snapshots e (List.mem_of_getElem? he) items hsnapshot c
        (by simpa [hsnapshot] using hitem)

theorem returned_of_step {s s' : Subscriptions} {a : SubscriptionStep} (hinv : Inv s)
    (hstep : step s a = some s') (hother : ∀ i n r f k, a ≠ .next i n r f k) :
    s'.returned = s.returned := by
  cases step_cases hinv hstep with
  | moves i e position returned he hreturned => exact hreturned (hother i)
  | _ => rfl

theorem step_faithful_iff {s s' : Subscriptions} {a : SubscriptionStep} (hinv : Inv s)
    (hfaithful : Faithful s) (hstep : step s a = some s') :
    Faithful s' ↔ FetchesCurrent s a := by
  by_cases hnext : ∃ i n r f k, a = .next i n r f k
  · obtain ⟨i, cConnections, rgcd, pcFetched, fetched, rfl⟩ := hnext
    simp only [step] at hstep
    split at hstep
    · simp at hstep
    · next e he =>
      split_ifs at hstep
      obtain rfl := Option.some.inj hstep
      have hentry : ∀ c ∈ fetch s e cConnections rgcd pcFetched fetched,
          (HostConnectionPoint.replaced s.proxy.underlyingConnections c.cookie c.sink = c.own ↔
            Current s.live c) :=
        fun c hc => replaced_eq_own_iff hinv (fetch_wrapped hinv he c hc)
      unfold Faithful FetchesCurrent
      constructor
      · intro hall e' he' c hc
        obtain rfl : e = e' := Option.some.inj (he.symm.trans he')
        exact (hentry c hc).mp (hall _ (List.mem_append_left _ (List.mem_map_of_mem hc)))
      · intro hcurrent r hr
        rcases List.mem_append.mp hr with hnew | hold
        · obtain ⟨c, hc, rfl⟩ := List.mem_map.mp hnew
          exact (hentry c hc).mpr (hcurrent e he c hc)
        · exact hfaithful r hold
  · have hother : ∀ i n r f k, a ≠ .next i n r f k := fun i n r f k ha =>
      hnext ⟨i, n, r, f, k, ha⟩
    have htrivial : FetchesCurrent s a := by
      cases a <;> first | exact trivial | exact absurd rfl (hother _ _ _ _ _)
    refine iff_of_true ?_ htrivial
    unfold Faithful
    rw [returned_of_step hinv hstep hother]
    exact hfaithful

theorem reachable_inv {s : Subscriptions} (hreach : system.Reachable s) : Inv s := by
  refine hreach.induct ?_ ?_
  · rintro _ rfl
    exact init_inv
  · intro s a s' _ hinv hstep
    exact step_inv hinv hstep

theorem fetchesCurrent_of_live {s : Subscriptions} (hreach : system.Reachable s) {i : Nat}
    (hview : ∀ e, s.enumerators[i]? = some e → e.snapshot = none) (cConnections : DWORD)
    (rgcd pcFetched : Bool) (fetched : Nat) :
    FetchesCurrent s (.next i cConnections rgcd pcFetched fetched) :=
  fun e he => fetch_current (reachable_inv hreach) (hview e he)

/-- Along a run, `Next` always returns the sinks of the connections it enumerates exactly when
it always fetches current ones. -/
theorem returned_iff {s u : Subscriptions} {trace : List (Subscriptions × SubscriptionStep)}
    (hinit : system.init s) (hrun : system.Run s trace u) :
    (∀ x ∈ System.visited trace u, Faithful x) ↔ ∀ v ∈ trace, FetchesCurrent v.1 v.2 := by
  obtain rfl : s = {} := hinit
  refine hrun.visited_iff (I := Inv) (P := Faithful) (C := FetchesCurrent)
    (fun _ _ _ hinv hstep => step_inv hinv hstep)
    (fun _ _ _ hinv hfaithful hstep => step_faithful_iff hinv hfaithful hstep) init_inv ?_
  intro r hr
  simp at hr

/-- A client advises, another party does so directly, and a live view is enumerated. -/
theorem returned_iff_live : ∃ trace u, system.Run {} trace u ∧ u.returned ≠ [] ∧
    ((∀ x ∈ System.visited trace u, Faithful x) ↔ ∀ v ∈ trace, FetchesCurrent v.1 v.2) := by
  have hexec : system.exec {} [.advise (some (.object 1)) true S_OK 1,
      .adviseDirect (.object 2) 2, .enumConnections false, .next 0 2 true true 2] = some
        { live := [⟨1, .hostEventSink (.object 1), some (.object 1)⟩, ⟨2, .object 2, none⟩]
          proxy := ⟨[(1, .hostEventSink (.object 1))], [(1, .object 1)]⟩
          enumerators := [⟨none, 2⟩]
          returned := [(⟨1, .hostEventSink (.object 1), some (.object 1)⟩, .object 1),
            (⟨2, .object 2, none⟩, .object 2)] } := by decide
  obtain ⟨trace, -, hrun⟩ := System.run_of_exec hexec
  exact ⟨trace, _, hrun, by simp, returned_iff rfl hrun⟩

/-- An enumerator that took a snapshot hands out the wrapper of a connection that has ended
since. -/
theorem not_returned_snapshot : ¬ ∀ s trace u, system.init s → system.Run s trace u →
    Faithful u := by
  intro hall
  have hexec : system.exec {} [.advise (some (.object 1)) true S_OK 1, .enumConnections true,
      .unadvise 1 S_OK, .next 0 1 true true 1] = some
        { enumerators :=
            [⟨some [⟨1, .hostEventSink (.object 1), some (.object 1)⟩], 1⟩]
          returned := [(⟨1, .hostEventSink (.object 1), some (.object 1)⟩,
            .hostEventSink (.object 1))] } := by decide
  obtain ⟨trace, -, hrun⟩ := System.run_of_exec hexec
  have hfaithful := hall {} trace _ rfl hrun
  exact absurd (hfaithful _ List.mem_cons_self) (by decide)

end Subscriptions

end Axhost
