import Axhost.Events.Connections

/-!
# Which sinks `Advise` accepts

A connection point takes a sink when the sink has the interface that the events are called
through.  `HostConnectionPoint::Advise` gives it a `HostEventSink` in the place of the client's
sink, whose `QueryInterface` is that of `CUnknownImpl<IDispatch>`.

* `UnderlyingConnectionPoint.advised_iff`: when the proxy accepts what the control's own
  connection point accepts;
* `UnderlyingConnectionPoint.not_advised_dispinterface`: a sink that only the latter accepts.
-/

namespace Axhost

/-- `CUnknownImpl<Derived>::QueryInterface`, with the interface whose pointer it hands out. -/
def CUnknownImpl.queryInterface (derived riid : IID) (ppv : Bool) : HRESULT × Option IID :=
  if ppv = false then (E_POINTER, none)
  else if riid = IID_IUnknown then (S_OK, some IID_IUnknown)
  else if riid = derived then (S_OK, some derived)
  else (E_NOINTERFACE, none)

theorem CUnknownImpl.queryInterface_succeeds (derived riid : IID) :
    failed (CUnknownImpl.queryInterface derived riid true).1 = false ↔
      riid = IID_IUnknown ∨ riid = derived := by
  unfold CUnknownImpl.queryInterface
  rw [if_neg (by simp)]
  split_ifs with hunknown hderived
  · exact iff_of_true failed_S_OK (Or.inl hunknown)
  · exact iff_of_true failed_S_OK (Or.inr hderived)
  · refine iff_of_false ?_ (by simp [hunknown, hderived])
    show ¬ failed E_NOINTERFACE = false
    decide

/-- What a client's sink answers to `QueryInterface`; it has `IDispatch`. -/
structure ClientSink where
  queryInterface : IID → HRESULT
  unknown : failed (queryInterface IID_IUnknown) = false
  dispatch : failed (queryInterface IID_IDispatch) = false

namespace Sink

/-- `QueryInterface` of a sink.  What the constructor of `HostEventSink` finds out about the
wrapped one has no part in it. -/
def queryInterface (client : Nat → ClientSink) : Sink → IID → HRESULT
  | object a, riid => (client a).queryInterface riid
  | hostEventSink _, riid => (CUnknownImpl.queryInterface IID_IDispatch riid true).1

end Sink

/-- A connection point of the control: its interface, and an `Advise` that gives a cookie to the
sinks that have it. -/
structure UnderlyingConnectionPoint (client : Nat → ClientSink) where
  iid : IID
  advise : Sink → HRESULT × DWORD
  accepts : ∀ sink, failed (advise sink).1 = failed (sink.queryInterface client iid)

namespace UnderlyingConnectionPoint

variable {client : Nat → ClientSink}

/-- `HostConnectionPoint::Advise` on the proxy of this connection point. -/
def hostAdvise (point : UnderlyingConnectionPoint client) (p : AdvisedConnections)
    (pUnkSink : Option Sink) (pdwCookie : Bool) : HRESULT × AdvisedConnections :=
  match pUnkSink with
  | none => (E_INVALIDARG, p)
  | some sink =>
    if pdwCookie = false then (E_INVALIDARG, p)
    else
      let proxy := Sink.hostEventSink sink
      let qry := proxy.queryInterface client IID_IUnknown
      if failed qry then (qry, p)
      else
        let (hr, dwCookie) := point.advise proxy
        if failed hr then (hr, p)
        else (hr,
          { connections := UnorderedMap.emplace p.connections dwCookie proxy
            underlyingConnections := UnorderedMap.emplace p.underlyingConnections dwCookie sink })

theorem hostAdvise_eq (point : UnderlyingConnectionPoint client) (p : AdvisedConnections)
    (sink : Sink) (pdwCookie : Bool) :
    point.hostAdvise p (some sink) pdwCookie =
      p.advise (some sink) pdwCookie (point.advise (.hostEventSink sink)).1
        (point.advise (.hostEventSink sink)).2 := by
  -- the source asks the sink it has just made for `IUnknown`, which that never refuses
  have hqry : failed ((Sink.hostEventSink sink).queryInterface client IID_IUnknown) = false :=
    (CUnknownImpl.queryInterface_succeeds IID_IDispatch IID_IUnknown).mpr (Or.inl rfl)
  unfold hostAdvise AdvisedConnections.advise
  simp [hqry]

theorem hostAdvise_fst (point : UnderlyingConnectionPoint client) (p : AdvisedConnections)
    (sink : Sink) :
    (point.hostAdvise p (some sink) true).1 = (point.advise (.hostEventSink sink)).1 := by
  rw [hostAdvise_eq]
  unfold AdvisedConnections.advise
  dsimp only
  rw [if_neg (by simp)]
  split
  · rfl
  · rfl

theorem hostAdvise_succeeds (point : UnderlyingConnectionPoint client) (p : AdvisedConnections)
    (sink : Sink) : failed (point.hostAdvise p (some sink) true).1 = false ↔
      point.iid = IID_IUnknown ∨ point.iid = IID_IDispatch := by
  rw [hostAdvise_fst, point.accepts]
  exact CUnknownImpl.queryInterface_succeeds IID_IDispatch point.iid

/-- When advising a client's sink through the proxy succeeds just as it would directly. -/
theorem advised_iff (point : UnderlyingConnectionPoint client) (p : AdvisedConnections) (a : Nat) :
    (failed (point.hostAdvise p (some (.object a)) true).1 = false ↔
        failed (point.advise (.object a)).1 = false) ↔
      point.iid = IID_IUnknown ∨ point.iid = IID_IDispatch ∨
        failed ((client a).queryInterface point.iid) = true := by
  rw [hostAdvise_succeeds, point.accepts]
  show (_ ↔ failed ((client a).queryInterface point.iid) = false) ↔ _
  by_cases hunknown : point.iid = IID_IUnknown
  · simp [hunknown, (client a).unknown]
  · by_cases hdispatch : point.iid = IID_IDispatch
    · simp [hdispatch, (client a).dispatch]
    · simp [hunknown, hdispatch]

/-- Every client answers for `IUnknown`, `IDispatch` and one more interface. -/
def dispinterfaceClient (iid : IID) : ClientSink where
  queryInterface riid :=
    if riid = IID_IUnknown ∨ riid = IID_IDispatch ∨ riid = iid then S_OK else E_NOINTERFACE
  unknown := by rw [if_pos (Or.inl rfl)]; decide
  dispatch := by rw [if_pos (Or.inr (Or.inl rfl))]; decide

def ofInterface (client : Nat → ClientSink) (iid : IID) (cookie : DWORD) :
    UnderlyingConnectionPoint client where
  iid := iid
  advise sink := (sink.queryInterface client iid, cookie)
  accepts _ := rfl

/-- `DWebBrowserEvents2`. -/
def DIID_DWebBrowserEvents2 : IID := 0x34A715A0658711D0924A0020AFC7AC4D

/-- The sink has the interface of the events, and the proxy does not accept it. -/
theorem not_advised_dispinterface :
    failed ((ofInterface (fun _ => dispinterfaceClient DIID_DWebBrowserEvents2)
      DIID_DWebBrowserEvents2 1).hostAdvise {} (some (.object 0)) true).1 = true ∧
      failed ((ofInterface (fun _ => dispinterfaceClient DIID_DWebBrowserEvents2)
        DIID_DWebBrowserEvents2 1).advise (.object 0)).1 = false := by
  decide

end UnderlyingConnectionPoint

end Axhost
