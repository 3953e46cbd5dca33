import Axhost.Lib.Transition
import Axhost.Platform.Windows

/-!
# An event on its way to the client

`sink.cc`.  `HostEventSink::Invoke` starts a task on the shared thread pool and waits for
an event; the task, `InvokeInThread`, looks the sink up in the global interface table,
calls it, and sets the event.  The two meet in nothing else until the result is read, so a
task that ends without setting the event leaves the caller waiting.

* `Invocation.released_iff`: when the call is released with the result of its worker;
* `Invocation.outlivesWorker_iff`: when the call does not return before its worker has finished.
-/

namespace Axhost

open Transition

def WAIT_OBJECT_0 : DWORD := 0

/-- `HostEventSink::Invoke`: in its wait loop, in `res.result()`, or returned. -/
inductive InvokeCaller
  | waiting
  | result
  | returned (hr : HRESULT)
deriving DecidableEq, Repr

/-- `InvokeInThread`, by what it does next. -/
inductive InvokeWorker
  | queued
  | lookup
  | invoke
  | setEvent (hr : HRESULT)
  | finish (hr : HRESULT)
  | finished (hr : HRESULT)
deriving DecidableEq, Repr

structure Invocation where
  caller : InvokeCaller := .waiting
  worker : InvokeWorker := .queued
  event : Bool := false
deriving DecidableEq, Repr

/-- The next thing to happen, with the outcome of the call it makes or the result it passes
on. -/
inductive InvokeStep
  | start
  | getInterfaceFromGlobal (hr : HRESULT) (sink : Bool)
  | sinkInvoke (hr : HRESULT)
  | setEvent (hr : HRESULT)
  | finish (hr : HRESULT)
  | coWaitForMultipleHandles (hr : HRESULT) (index : DWORD)
  | result (hr : HRESULT)
deriving DecidableEq, Repr

structure HostEventSink where
  cookie : DWORD
deriving DecidableEq, Repr

/-- `Invoke` up to its wait loop; `hEvent` says whether the event could be created. -/
def HostEventSink.invoke (sink : HostEventSink) (riid : IID) (hEvent : Bool) :
    Except HRESULT Invocation :=
  if riid ≠ IID_NULL then .error DISP_E_UNKNOWNINTERFACE
  else if sink.cookie = 0 then .error E_UNEXPECTED
  else if hEvent = false then .error E_FAIL
  else .ok {}

namespace Invocation

/-- What `InvokeInThread` does after its lookup. -/
def afterLookup (hr : HRESULT) (sink : Bool) : InvokeWorker :=
  if failed hr then .finished hr
  else if sink = false then .finished E_UNEXPECTED
  else .invoke

/-- What the loop does with a result of `CoWaitForMultipleHandles`.  The event resets itself
when the wait is satisfied by it. -/
def afterWait (s : Invocation) (hr : HRESULT) (index : DWORD) : Option Invocation :=
  if failed hr then some { s with caller := .returned hr }
  else if index = WAIT_OBJECT_0 then
    if s.event then some { s with caller := .result, event := false } else none
  else some s

def step (s : Invocation) : InvokeStep → Option Invocation
  | .start => if s.worker = .queued then some { s with worker := .lookup } else none
  | .getInterfaceFromGlobal hr sink =>
    if s.worker = .lookup then some { s with worker := afterLookup hr sink } else none
  | .sinkInvoke hr => if s.worker = .invoke then some { s with worker := .setEvent hr } else none
  | .setEvent hr =>
    if s.worker = .setEvent hr then some { s with worker := .finish hr, event := true } else none
  | .finish hr => if s.worker = .finish hr then some { s with worker := .finished hr } else none
  | .coWaitForMultipleHandles hr index =>
    if s.caller = .waiting then s.afterWait hr index else none
  | .result hr =>
    if s.caller = .result ∧ s.worker = .finished hr then some { s with caller := .returned hr }
    else none

def system : System Invocation InvokeStep where
  init s := s = {}
  step := step

/-- The worker is done, and nothing will ever set the event the caller waits for. -/
def Stuck (s : Invocation) : Prop :=
  s.caller = .waiting ∧ (∃ hr, s.worker = .finished hr) ∧ s.event = false

/-- The call can go on to return what its worker returned. -/
def Answers (s : Invocation) : Prop :=
  ∃ steps t hr, system.exec s steps = some t ∧ t.caller = .returned hr ∧ t.worker = .finished hr

/-- The wait is released, and what is returned is the worker's result. -/
structure Released (s : Invocation) : Prop where
  not_stuck : ¬ s.Stuck
  result_eq : ∀ hr, s.caller = .returned hr → s.worker = .finished hr
  answers : s.Answers

/-- The lookup succeeds and gives a sink, and no wait fails (with another code than the
worker has finished with). -/
def FindsSink (s : Invocation) : InvokeStep → Prop
  | .getInterfaceFromGlobal hr sink => failed hr = false ∧ sink = true
  | .coWaitForMultipleHandles hr _ => failed hr = true → s.worker = .finished hr
  | _ => True

/-! ## What a step keeps -/

/-- The event is set by a worker that has called its sink, and only the caller resets it. -/
structure Inv (s : Invocation) : Prop where
  worker_of_event : s.event = true → ∃ hr, s.worker = .finish hr ∨ s.worker = .finished hr
  worker_of_result : s.caller = .result → ∃ hr, s.worker = .finish hr ∨ s.worker = .finished hr
  event_of_finish : ∀ hr, s.caller = .waiting → s.worker = .finish hr → s.event = true

theorem init_inv : Inv {} where
  worker_of_event h := absurd h (by decide)
  worker_of_result h := absurd h (by decide)
  event_of_finish _ _ h := absurd h (by simp)

theorem afterLookup_ne_finish (hr hr' : HRESULT) (sink : Bool) :
    afterLookup hr sink ≠ .finish hr' := by
  unfold afterLookup
  split_ifs <;> simp

theorem afterLookup_finished_iff (hr : HRESULT) (sink : Bool) :
    (∃ hr', afterLookup hr sink = .finished hr') ↔ ¬ (failed hr = false ∧ sink = true) := by
  unfold afterLookup
  split_ifs with hfailed hsink
  · simp [hfailed]
  · simp [hsink]
  · simp [hfailed, hsink]

/-- The three ways out of a wait: it fails, it is satisfied by the event, or it is not. -/
theorem afterWait_cases {s t : Invocation} {hr : HRESULT} {index : DWORD}
    (h : s.afterWait hr index = some t) :
    (failed hr = true ∧ t = { s with caller := .returned hr }) ∨
    (failed hr = false ∧ s.event = true ∧ t = { s with caller := .result, event := false }) ∨
    (failed hr = false ∧ t = s) := by
  unfold afterWait at h
  split_ifs at h with hfailed hindex hevent
  · exact Or.inl ⟨hfailed, (Option.some.inj h).symm⟩
  · exact Or.inr (Or.inl ⟨by simpa using hfailed, hevent, (Option.some.inj h).symm⟩)
  · exact Or.inr (Or.inr ⟨by simpa using hfailed, (Option.some.inj h).symm⟩)

theorem step_inv {s t : Invocation} {a : InvokeStep} (hinv : Inv s) (h : s.step a = some t) :
    Inv t := by
  obtain ⟨hevent, hresult, hfinish⟩ := hinv
  cases a with
  | start =>
      simp only [step, Option.ite_none_right_eq_some, Option.some.injEq] at h
      obtain ⟨hw, rfl⟩ := h
      constructor <;> simp_all
  | getInterfaceFromGlobal hr sink =>
      simp only [step, Option.ite_none_right_eq_some, Option.some.injEq] at h
      obtain ⟨hw, rfl⟩ := h
      constructor
      · simp_all
      · simp_all
      · intro hr' _ hfinish'
        exact absurd hfinish' (afterLookup_ne_finish hr hr' sink)
  | sinkInvoke hr =>
      simp only [step, Option.ite_none_right_eq_some, Option.some.injEq] at h
      obtain ⟨hw, rfl⟩ := h
      constructor <;> simp_all
  | setEvent hr =>
      simp only [step, Option.ite_none_right_eq_some, Option.some.injEq] at h
      obtain ⟨hw, rfl⟩ := h
      constructor <;> simp
  | finish hr =>
      simp only [step, Option.ite_none_right_eq_some, Option.some.injEq] at h
      obtain ⟨hw, rfl⟩ := h
      constructor <;> simp_all
  | coWaitForMultipleHandles hr index =>
      obtain ⟨hcaller, hwait⟩ := Option.ite_none_right_eq_some.mp h
      rcases afterWait_cases hwait with ⟨-, rfl⟩ | ⟨-, hset, rfl⟩ | ⟨-, rfl⟩
      · constructor <;> simp_all
      · constructor <;> simp_all
      · exact ⟨hevent, hresult, hfinish⟩
  | result hr =>
      simp only [step, Option.ite_none_right_eq_some, Option.some.injEq] at h
      obtain ⟨hw, rfl⟩ := h
      constructor <;> simp_all

/-! ## The wait is released -/

theorem answers_of_step {s t : Invocation} (a : InvokeStep) (h : s.step a = some t)
    (ht : t.Answers) : s.Answers := by
  obtain ⟨steps, u, hr, hexec, hcaller, hworker⟩ := ht
  exact ⟨a :: steps, u, hr, (System.exec_cons (S := system) h steps).trans hexec, hcaller, hworker⟩

theorem answers_of_result (hr : HRESULT) (event : Bool) :
    Answers ⟨.result, .finished hr, event⟩ :=
  ⟨[.result hr], ⟨.returned hr, .finished hr, event⟩, hr, by simp [System.exec, system, step],
    rfl, rfl⟩

theorem answers_of_signaled (hr : HRESULT) : Answers ⟨.waiting, .finished hr, true⟩ :=
  answers_of_step (.coWaitForMultipleHandles S_OK WAIT_OBJECT_0)
    (by simp [step, afterWait, failed_S_OK]) (answers_of_result hr false)

/-- A worker that is on its way to the sink, or past it, answers in the end. -/
theorem answers_of_not_stuck {s : Invocation} (hinv : Inv s) (hstuck : ¬ s.Stuck)
    (hreturned : ∀ hr, s.caller = .returned hr → s.worker = .finished hr) : s.Answers := by
  obtain ⟨caller, worker, event⟩ := s
  cases caller with
  | returned hr => exact ⟨[], _, hr, rfl, rfl, hreturned hr rfl⟩
  | result =>
      obtain ⟨hr, hfinish | hfinished⟩ := hinv.worker_of_result rfl
      · obtain rfl : worker = .finish hr := hfinish
        exact answers_of_step (.finish hr) (by simp [step]) (answers_of_result hr event)
      · obtain rfl : worker = .finished hr := hfinished
        exact answers_of_result hr event
  | waiting =>
      have hfinish (hr : HRESULT) : Answers ⟨.waiting, .finish hr, true⟩ :=
        answers_of_step (.finish hr) (by simp [step]) (answers_of_signaled hr)
      have hset (hr : HRESULT) (event : Bool) : Answers ⟨.waiting, .setEvent hr, event⟩ :=
        answers_of_step (.setEvent hr) (by simp [step]) (hfinish hr)
      have hinvoke (event : Bool) : Answers ⟨.waiting, .invoke, event⟩ :=
        answers_of_step (.sinkInvoke S_OK) (by simp [step]) (hset S_OK event)
      have hlookup (event : Bool) : Answers ⟨.waiting, .lookup, event⟩ :=
        answers_of_step (.getInterfaceFromGlobal S_OK true)
          (by simp [step, afterLookup, failed_S_OK]) (hinvoke event)
      cases worker with
      | queued => exact answers_of_step .start (by simp [step]) (hlookup event)
      | lookup => exact hlookup event
      | invoke => exact hinvoke event
      | setEvent hr => exact hset hr event
      | finish hr =>
          obtain rfl : event = true := hinv.event_of_finish hr rfl rfl
          exact hfinish hr
      | finished hr =>
          cases event with
          | true => exact answers_of_signaled hr
          | false => exact absurd ⟨rfl, ⟨hr, rfl⟩, rfl⟩ hstuck

theorem released_iff_not_stuck {s : Invocation} (hinv : Inv s) :
    s.Released ↔ ¬ s.Stuck ∧ ∀ hr, s.caller = .returned hr → s.worker = .finished hr := by
  constructor
  · intro h
    exact ⟨h.not_stuck, h.result_eq⟩
  · intro ⟨hstuck, hreturned⟩
    exact ⟨hstuck, hreturned, answers_of_not_stuck hinv hstuck hreturned⟩

theorem Inv.waiting_of_lookup {s : Invocation} (hinv : Inv s)
    (hreturned : ∀ hr, s.caller = .returned hr → s.worker = .finished hr)
    (hw : s.worker = .lookup) : s.caller = .waiting ∧ s.event = false := by
  constructor
  · cases hcaller : s.caller with
    | waiting => rfl
    | result =>
        obtain ⟨hr, hother⟩ := hinv.worker_of_result hcaller
        simp [hw] at hother
    | returned hr =>
        have hother := hreturned hr hcaller
        simp [hw] at hother
  · cases hevent : s.event with
    | false => rfl
    | true =>
        obtain ⟨hr, hother⟩ := hinv.worker_of_event hevent
        simp [hw] at hother

theorem step_released_iff {s t : Invocation} {a : InvokeStep} (hinv : Inv s)
    (hreleased : s.Released) (h : s.step a = some t) : t.Released ↔ s.FindsSink a := by
  rw [released_iff_not_stuck (step_inv hinv h)]
  obtain ⟨hstuck, hreturned, -⟩ := hreleased
  cases a with
  | start =>
      simp only [step, Option.ite_none_right_eq_some, Option.some.injEq] at h
      obtain ⟨hw, rfl⟩ := h
      simp_all [FindsSink, Stuck]
  | getInterfaceFromGlobal hr sink =>
      simp only [step, Option.ite_none_right_eq_some, Option.some.injEq] at h
      obtain ⟨hw, rfl⟩ := h
      obtain ⟨hcaller, hevent⟩ := hinv.waiting_of_lookup hreturned hw
      simp only [Stuck, FindsSink, hcaller, hevent, afterLookup_finished_iff]
      simp
  | sinkInvoke hr =>
      simp only [step, Option.ite_none_right_eq_some, Option.some.injEq] at h
      obtain ⟨hw, rfl⟩ := h
      simp_all [FindsSink, Stuck]
  | setEvent hr =>
      simp only [step, Option.ite_none_right_eq_some, Option.some.injEq] at h
      obtain ⟨hw, rfl⟩ := h
      simp_all [FindsSink, Stuck]
  | finish hr =>
      simp only [step, Option.ite_none_right_eq_some, Option.some.injEq] at h
      obtain ⟨hw, rfl⟩ := h
      have hevent : s.caller = .waiting → s.event = true := fun hcaller =>
        hinv.event_of_finish hr hcaller hw
      simp_all [FindsSink, Stuck]
  | coWaitForMultipleHandles hr index =>
      obtain ⟨hcaller, hwait⟩ := Option.ite_none_right_eq_some.mp h
      rcases afterWait_cases hwait with ⟨hfail, rfl⟩ | ⟨hok, hset, rfl⟩ | ⟨hok, rfl⟩
      · simp_all [FindsSink, Stuck]
      · simp_all [FindsSink, Stuck]
      · simp_all [FindsSink, Stuck]
  | result hr =>
      simp only [step, Option.ite_none_right_eq_some, Option.some.injEq] at h
      obtain ⟨hw, rfl⟩ := h
      simp_all [FindsSink, Stuck]

theorem init_released : Released {} := by
  refine (released_iff_not_stuck init_inv).mpr ⟨?_, ?_⟩
  · intro hstuck
    obtain ⟨hr, hworker⟩ := hstuck.2.1
    exact absurd hworker (by simp)
  · intro hr hcaller
    exact absurd hcaller (by simp)

theorem eq_of_invoke {sink : HostEventSink} {riid : IID} {hEvent : Bool} {first : Invocation}
    (h : sink.invoke riid hEvent = .ok first) : first = {} := by
  unfold HostEventSink.invoke at h
  split_ifs at h
  exact (Except.ok.inj h).symm

/-- A call that gets to its wait is released in every state of a run, and returns what its
worker returned, exactly when the worker's lookup gives it a sink and no wait fails. -/
theorem released_iff (sink : HostEventSink) (riid : IID) (hEvent : Bool) {first last : Invocation}
    {trace : List (Invocation × InvokeStep)} (hinvoke : sink.invoke riid hEvent = .ok first)
    (hrun : system.Run first trace last) :
    (∀ s ∈ System.visited trace last, s.Released) ↔ ∀ v ∈ trace, v.1.FindsSink v.2 := by
  obtain rfl := eq_of_invoke hinvoke
  exact hrun.visited_iff (I := Inv) (fun _ _ _ hI hstep => step_inv hI hstep)
    (fun _ _ _ hI hP hstep => step_released_iff hI hP hstep) init_inv init_released

/-- The sink's registration is gone: the worker returns `E_INVALIDARG`, and the caller waits
for good. -/
theorem not_released_lookup :
    ¬ ∀ (sink : HostEventSink) (riid : IID) (hEvent : Bool) (first last : Invocation)
      (trace : List (Invocation × InvokeStep)), sink.invoke riid hEvent = .ok first →
        system.Run first trace last → ∀ s ∈ System.visited trace last, s.Released := by
  intro hall
  have hrun : system.Run {}
      [({}, .start), ({ worker := .lookup }, .getInterfaceFromGlobal E_INVALIDARG false)]
      { worker := .finished E_INVALIDARG } := .cons rfl (.cons rfl (.nil _))
  have hreleased := hall ⟨1⟩ IID_NULL true {} _ _ rfl hrun { worker := .finished E_INVALIDARG }
    (by simp [System.visited])
  exact hreleased.not_stuck ⟨rfl, ⟨E_INVALIDARG, rfl⟩, rfl⟩

theorem released_iff_lookup :
    (∀ s ∈ System.visited [(({} : Invocation), InvokeStep.start),
        ({ worker := .lookup }, .getInterfaceFromGlobal S_OK true)] { worker := .invoke },
        s.Released) ↔
      ∀ v ∈ [(({} : Invocation), InvokeStep.start),
        ({ worker := .lookup }, .getInterfaceFromGlobal S_OK true)], v.1.FindsSink v.2 :=
  released_iff ⟨1⟩ IID_NULL true rfl (.cons rfl (.cons rfl (.nil _)))

/-! ## What the worker borrows

The worker works on the arguments of the call and on its event, and `Invoke` closes the event as
it returns.  Here a wait may also come back from a success that the event had no part in.
-/

def afterAnyWait (s : Invocation) (hr : HRESULT) (index : DWORD) : Invocation :=
  if failed hr then { s with caller := .returned hr }
  else if index = WAIT_OBJECT_0 then { s with caller := .result, event := false }
  else s

def stepAny (s : Invocation) : InvokeStep → Option Invocation
  | .coWaitForMultipleHandles hr index =>
    if s.caller = .waiting then some (s.afterAnyWait hr index) else none
  | a => s.step a

def anyWaits : System Invocation InvokeStep where
  init s := s = {}
  step := stepAny

/-- The worker is neither queued nor running once the call has returned. -/
def OutlivesWorker (s : Invocation) : Prop :=
  ∀ hr, s.caller = .returned hr → ∃ hr', s.worker = .finished hr'

/-- No wait fails before the worker has finished. -/
def WaitsForWorker (s : Invocation) : InvokeStep → Prop
  | .coWaitForMultipleHandles hr _ => failed hr = true → ∃ hr', s.worker = .finished hr'
  | _ => True

theorem afterWait_eq_afterAnyWait {s t : Invocation} {hr : HRESULT} {index : DWORD}
    (h : s.afterWait hr index = some t) : t = s.afterAnyWait hr index := by
  unfold afterWait at h
  unfold afterAnyWait
  split_ifs at h ⊢
  · exact (Option.some.inj h).symm
  · exact (Option.some.inj h).symm
  · exact (Option.some.inj h).symm

theorem stepAny_of_step {s t : Invocation} {a : InvokeStep} (h : s.step a = some t) :
    s.stepAny a = some t := by
  cases a with
  | coWaitForMultipleHandles hr index =>
      obtain ⟨hcaller, hwait⟩ := Option.ite_none_right_eq_some.mp h
      rw [stepAny, if_pos hcaller, afterWait_eq_afterAnyWait hwait]
  | _ => exact h

theorem run_anyWaits {s t : Invocation} {trace : List (Invocation × InvokeStep)}
    (h : system.Run s trace t) : anyWaits.Run s trace t := by
  induction h with
  | nil s => exact .nil s
  | cons hstep _ ih => exact .cons (stepAny_of_step hstep) ih

/-- A worker that has finished stays so, and `result` waits for it. -/
theorem stepAny_outlives_iff {s t : Invocation} {a : InvokeStep} (hs : s.OutlivesWorker)
    (h : s.stepAny a = some t) : t.OutlivesWorker ↔ s.WaitsForWorker a := by
  cases a with
  | coWaitForMultipleHandles hr index =>
      obtain ⟨hcaller, hwait⟩ := Option.ite_none_right_eq_some.mp h
      obtain rfl := Option.some.inj hwait
      unfold afterAnyWait
      by_cases hfailed : failed hr = true
      · rw [if_pos hfailed]
        exact ⟨fun hout _ => hout hr rfl, fun hwaits _ _ => hwaits hfailed⟩
      · rw [if_neg hfailed]
        refine iff_of_true (fun hr' hreturned => ?_) fun h => absurd h hfailed
        split_ifs at hreturned
        simp [hcaller] at hreturned
  | result hr =>
      simp only [stepAny, step, Option.ite_none_right_eq_some, Option.some.injEq] at h
      obtain ⟨⟨-, hworker⟩, rfl⟩ := h
      exact iff_of_true (fun _ _ => ⟨hr, hworker⟩) trivial
  | _ =>
      -- the worker moves, so that it has not finished and the call has not returned
      simp only [stepAny, step, Option.ite_none_right_eq_some, Option.some.injEq] at h
      obtain ⟨hworker, rfl⟩ := h
      refine iff_of_true (fun hr hreturned => ?_) trivial
      obtain ⟨hr', hfinished⟩ := hs hr hreturned
      simp [hworker] at hfinished

/-- In every state of a run the worker is done by the time the call has returned and closed the
event, exactly when no wait fails before that. -/
theorem outlivesWorker_iff (sink : HostEventSink) (riid : IID) (hEvent : Bool)
    {first last : Invocation} {trace : List (Invocation × InvokeStep)}
    (hinvoke : sink.invoke riid hEvent = .ok first) (hrun : anyWaits.Run first trace last) :
    (∀ s ∈ System.visited trace last, s.OutlivesWorker) ↔
      ∀ v ∈ trace, v.1.WaitsForWorker v.2 := by
  obtain rfl := eq_of_invoke hinvoke
  have hfirst : OutlivesWorker {} := fun hr hreturned => by simp at hreturned
  exact hrun.visited_iff (I := fun _ => True) (P := OutlivesWorker) (C := WaitsForWorker)
    (fun _ _ _ _ _ => trivial) (fun _ _ _ _ hP hstep => stepAny_outlives_iff hP hstep) trivial
    hfirst

theorem outlivesWorker_iff_waitFails :
    (∀ s ∈ System.visited [(({} : Invocation), InvokeStep.start),
        ({ worker := .lookup }, .coWaitForMultipleHandles E_FAIL 0)]
          { caller := .returned E_FAIL, worker := .lookup }, s.OutlivesWorker) ↔
      ∀ v ∈ [(({} : Invocation), InvokeStep.start),
        ({ worker := .lookup }, .coWaitForMultipleHandles E_FAIL 0)], v.1.WaitsForWorker v.2 :=
  outlivesWorker_iff ⟨1⟩ IID_NULL true rfl (.cons rfl (.cons rfl (.nil _)))

/-- The first wait fails, and the call returns while its worker looks the sink up. -/
theorem not_outlivesWorker_waitFails :
    ¬ ∀ (sink : HostEventSink) (riid : IID) (hEvent : Bool) (first last : Invocation)
      (trace : List (Invocation × InvokeStep)), sink.invoke riid hEvent = .ok first →
        anyWaits.Run first trace last → ∀ s ∈ System.visited trace last, s.OutlivesWorker := by
  intro hall
  have hrun : anyWaits.Run {} [({}, .start),
      ({ worker := .lookup }, .coWaitForMultipleHandles E_FAIL 0)]
      { caller := .returned E_FAIL, worker := .lookup } := .cons rfl (.cons rfl (.nil _))
  have houtlives := hall ⟨1⟩ IID_NULL true {} _ _ rfl hrun
    { caller := .returned E_FAIL, worker := .lookup } (by simp [System.visited])
  obtain ⟨hr, hworker⟩ := houtlives E_FAIL rfl
  simp at hworker

end Invocation

end Axhost
