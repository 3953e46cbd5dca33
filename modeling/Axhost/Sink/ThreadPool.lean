import Axhost.Sink.Invoke

/-!
# Events within events

The host thread dispatches calls while it waits in `HostEventSink::Invoke`, so a handler
may call the control, which may fire the next event before the handler returns.  Each of
these events holds one worker of the shared `QThreadPool`, which runs at most `N` tasks at
a time, until everything it has led to is over.
-/

namespace Axhost

open Transition

namespace Invocation

/-- The worker is in the client's handler. -/
def inHandler (c : Invocation) : Bool := c.worker = .invoke

def hasReturned (c : Invocation) : Bool :=
  match c.caller with
  | .returned _ => true
  | _ => false

/-- The worker has a thread of the pool. -/
def occupies (c : Invocation) : Bool :=
  match c.worker with
  | .queued => false
  | .finished _ => false
  | _ => true

theorem occupies_of_inHandler {c : Invocation} (h : c.inHandler = true) : c.occupies = true := by
  have hworker : c.worker = .invoke := by simpa [inHandler] using h
  simp [occupies, hworker]

theorem worker_of_step {c c' : Invocation} {a : InvokeStep} (h : c.step a = some c') :
    c'.worker = c.worker ∨ (a = .start ∧ c.worker = .queued) ∨
      (c.occupies = true ∧ c'.worker ≠ .queued) := by
  cases a with
  | start =>
      simp only [step, Option.ite_none_right_eq_some, Option.some.injEq] at h
      exact Or.inr (Or.inl ⟨rfl, h.1⟩)
  | getInterfaceFromGlobal hr sink =>
      simp only [step, Option.ite_none_right_eq_some, Option.some.injEq] at h
      obtain ⟨hw, rfl⟩ := h
      have hne : afterLookup hr sink ≠ .queued := by
        unfold afterLookup
        split_ifs <;> simp
      exact Or.inr (Or.inr ⟨by simp [occupies, hw], hne⟩)
  | sinkInvoke hr =>
      simp only [step, Option.ite_none_right_eq_some, Option.some.injEq] at h
      obtain ⟨hw, rfl⟩ := h
      exact Or.inr (Or.inr ⟨by simp [occupies, hw], by simp⟩)
  | setEvent hr =>
      simp only [step, Option.ite_none_right_eq_some, Option.some.injEq] at h
      obtain ⟨hw, rfl⟩ := h
      exact Or.inr (Or.inr ⟨by simp [occupies, hw], by simp⟩)
  | finish hr =>
      simp only [step, Option.ite_none_right_eq_some, Option.some.injEq] at h
      obtain ⟨hw, rfl⟩ := h
      exact Or.inr (Or.inr ⟨by simp [occupies, hw], by simp⟩)
  | coWaitForMultipleHandles hr index =>
      obtain ⟨-, hwait⟩ := Option.ite_none_right_eq_some.mp h
      rcases afterWait_cases hwait with ⟨-, rfl⟩ | ⟨-, -, rfl⟩ | ⟨-, rfl⟩ <;> exact Or.inl rfl
  | result hr =>
      simp only [step, Option.ite_none_right_eq_some, Option.some.injEq] at h
      obtain ⟨-, rfl⟩ := h
      exact Or.inl rfl

theorem occupies_le {c c' : Invocation} {a : InvokeStep} (h : c.step a = some c') :
    (if c'.occupies then 1 else 0) ≤
      (if c.occupies then 1 else 0) + if a = .start then 1 else 0 := by
  rcases worker_of_step h with hsame | ⟨hstart, -⟩ | ⟨hbefore, -⟩
  · have hoccupies : c'.occupies = c.occupies := by simp [occupies, hsame]
    rw [hoccupies]
    omega
  · rw [if_pos hstart]
    split_ifs <;> omega
  · rw [if_pos hbefore]
    split_ifs <;> omega

theorem queued_of_step {c c' : Invocation} {a : InvokeStep} (h : c.step a = some c')
    (hqueued : c'.worker = .queued) : c.worker = .queued := by
  rcases worker_of_step h with hsame | ⟨-, hbefore⟩ | ⟨-, hne⟩
  · exact hsame.symm.trans hqueued
  · exact hbefore
  · exact absurd hqueued hne

/-- A step leaves the caller where it is, or takes one that has not returned out of its
wait. -/
theorem caller_of_step {c c' : Invocation} {a : InvokeStep} (h : c.step a = some c') :
    c'.caller = c.caller ∨ (c.hasReturned = false ∧ c'.caller ≠ .waiting) := by
  cases a with
  | coWaitForMultipleHandles hr index =>
      obtain ⟨hcaller, hwait⟩ := Option.ite_none_right_eq_some.mp h
      have hbefore : c.hasReturned = false := by simp [hasReturned, hcaller]
      rcases afterWait_cases hwait with ⟨-, rfl⟩ | ⟨-, -, rfl⟩ | ⟨-, rfl⟩
      · exact Or.inr ⟨hbefore, by simp⟩
      · exact Or.inr ⟨hbefore, by simp⟩
      · exact Or.inl rfl
  | result hr =>
      simp only [step, Option.ite_none_right_eq_some, Option.some.injEq] at h
      obtain ⟨⟨hcaller, -⟩, rfl⟩ := h
      exact Or.inr ⟨by simp [hasReturned, hcaller], by simp⟩
  | start | getInterfaceFromGlobal | sinkInvoke | setEvent | finish =>
      simp only [step, Option.ite_none_right_eq_some, Option.some.injEq] at h
      obtain ⟨-, rfl⟩ := h
      exact Or.inl rfl

theorem waiting_of_step {c c' : Invocation} {a : InvokeStep} (h : c.step a = some c')
    (hwaiting : c'.caller = .waiting) : c.caller = .waiting := by
  rcases caller_of_step h with hsame | ⟨-, hne⟩
  · exact hsame.symm.trans hwaiting
  · exact absurd hwaiting hne

theorem hasReturned_of_step {c c' : Invocation} {a : InvokeStep} (h : c.step a = some c')
    (hreturned : c.hasReturned = true) : c'.hasReturned = true := by
  rcases caller_of_step h with hsame | ⟨hnot, -⟩
  · simpa [hasReturned, hsame] using hreturned
  · simp [hnot] at hreturned

/-- A call that waits for a queued task can only be woken without its event, or fail. -/
theorem step_of_queued {c c' : Invocation} {a : InvokeStep} (hinv : c.Inv)
    (hqueued : c.worker = .queued) (hwaiting : c.caller = .waiting) (ha : a ≠ .start)
    (hwait : ∀ hr index, a = .coWaitForMultipleHandles hr index → failed hr = false)
    (h : c.step a = some c') : c' = c := by
  cases a with
  | start => exact absurd rfl ha
  | coWaitForMultipleHandles hr index =>
      obtain ⟨-, h⟩ := Option.ite_none_right_eq_some.mp h
      rcases afterWait_cases h with ⟨hfailed, -⟩ | ⟨-, hevent, -⟩ | ⟨-, rfl⟩
      · simp [hwait hr index rfl] at hfailed
      · obtain ⟨hr', hother⟩ := hinv.worker_of_event hevent
        simp [hqueued] at hother
      · rfl
  | getInterfaceFromGlobal | sinkInvoke | setEvent | finish | result =>
      simp [step, hqueued] at h

theorem occupies_of_returned {c c' : Invocation} {a : InvokeStep}
    (hreturned : c.hasReturned = true) (ha : a ≠ .start) (h : c.step a = some c') :
    c.occupies = true := by
  cases a with
  | start => exact absurd rfl ha
  | coWaitForMultipleHandles hr index =>
      obtain ⟨hcaller, -⟩ := Option.ite_none_right_eq_some.mp h
      simp [hasReturned, hcaller] at hreturned
  | result hr =>
      simp only [step, Option.ite_none_right_eq_some] at h
      simp [hasReturned, h.1.1] at hreturned
  | getInterfaceFromGlobal | sinkInvoke | setEvent | finish =>
      simp only [step, Option.ite_none_right_eq_some] at h
      simp [occupies, h.1]

end Invocation

/-- The calls of `Invoke` on the host thread, innermost first, and the tasks whose call has
returned without them. -/
structure EventChain where
  calls : List Invocation := []
  abandoned : List Invocation := []
deriving DecidableEq, Repr

inductive ChainStep
  | fire (sink : HostEventSink) (riid : IID) (hEvent : Bool)
  | call (a : InvokeStep)
  | leave
  | abandoned (i : Nat) (a : InvokeStep)
deriving DecidableEq, Repr

namespace EventChain

/-- The threads of the pool that are taken. -/
def running (s : EventChain) : Nat :=
  s.calls.countP Invocation.occupies + s.abandoned.countP Invocation.occupies

/-- The control can fire an event of its own, or from a call that a handler makes while the
host thread waits for it. -/
def fires (s : EventChain) : Bool :=
  match s.calls with
  | [] => true
  | c :: _ => decide (c.caller = .waiting) && c.inHandler

/-- A task starts when the pool has a thread for it. -/
def admits (N : Nat) (s : EventChain) (a : InvokeStep) : Bool :=
  decide (a = .start → s.running < N)

/-- The innermost `Invoke` has returned; its task may not have finished. -/
def leave (s : EventChain) : Option EventChain :=
  match s.calls with
  | c :: rest =>
    if c.hasReturned then some { calls := rest, abandoned := c :: s.abandoned } else none
  | [] => none

/-- Only the innermost call and the handler it waits for move; the handlers below it are
blocked in their calls to the control. -/
def step (N : Nat) (s : EventChain) : ChainStep → Option EventChain
  | .fire sink riid hEvent =>
    if s.fires then
      match sink.invoke riid hEvent with
      | .ok c => some { s with calls := c :: s.calls }
      | .error _ => some s
    else none
  | .call a =>
    match s.calls with
    | c :: rest =>
      if s.admits N a then (c.step a).map fun c => { s with calls := c :: rest } else none
    | [] => none
  | .leave => s.leave
  | .abandoned i a =>
    if s.admits N a then
      (s.abandoned[i]?.bind (Invocation.step · a)).map fun c =>
        { s with abandoned := s.abandoned.set i c }
    else none

def system (N : Nat) : System EventChain ChainStep where
  init s := s = {}
  step := step N

/-- All threads of the pool are in handlers that wait, in the end, for a call whose own task
is still in the queue. -/
def Deadlock (N : Nat) (s : EventChain) : Prop :=
  ∃ c rest, s.calls = c :: rest ∧ c.caller = .waiting ∧ c.worker = .queued ∧
    rest.countP Invocation.inHandler = N

/-- No event is fired from within `N` handlers. -/
def Shallow (N : Nat) (s : EventChain) : ChainStep → Prop
  | .fire sink riid hEvent => (∃ c, sink.invoke riid hEvent = .ok c) → s.calls.length < N
  | _ => True

structure Inv (N : Nat) (s : EventChain) : Prop where
  inHandler_tail : ∀ c ∈ s.calls.tail, c.inHandler = true
  running_le : s.running ≤ N
  calls_inv : ∀ c ∈ s.calls, c.Inv
  abandoned_returned : ∀ c ∈ s.abandoned, c.hasReturned = true

theorem leave_eq_some {s t : EventChain} (h : s.leave = some t) :
    ∃ c rest, s.calls = c :: rest ∧ c.hasReturned = true ∧
      t = { calls := rest, abandoned := c :: s.abandoned } := by
  obtain ⟨calls, abandoned⟩ := s
  cases calls with
  | nil => exact absurd h (by simp [leave])
  | cons c rest =>
      obtain ⟨hreturned, h⟩ := Option.ite_none_right_eq_some.mp h
      exact ⟨c, rest, rfl, hreturned, (Option.some.inj h).symm⟩

theorem init_inv (N : Nat) : Inv N {} where
  inHandler_tail _ hc := by simp at hc
  running_le := Nat.zero_le N
  calls_inv _ hc := by simp at hc
  abandoned_returned _ hc := by simp at hc

theorem running_of_admits {N : Nat} {s : EventChain} {a : InvokeStep} (hinv : Inv N s)
    (h : s.admits N a = true) : s.running + (if a = .start then 1 else 0) ≤ N := by
  have hle := hinv.running_le
  have hstart : a = .start → s.running < N := of_decide_eq_true h
  split_ifs with ha
  · exact hstart ha
  · exact hle

/-- The calls below the innermost one, and that one too when it fires, are in handlers. -/
theorem inHandler_of_fires {N : Nat} {s : EventChain} (hinv : Inv N s) (hfires : s.fires = true) :
    ∀ c ∈ s.calls, c.inHandler = true := by
  have htail := hinv.inHandler_tail
  unfold fires at hfires
  split at hfires
  · next hcalls => simp [hcalls]
  · next c rest hcalls =>
    rw [hcalls, List.forall_mem_cons]
    rw [hcalls] at htail
    simp only [Bool.and_eq_true] at hfires
    exact ⟨hfires.2, htail⟩

theorem step_inv {N : Nat} {s t : EventChain} {a : ChainStep} (hinv : Inv N s)
    (h : s.step N a = some t) : Inv N t := by
  have htail := hinv.inHandler_tail
  cases a with
  | fire sink riid hEvent =>
      obtain ⟨hfires, h⟩ := Option.ite_none_right_eq_some.mp h
      split at h
      · next c hinvoke =>
        obtain rfl := Option.some.inj h
        obtain rfl := Invocation.eq_of_invoke hinvoke
        exact ⟨inHandler_of_fires hinv hfires, hinv.running_le,
          List.forall_mem_cons.mpr ⟨Invocation.init_inv, hinv.calls_inv⟩, hinv.abandoned_returned⟩
      · obtain rfl := Option.some.inj h
        exact hinv
  | call a =>
      obtain ⟨calls, abandoned⟩ := s
      cases calls with
      | nil => exact absurd h (by simp [step])
      | cons c rest =>
          obtain ⟨hadmits, h⟩ := Option.ite_none_right_eq_some.mp h
          obtain ⟨c', hc', rfl⟩ := Option.map_eq_some_iff.mp h
          have hrunning := running_of_admits hinv hadmits
          have hoccupies := Invocation.occupies_le hc'
          have hcalls := List.forall_mem_cons.mp hinv.calls_inv
          refine ⟨htail, ?_, List.forall_mem_cons.mpr ⟨Invocation.step_inv hcalls.1 hc', hcalls.2⟩,
            hinv.abandoned_returned⟩
          simp only [running, List.countP_cons] at hrunning ⊢
          omega
  | leave =>
      obtain ⟨c, rest, hcalls, hreturned, rfl⟩ := leave_eq_some h
      have hrunning := hinv.running_le
      have hinvs := hinv.calls_inv
      rw [hcalls] at htail hinvs
      refine ⟨fun c hc => htail c (List.mem_of_mem_tail hc), ?_, (List.forall_mem_cons.mp hinvs).2,
        List.forall_mem_cons.mpr ⟨hreturned, hinv.abandoned_returned⟩⟩
      simp only [running, hcalls, List.countP_cons] at hrunning ⊢
      omega
  | abandoned i a =>
      obtain ⟨hadmits, h⟩ := Option.ite_none_right_eq_some.mp h
      obtain ⟨c', hc', rfl⟩ := Option.map_eq_some_iff.mp h
      obtain ⟨c, hc, hstep⟩ := Option.bind_eq_some_iff.mp hc'
      obtain ⟨hi, rfl⟩ := List.getElem?_eq_some_iff.mp hc
      have hrunning := running_of_admits hinv hadmits
      have hoccupies := Invocation.occupies_le hstep
      have hpos : (if s.abandoned[i].occupies then 1 else 0) ≤
          s.abandoned.countP Invocation.occupies := by
        split_ifs with hthread
        · exact List.countP_pos_iff.mpr ⟨_, List.getElem_mem hi, hthread⟩
        · exact Nat.zero_le _
      have hreturned := hinv.abandoned_returned
      refine ⟨htail, ?_, hinv.calls_inv, fun d hd => ?_⟩
      · simp only [running, List.countP_set hi] at hrunning ⊢
        omega
      · rcases List.mem_or_eq_of_mem_set hd with hd | rfl
        · exact hreturned d hd
        · exact Invocation.hasReturned_of_step hstep (hreturned _ (List.getElem_mem hi))

theorem length_le_of_inHandler {N : Nat} {s : EventChain} (hinv : Inv N s)
    (hhandlers : ∀ c ∈ s.calls, c.inHandler = true) : s.calls.length ≤ N := by
  have hall : s.calls.countP Invocation.occupies = s.calls.length :=
    List.countP_eq_length.mpr fun c hc => Invocation.occupies_of_inHandler (hhandlers c hc)
  have hle := hinv.running_le
  unfold running at hle
  omega

/-- A call from within the handlers of all the others has no thread exactly when they have all
of the threads. -/
theorem deadlock_invoke_iff {N : Nat} {s : EventChain} {sink : HostEventSink} {riid : IID}
    {hEvent : Bool} {c : Invocation} (hinvoke : sink.invoke riid hEvent = .ok c)
    (hhandlers : ∀ d ∈ s.calls, d.inHandler = true) :
    Deadlock N { s with calls := c :: s.calls } ↔ s.calls.length = N := by
  have hcount : s.calls.countP Invocation.inHandler = s.calls.length :=
    List.countP_eq_length.mpr hhandlers
  obtain rfl := Invocation.eq_of_invoke hinvoke
  constructor
  · rintro ⟨c', rest, hcalls, -, -, hN⟩
    obtain ⟨rfl, rfl⟩ := List.cons.inj hcalls
    exact hcount.symm.trans hN
  · intro hN
    exact ⟨_, s.calls, rfl, rfl, rfl, hcount.trans hN⟩

theorem step_deadlock_iff {N : Nat} {s t : EventChain} {a : ChainStep} (hinv : Inv N s)
    (hfree : ¬ Deadlock N s) (h : s.step N a = some t) : ¬ Deadlock N t ↔ s.Shallow N a := by
  cases a with
  | fire sink riid hEvent =>
      obtain ⟨hfires, h⟩ := Option.ite_none_right_eq_some.mp h
      split at h
      · next c hinvoke =>
        obtain rfl := Option.some.inj h
        have hhandlers := inHandler_of_fires hinv hfires
        have hlength := length_le_of_inHandler hinv hhandlers
        rw [deadlock_invoke_iff hinvoke hhandlers]
        constructor
        · intro hne _
          omega
        · intro hshallow
          have hlt := hshallow ⟨c, hinvoke⟩
          omega
      · next hr hinvoke =>
        obtain rfl := Option.some.inj h
        refine iff_of_true hfree fun ⟨c, hc⟩ => ?_
        exact absurd (hinvoke.symm.trans hc) (by simp)
  | call a =>
      refine iff_of_true ?_ trivial
      obtain ⟨calls, abandoned⟩ := s
      cases calls with
      | nil => exact absurd h (by simp [step])
      | cons c rest =>
          obtain ⟨-, h⟩ := Option.ite_none_right_eq_some.mp h
          obtain ⟨c', hc', rfl⟩ := Option.map_eq_some_iff.mp h
          rintro ⟨c'', rest', hcalls, hwaiting, hqueued, hN⟩
          obtain ⟨rfl, rfl⟩ := List.cons.inj hcalls
          exact hfree ⟨c, rest, rfl, Invocation.waiting_of_step hc' hwaiting,
            Invocation.queued_of_step hc' hqueued, hN⟩
  | leave =>
      refine iff_of_true ?_ trivial
      obtain ⟨c, rest, hcalls, -, rfl⟩ := leave_eq_some h
      -- the call that is innermost now is in a handler
      rintro ⟨c', rest', rfl, -, hqueued, -⟩
      have hhandler := hinv.inHandler_tail c' (by simp [hcalls])
      simp [Invocation.inHandler, hqueued] at hhandler
  | abandoned i a =>
      refine iff_of_true ?_ trivial
      obtain ⟨-, h⟩ := Option.ite_none_right_eq_some.mp h
      obtain ⟨c', -, rfl⟩ := Option.map_eq_some_iff.mp h
      exact hfree

/-- A deadlock stays, unless the innermost wait fails. -/
theorem eq_of_deadlock {N : Nat} {s t : EventChain} {a : ChainStep} (hinv : Inv N s)
    (hdeadlock : Deadlock N s)
    (hwait : ∀ hr index, a = .call (.coWaitForMultipleHandles hr index) → failed hr = false)
    (h : s.step N a = some t) : t = s := by
  obtain ⟨calls, abandoned⟩ := s
  obtain ⟨c, rest, rfl, hwaiting, hqueued, hN⟩ := hdeadlock
  have hblocked : N ≤ rest.countP Invocation.occupies := by
    rw [← hN]
    exact List.countP_mono_left fun c _ => Invocation.occupies_of_inHandler
  have hrunning := hinv.running_le
  simp only [running, List.countP_cons] at hrunning
  have hfull : ¬ running ⟨c :: rest, abandoned⟩ < N := by
    simp only [running, List.countP_cons]
    omega
  have hstart {a : InvokeStep} (hadmits : admits N ⟨c :: rest, abandoned⟩ a = true) :
      a ≠ .start := fun ha => hfull (of_decide_eq_true hadmits ha)
  cases a with
  | fire sink riid hEvent => simp [step, fires, Invocation.inHandler, hqueued] at h
  | leave => simp [step, leave, Invocation.hasReturned, hwaiting] at h
  | call a =>
      obtain ⟨hadmits, h⟩ := Option.ite_none_right_eq_some.mp h
      obtain ⟨c', hc', rfl⟩ := Option.map_eq_some_iff.mp h
      have hsame := Invocation.step_of_queued (hinv.calls_inv c (by simp)) hqueued hwaiting
        (hstart hadmits) (fun hr index ha => hwait hr index (by rw [ha])) hc'
      rw [hsame]
  | abandoned i a =>
      obtain ⟨hadmits, h⟩ := Option.ite_none_right_eq_some.mp h
      obtain ⟨c', hc', rfl⟩ := Option.map_eq_some_iff.mp h
      obtain ⟨d, hd, hstep⟩ := Option.bind_eq_some_iff.mp hc'
      have hmem : d ∈ abandoned := List.mem_of_getElem? hd
      have hthread := Invocation.occupies_of_returned (hinv.abandoned_returned d hmem)
        (hstart hadmits) hstep
      have hpos : 0 < abandoned.countP Invocation.occupies :=
        List.countP_pos_iff.mpr ⟨d, hmem, hthread⟩
      omega

/-! ## Every pool can be exhausted -/

/-- `k` nested events, each in its handler. -/
def handlers (k : Nat) : EventChain := { calls := List.replicate k { worker := .invoke } }

theorem running_handlers (k : Nat) : (handlers k).running = k := by
  simp [running, handlers, List.countP_replicate, Invocation.occupies]

theorem fires_handlers (k : Nat) : (handlers k).fires = true := by
  cases k with
  | zero => rfl
  | succ k => rfl

theorem handlers_fire (N k : Nat) :
    (system N).step (handlers k) (.fire ⟨1⟩ IID_NULL true) =
      some { calls := {} :: (handlers k).calls } := by
  simp only [system, step, fires_handlers]
  rfl

/-- While the pool has a thread, one more event gets to its handler. -/
theorem handlers_succ {N k : Nat} (hk : k < N) :
    (system N).exec (handlers k) [.fire ⟨1⟩ IID_NULL true, .call .start,
      .call (.getInterfaceFromGlobal S_OK true)] = some (handlers (k + 1)) := by
  have hrunning : running { calls := ({} : Invocation) :: (handlers k).calls } = k :=
    running_handlers k
  have hadmits : admits N { calls := ({} : Invocation) :: (handlers k).calls } .start = true := by
    simpa [admits, hrunning] using hk
  have hstart : (system N).step { calls := {} :: (handlers k).calls } (.call .start) =
      some { calls := { worker := .lookup } :: (handlers k).calls } := by
    simp only [system, step, hadmits]
    rfl
  rw [System.exec_cons (handlers_fire N k), System.exec_cons hstart]
  simp [System.exec, system, step, admits, Invocation.step, Invocation.afterLookup,
    failed_S_OK]
  rfl

theorem handlers_reachable {N k : Nat} (hk : k ≤ N) : (system N).Reachable (handlers k) := by
  induction k with
  | zero => exact .init rfl
  | succ k ih =>
      obtain ⟨trace, -, hrun⟩ := System.run_of_exec (handlers_succ (N := N) (k := k) hk)
      exact hrun.reachable (ih (by omega))

/-- A chain one deeper than the pool deadlocks it, whatever its size. -/
theorem deadlock_reachable (N : Nat) : ∃ s, (system N).Reachable s ∧ Deadlock N s := by
  have hreach := (handlers_reachable (Nat.le_refl N)).step _ (handlers_fire N N)
  refine ⟨_, hreach, {}, (handlers N).calls, rfl, rfl, rfl, ?_⟩
  simp [handlers, List.countP_replicate, Invocation.inHandler]

/-- An event that is fired from a handler. -/
def nested : List (EventChain × ChainStep) :=
  [({}, .fire ⟨1⟩ IID_NULL true), ({ calls := [{}] }, .call .start),
    ({ calls := [{ worker := .lookup }] }, .call (.getInterfaceFromGlobal S_OK true)),
    ({ calls := [{ worker := .invoke }] }, .fire ⟨1⟩ IID_NULL true)]

theorem run_nested {N : Nat} (hN : 0 < N) :
    (system N).Run {} nested { calls := [{}, { worker := .invoke }] } := by
  have hstart : (system N).step { calls := [{}] } (.call .start) =
      some { calls := [{ worker := .lookup }] } := by
    have hadmits : admits N { calls := [{}] } .start = true := by
      simp only [admits, running, List.countP_singleton]
      simpa [Invocation.occupies] using hN
    simp only [system, step, hadmits]
    rfl
  exact .cons rfl (.cons hstart (.cons rfl (.cons rfl (.nil _))))

end EventChain

end Axhost
