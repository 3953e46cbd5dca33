import Axhost.Lifetime.IdleWarning
import Axhost.Lifetime.Progress

/-!
# When a surrogate leaves

A surrogate counts no references of its own: its containers and locks call functions that do
nothing, and what COM counts is left to the code that runs in it.  It looks at that count once a
minute, and leaves when COM frees it or after the first look at which the count is zero.

* `SurrogateHost.polls`: the invariant that ties the exit timer to the checks made so far;
* `SurrogateHost.leaves_iff`: when an exit has been asked for, and how long none can be.
-/

namespace Axhost

open Transition

inductive SurrogateEvent
  | construct
  | destroy
  | lockServer (fLock : Bool)
  /-- Code in the process calls `CoAddRefServerProcess` or `CoReleaseServerProcess`. -/
  | counted (added : Bool)
  /-- COM calls `FreeSurrogate`, which may fail to queue the exit. -/
  | freeSurrogate (invoked : Bool)
  | tick (ms : Nat)
  | timeout
  | dismissWarning
deriving DecidableEq, Repr

/-- A process that runs as a surrogate, with its containers, the time of each check for an exit
and the count it found, and whether COM has freed it. -/
structure SurrogateHost where
  runtime : Runtime := Runtime.checkForExitLater {}
  containers : Nat := 0
  checks : List (Nat × Int) := []
  freed : Bool := false
deriving DecidableEq, Repr

namespace SurrogateHost

def step (s : SurrogateHost) : SurrogateEvent → Option SurrogateHost
  | .construct => some { s with
      runtime := RuntimeClass.runAsSurrogate.addServerReference s.runtime
      containers := s.containers + 1 }
  | .destroy =>
    if s.containers = 0 then none
    else some { s with
      runtime := RuntimeClass.runAsSurrogate.releaseServerReference s.runtime
      containers := s.containers - 1 }
  | .lockServer fLock => some { s with
      runtime := if fLock then RuntimeClass.runAsSurrogate.addServerReference s.runtime
        else RuntimeClass.runAsSurrogate.releaseServerReference s.runtime }
  | .counted added => some { s with
      runtime := { s.runtime with
        com := if added then s.runtime.com.coAddRefServerProcess.2
          else s.runtime.com.coReleaseServerProcess.2 } }
  | .freeSurrogate invoked =>
    if invoked then some { s with runtime := s.runtime.exitApplicationLater, freed := true }
    else some s
  | .tick ms =>
    if ∀ due ∈ s.runtime.checkForExitTimer, s.runtime.now + ms ≤ due then
      some { s with runtime := { s.runtime with now := s.runtime.now + ms } }
    else none
  | .timeout => s.runtime.timeout.map fun rt =>
    { s with runtime := rt, checks := s.checks ++ [(s.runtime.now, s.runtime.com.refs)] }
  | .dismissWarning =>
    if s.runtime.warningOpen then some { s with runtime := s.runtime.dismissWarning } else none

def system : System SurrogateHost SurrogateEvent where
  init s := s = {}
  step := step

/-- A check has found no references. -/
def FoundNone (s : SurrogateHost) : Prop := ∃ c ∈ s.checks, c.2 = 0

/-- The checks are a minute apart, and the next one is due after another minute, unless one has
found no references, which was the last. -/
structure Polls (s : SurrogateHost) : Prop where
  interval : s.runtime.checkForExitTimeout = 60000
  times : s.checks.map Prod.fst = (List.range s.checks.length).map fun i => 60000 * (i + 1)
  before : ∀ c ∈ s.checks.dropLast, c.2 ≠ 0
  pending : s.runtime.pending ↔ s.freed = true ∨ s.FoundNone
  due : ¬ s.FoundNone → s.runtime.checkForExitTimer = some (60000 * (s.checks.length + 1)) ∧
    s.runtime.now ≤ 60000 * (s.checks.length + 1)
  stopped : s.FoundNone → s.runtime.checkForExitTimer = none

theorem checkForExit_stopped {rt : Runtime} (hrefs : rt.com.refs = 0) :
    rt.checkForExit.checkForExitTimer = rt.checkForExitTimer := by
  unfold Runtime.checkForExit
  dsimp only [ServerProcess.coAddRefServerProcess, ServerProcess.coReleaseServerProcess]
  rw [Int.add_sub_cancel, if_pos hrefs]
  split_ifs <;> rfl

theorem Polls.congr {s t : SurrogateHost} (h : Polls s)
    (hinterval : t.runtime.checkForExitTimeout = s.runtime.checkForExitTimeout)
    (htimer : t.runtime.checkForExitTimer = s.runtime.checkForExitTimer)
    (hnow : t.runtime.now = s.runtime.now) (hchecks : t.checks = s.checks)
    (hpending : t.runtime.pending ↔ t.freed = true ∨ t.FoundNone) : Polls t := by
  have hfound : t.FoundNone ↔ s.FoundNone := by
    unfold FoundNone
    rw [hchecks]
  constructor
  · rw [hinterval, h.interval]
  · rw [hchecks, h.times]
  · rw [hchecks]
    exact h.before
  · exact hpending
  · rw [hfound, htimer, hnow, hchecks]
    exact h.due
  · rw [hfound, htimer]
    exact h.stopped

theorem foundNone_concat {s t : SurrogateHost} {c : Nat × Int} (h : t.checks = s.checks ++ [c]) :
    t.FoundNone ↔ s.FoundNone ∨ c.2 = 0 := by
  unfold FoundNone
  rw [h]
  simp only [List.mem_append, List.mem_singleton, or_and_right, exists_or, exists_eq_left]

theorem Polls.timeout {s : SurrogateHost} (h : Polls s) {rt : Runtime}
    (htimeout : s.runtime.timeout = some rt) :
    Polls { s with
      runtime := rt, checks := s.checks ++ [(s.runtime.now, s.runtime.com.refs)] } := by
  obtain ⟨due, htimer, hdue, rfl⟩ := Runtime.timeout_eq_some htimeout
  -- the timer was running, so that no check has found nothing before
  have hnone : ¬ s.FoundNone := fun hfound => by simp [h.stopped hfound] at htimer
  obtain ⟨hnext, hnow⟩ := h.due hnone
  have htime : s.runtime.now = 60000 * (s.checks.length + 1) := by
    have hsame := Option.some.inj (hnext.symm.trans htimer)
    omega
  generalize hstopped : ({ s.runtime with checkForExitTimer := none } : Runtime) = stopped
  have hrefs : stopped.com.refs = s.runtime.com.refs := by rw [← hstopped]
  have hfound : FoundNone { s with
      runtime := stopped.checkForExit
      checks := s.checks ++ [(s.runtime.now, s.runtime.com.refs)] } ↔ stopped.com.refs = 0 := by
    rw [foundNone_concat rfl, hrefs]
    exact or_iff_right hnone
  obtain ⟨hnow', hinterval'⟩ := Runtime.checkForExit_now stopped
  have hinterval : stopped.checkForExitTimeout = 60000 := by
    rw [← hstopped]
    exact h.interval
  have hclock : stopped.now = 60000 * (s.checks.length + 1) := by
    rw [← hstopped]
    exact htime
  constructor
  · exact hinterval'.trans hinterval
  · dsimp only
    rw [List.map_append, List.length_append, List.length_singleton, List.range_succ,
      List.map_append, h.times, List.map_singleton, List.map_singleton, htime]
  · dsimp only
    rw [List.dropLast_concat]
    exact fun c hc hzero => hnone ⟨c, hc, hzero⟩
  · rw [Runtime.checkForExit_pending, hfound, ← hstopped]
    exact or_congr (h.pending.trans (or_iff_left hnone)) Iff.rfl
  · intro hfew
    rw [hfound] at hfew
    dsimp only
    rw [Runtime.checkForExit_checkForExitTimer hfew, hnow', List.length_append,
      List.length_singleton, hinterval, hclock]
    exact ⟨congrArg some (by omega), by omega⟩
  · intro hzero
    dsimp only
    rw [checkForExit_stopped (hfound.mp hzero), ← hstopped]

theorem Polls.step {s t : SurrogateHost} {e : SurrogateEvent} (h : Polls s)
    (hstep : s.step e = some t) : Polls t := by
  cases e with
  | construct =>
      obtain rfl := Option.some.inj hstep
      exact h.congr rfl rfl rfl rfl h.pending
  | destroy =>
      simp only [SurrogateHost.step, Option.ite_none_left_eq_some] at hstep
      obtain rfl := Option.some.inj hstep.2
      exact h.congr rfl rfl rfl rfl h.pending
  | lockServer fLock =>
      obtain rfl := Option.some.inj hstep
      cases fLock <;> exact h.congr rfl rfl rfl rfl h.pending
  | counted added =>
      obtain rfl := Option.some.inj hstep
      exact h.congr rfl rfl rfl rfl h.pending
  | freeSurrogate invoked =>
      cases invoked with
      | false =>
          obtain rfl := Option.some.inj hstep
          exact h
      | true =>
          obtain rfl := Option.some.inj hstep
          exact h.congr rfl rfl rfl rfl (iff_of_true (Or.inl (Nat.succ_ne_zero _)) (Or.inl rfl))
  | tick ms =>
      simp only [SurrogateHost.step, Option.ite_none_right_eq_some] at hstep
      obtain ⟨hbefore, hsome⟩ := hstep
      obtain rfl := Option.some.inj hsome
      refine ⟨h.interval, h.times, h.before, h.pending, fun hnone => ?_, h.stopped⟩
      obtain ⟨hnext, -⟩ := h.due hnone
      exact ⟨hnext, hbefore _ hnext⟩
  | timeout =>
      obtain ⟨rt, htimeout, rfl⟩ := Option.map_eq_some_iff.mp hstep
      exact h.timeout htimeout
  | dismissWarning =>
      simp only [SurrogateHost.step, Option.ite_none_right_eq_some] at hstep
      obtain ⟨hopen, hsome⟩ := hstep
      obtain rfl := Option.some.inj hsome
      have hleaves : s.freed = true ∨ s.FoundNone := h.pending.mp (Or.inr hopen)
      exact h.congr rfl rfl rfl rfl (iff_of_true (Or.inl (Nat.succ_ne_zero _)) hleaves)

theorem polls {s : SurrogateHost} (h : system.Reachable s) : Polls s := by
  refine h.induct (fun s hs => ?_) fun _ _ _ _ hpolls hstep => hpolls.step hstep
  rw [show s = {} from hs]
  have hnone : ¬ FoundNone {} := fun ⟨c, hc, _⟩ => List.not_mem_nil hc
  have hpending : ¬ (Runtime.checkForExitLater {}).pending := by decide
  exact ⟨rfl, rfl, by simp, iff_of_false hpending fun h => h.elim Bool.false_ne_true hnone,
    fun _ => ⟨rfl, Nat.zero_le _⟩, fun hfound => absurd hfound hnone⟩

/-- Whatever objects clients have in a surrogate, and however long: it checks once a minute, up to
the first check that finds COM's count at zero; an exit has been asked for exactly if there was
one or COM has freed the surrogate; and the last check is no more than a minute ago without one. -/
theorem leaves_iff {s : SurrogateHost} (h : system.Reachable s) :
    ((s.checks.map Prod.fst = (List.range s.checks.length).map fun i => 60000 * (i + 1)) ∧
      ∀ c ∈ s.checks.dropLast, c.2 ≠ 0) ∧
    (s.runtime.pending ↔ s.freed = true ∨ s.FoundNone) ∧
    (¬ s.FoundNone → s.runtime.now ≤ 60000 * (s.checks.length + 1)) :=
  ⟨⟨(polls h).times, (polls h).before⟩, (polls h).pending, fun hnone => ((polls h).due hnone).2⟩

/-- A client has an object in the surrogate and keeps it. -/
def inUse : List SurrogateEvent := [.construct, .tick 60000, .timeout, .dismissWarning]

theorem leaves_iff_inUse :
    ∃ s, system.exec {} inUse = some s ∧ s.containers = 1 ∧
      ((s.checks.map Prod.fst = (List.range s.checks.length).map fun i => 60000 * (i + 1)) ∧
        ∀ c ∈ s.checks.dropLast, c.2 ≠ 0) ∧
      (s.runtime.pending ↔ s.freed = true ∨ s.FoundNone) ∧
      (¬ s.FoundNone → s.runtime.now ≤ 60000 * (s.checks.length + 1)) := by
  have hexec : (system.exec {} inUse).map (fun s => s.containers) = some 1 := by decide
  obtain ⟨s, hs, hcontainers⟩ := Option.map_eq_some_iff.mp hexec
  obtain ⟨trace, -, hrun⟩ := System.run_of_exec hs
  exact ⟨s, hs, hcontainers, leaves_iff (hrun.reachable (.init rfl))⟩

end SurrogateHost

end Axhost
