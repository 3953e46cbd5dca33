import Axhost.Lifetime.ExitTimer
import Axhost.Lifetime.Host

/-!
# A standalone host leaves

The exit timer is running, and due within a minute, as long as no exit has been asked for and no
idle warning is open: it is started by the constructor and by every check that finds a reference,
and it is started again when the last reference goes.  So no host is left without references for
more than a minute before it asks for its exit or shows its warning, in either mode, whatever its
clients do.

* `Timed.onAlert`: the invariant that keeps the timer running;
* `Timed.leaves_within`: a host without references asks for its exit, or shows its warning, within
  a minute of the last one.
-/

namespace Axhost.Timed

open Transition

/-- An exit has been asked for, or the timer will look for one within a minute: of now, and of the
last reference once there is none. -/
structure OnAlert (s : Timed) : Prop where
  interval : s.runtime.checkForExitTimeout = 60000
  due : ¬ s.runtime.pending → ∃ due, s.runtime.checkForExitTimer = some due ∧
    s.runtime.now ≤ due ∧ due ≤ s.runtime.now + 60000 ∧
      (s.runtime.com.refs = 0 → due ≤ s.busyUntil + 60000)

theorem addServerReference_onAlert {s : Timed} (halert : OnAlert s)
    (hnonneg : 0 ≤ s.runtime.com.refs) : OnAlert (s.observe s.runtime.addServerReference) := by
  obtain ⟨hinterval, hdue⟩ := halert
  refine ⟨hinterval, fun hpending => ?_⟩
  obtain ⟨due, htimer, hnow, hsoon, -⟩ := hdue hpending
  refine ⟨due, htimer, hnow, hsoon, fun hzero => ?_⟩
  have hsum : s.runtime.com.refs + 1 = 0 := hzero
  omega

theorem releaseServerReference_onAlert {s : Timed} (halert : OnAlert s) :
    OnAlert (s.observe s.runtime.releaseServerReference) := by
  obtain ⟨hinterval, hdue⟩ := halert
  obtain ⟨hnow', hinterval'⟩ := Runtime.releaseServerReference_now s.runtime
  have htimer' := Runtime.releaseServerReference_checkForExitTimer s.runtime
  refine ⟨hinterval'.trans hinterval, fun hpending => ?_⟩
  simp only [observe, Runtime.releaseServerReference_pending, not_or] at hpending ⊢
  rw [Runtime.releaseServerReference_refs, htimer', hnow']
  by_cases hlast : s.runtime.com.refs = 1
  · -- single-use mode would have asked for the exit
    have hmulti : s.runtime.hasMultipleUse = true :=
      (Bool.eq_false_or_eq_true _).resolve_right fun hsingle => hpending.2 ⟨hlast, hsingle⟩
    rw [if_pos ⟨hlast, hmulti⟩, if_pos (Or.inl (by omega)), hinterval]
    exact ⟨_, rfl, by omega, by omega, fun _ => by omega⟩
  · rw [if_neg fun h => hlast h.1]
    obtain ⟨due, htimer, hnow, hsoon, -⟩ := hdue hpending.1
    exact ⟨due, htimer, hnow, hsoon, fun hzero => by omega⟩

theorem tick_onAlert {s : Timed} {ms : Nat} (halert : OnAlert s)
    (hbefore : ∀ due ∈ s.runtime.checkForExitTimer, s.runtime.now + ms ≤ due) :
    OnAlert (s.observe { s.runtime with now := s.runtime.now + ms }) := by
  obtain ⟨hinterval, hdue⟩ := halert
  refine ⟨hinterval, fun hpending => ?_⟩
  obtain ⟨due, htimer, -, hsoon, hlast⟩ := hdue hpending
  have hnow := hbefore due htimer
  refine ⟨due, htimer, hnow, Nat.le_trans hsoon ?_, fun hzero => ?_⟩
  · dsimp only [observe]
    omega
  · have hzero' : s.runtime.com.refs = 0 := hzero
    simpa [observe, hzero'] using hlast hzero'

theorem checkForExit_onAlert (s : Timed) {rt : Runtime}
    (hinterval : rt.checkForExitTimeout = 60000) : OnAlert (s.observe rt.checkForExit) := by
  obtain ⟨hnow', hinterval'⟩ := Runtime.checkForExit_now rt
  refine ⟨hinterval'.trans hinterval, fun hpending => ?_⟩
  simp only [observe, Runtime.checkForExit_pending, not_or] at hpending ⊢
  rw [Runtime.checkForExit_checkForExitTimer hpending.2, Runtime.checkForExit_refs, hnow',
    hinterval]
  exact ⟨_, rfl, by omega, by omega, fun hzero => absurd hzero hpending.2⟩

theorem onAlert {s t : Timed} {e : TimedEvent} (halert : OnAlert s) (hcounted : s.Counted e)
    (hstep : s.step e = some t) : OnAlert t := by
  cases e with
  | addServerReference =>
      obtain rfl := Option.some.inj hstep
      exact addServerReference_onAlert halert (hcounted rfl)
  | releaseServerReference =>
      obtain rfl := Option.some.inj hstep
      exact releaseServerReference_onAlert halert
  | tick ms =>
      simp only [step, Option.ite_none_right_eq_some] at hstep
      obtain rfl := Option.some.inj hstep.2
      exact tick_onAlert halert hstep.1
  | timeout =>
      obtain ⟨rt, htimeout, rfl⟩ := Option.map_eq_some_iff.mp hstep
      obtain ⟨due, -, -, rfl⟩ := Runtime.timeout_eq_some htimeout
      exact checkForExit_onAlert s halert.interval
  | dismissWarning =>
      simp only [step, Option.ite_none_right_eq_some] at hstep
      obtain rfl := Option.some.inj hstep.2
      exact ⟨halert.interval, fun hpending => absurd (Or.inl (Nat.succ_ne_zero _)) hpending⟩

theorem standalone_onAlert (parsed : ParsedResult) (sus reg res : Bool) :
    OnAlert { runtime := parsed.standalone sus reg res } := by
  unfold ParsedResult.standalone
  generalize Runtime.checkMultipleUse parsed.specs parsed.regcls = multi
  cases multi <;> cases sus <;> cases reg <;> cases res <;>
    exact ⟨rfl, fun _ => ⟨60000, rfl, by decide, by decide, fun _ => by decide⟩⟩

theorem timeout_of_due {rt : Runtime} {due : Nat} (htimer : rt.checkForExitTimer = some due)
    (hdue : due ≤ rt.now) :
    rt.timeout = some { rt with checkForExitTimer := none }.checkForExit := by
  unfold Runtime.timeout
  rw [htimer]
  exact if_pos hdue

/-- The timer asks for an exit when it is due, if there is no reference. -/
theorem exec_leaves (parsed : ParsedResult) {s : Timed} {due : Nat}
    (htimer : s.runtime.checkForExitTimer = some due) (hnow : s.runtime.now ≤ due)
    (hzero : s.runtime.com.refs = 0) :
    ∃ t, (system parsed).exec s [.tick (due - s.runtime.now), .timeout] = some t ∧
      t.runtime.pending ∧ t.runtime.now = due := by
  have hsum : s.runtime.now + (due - s.runtime.now) = due := by omega
  generalize hwaited : s.observe { s.runtime with now := due } = waited
  have htick : (system parsed).step s (.tick (due - s.runtime.now)) = some waited := by
    rw [← hwaited]
    refine (if_pos fun due' hdue' => ?_).trans (by rw [hsum])
    obtain rfl := Option.some.inj (htimer.symm.trans hdue')
    exact Nat.le_of_eq hsum
  have hruntime : waited.runtime = { s.runtime with now := due } := by rw [← hwaited, observe]
  have hdue : waited.runtime.timeout =
      some { waited.runtime with checkForExitTimer := none }.checkForExit := by
    apply timeout_of_due
    · rw [hruntime, htimer]
    · rw [hruntime]
  have htimeout : (system parsed).step waited .timeout = some (waited.observe
      { waited.runtime with checkForExitTimer := none }.checkForExit) :=
    congrArg (Option.map waited.observe) hdue
  refine ⟨_, by rw [System.exec_cons htick, System.exec_cons htimeout, System.exec], ?_, ?_⟩
  · refine (Runtime.checkForExit_pending _).mpr (Or.inr ?_)
    rw [hruntime]
    exact hzero
  · refine (Runtime.checkForExit_now _).1.trans ?_
    rw [hruntime]

/-- In every run in which the count does not come up from below zero, a host that has no reference,
has not been asked for its exit and has no idle warning open has had one within the last minute;
unless it is given another one, it is asked for its exit, or shows its warning, before that minute
is over. -/
theorem leaves_within (parsed : ParsedResult) {sus reg res : Bool}
    {trace : List (Timed × TimedEvent)} {last : Timed}
    (hrun : (system parsed).Run { runtime := parsed.standalone sus reg res } trace last)
    (hcounted : ∀ v ∈ trace, v.1.Counted v.2) :
    ∀ s ∈ System.visited trace last, s.runtime.com.refs = 0 → ¬ s.runtime.pending →
      s.runtime.now ≤ s.busyUntil + 60000 ∧
        ∃ wait t, (system parsed).exec s [.tick wait, .timeout] = some t ∧
          t.runtime.pending ∧ t.runtime.now ≤ s.busyUntil + 60000 := by
  intro s hs hzero hpending
  have halert : OnAlert s := hrun.forall_visited (C := Counted)
    (fun _ _ _ hI hC hstep => onAlert hI hC hstep) (standalone_onAlert parsed sus reg res)
    hcounted s hs
  obtain ⟨due, htimer, hnow, -, hdue⟩ := halert.due hpending
  have hlast := hdue hzero
  obtain ⟨t, hexec, hleaves, rfl⟩ := exec_leaves parsed htimer hnow hzero
  exact ⟨Nat.le_trans hnow hlast, _, t, hexec, hleaves, hlast⟩

/-- Nobody has come for a second. -/
def aSecondLater : Timed where
  runtime := { oneMinute.standalone true true true with now := 1000 }

theorem aSecondLater_run : (system oneMinute).Run { runtime := oneMinute.standalone true true true }
    [({ runtime := oneMinute.standalone true true true }, .tick 1000)] aSecondLater :=
  .cons (by decide) (.nil _)

theorem leaves_within_aSecond :
    aSecondLater.runtime.now ≤ aSecondLater.busyUntil + 60000 ∧
      ∃ wait t, (system oneMinute).exec aSecondLater [.tick wait, .timeout] = some t ∧
        t.runtime.pending ∧ t.runtime.now ≤ aSecondLater.busyUntil + 60000 :=
  leaves_within oneMinute aSecondLater_run (by simp [Counted]) aSecondLater
    (List.mem_append_right _ (List.mem_singleton_self _)) rfl (by decide)

end Axhost.Timed
