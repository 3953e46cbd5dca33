import Axhost.Lib.Throttle
import Axhost.Platform.Windows

/-!
# Unused libraries

`surrogate_runtime.cc`: whenever its event loop is about to block, a runtime asks COM to free the
libraries that nothing is left of, unless it has done so in the last 60000 whole milliseconds and
the one that has begun.  What COM does then
may run an event loop of its own, and the runtime is told again when that is about to block.

* `LibraryCleaner.freed_throttled`: when COM is asked, over any number of blocks.
-/

namespace Axhost

open Throttle

/-- `m_freeUnusedLibrariesTimer` is the time since when it runs, in nanoseconds, and `freed` has
the times of the calls of `CoFreeUnusedLibraries`. -/
structure LibraryCleaner where
  connected : Bool := false
  interval : DWORD := 60000
  timer : Option ℕ := none
  freed : List ℕ := []
deriving DecidableEq, Repr

/-- A `QElapsedTimer` that has been started has more than so many whole milliseconds behind it. -/
def hasExpired (start now timeout : ℕ) : Bool := timeout < (now - start) / 1000000

namespace LibraryCleaner

/-- The signal is connected if there is an application, and it has a dispatcher. -/
def startUnusedLibraryCleaner (app dispatcher : Bool) : LibraryCleaner where
  connected := app && dispatcher

def freeUnusedLibraries (c : LibraryCleaner) (now : ℕ) : LibraryCleaner :=
  let due := match c.timer with
    | none => true
    | some start => hasExpired start now c.interval.toNat
  if due then { c with timer := some now, freed := c.freed ++ [now] } else c

/-- The signal `aboutToBlock`, and `OnAboutToBlock` where it is connected. -/
def aboutToBlock (c : LibraryCleaner) (now : ℕ) : LibraryCleaner :=
  if c.connected then c.freeUnusedLibraries now else c

/-- When COM is asked, where the loop blocks at these times. -/
def freedAt (app dispatcher : Bool) (times : List ℕ) : List ℕ :=
  (times.foldl aboutToBlock (startUnusedLibraryCleaner app dispatcher)).freed

/-- A minute, and the millisecond that has to be over as well. -/
def gap : ℕ := 60001 * 1000000

theorem hasExpired_iff (start now : ℕ) : hasExpired start now 60000 = true ↔ start + gap ≤ now := by
  unfold hasExpired gap
  rw [decide_eq_true_iff, Nat.lt_iff_add_one_le, Nat.le_div_iff_mul_le (by decide)]
  omega

theorem freeUnusedLibraries_eq {c : LibraryCleaner} (hinterval : c.interval = 60000) (now : ℕ) :
    c.freeUnusedLibraries now =
      if Fires gap c.timer now then { c with timer := some now, freed := c.freed ++ [now] }
      else c := by
  have hminute : c.interval.toNat = 60000 := by rw [hinterval]; rfl
  unfold freeUnusedLibraries Fires
  rw [hminute]
  cases c.timer with
  | none => simp
  | some start => simp [hasExpired_iff]

theorem foldl_aboutToBlock {c : LibraryCleaner} (hinterval : c.interval = 60000)
    (hconnected : c.connected = true) (times : List ℕ) :
    (times.foldl aboutToBlock c).freed = c.freed ++ fired gap c.timer times := by
  induction times generalizing c with
  | nil => exact (List.append_nil _).symm
  | cons now times ih =>
      rw [List.foldl_cons, aboutToBlock, if_pos hconnected, freeUnusedLibraries_eq hinterval, fired]
      split_ifs
      · refine (ih ?_ ?_).trans (List.append_assoc _ _ _)
        · exact hinterval
        · exact hconnected
      · exact ih hinterval hconnected

theorem foldl_of_not_connected {c : LibraryCleaner} (hconnected : c.connected = false)
    (times : List ℕ) : times.foldl aboutToBlock c = c := by
  induction times with
  | nil => rfl
  | cons now times ih => rw [List.foldl_cons, aboutToBlock, if_neg (by simp [hconnected]), ih]

/-- COM is asked 60001 ms apart or more, so at most `n` times in `n` such gaps; whenever the loop
blocks, it is asked then or has been less than 60001 ms before; and it is never asked where there
is no dispatcher. -/
theorem freed_throttled (app dispatcher : Bool) {times : List ℕ}
    (hsorted : times.Pairwise (· ≤ ·)) :
    (freedAt app dispatcher times).Sublist times ∧
      ((freedAt app dispatcher times).Pairwise fun a b => a + gap ≤ b) ∧
      (∀ start n, ((freedAt app dispatcher times).filter fun t =>
        start ≤ t ∧ t < start + n * gap).length ≤ n) ∧
      if app && dispatcher then
        ∀ t ∈ times, ∃ a ∈ freedAt app dispatcher times, a ≤ t ∧ t < a + gap
      else freedAt app dispatcher times = [] := by
  by_cases hconnected : (app && dispatcher) = true
  · have hfreed : freedAt app dispatcher times = fired gap none times :=
      (foldl_aboutToBlock rfl hconnected times).trans (List.nil_append _)
    have hspaced := @pairwise_fired gap none times hsorted
    rw [if_pos hconnected, hfreed]
    refine ⟨fired_sublist none times, hspaced, length_window_le hspaced, fun t ht => ?_⟩
    have hnone : ∀ start ∈ (none : Option ℕ), ∀ t ∈ times, start ≤ t := by simp
    have hpositive : 0 < gap := by decide
    obtain ⟨a, ha, hle, hlt⟩ := exists_fired hsorted hnone hpositive t ht
    exact ⟨a, ha.resolve_left (by simp), hle, hlt⟩
  · have hfreed : freedAt app dispatcher times = [] := by
      have hnone : (startUnusedLibraryCleaner app dispatcher).connected = false :=
        Bool.eq_false_iff.mpr hconnected
      exact congrArg LibraryCleaner.freed (foldl_of_not_connected hnone times)
    rw [if_neg hconnected, hfreed]
    exact ⟨List.nil_sublist times, .nil, fun _ n => Nat.zero_le n, rfl⟩

/-- Three blocks, the last of them two minutes after the others. -/
theorem freed_throttled_twice :
    (freedAt true true [5, 7, 120000000007]).Sublist [5, 7, 120000000007] ∧
      ((freedAt true true [5, 7, 120000000007]).Pairwise fun a b => a + gap ≤ b) ∧
      (∀ start n, ((freedAt true true [5, 7, 120000000007]).filter fun t =>
        start ≤ t ∧ t < start + n * gap).length ≤ n) ∧
      if true && true then ∀ t ∈ [5, 7, 120000000007],
        ∃ a ∈ freedAt true true [5, 7, 120000000007], a ≤ t ∧ t < a + gap
      else freedAt true true [5, 7, 120000000007] = [] :=
  freed_throttled true true (by simp)

end LibraryCleaner

end Axhost
