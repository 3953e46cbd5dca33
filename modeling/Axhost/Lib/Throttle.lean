import Mathlib.Data.List.Basic

/-!
# Throttles

A throttle lets a call through when it is the first one, or when at least `gap` has passed since
the last one that it let through.  Times do not go back.

* `pairwise_fired`: what gets through is `gap` apart;
* `exists_fired`: no call is without one that got through less than `gap` before it;
* `length_window_le`: a window of `n` gaps has at most `n` that got through.
-/

namespace Throttle

variable (gap : ℕ)

/-- A call at a time, with the last one that got through. -/
def Fires (last : Option ℕ) (now : ℕ) : Prop := ∀ start ∈ last, start + gap ≤ now

instance (last : Option ℕ) (now : ℕ) : Decidable (Fires gap last now) :=
  inferInstanceAs (Decidable (∀ start ∈ last, _))

/-- The calls that get through. -/
def fired (last : Option ℕ) : List ℕ → List ℕ
  | [] => []
  | now :: times =>
    if Fires gap last now then now :: fired (some now) times else fired last times

variable {gap}

theorem fired_sublist (last : Option ℕ) (times : List ℕ) :
    (fired gap last times).Sublist times := by
  induction times generalizing last with
  | nil => exact .slnil
  | cons now times ih =>
      unfold fired
      split_ifs
      · exact (ih _).cons_cons now
      · exact (ih _).cons now

/-- Nothing gets through too soon after the last one. -/
theorem add_gap_le_of_mem_fired {start : ℕ} {times : List ℕ} (hsorted : times.Pairwise (· ≤ ·))
    {t : ℕ} (ht : t ∈ fired gap (some start) times) : start + gap ≤ t := by
  induction times with
  | nil => exact absurd ht List.not_mem_nil
  | cons now times ih =>
      rw [List.pairwise_cons] at hsorted
      unfold fired at ht
      split_ifs at ht with hfires
      · have hnow : start + gap ≤ now := hfires start rfl
        rcases List.mem_cons.mp ht with rfl | hlater
        · exact hnow
        · have hle := hsorted.1 t ((fired_sublist _ _).subset hlater)
          omega
      · exact ih hsorted.2 ht

theorem pairwise_fired (last : Option ℕ) {times : List ℕ} (hsorted : times.Pairwise (· ≤ ·)) :
    (fired gap last times).Pairwise fun a b => a + gap ≤ b := by
  induction times generalizing last with
  | nil => exact .nil
  | cons now times ih =>
      rw [List.pairwise_cons] at hsorted
      unfold fired
      split_ifs
      · exact .cons (fun t ht => add_gap_le_of_mem_fired hsorted.2 ht) (ih _ hsorted.2)
      · exact ih _ hsorted.2

theorem exists_fired {last : Option ℕ} {times : List ℕ} (hsorted : times.Pairwise (· ≤ ·))
    (hlast : ∀ start ∈ last, ∀ t ∈ times, start ≤ t) (hgap : 0 < gap) :
    ∀ t ∈ times, ∃ a, (a ∈ last ∨ a ∈ fired gap last times) ∧ a ≤ t ∧ t < a + gap := by
  induction times generalizing last with
  | nil => exact fun t ht => absurd ht List.not_mem_nil
  | cons now times ih =>
      rw [List.pairwise_cons] at hsorted
      rw [List.forall_mem_cons]
      unfold fired
      split_ifs with hfires
      · have hnow : ∀ start ∈ some now, ∀ t ∈ times, start ≤ t := by
          rintro _ ⟨⟩
          exact hsorted.1
        refine ⟨⟨now, Or.inr List.mem_cons_self, Nat.le_refl now, by omega⟩, fun t ht => ?_⟩
        obtain ⟨a, ha, hle, hlt⟩ := ih hsorted.2 hnow t ht
        refine ⟨a, Or.inr ?_, hle, hlt⟩
        rcases ha with ha | ha
        · obtain rfl := Option.some.inj ha
          exact List.mem_cons_self
        · exact List.mem_cons_of_mem now ha
      · -- the last one that got through is less than a gap ago
        unfold Fires at hfires
        simp only [not_forall] at hfires
        obtain ⟨start, hstart, hsoon⟩ := hfires
        have hle := hlast start hstart now List.mem_cons_self
        exact ⟨⟨start, Or.inl hstart, hle, by omega⟩, ih hsorted.2
          fun s hs t ht => hlast s hs t (List.mem_cons_of_mem now ht)⟩

theorem add_length_mul_le {a : ℕ} {times : List ℕ}
    (h : (a :: times).Pairwise fun a b => a + gap ≤ b) {bound : ℕ}
    (hbound : ∀ t ∈ a :: times, t < bound) : a + times.length * gap < bound := by
  induction times generalizing a with
  | nil => simpa using hbound a List.mem_cons_self
  | cons b times ih =>
      rw [List.pairwise_cons] at h
      have hnext := h.1 b List.mem_cons_self
      have hrest := ih h.2 fun t ht => hbound t (List.mem_cons_of_mem a ht)
      rw [List.length_cons, Nat.add_mul, Nat.one_mul]
      omega

theorem length_window_le {times : List ℕ} (h : times.Pairwise fun a b => a + gap ≤ b)
    (start n : ℕ) :
    (times.filter fun t => start ≤ t ∧ t < start + n * gap).length ≤ n := by
  generalize hwindow : times.filter (fun t => start ≤ t ∧ t < start + n * gap) = window
  have hspaced : window.Pairwise fun a b => a + gap ≤ b := hwindow ▸ h.filter _
  have hmem {t : ℕ} (ht : t ∈ window) : start ≤ t ∧ t < start + n * gap := by
    rw [← hwindow] at ht
    simpa using (List.mem_filter.mp ht).2
  cases window with
  | nil => exact Nat.zero_le n
  | cons a rest =>
      have hfirst := (hmem List.mem_cons_self).1
      have hlt := add_length_mul_le hspaced fun t ht => (hmem ht).2
      have hmul : rest.length * gap < n * gap := by omega
      exact Nat.lt_of_mul_lt_mul_right hmul

end Throttle
