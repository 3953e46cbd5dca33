import Mathlib.Data.List.Induction
import Mathlib.Tactic.Ring

/-!
# Numbers with a fixed number of digits

The `width` lowest digits of a number, the highest first, and the number that a list of digits
stands for.  Each undoes the other.
-/

namespace FixedDigits

def digits (b width n : Nat) : List Nat :=
  (List.range width).map fun i => n / b ^ (width - 1 - i) % b

def value (b : Nat) (ds : List Nat) : Nat := ds.foldl (fun v d => v * b + d) 0

variable {b : Nat}

@[simp] theorem length_digits (b width n : Nat) : (digits b width n).length = width := by
  simp [digits]

theorem digits_lt (hb : 0 < b) (width n : Nat) : ∀ d ∈ digits b width n, d < b := by
  intro d hd
  obtain ⟨i, -, rfl⟩ := List.mem_map.mp hd
  exact Nat.mod_lt _ hb

theorem digits_succ (b width n : Nat) :
    digits b (width + 1) n = digits b width (n / b) ++ [n % b] := by
  unfold digits
  rw [List.range_succ, List.map_append, List.map_singleton]
  congr 1
  · apply List.map_congr_left
    intro i hi
    have hlt : i < width := List.mem_range.mp hi
    rw [Nat.div_div_eq_div_mul, ← pow_succ', show width - 1 - i + 1 = width + 1 - 1 - i by omega]
  · simp

theorem value_concat (b : Nat) (ds : List Nat) (d : Nat) :
    value b (ds ++ [d]) = value b ds * b + d := by
  simp [value]

theorem value_lt {ds : List Nat} (h : ∀ d ∈ ds, d < b) : value b ds < b ^ ds.length := by
  induction ds using List.reverseRecOn with
  | nil => simp [value]
  | append_singleton ds d ih =>
      have hd : d < b := h d (by simp)
      have hds := ih fun x hx => h x (by simp [hx])
      rw [value_concat, List.length_append, List.length_singleton, pow_succ]
      calc value b ds * b + d < value b ds * b + b := by omega
        _ = (value b ds + 1) * b := by ring
        _ ≤ b ^ ds.length * b := Nat.mul_le_mul_right b hds

theorem value_digits (b width n : Nat) : value b (digits b width n) = n % b ^ width := by
  induction width generalizing n with
  | zero => simp [digits, value, Nat.mod_one]
  | succ width ih =>
      rw [digits_succ, value_concat, ih, pow_succ', Nat.mod_mul]
      ring

theorem digits_value {ds : List Nat} (h : ∀ d ∈ ds, d < b) :
    digits b ds.length (value b ds) = ds := by
  induction ds using List.reverseRecOn with
  | nil => rfl
  | append_singleton ds d ih =>
      have hd : d < b := h d (by simp)
      have hb : 0 < b := Nat.zero_lt_of_lt hd
      have hdiv : (value b ds * b + d) / b = value b ds := by
        rw [Nat.add_comm, Nat.add_mul_div_right _ _ hb, Nat.div_eq_of_lt hd, Nat.zero_add]
      rw [value_concat, List.length_append, List.length_singleton, digits_succ, hdiv,
        Nat.mul_add_mod_of_lt hd, ih fun x hx => h x (by simp [hx])]

end FixedDigits
