import Mathlib.Data.List.TakeWhile
import Mathlib.Data.Prod.Lex
import Mathlib.Order.Nat

/-!
# A running maximum that is cut down

A loop keeps the greatest pair it has read, in lexicographic order, in two registers that hold
numbers below `w`.  What it reads may be wider, and is then cut down when it is kept, so that later
and smaller readings may take its place.

* `kept_fst_le_iff`, `kept_le_iff`: when the loop ends below a bound;
* `kept_eq_iff`: what it ends with, by the last reading above it and those that follow.
-/

namespace NarrowMax

variable (w : ℕ)

def narrow (r : ℕ × ℕ) : ℕ × ℕ := (r.1 % w, r.2 % w)

/-- One turn of the loop. -/
def keep (m r : ℕ × ℕ) : ℕ × ℕ := if toLex m < toLex r then narrow w r else m

/-- The pair that is kept after the readings, which stand in the list latest first. -/
def kept : List (ℕ × ℕ) → ℕ × ℕ
  | [] => (0, 0)
  | r :: rs => keep w (kept rs) r

/-- The last reading whose first number is above `a`. -/
def lastAbove (a : ℕ) (rs : List (ℕ × ℕ)) : Option (ℕ × ℕ) := rs.find? fun r => a < r.1

/-- The last reading above `v`. -/
def lastOver (v : ℕ × ℕ) (rs : List (ℕ × ℕ)) : Option (ℕ × ℕ) :=
  rs.find? fun r => toLex v < toLex r

/-- The readings after the last one above `v`. -/
def since (v : ℕ × ℕ) (rs : List (ℕ × ℕ)) : List (ℕ × ℕ) :=
  rs.takeWhile fun r => toLex r ≤ toLex v

/-- The readings settle at `v`: the last one above it, and the last with a greater first number,
come down to `v` or less, and `v` is read after that or is what the reading comes down to. -/
structure Settles (v : ℕ × ℕ) (rs : List (ℕ × ℕ)) : Prop where
  above : ∀ r, lastAbove v.1 rs = some r → r.1 % w ≤ v.1
  greater : ∀ r, lastOver v rs = some r → toLex (narrow w r) ≤ toLex v
  read : v ∈ since v rs ∨ ((lastOver v rs).map (narrow w)).getD (0, 0) = v

variable {w} {v : ℕ × ℕ} {a : ℕ} {rs : List (ℕ × ℕ)} {r : ℕ × ℕ}

theorem lastAbove_cons_of_lt (h : a < r.1) : lastAbove a (r :: rs) = some r := by
  simp [lastAbove, h]

theorem lastAbove_cons_of_le (h : r.1 ≤ a) : lastAbove a (r :: rs) = lastAbove a rs := by
  simp [lastAbove, Nat.not_lt.mpr h]

theorem lastOver_cons_of_lt (h : toLex v < toLex r) : lastOver v (r :: rs) = some r := by
  simp [lastOver, h]

theorem lastOver_cons_of_le (h : toLex r ≤ toLex v) : lastOver v (r :: rs) = lastOver v rs := by
  simp [lastOver, not_lt.mpr h]

theorem since_cons_of_lt (h : toLex v < toLex r) : since v (r :: rs) = [] := by
  simp [since, not_le.mpr h]

theorem since_cons_of_le (h : toLex r ≤ toLex v) : since v (r :: rs) = r :: since v rs := by
  simp [since, h]

/-! ## Cutting down -/

theorem narrow_le (r : ℕ × ℕ) : toLex (narrow w r) ≤ toLex r := by
  have hfst : r.1 % w ≤ r.1 := Nat.mod_le _ _
  have hsnd : r.2 % w ≤ r.2 := Nat.mod_le _ _
  rw [Prod.Lex.toLex_le_toLex]
  unfold narrow
  omega

theorem narrow_fst (h : r.1 < w) : (narrow w r).1 = r.1 := Nat.mod_eq_of_lt h

theorem narrow_eq_self (h : r.1 < w ∧ r.2 < w) : narrow w r = r :=
  Prod.ext (Nat.mod_eq_of_lt h.1) (Nat.mod_eq_of_lt h.2)

theorem keep_of_lt {m : ℕ × ℕ} (h : toLex m < toLex r) : keep w m r = narrow w r := if_pos h

theorem keep_of_le {m : ℕ × ℕ} (h : toLex r ≤ toLex m) : keep w m r = m := if_neg (not_lt.mpr h)

theorem kept_lt (hw : 0 < w) (rs : List (ℕ × ℕ)) : (kept w rs).1 < w ∧ (kept w rs).2 < w := by
  induction rs with
  | nil => exact ⟨hw, hw⟩
  | cons r rs ih =>
      rw [kept, keep]
      split_ifs
      · exact ⟨Nat.mod_lt _ hw, Nat.mod_lt _ hw⟩
      · exact ih

/-! ## Where the loop ends -/

theorem fst_le_of_le {x y : ℕ × ℕ} (h : toLex x ≤ toLex y) : x.1 ≤ y.1 := by
  rw [Prod.Lex.toLex_le_toLex] at h
  omega

/-- The first number ends below a bound when the last reading above the bound comes down to it. -/
theorem kept_fst_le_iff (hw : 0 < w) (ha : a < w) (rs : List (ℕ × ℕ)) :
    (kept w rs).1 ≤ a ↔ ∀ r, lastAbove a rs = some r → r.1 % w ≤ a := by
  induction rs with
  | nil => simp [kept, lastAbove]
  | cons r rs ih =>
      rw [kept]
      by_cases habove : a < r.1
      · rw [lastAbove_cons_of_lt habove]
        rcases lt_or_ge (toLex (kept w rs)) (toLex r) with hkeep | hkeep
        · rw [keep_of_lt hkeep]
          simp [narrow]
        · have hfst := fst_le_of_le hkeep
          have hlt := (kept_lt hw rs).1
          rw [keep_of_le hkeep]
          refine iff_of_false (by omega) fun h => ?_
          have hle := h r rfl
          rw [Nat.mod_eq_of_lt (by omega)] at hle
          omega
      · rw [lastAbove_cons_of_le (Nat.not_lt.mp habove)]
        rcases lt_or_ge (toLex (kept w rs)) (toLex r) with hkeep | hkeep
        · have hfst := fst_le_of_le hkeep.le
          rw [keep_of_lt hkeep, narrow_fst (by omega)]
          exact iff_of_true (by omega) (ih.mp (by omega))
        · rw [keep_of_le hkeep]
          exact ih

theorem kept_le_iff (hw : 0 < w) (hv : v.1 < w) (rs : List (ℕ × ℕ)) :
    toLex (kept w rs) ≤ toLex v ↔ (∀ r, lastAbove v.1 rs = some r → r.1 % w ≤ v.1) ∧
      ∀ r, lastOver v rs = some r → toLex (narrow w r) ≤ toLex v := by
  induction rs with
  | nil =>
      refine iff_of_true ?_ ⟨fun r hr => by simp [lastAbove] at hr, fun r hr => by
        simp [lastOver] at hr⟩
      rw [Prod.Lex.toLex_le_toLex]
      unfold kept
      omega
  | cons r rs ih =>
      have hmajor := kept_fst_le_iff hw hv (r :: rs)
      rw [kept] at hmajor ⊢
      rcases lt_or_ge (toLex v) (toLex r) with hover | hover
      · rw [lastOver_cons_of_lt hover, ← hmajor]
        simp only [Option.some.injEq, forall_eq']
        rcases lt_or_ge (toLex (kept w rs)) (toLex r) with hkeep | hkeep
        · rw [keep_of_lt hkeep]
          exact ⟨fun h => ⟨fst_le_of_le h, h⟩, fun h => h.2⟩
        · -- what is kept is not below the reading, so nothing was cut down
          have hlt := kept_lt hw rs
          rw [keep_of_le hkeep]
          refine iff_of_false (not_le.mpr (hover.trans_le hkeep)) ?_
          rintro ⟨hle, hnarrow⟩
          have hself : narrow w r = r := by
            rw [Prod.Lex.toLex_lt_toLex] at hover
            rw [Prod.Lex.toLex_le_toLex] at hkeep
            exact narrow_eq_self (by omega)
          rw [hself] at hnarrow
          exact not_le.mpr hover hnarrow
      · rw [lastOver_cons_of_le hover, lastAbove_cons_of_le (fst_le_of_le hover), ← ih]
        rcases lt_or_ge (toLex (kept w rs)) (toLex r) with hkeep | hkeep
        · rw [keep_of_lt hkeep]
          exact iff_of_true ((narrow_le r).trans hover) (hkeep.le.trans hover)
        · rw [keep_of_le hkeep]

theorem kept_eq_iff (hv : v.1 < w ∧ v.2 < w) (rs : List (ℕ × ℕ)) :
    kept w rs = v ↔ Settles w v rs := by
  have hw : 0 < w := by omega
  have hread : toLex (kept w rs) ≤ toLex v → (kept w rs = v ↔
      v ∈ since v rs ∨ ((lastOver v rs).map (narrow w)).getD (0, 0) = v) := by
    induction rs with
    | nil => simp [kept, since, lastOver]
    | cons r rs ih =>
        intro hle
        rw [kept] at hle ⊢
        rcases lt_or_ge (toLex v) (toLex r) with hover | hover
        · rw [lastOver_cons_of_lt hover, since_cons_of_lt hover]
          rcases lt_or_ge (toLex (kept w rs)) (toLex r) with hkeep | hkeep
          · simp [keep_of_lt hkeep]
          · rw [keep_of_le hkeep] at hle
            exact absurd (hover.trans_le hkeep) (not_lt.mpr hle)
        · rw [lastOver_cons_of_le hover, since_cons_of_le hover, List.mem_cons, or_assoc]
          rcases lt_or_ge (toLex (kept w rs)) (toLex r) with hkeep | hkeep
          · rw [keep_of_lt hkeep]
            have hbelow := hkeep.trans_le hover
            rw [← ih hbelow.le, or_iff_left fun h => hbelow.ne (congrArg toLex h)]
            constructor
            · intro h
              exact toLex.injective (le_antisymm (h ▸ narrow_le r) hover)
            · rintro rfl
              exact narrow_eq_self hv
          · rw [keep_of_le hkeep] at hle ⊢
            rw [← ih hle]
            constructor
            · exact Or.inr
            · rintro (rfl | h)
              · exact toLex.injective (le_antisymm hle hkeep)
              · exact h
  constructor
  · intro heq
    obtain ⟨habove, hover⟩ := (kept_le_iff hw hv.1 rs).mp (heq ▸ le_refl _)
    exact ⟨habove, hover, (hread (heq ▸ le_refl _)).mp heq⟩
  · intro hsettles
    have hle := (kept_le_iff hw hv.1 rs).mpr ⟨hsettles.above, hsettles.greater⟩
    exact (hread hle).mpr hsettles.read

end NarrowMax
