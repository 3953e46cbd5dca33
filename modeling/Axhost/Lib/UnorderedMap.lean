import Mathlib.Data.List.Basic

/-!
# Maps that are filled by `emplace`

An association list with the operations of `std::unordered_map`: `emplace` leaves an entry
that is there alone, and `erase` takes it out.
-/

namespace UnorderedMap

variable {α β : Type*} [DecidableEq α]

def find (m : List (α × β)) (k : α) : Option β := m.lookup k

def emplace (m : List (α × β)) (k : α) (v : β) : List (α × β) :=
  if (find m k).isSome then m else (k, v) :: m

def erase (m : List (α × β)) (k : α) : List (α × β) := m.filter fun e => e.1 ≠ k

theorem find_cons (k : α) (v : β) (m : List (α × β)) (k' : α) :
    find ((k, v) :: m) k' = if k' = k then some v else find m k' := by
  unfold find
  rw [List.lookup_cons]
  by_cases hk : k' = k
  · simp [hk]
  · simp [hk, show (k' == k) = false by simpa using hk]

theorem find_emplace (m : List (α × β)) (k : α) (v : β) (k' : α) :
    find (emplace m k v) k' = if k' = k ∧ find m k = none then some v else find m k' := by
  unfold emplace
  cases hk : find m k with
  | some w => simp
  | none => simp [find_cons]

theorem find_erase (m : List (α × β)) (k k' : α) :
    find (erase m k) k' = if k' = k then none else find m k' := by
  induction m with
  | nil => simp [erase, find]
  | cons e m ih =>
      obtain ⟨k₀, v₀⟩ := e
      have herase : erase ((k₀, v₀) :: m) k =
          if k₀ = k then erase m k else (k₀, v₀) :: erase m k := by
        unfold erase
        rw [List.filter_cons]
        by_cases hk : k₀ = k <;> simp [hk]
      rw [herase, find_cons]
      by_cases hk : k₀ = k
      · rw [if_pos hk, ih]
        by_cases hk' : k' = k <;> simp [hk, hk']
      · rw [if_neg hk, find_cons, ih]
        by_cases hk' : k' = k
        · subst hk'
          simp [Ne.symm hk]
        · simp [hk']

theorem isSome_find_emplace (m : List (α × β)) (k : α) (v : β) (k' : α) :
    (find (emplace m k v) k').isSome = (decide (k' = k) || (find m k').isSome) := by
  rw [find_emplace]
  by_cases hk : k' = k
  · subst hk
    cases find m k' with
    | none => simp
    | some w => simp
  · simp [hk]

theorem isSome_find_erase (m : List (α × β)) (k k' : α) :
    (find (erase m k) k').isSome = (decide (k' ≠ k) && (find m k').isSome) := by
  rw [find_erase]
  by_cases hk : k' = k
  · simp [hk]
  · simp [hk]

theorem mem_of_find {m : List (α × β)} {k : α} {v : β} (h : find m k = some v) : (k, v) ∈ m := by
  induction m with
  | nil => simp [find] at h
  | cons e m ih =>
      obtain ⟨k₀, v₀⟩ := e
      rw [find_cons] at h
      split_ifs at h with hk
      · obtain rfl := Option.some.inj h
        exact hk ▸ List.mem_cons_self
      · exact List.mem_cons_of_mem _ (ih h)

theorem not_mem_of_find {m : List (α × β)} {k : α} (h : find m k = none) :
    k ∉ m.map Prod.fst := by
  intro hmem
  obtain ⟨e, he, rfl⟩ := List.mem_map.mp hmem
  have hne := List.lookup_eq_none_iff.mp h e he
  simp at hne

end UnorderedMap
