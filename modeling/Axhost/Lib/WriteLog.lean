import Mathlib.Data.List.Induction
import Mathlib.Logic.Function.Basic

/-!
# Stores and logs of their writes

A store gives a value to some keys.  A log of writes, each of which gives a key a value or takes
it away, is replayed over a store from its beginning.

* `replay_apply`: a key has what the last write to it gave;
* `replay_override`: a log undoes what another one did to its own keys, and no more.
-/

namespace WriteLog

structure Write (α β : Type*) where
  key : α
  value : Option β

variable {α β : Type*} [DecidableEq α]

def Write.run (store : α → Option β) (w : Write α β) : α → Option β :=
  Function.update store w.key w.value

def replay (log : List (Write α β)) (store : α → Option β) : α → Option β :=
  log.foldl Write.run store

def keys (log : List (Write α β)) : List α := log.map Write.key

/-- What a log leaves of a key that it writes. -/
def last (log : List (Write α β)) (k : α) : Option (Option β) :=
  ((log.filter fun w => w.key = k).getLast?).map Write.value

@[simp] theorem replay_nil (store : α → Option β) : replay [] store = store := rfl

theorem replay_cons (w : Write α β) (log : List (Write α β)) (store : α → Option β) :
    replay (w :: log) store = replay log (w.run store) := rfl

theorem replay_append (log log' : List (Write α β)) (store : α → Option β) :
    replay (log ++ log') store = replay log' (replay log store) := List.foldl_append

theorem replay_concat (log : List (Write α β)) (w : Write α β) (store : α → Option β) :
    replay (log ++ [w]) store = w.run (replay log store) := by
  rw [replay_append, replay_cons, replay_nil]

theorem last_concat (log : List (Write α β)) (w : Write α β) (k : α) :
    last (log ++ [w]) k = if w.key = k then some w.value else last log k := by
  unfold last
  rw [List.filter_append]
  split_ifs with hkey
  · rw [List.filter_cons_of_pos (by simpa using hkey), List.filter_nil, List.getLast?_concat]
    rfl
  · rw [List.filter_cons_of_neg (by simpa using hkey), List.filter_nil, List.append_nil]

theorem replay_apply (log : List (Write α β)) (store : α → Option β) (k : α) :
    replay log store k = (last log k).getD (store k) := by
  induction log using List.reverseRecOn with
  | nil => rfl
  | append_singleton log w ih =>
      rw [replay_concat, last_concat, Write.run]
      by_cases hkey : w.key = k
      · rw [if_pos hkey, ← hkey, Function.update_self]
        rfl
      · rw [if_neg hkey, Function.update_of_ne (Ne.symm hkey), ih]

theorem last_isSome {log : List (Write α β)} {k : α} : (last log k).isSome ↔ k ∈ keys log := by
  unfold last keys
  rw [Option.isSome_map, List.getLast?_isSome, List.mem_map]
  constructor
  · intro hne
    obtain ⟨w, hw⟩ := List.exists_mem_of_ne_nil _ hne
    obtain ⟨hmem, hkey⟩ := List.mem_filter.mp hw
    exact ⟨w, hmem, by simpa using hkey⟩
  · rintro ⟨w, hw, hkey⟩
    exact List.ne_nil_of_mem (List.mem_filter.mpr ⟨hw, by simpa using hkey⟩)

theorem replay_of_notMem {log : List (Write α β)} {k : α} (h : k ∉ keys log)
    (store : α → Option β) : replay log store k = store k := by
  have hnone : last log k = none :=
    Option.not_isSome_iff_eq_none.mp (last_isSome.not.mpr h)
  rw [replay_apply, hnone]
  rfl

theorem replay_of_mem {log : List (Write α β)} {k : α} (h : k ∈ keys log)
    (store store' : α → Option β) : replay log store k = replay log store' k := by
  obtain ⟨v, hv⟩ := Option.isSome_iff_exists.mp (last_isSome.mpr h)
  rw [replay_apply, replay_apply, hv]
  rfl

theorem last_filter {log : List (Write α β)} {P : α → Prop} [DecidablePred P] {k : α} (h : P k) :
    last (log.filter fun w => P w.key) k = last log k := by
  unfold last
  rw [List.filter_filter]
  congr 2
  apply List.filter_congr
  intro w _
  by_cases hkey : w.key = k
  · simp [hkey, h]
  · simp [hkey]

/-- A log undoes what another one did to its keys, and the rest of that one may come after it. -/
theorem replay_override (log log' : List (Write α β)) (store : α → Option β) :
    replay log (replay log' store) =
      replay (log'.filter fun w => w.key ∉ keys log) (replay log store) := by
  funext k
  by_cases hk : k ∈ keys log
  · have hnot : k ∉ keys (log'.filter fun w => w.key ∉ keys log) := by
      intro hmem
      obtain ⟨w, hw, rfl⟩ := List.mem_map.mp hmem
      have hother : w.key ∉ keys log := by simpa using (List.mem_filter.mp hw).2
      exact hother hk
    rw [replay_of_notMem hnot]
    exact replay_of_mem hk _ _
  · rw [replay_of_notMem hk, replay_apply, replay_apply _ (replay log store),
      last_filter (P := fun k => k ∉ keys log) hk,
      replay_of_notMem hk]

theorem replay_absorb {log log' : List (Write α β)} (h : ∀ k ∈ keys log', k ∈ keys log)
    (store : α → Option β) : replay log (replay log' store) = replay log store := by
  have hnone : (log'.filter fun w => w.key ∉ keys log) = [] := by
    apply List.filter_eq_nil_iff.mpr
    intro w hw
    simpa using h w.key (List.mem_map_of_mem hw)
  rw [replay_override, hnone, replay_nil]

/-- A key that is given one value only has that. -/
theorem replay_eq_of_forall {log : List (Write α β)} {k : α} {v : Option β} (hk : k ∈ keys log)
    (h : ∀ w ∈ log, w.key = k → w.value = v) (store : α → Option β) : replay log store k = v := by
  induction log using List.reverseRecOn with
  | nil => exact absurd hk List.not_mem_nil
  | append_singleton log w ih =>
      rw [replay_concat, Write.run]
      by_cases hkey : k = w.key
      · rw [hkey, Function.update_self]
        exact h w (by simp) hkey.symm
      · rw [Function.update_of_ne hkey]
        apply ih
        · obtain ⟨w', hw', hkey'⟩ := List.mem_map.mp hk
          rcases List.mem_append.mp hw' with hbefore | hlast
          · exact List.mem_map.mpr ⟨w', hbefore, hkey'⟩
          · rw [List.mem_singleton.mp hlast] at hkey'
            exact absurd hkey'.symm hkey
        · intro w' hw'
          exact h w' (List.mem_append_left _ hw')

theorem exists_write {log : List (Write α β)} {store : α → Option β} {k : α} {v : β}
    (h : replay log store k = some v) :
    store k = some v ∨ ∃ w ∈ log, w.key = k ∧ w.value = some v := by
  induction log using List.reverseRecOn with
  | nil => exact Or.inl h
  | append_singleton log w ih =>
      rw [replay_concat, Write.run] at h
      by_cases hkey : k = w.key
      · subst hkey
        rw [Function.update_self] at h
        exact Or.inr ⟨w, by simp, rfl, h⟩
      · rw [Function.update_of_ne hkey] at h
        refine (ih h).imp_right fun ⟨w', hw', hwrites⟩ => ?_
        exact ⟨w', List.mem_append_left _ hw', hwrites⟩

theorem replay_ne_none {log : List (Write α β)} {store : α → Option β} {k : α}
    (hlog : ∀ w ∈ log, w.key = k → w.value ≠ none) (hstore : store k ≠ none) :
    replay log store k ≠ none := by
  induction log using List.reverseRecOn with
  | nil => exact hstore
  | append_singleton log w ih =>
      rw [replay_concat, Write.run]
      by_cases hkey : k = w.key
      · rw [hkey, Function.update_self]
        exact hlog w (by simp) hkey.symm
      · rw [Function.update_of_ne hkey]
        exact ih fun w' hw' => hlog w' (List.mem_append_left _ hw')

end WriteLog
