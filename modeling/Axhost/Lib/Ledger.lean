import Mathlib.Data.List.Basic

/-!
# Ledgers of resources

What has been acquired and released, in order.  A ledger is wrong where something is released that
is not held.

* `held_frame`: what was held before does not matter, and is still held afterwards;
* `held_map`: a ledger of a part of the resources is one of all of them.
-/

namespace Ledger

inductive Event (ρ : Type*)
  | acquire (r : ρ)
  | release (r : ρ)
deriving DecidableEq, Repr

variable {ρ σ : Type*}

def Event.map (f : ρ → σ) : Event ρ → Event σ
  | acquire r => acquire (f r)
  | release r => release (f r)

variable [DecidableEq ρ] [DecidableEq σ]

/-- What is held after the events. -/
def held : List (Event ρ) → List ρ → Option (List ρ)
  | [], rs => some rs
  | .acquire r :: events, rs => held events (r :: rs)
  | .release r :: events, rs => if r ∈ rs then held events (rs.erase r) else none

/-- All that was acquired has been released. -/
def Cleared (events : List (Event ρ)) : Prop := held events [] = some []

@[simp] theorem held_nil (rs : List ρ) : held [] rs = some rs := rfl

@[simp] theorem held_acquire (r : ρ) (events : List (Event ρ)) (rs : List ρ) :
    held (.acquire r :: events) rs = held events (r :: rs) := rfl

theorem held_release_of_mem {r : ρ} {rs : List ρ} (h : r ∈ rs) (events : List (Event ρ)) :
    held (.release r :: events) rs = held events (rs.erase r) := if_pos h

theorem held_append (events events' : List (Event ρ)) (rs : List ρ) :
    held (events ++ events') rs = (held events rs).bind (held events') := by
  induction events generalizing rs with
  | nil => rfl
  | cons event events ih =>
      cases event with
      | acquire r => exact ih (r :: rs)
      | release r =>
          rw [List.cons_append, held, held]
          split_ifs
          · exact ih (rs.erase r)
          · rfl

theorem held_frame {events : List (Event ρ)} {rs rs' : List ρ} (h : held events rs = some rs')
    (more : List ρ) : held events (rs ++ more) = some (rs' ++ more) := by
  induction events generalizing rs with
  | nil =>
      obtain rfl := Option.some.inj h
      rfl
  | cons event events ih =>
      cases event with
      | acquire r => exact ih h
      | release r =>
          obtain ⟨hmem, h⟩ := Option.ite_none_right_eq_some.mp h
          rw [held_release_of_mem (List.mem_append_left more hmem),
            List.erase_append_left more hmem]
          exact ih h

theorem cleared_nil : Cleared ([] : List (Event ρ)) := rfl

theorem Cleared.held {events : List (Event ρ)} (h : Cleared events) (rs : List ρ) :
    held events rs = some rs := held_frame h rs

theorem held_map {f : ρ → σ} (hf : Function.Injective f) (events : List (Event ρ)) (rs : List ρ) :
    held (events.map (Event.map f)) (rs.map f) = (held events rs).map (List.map f) := by
  induction events generalizing rs with
  | nil => rfl
  | cons event events ih =>
      cases event with
      | acquire r => exact ih (r :: rs)
      | release r =>
          have hmem : f r ∈ rs.map f ↔ r ∈ rs := List.mem_map_of_injective hf
          rw [List.map_cons, Event.map, held, held]
          by_cases hr : r ∈ rs
          · rw [if_pos (hmem.mpr hr), if_pos hr, ← List.map_erase hf, ih]
          · rw [if_neg (mt hmem.mp hr), if_neg hr]
            rfl

theorem Cleared.map {f : ρ → σ} (hf : Function.Injective f) {events : List (Event ρ)}
    (h : Cleared events) : Cleared (events.map (Event.map f)) := by
  have hmap := held_map hf events []
  rw [h] at hmap
  exact hmap

end Ledger
