import Mathlib.Algebra.BigOperators.Group.Finset.Basic
import Mathlib.Algebra.Order.BigOperators.Group.Finset
import Mathlib.Tactic.Ring
import Mathlib.Tactic.Linarith

/-!
# Reference-counted objects

A heap of objects that count the references to them.  An object holds references in its
fields; it is destroyed when its count returns to zero, and what it held is released in
turn.  Objects are named by numbers that are never used twice.  Their addresses are another
matter: live objects have different ones, but the address of one that is gone can be given to
a new one.

`owned h a` is the number of references to `a` that no object holds: those of the callers,
of local pointers, of anything outside the heap.  `Gives h h' ws` says that getting from `h`
to `h'` left one new such reference for each element of `ws`, and nothing else.  Its rules
follow a method from one line to the next:

* `Gives.addRef`, `Gives.new`, `Gives.store` and `Gives.release` for one action;
* `Gives.trans` for a sequence;
* `Gives.live`: what was given is alive.
-/

namespace RefHeap

/-- What the heap has to know of its objects: the references in their fields, and which
later states of an object agree with it on what never changes. -/
class Object (κ : Type*) where
  refs : κ → List Nat
  same : κ → κ → Prop
  same_refl : ∀ o, same o o
  same_trans : ∀ o p q, same o p → same p q → same o q

open Object

structure Cell (κ : Type*) where
  address : Nat
  count : Nat
  obj : κ

structure Heap (κ : Type*) where
  cell : Nat → Option (Cell κ)
  next : Nat
  fresh : ∀ a, next ≤ a → cell a = none
  distinct : ∀ a b c d, cell a = some c → cell b = some d → c.address = d.address → a = b

variable {κ : Type*}

namespace Heap

def empty : Heap κ where
  cell _ := none
  next := 0
  fresh _ _ := rfl
  distinct _ _ _ _ hc := by simp at hc

def obj? (h : Heap κ) (a : Nat) : Option κ := (h.cell a).map Cell.obj

def Live (h : Heap κ) (a : Nat) : Prop := (h.cell a).isSome

def count (h : Heap κ) (a : Nat) : Nat := ((h.cell a).map Cell.count).getD 0

/-- A sum over the cells. -/
def weight (h : Heap κ) (F : Option (Cell κ) → Nat) : Nat := ∑ b ∈ Finset.range h.next, F (h.cell b)

/-- Changes the count and the fields of one object. -/
def modify (h : Heap κ) (a : Nat) (n : Nat → Nat) (f : κ → κ) : Heap κ where
  cell b := if b = a then (h.cell b).map fun c => ⟨c.address, n c.count, f c.obj⟩ else h.cell b
  next := h.next
  fresh b hb := by simp [h.fresh b hb]
  distinct b d c c' hc hc' haddress := by
    have hold : ∀ {x : Nat} {c : Cell κ}, (if x = a then
        (h.cell x).map fun c => (⟨c.address, n c.count, f c.obj⟩ : Cell κ) else h.cell x) = some c →
        ∃ c₀, h.cell x = some c₀ ∧ c₀.address = c.address := by
      intro x c hx
      split_ifs at hx
      · obtain ⟨c₀, hc₀, rfl⟩ := Option.map_eq_some_iff.mp hx
        exact ⟨c₀, hc₀, rfl⟩
      · exact ⟨c, hx, rfl⟩
    obtain ⟨c₀, hc₀, heq⟩ := hold hc
    obtain ⟨c₁, hc₁, heq'⟩ := hold hc'
    exact h.distinct b d c₀ c₁ hc₀ hc₁ (by rw [heq, heq', haddress])

def remove (h : Heap κ) (a : Nat) : Heap κ where
  cell b := if b = a then none else h.cell b
  next := h.next
  fresh b hb := by simp [h.fresh b hb]
  distinct b d c c' hc hc' haddress := by
    split_ifs at hc hc'
    exact h.distinct b d c c' hc hc' haddress

def addRef (h : Heap κ) (a : Nat) : Heap κ := h.modify a (· + 1) id

theorem lt_next {h : Heap κ} {a : Nat} {c : Cell κ} (hc : h.cell a = some c) : a < h.next := by
  by_contra hle
  have hnone := h.fresh a (Nat.le_of_not_lt hle)
  simp [hc] at hnone

/-- An address that no live object has. -/
def FreeAddress (h : Heap κ) : Type := { x : Nat // ∀ a c, h.cell a = some c → c.address ≠ x }

/-- There always is one: the objects that are alive are finitely many. -/
def freeAddress (h : Heap κ) : h.FreeAddress :=
  ⟨h.weight fun c => (c.map fun c => c.address + 1).getD 0, fun a c hc heq => by
    have hmem : a ∈ Finset.range h.next := Finset.mem_range.mpr (lt_next hc)
    have hle := Finset.single_le_sum
      (f := fun b => ((h.cell b).map fun c => c.address + 1).getD 0) (fun b _ => Nat.zero_le _) hmem
    simp only [hc, Option.map_some, Option.getD_some] at hle
    have heq' : c.address =
        ∑ b ∈ Finset.range h.next, ((h.cell b).map fun c => c.address + 1).getD 0 := heq
    omega⟩

/-- The address of an object, while it is alive. -/
def address (h : Heap κ) (a : Nat) : Option Nat := (h.cell a).map Cell.address

theorem weight_of_agree (h h' : Heap κ) {b : Nat} (F : Option (Cell κ) → Nat)
    (hnext : h'.next = h.next) (hagree : ∀ x, x ≠ b → h'.cell x = h.cell x) :
    h'.weight F + F (h.cell b) = h.weight F + F (h'.cell b) := by
  unfold weight
  rw [hnext]
  by_cases hb : b ∈ Finset.range h.next
  · have hrest : ∑ x ∈ (Finset.range h.next).erase b, F (h'.cell x) =
        ∑ x ∈ (Finset.range h.next).erase b, F (h.cell x) :=
      Finset.sum_congr rfl fun x hx => by rw [hagree x (Finset.ne_of_mem_erase hx)]
    have hsum := Finset.add_sum_erase (Finset.range h.next) (fun x => F (h.cell x)) hb
    have hsum' := Finset.add_sum_erase (Finset.range h.next) (fun x => F (h'.cell x)) hb
    omega
  · have hle : h.next ≤ b := by simpa using hb
    have hrest : ∑ x ∈ Finset.range h.next, F (h'.cell x) =
        ∑ x ∈ Finset.range h.next, F (h.cell x) := by
      apply Finset.sum_congr rfl
      intro x hx
      rw [hagree x]
      rintro rfl
      exact hb hx
    rw [hrest, h.fresh b hle, h'.fresh b (hnext ▸ hle)]

theorem modify_cell (h : Heap κ) (a : Nat) (n : Nat → Nat) (f : κ → κ) (b : Nat) :
    (h.modify a n f).cell b = if b = a then
      (h.cell b).map fun c => ⟨c.address, n c.count, f c.obj⟩ else h.cell b := rfl

theorem remove_cell (h : Heap κ) (a b : Nat) :
    (h.remove a).cell b = if b = a then none else h.cell b := rfl

theorem remove_obj?_of_ne {h : Heap κ} {a b : Nat} (hne : b ≠ a) :
    (h.remove a).obj? b = h.obj? b := by
  rw [obj?, remove_cell, if_neg hne, obj?]

theorem count_of_cell {h : Heap κ} {a : Nat} {c : Cell κ} (hc : h.cell a = some c) :
    h.count a = c.count := by
  simp [count, hc]

theorem live_of_count {h : Heap κ} {a : Nat} (hpos : 0 < h.count a) : h.Live a := by
  unfold Live
  cases hc : h.cell a with
  | some c => rfl
  | none => simp [count, hc] at hpos

def addRefAll (h : Heap κ) (work : List Nat) : Heap κ := work.foldl addRef h

theorem modify_address (h : Heap κ) (a : Nat) (n : Nat → Nat) (f : κ → κ) (b : Nat) :
    (h.modify a n f).address b = h.address b := by
  unfold address
  rw [modify_cell]
  split_ifs
  · rw [Option.map_map]
    rfl
  · rfl

theorem addRefAll_next (work : List Nat) (h : Heap κ) : (h.addRefAll work).next = h.next := by
  induction work generalizing h with
  | nil => rfl
  | cons a work ih => exact ih (h.addRef a)

theorem modify_obj? (h : Heap κ) (a : Nat) (n : Nat → Nat) (b : Nat) :
    (h.modify a n id).obj? b = h.obj? b := by
  unfold obj?
  rw [modify_cell]
  split_ifs
  · rw [Option.map_map]
    rfl
  · rfl

theorem addRef_obj? (h : Heap κ) (a b : Nat) : (h.addRef a).obj? b = h.obj? b :=
  modify_obj? h a (· + 1) b

theorem live_iff {h : Heap κ} {a : Nat} : h.Live a ↔ ∃ o, h.obj? a = some o := by
  unfold Live obj?
  cases h.cell a <;> simp

theorem addRef_live {h : Heap κ} (a : Nat) {b : Nat} (hlive : h.Live b) : (h.addRef a).Live b := by
  rw [live_iff] at hlive ⊢
  rwa [addRef_obj?]

theorem addRefAll_obj? (work : List Nat) (h : Heap κ) (b : Nat) :
    (h.addRefAll work).obj? b = h.obj? b := by
  induction work generalizing h with
  | nil => rfl
  | cons a work ih => exact (ih (h.addRef a)).trans (addRef_obj? h a b)

/-- Gives the object other fields. -/
def setObj (h : Heap κ) (a : Nat) (o : κ) : Heap κ := h.modify a id fun _ => o

theorem setObj_obj? {h : Heap κ} {a : Nat} (hlive : h.Live a) (o : κ) (b : Nat) :
    (h.setObj a o).obj? b = if b = a then some o else h.obj? b := by
  obtain ⟨c, hc⟩ := Option.isSome_iff_exists.mp hlive
  unfold obj? setObj
  rw [modify_cell]
  split_ifs with hb
  · subst hb
    rw [hc]
    rfl
  · rfl

theorem addRefAll_address (work : List Nat) (h : Heap κ) (b : Nat) :
    (h.addRefAll work).address b = h.address b := by
  induction work generalizing h with
  | nil => rfl
  | cons a work ih => exact (ih (h.addRef a)).trans (modify_address h a _ _ b)

variable [Object κ]

def cellRefs : Option (Cell κ) → List Nat
  | some c => refs c.obj
  | none => []

/-- The references to `a` that objects hold. -/
def inbound (h : Heap κ) (a : Nat) : Nat := h.weight fun c => (cellRefs c).count a

def owned (h : Heap κ) (a : Nat) : Int := (h.count a : Int) - h.inbound a

def size : Option (Cell κ) → Nat
  | some c => (refs c.obj).length + 1
  | none => 0

/-- The number of releases that could follow from those that are left to do. -/
def potential (h : Heap κ) : Nat := h.weight size

theorem potential_remove {h : Heap κ} {a : Nat} {c : Cell κ} (hc : h.cell a = some c) :
    (h.remove a).potential + (refs c.obj).length + 1 = h.potential := by
  have hweight := weight_of_agree h (h.remove a) size rfl
    (fun x hx => if_neg hx)
  rw [show (h.remove a).cell a = none from if_pos rfl, hc] at hweight
  simpa [potential, size, Nat.add_assoc] using hweight

theorem potential_modify (h : Heap κ) (a : Nat) (n : Nat → Nat) :
    (h.modify a n id).potential = h.potential := by
  have hweight := weight_of_agree h (h.modify a n id) size rfl
    (fun x hx => if_neg hx)
  have hcell : size ((h.modify a n id).cell a) = size (h.cell a) := by
    rw [modify_cell, if_pos rfl]
    cases hc : h.cell a with
    | none => rfl
    | some c => rfl
  unfold potential
  omega

/-- Releases a list of references, and those that the objects which go have held. -/
def releaseAll (h : Heap κ) : List Nat → Heap κ
  | [] => h
  | a :: work =>
    match _hc : h.cell a with
    | none => h.releaseAll work
    | some c =>
      if c.count ≤ 1 then (h.remove a).releaseAll (refs c.obj ++ work)
      else (h.modify a (· - 1) id).releaseAll work
termination_by work => h.potential + work.length
decreasing_by
  · simp
  · have hremove := potential_remove _hc
    simp only [List.length_append, List.length_cons]
    omega
  · have hmodify := potential_modify h a (· - 1)
    simp only [List.length_cons]
    omega

def release (h : Heap κ) (a : Nat) : Heap κ := h.releaseAll [a]

theorem releaseAll_last {h : Heap κ} {a : Nat} {c : Cell κ} (hc : h.cell a = some c)
    (hlast : c.count ≤ 1) (work : List Nat) :
    h.releaseAll (a :: work) = (h.remove a).releaseAll (refs c.obj ++ work) := by
  rw [releaseAll]
  split
  · next hnone => simp [hc] at hnone
  · next c' hc' =>
    obtain rfl : c = c' := Option.some.inj (hc.symm.trans hc')
    rw [if_pos hlast]

theorem releaseAll_more {h : Heap κ} {a : Nat} {c : Cell κ} (hc : h.cell a = some c)
    (hmore : ¬ c.count ≤ 1) (work : List Nat) :
    h.releaseAll (a :: work) =
      (h.modify a (· - 1) id).releaseAll work := by
  rw [releaseAll]
  split
  · next hnone => simp [hc] at hnone
  · next c' hc' =>
    obtain rfl : c = c' := Option.some.inj (hc.symm.trans hc')
    rw [if_neg hmore]

theorem releaseAll_next (h : Heap κ) (work : List Nat) : (h.releaseAll work).next = h.next := by
  induction h, work using releaseAll.induct with
  | case1 h => rw [releaseAll]
  | case2 h a work hc ih =>
      rw [releaseAll]
      split
      · exact ih
      · next c hc' => simp [hc] at hc'
  | case3 h a work c hc hlast ih =>
      rw [releaseAll_last hc hlast]
      exact ih
  | case4 h a work c hc hmore ih =>
      rw [releaseAll_more hc hmore]
      exact ih

theorem releaseAll_obj? {h : Heap κ} {work : List Nat} {a : Nat} {o : κ}
    (ho : (h.releaseAll work).obj? a = some o) : h.obj? a = some o := by
  induction h, work using releaseAll.induct with
  | case1 h =>
      rwa [releaseAll] at ho
  | case2 h b work hc ih =>
      rw [releaseAll] at ho
      split at ho
      · exact ih ho
      · next c hc' => simp [hc] at hc'
  | case3 h b work c hc hlast ih =>
      rw [releaseAll_last hc hlast] at ho
      have hremoved := ih ho
      rw [obj?, remove_cell] at hremoved
      split_ifs at hremoved
      · simp at hremoved
      · exact hremoved
  | case4 h b work c hc hmore ih =>
      rw [releaseAll_more hc hmore] at ho
      rw [← modify_obj? h b (· - 1)]
      exact ih ho

/-! ## Counts and references after one change -/

theorem inbound_modify (h : Heap κ) (a : Nat) (n : Nat → Nat) (b : Nat) :
    (h.modify a n id).inbound b = h.inbound b := by
  have hweight := weight_of_agree h (h.modify a n id)
    (fun c => (cellRefs c).count b) rfl (fun x hx => if_neg hx)
  have hcell : cellRefs ((h.modify a n id).cell a) = cellRefs (h.cell a) := by
    rw [modify_cell, if_pos rfl]
    cases hc : h.cell a with
    | none => rfl
    | some c => rfl
  rw [hcell] at hweight
  exact Nat.add_right_cancel hweight

theorem inbound_remove {h : Heap κ} {a : Nat} {c : Cell κ} (hc : h.cell a = some c) (b : Nat) :
    (h.remove a).inbound b + (refs c.obj).count b = h.inbound b := by
  have hweight := weight_of_agree h (h.remove a)
    (fun c => (cellRefs c).count b) rfl (fun x hx => if_neg hx)
  rw [remove_cell, if_pos rfl, hc] at hweight
  simpa [inbound, cellRefs] using hweight

theorem inbound_pos_of_refs {h : Heap κ} {a b : Nat} {o : κ} (hobj : h.obj? b = some o)
    (hmem : a ∈ refs o) : 0 < h.inbound a := by
  obtain ⟨c, hc, rfl⟩ := Option.map_eq_some_iff.mp hobj
  have hinbound := inbound_remove hc a
  have hpos : 0 < (refs c.obj).count a := List.count_pos_iff.mpr hmem
  omega

theorem exists_refs_of_inbound {h : Heap κ} {a : Nat} (hpos : 0 < h.inbound a) :
    ∃ b o, h.obj? b = some o ∧ a ∈ refs o := by
  have hne : ∑ b ∈ Finset.range h.next, (cellRefs (h.cell b)).count a ≠ 0 := hpos.ne'
  obtain ⟨b, -, hb⟩ := Finset.exists_ne_zero_of_sum_ne_zero hne
  have hmem : a ∈ cellRefs (h.cell b) := List.count_pos_iff.mp (Nat.pos_of_ne_zero hb)
  cases hc : h.cell b with
  | none => simp [hc, cellRefs] at hmem
  | some c =>
      rw [hc] at hmem
      exact ⟨b, c.obj, by rw [obj?, hc, Option.map_some], hmem⟩

theorem owned_addRef {h : Heap κ} {a : Nat} (hlive : h.Live a) (b : Nat) :
    (h.addRef a).owned b = h.owned b + if b = a then 1 else 0 := by
  obtain ⟨c, hc⟩ := Option.isSome_iff_exists.mp hlive
  have hinbound : (h.addRef a).inbound b = h.inbound b := inbound_modify h a (· + 1) b
  have hcount : (h.addRef a).count b = h.count b + if b = a then 1 else 0 := by
    by_cases hb : b = a
    · subst hb
      simp [addRef, count, modify_cell, hc]
    · simp [addRef, count, modify_cell, hb]
  unfold owned
  rw [hinbound, hcount]
  split_ifs <;> omega

theorem owned_pred {h : Heap κ} {a : Nat} {c : Cell κ} (hc : h.cell a = some c)
    (hpos : 0 < c.count) (b : Nat) :
    (h.modify a (· - 1) id).owned b = h.owned b - if b = a then 1 else 0 := by
  have hinbound := inbound_modify h a (· - 1) b
  unfold owned
  rw [hinbound]
  by_cases hb : b = a
  · subst hb
    rw [count_of_cell hc]
    simp only [count, modify_cell, hc, if_true, Option.map_some, Option.getD_some]
    omega
  · simp [count, modify_cell, hb]

/-! ## Valid heaps -/

/-- Every reference that an object holds is counted. -/
def Valid (h : Heap κ) : Prop := ∀ a, h.inbound a ≤ h.count a

theorem valid_iff {h : Heap κ} : h.Valid ↔ ∀ a, 0 ≤ h.owned a := by
  unfold Valid owned
  constructor
  · intro hvalid a
    have hle := hvalid a
    omega
  · intro howned a
    have hle := howned a
    omega

/-- What is still there agrees with what was there, and is where it was; new objects have
new names. -/
def Evolves (h h' : Heap κ) : Prop :=
  h.next ≤ h'.next ∧
    ∀ a c', a < h.next → h'.cell a = some c' →
      ∃ c, h.cell a = some c ∧ c.address = c'.address ∧ same c.obj c'.obj

theorem Evolves.refl (h : Heap κ) : h.Evolves h :=
  ⟨Nat.le_refl _, fun _ c _ hc => ⟨c, hc, rfl, same_refl c.obj⟩⟩

theorem Evolves.trans {h h' h'' : Heap κ} (h₁ : h.Evolves h') (h₂ : h'.Evolves h'') :
    h.Evolves h'' := by
  refine ⟨h₁.1.trans h₂.1, fun a c'' ha hc'' => ?_⟩
  obtain ⟨c', hc', haddress', hsame'⟩ := h₂.2 a c'' (Nat.lt_of_lt_of_le ha h₁.1) hc''
  obtain ⟨c, hc, haddress, hsame⟩ := h₁.2 a c' ha hc'
  exact ⟨c, hc, haddress.trans haddress', same_trans _ _ _ hsame hsame'⟩

theorem Evolves.obj {h h' : Heap κ} (h₁ : h.Evolves h') {a : Nat} {o' : κ} (ha : a < h.next)
    (ho' : h'.obj? a = some o') : ∃ o, h.obj? a = some o ∧ same o o' := by
  obtain ⟨c', hc', rfl⟩ := Option.map_eq_some_iff.mp ho'
  obtain ⟨c, hc, -, hsame⟩ := h₁.2 a c' ha hc'
  exact ⟨c.obj, by rw [obj?, hc]; rfl, hsame⟩

theorem Evolves.address {h h' : Heap κ} (h₁ : h.Evolves h') {a : Nat} (ha : a < h.next)
    (hlive : h'.Live a) : h'.address a = h.address a := by
  obtain ⟨c', hc'⟩ := Option.isSome_iff_exists.mp hlive
  obtain ⟨c, hc, haddress, -⟩ := h₁.2 a c' ha hc'
  rw [Heap.address, Heap.address, hc, hc', Option.map_some, Option.map_some, haddress]

theorem evolves_modify (h : Heap κ) (a : Nat) (n : Nat → Nat) {f : κ → κ}
    (hf : ∀ o, h.obj? a = some o → same o (f o)) : h.Evolves (h.modify a n f) := by
  refine ⟨Nat.le_refl _, fun b c' _ hc' => ?_⟩
  rw [modify_cell] at hc'
  split_ifs at hc' with hb
  · subst hb
    obtain ⟨c, hc, rfl⟩ := Option.map_eq_some_iff.mp hc'
    exact ⟨c, hc, rfl, hf c.obj (by rw [obj?, hc]; rfl)⟩
  · exact ⟨c', hc', rfl, same_refl c'.obj⟩

theorem evolves_remove (h : Heap κ) (a : Nat) : h.Evolves (h.remove a) := by
  refine ⟨Nat.le_refl _, fun b c' _ hc' => ?_⟩
  rw [remove_cell] at hc'
  split_ifs at hc' with hb
  exact ⟨c', hc', rfl, same_refl c'.obj⟩

/-- The last reference to an object is not held by an object. -/
theorem inbound_eq_zero {h : Heap κ} {a : Nat} {c : Cell κ} (hc : h.cell a = some c)
    (hlast : c.count ≤ 1) (howned : 1 ≤ h.owned a) : h.inbound a = 0 ∧ c.count = 1 := by
  unfold owned at howned
  rw [count_of_cell hc] at howned
  omega

theorem owned_remove {h : Heap κ} {a : Nat} {c : Cell κ} (hc : h.cell a = some c)
    (hlast : c.count ≤ 1) (howned : 1 ≤ h.owned a) (b : Nat) :
    (h.remove a).owned b = h.owned b + (refs c.obj).count b - if b = a then 1 else 0 := by
  obtain ⟨hzero, hone⟩ := inbound_eq_zero hc hlast howned
  have hinbound := inbound_remove hc b
  unfold owned
  by_cases hb : b = a
  · subst hb
    rw [count_of_cell hc]
    simp only [count, remove_cell, if_true, Option.map_none, Option.getD_none]
    omega
  · simp only [count, remove_cell, hb, if_false]
    omega

theorem count_cons_eq (a b : Nat) (work : List Nat) :
    (((a :: work).count b : Nat) : Int) = work.count b + if b = a then 1 else 0 := by
  by_cases hb : b = a
  · simp [hb]
  · simp [hb, Ne.symm hb]

/-- Taking out an object whose last reference is released leaves the releases that follow
from it. -/
theorem remove_valid {h : Heap κ} {a : Nat} {c : Cell κ} (hc : h.cell a = some c)
    (hlast : c.count ≤ 1) (hvalid : h.Valid) {work : List Nat}
    (howned : ∀ b, (((a :: work).count b : Nat) : Int) ≤ h.owned b) :
    (h.remove a).Valid ∧
      (∀ b, (((refs c.obj ++ work).count b : Nat) : Int) ≤ (h.remove a).owned b) ∧
      ∀ b, (h.remove a).owned b = h.owned b + (refs c.obj).count b - if b = a then 1 else 0 := by
  rw [valid_iff] at hvalid
  have hone : 1 ≤ h.owned a := by
    have ha := howned a
    rw [List.count_cons_self] at ha
    omega
  have hremove := owned_remove hc hlast hone
  refine ⟨?_, fun b => ?_, hremove⟩
  · rw [valid_iff]
    intro b
    have hb := hvalid b
    rw [hremove b]
    split_ifs with hba
    · subst hba
      omega
    · omega
  · have hb := howned b
    rw [count_cons_eq] at hb
    rw [hremove b, List.count_append]
    split_ifs at hb ⊢ <;> omega

/-- Taking one of several references leaves the releases that are left to do. -/
theorem pred_valid {h : Heap κ} {a : Nat} {c : Cell κ} (hc : h.cell a = some c)
    (hmore : ¬ c.count ≤ 1) {work : List Nat}
    (howned : ∀ b, (((a :: work).count b : Nat) : Int) ≤ h.owned b) :
    (h.modify a (· - 1) id).Valid ∧
      ∀ b, ((work.count b : Nat) : Int) ≤ (h.modify a (· - 1) id).owned b := by
  have hpred := owned_pred hc (by omega)
  have hwork : ∀ b, ((work.count b : Nat) : Int) ≤ (h.modify a (· - 1) id).owned b := by
    intro b
    have hb := howned b
    rw [count_cons_eq] at hb
    rw [hpred b]
    omega
  refine ⟨valid_iff.mpr fun b => ?_, hwork⟩
  have hb := hwork b
  omega

/-- Releasing references that are owned keeps the heap valid, and takes exactly these. -/
theorem releaseAll_spec (h : Heap κ) (work : List Nat) :
    h.Valid → (∀ a, (work.count a : Int) ≤ h.owned a) →
      (h.releaseAll work).Valid ∧ h.Evolves (h.releaseAll work) ∧
        ∀ a, (h.releaseAll work).owned a = h.owned a - work.count a := by
  induction h, work using releaseAll.induct with
  | case1 h =>
      intro hvalid _
      rw [releaseAll]
      exact ⟨hvalid, .refl h, by simp⟩
  | case2 h a work hc ih =>
      -- a reference that is owned is one to a live object
      intro _ howned
      have hone := howned a
      simp only [owned, count, hc, List.count_cons_self, Option.map_none, Option.getD_none] at hone
      omega
  | case3 h a work c hc hlast ih =>
      intro hvalid howned
      obtain ⟨hvalid', hwork, hremove⟩ := remove_valid hc hlast hvalid howned
      obtain ⟨hvalid'', hevolves, howned'⟩ := ih hvalid' hwork
      rw [releaseAll_last hc hlast]
      refine ⟨hvalid'', (evolves_remove h a).trans hevolves, fun b => ?_⟩
      rw [howned' b, hremove b, List.count_append, count_cons_eq]
      split_ifs <;> omega
  | case4 h a work c hc hmore ih =>
      intro hvalid howned
      have hpred := owned_pred hc (by omega)
      obtain ⟨hvalid', hwork⟩ := pred_valid hc hmore howned
      obtain ⟨hvalid'', hevolves, howned'⟩ := ih hvalid' hwork
      have hstep : h.Evolves (h.modify a (· - 1) id) :=
        evolves_modify h a _ fun o _ => same_refl o
      rw [releaseAll_more hc hmore]
      refine ⟨hvalid'', hstep.trans hevolves, fun b => ?_⟩
      rw [howned' b, hpred b, count_cons_eq]
      omega

theorem count_singleton_le {h : Heap κ} {a : Nat} (hvalid : h.Valid) (howned : 1 ≤ h.owned a)
    (b : Nat) : ((([a] : List Nat).count b : Nat) : Int) ≤ h.owned b := by
  have hb := valid_iff.mp hvalid b
  rw [count_cons_eq]
  split_ifs with hba
  · subst hba
    simpa using howned
  · simpa using hb

theorem release_spec {h : Heap κ} {a : Nat} (hvalid : h.Valid) (howned : 1 ≤ h.owned a) :
    (h.release a).Valid ∧ h.Evolves (h.release a) ∧
      ∀ b, (h.release a).owned b = h.owned b - if b = a then 1 else 0 := by
  obtain ⟨hvalid', hevolves, howned'⟩ :=
    releaseAll_spec h [a] hvalid (count_singleton_le hvalid howned)
  refine ⟨hvalid', hevolves, fun b => ?_⟩
  rw [release, howned' b, count_cons_eq]
  simp

theorem release_more {h : Heap κ} {a : Nat} {c : Cell κ} (hc : h.cell a = some c)
    (hmore : ¬ c.count ≤ 1) :
    (h.release a).cell a = some ⟨c.address, c.count - 1, c.obj⟩ := by
  rw [release, releaseAll_more hc hmore, releaseAll, modify_cell, if_pos rfl, hc]
  rfl

theorem release_last {h : Heap κ} {a : Nat} {c : Cell κ} (hvalid : h.Valid)
    (howned : 1 ≤ h.owned a) (hc : h.cell a = some c) (hlast : c.count ≤ 1) :
    (h.release a).cell a = none := by
  obtain ⟨hvalid', hwork, -⟩ := remove_valid hc hlast hvalid (count_singleton_le hvalid howned)
  obtain ⟨-, hevolves, -⟩ := releaseAll_spec (h.remove a) _ hvalid' hwork
  rw [release, releaseAll_last hc hlast]
  cases hcell : ((h.remove a).releaseAll (refs c.obj ++ [])).cell a with
  | none => rfl
  | some c' =>
      have hlt : a < h.next := lt_next hc
      obtain ⟨o, ho, -⟩ := hevolves.obj hlt (by rw [obj?, hcell]; rfl)
      simp [obj?, remove_cell] at ho

/-- What is gone stays gone. -/
theorem cell_release_eq_none {h : Heap κ} {a b : Nat} (hvalid : h.Valid)
    (howned : 1 ≤ h.owned b) (ha : a < h.next) (hnone : h.cell a = none) :
    (h.release b).cell a = none := by
  obtain ⟨-, hevolves, -⟩ := release_spec hvalid howned
  cases hcell : (h.release b).cell a with
  | none => rfl
  | some c =>
      obtain ⟨o, ho, -⟩ := hevolves.obj ha (by rw [obj?, hcell]; rfl)
      simp [obj?, hnone] at ho

/-! ## New objects and changed fields -/

theorem owned_addRefAll {work : List Nat} {h : Heap κ} (hlive : ∀ a ∈ work, h.Live a) (b : Nat) :
    (h.addRefAll work).owned b = h.owned b + work.count b := by
  induction work generalizing h with
  | nil => simp [addRefAll]
  | cons a work ih =>
      rw [List.forall_mem_cons] at hlive
      have hrest := ih (h := h.addRef a) fun c hc => addRef_live a (hlive.2 c hc)
      rw [owned_addRef hlive.1] at hrest
      rw [count_cons_eq]
      have hfold : h.addRefAll (a :: work) = (h.addRef a).addRefAll work := rfl
      rw [hfold, hrest]
      omega

/-- `new`, with the references that the constructor copies into the fields.  Nobody refers to
the object yet. -/
def new (h : Heap κ) (x : h.FreeAddress) (o : κ) : Heap κ where
  cell b := if b = h.next then some ⟨x.1, 0, o⟩ else (h.addRefAll (refs o)).cell b
  next := h.next + 1
  fresh b hb := by
    rw [if_neg (by omega)]
    exact (h.addRefAll (refs o)).fresh b (by rw [addRefAll_next]; omega)
  distinct b d c c' hc hc' haddress := by
    have hold {b : Nat} {c : Cell κ} (hc : (h.addRefAll (refs o)).cell b = some c) :
        c.address ≠ x.1 := by
      have haddress := addRefAll_address (refs o) h b
      rw [address, hc] at haddress
      obtain ⟨c₀, hc₀, heq⟩ := Option.map_eq_some_iff.mp haddress.symm
      rw [← heq]
      exact x.2 b c₀ hc₀
    split_ifs at hc hc' with hb hd hd
    · rw [hb, hd]
    · obtain rfl := Option.some.inj hc
      exact absurd haddress.symm (hold hc')
    · obtain rfl := Option.some.inj hc'
      exact absurd haddress (hold hc)
    · exact (h.addRefAll (refs o)).distinct b d c c' hc hc' haddress

theorem new_obj? (h : Heap κ) (x : h.FreeAddress) (o : κ) (b : Nat) :
    (h.new x o).obj? b = if b = h.next then some o else h.obj? b := by
  rw [← addRefAll_obj? (refs o) h b]
  by_cases hb : b = h.next
  · simp [obj?, new, hb]
  · simp [obj?, new, hb]

theorem inbound_new (h : Heap κ) (x : h.FreeAddress) (o : κ) (b : Nat) :
    (h.new x o).inbound b = (h.addRefAll (refs o)).inbound b + (refs o).count b := by
  unfold inbound weight
  rw [addRefAll_next]
  simp only [new, Finset.sum_range_succ, if_true, cellRefs]
  congr 1
  apply Finset.sum_congr rfl
  intro b hb
  have hlt : b < h.next := by simpa using hb
  rw [if_neg (by omega)]

theorem owned_new {h : Heap κ} (x : h.FreeAddress) {o : κ} (hlive : ∀ a ∈ refs o, h.Live a)
    (b : Nat) : (h.new x o).owned b = h.owned b := by
  have hrefs := owned_addRefAll hlive b
  have hcount : (h.new x o).count b = (h.addRefAll (refs o)).count b := by
    by_cases hb : b = h.next
    · have hnone := (h.addRefAll (refs o)).fresh b (by rw [addRefAll_next]; omega)
      simp [count, new, hb, hb ▸ hnone]
    · simp [count, new, hb]
  unfold owned at hrefs ⊢
  rw [inbound_new, hcount]
  omega

theorem evolves_addRefAll (work : List Nat) (h : Heap κ) : h.Evolves (h.addRefAll work) := by
  induction work generalizing h with
  | nil => exact .refl h
  | cons a work ih => exact (evolves_modify h a _ fun o _ => same_refl o).trans (ih (h.addRef a))

theorem evolves_new (h : Heap κ) (x : h.FreeAddress) (o : κ) : h.Evolves (h.new x o) := by
  refine ⟨Nat.le_succ h.next, fun b c' hb hc' => ?_⟩
  have hold : (h.addRefAll (refs o)).cell b = some c' := (if_neg (by omega)).symm.trans hc'
  exact (evolves_addRefAll (refs o) h).2 b c' hb hold

theorem owned_setObj {h : Heap κ} {a : Nat} {o : κ} (hobj : h.obj? a = some o) (o' : κ) (b : Nat) :
    (h.setObj a o').owned b = h.owned b + (refs o).count b - (refs o').count b := by
  obtain ⟨c, hc, rfl⟩ := Option.map_eq_some_iff.mp hobj
  have hcell : (h.setObj a o').cell a = some ⟨c.address, c.count, o'⟩ := by
    rw [setObj, modify_cell, if_pos rfl, hc]
    rfl
  have hinbound : (h.setObj a o').inbound b + (refs c.obj).count b =
      h.inbound b + (refs o').count b := by
    have hweight := weight_of_agree h (h.setObj a o')
      (fun c => (cellRefs c).count b) rfl (fun x hx => if_neg hx)
    rw [hcell, hc] at hweight
    exact hweight
  have hcount : (h.setObj a o').count b = h.count b := by
    by_cases hb : b = a
    · subst hb
      rw [count_of_cell hcell, count_of_cell hc]
    · simp [count, setObj, modify_cell, hb]
  unfold owned
  rw [hcount]
  omega

end Heap

open Heap

variable [Object κ]

/-! ## What a piece of code gives to its caller -/

structure Gives (h h' : Heap κ) (ws : List Nat) : Prop where
  valid : h'.Valid
  evolves : h.Evolves h'
  owned_eq : ∀ a, h'.owned a = h.owned a + ws.count a

namespace Gives

variable {h h' h'' : Heap κ} {ws ws' : List Nat} {a : Nat}

theorem refl (hvalid : h.Valid) : Gives h h [] := ⟨hvalid, .refl h, by simp⟩

theorem trans (h₁ : Gives h h' ws) (h₂ : Gives h' h'' ws') : Gives h h'' (ws ++ ws') := by
  refine ⟨h₂.valid, h₁.evolves.trans h₂.evolves, fun a => ?_⟩
  rw [h₂.owned_eq, h₁.owned_eq, List.count_append]
  omega

theorem perm (h₁ : Gives h h' ws) (hperm : ws.Perm ws') : Gives h h' ws' :=
  ⟨h₁.valid, h₁.evolves, fun a => by rw [h₁.owned_eq, hperm.count_eq]⟩

theorem addRef (hvalid : h.Valid) (hlive : h.Live a) : Gives h (h.addRef a) [a] := by
  have howned := owned_addRef hlive
  refine ⟨?_, evolves_modify h a _ fun o _ => same_refl o, fun b => ?_⟩
  · rw [valid_iff] at hvalid ⊢
    intro b
    have hb := hvalid b
    rw [howned b]
    split_ifs <;> omega
  · rw [howned b, count_cons_eq]
    simp

theorem owned_of_mem (hvalid : h.Valid) (h₁ : Gives h h' ws) (hmem : a ∈ ws) : 1 ≤ h'.owned a := by
  have hbefore := valid_iff.mp hvalid a
  have hcount : 0 < ws.count a := List.count_pos_iff.mpr hmem
  rw [h₁.owned_eq]
  omega

theorem release (hvalid : h.Valid) (h₁ : Gives h h' (a :: ws)) : Gives h (h'.release a) ws := by
  obtain ⟨hvalid', hevolves, howned⟩ :=
    release_spec h₁.valid (h₁.owned_of_mem hvalid List.mem_cons_self)
  refine ⟨hvalid', h₁.evolves.trans hevolves, fun b => ?_⟩
  rw [howned b, h₁.owned_eq b, count_cons_eq]
  omega

theorem new (x : h.FreeAddress) {o : κ} (hvalid : h.Valid) (hlive : ∀ a ∈ refs o, h.Live a) :
    Gives h (h.new x o) [] := by
  have howned := owned_new x hlive
  refine ⟨?_, evolves_new h x o, fun b => ?_⟩
  · rw [valid_iff] at hvalid ⊢
    intro b
    rw [howned b]
    exact hvalid b
  · rw [howned b]
    simp

/-- A reference that was given moves into a field. -/
theorem store {o o' : κ} (h₁ : Gives h h' (a :: ws)) {b : Nat} (hobj : h'.obj? b = some o)
    (hperm : (refs o').Perm (a :: refs o)) (hsame : same o o') (hvalid : h.Valid) :
    Gives h (h'.setObj b o') ws := by
  have hbefore := valid_iff.mp hvalid
  have howned := owned_setObj hobj o'
  have heq : ∀ x, (h'.setObj b o').owned x = h.owned x + ws.count x := by
    intro x
    have hcount : (((refs o').count x : Nat) : Int) =
        (refs o).count x + if x = a then 1 else 0 := by
      rw [hperm.count_eq, count_cons_eq]
    rw [howned x, h₁.owned_eq x, count_cons_eq, hcount]
    omega
  refine ⟨?_, h₁.evolves.trans (evolves_modify h' b id fun p hp => ?_), heq⟩
  · rw [valid_iff]
    intro x
    have hx := hbefore x
    rw [heq x]
    omega
  · obtain rfl : o = p := Option.some.inj (hobj.symm.trans hp)
    exact hsame

/-- References that a field held are left to the code that changes it. -/
theorem take {o o' : κ} {given : List Nat} (h₁ : Gives h h' ws) {b : Nat}
    (hobj : h'.obj? b = some o) (hperm : (refs o).Perm (given ++ refs o')) (hsame : same o o')
    (hvalid : h.Valid) : Gives h (h'.setObj b o') (given ++ ws) := by
  have hbefore := valid_iff.mp hvalid
  have howned := owned_setObj hobj o'
  have heq : ∀ x, (h'.setObj b o').owned x = h.owned x + (given ++ ws).count x := by
    intro x
    have hcount : (refs o).count x = given.count x + (refs o').count x := by
      rw [hperm.count_eq, List.count_append]
    rw [howned x, h₁.owned_eq x, List.count_append, hcount]
    omega
  refine ⟨?_, h₁.evolves.trans (evolves_modify h' b id fun p hp => ?_), heq⟩
  · rw [valid_iff]
    intro x
    have hx := hbefore x
    rw [heq x]
    omega
  · obtain rfl : o = p := Option.some.inj (hobj.symm.trans hp)
    exact hsame

theorem live_of_owned (howned : 1 ≤ h.owned a) : h.Live a := by
  apply live_of_count
  unfold owned at howned
  omega

theorem live_of_refs (hvalid : h.Valid) {b : Nat} {o : κ} (hobj : h.obj? b = some o)
    (hmem : a ∈ refs o) : h.Live a := by
  apply live_of_count
  have hle := hvalid a
  have hpos := inbound_pos_of_refs hobj hmem
  omega

theorem live (hvalid : h.Valid) (h₁ : Gives h h' ws) (hmem : a ∈ ws) : h'.Live a :=
  live_of_owned (h₁.owned_of_mem hvalid hmem)

end Gives

end RefHeap
