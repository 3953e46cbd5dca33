import Axhost.Lib.RefHeap

/-!
# What counting references destroys

An object goes when the last reference to it is released.  Whether it ever does is a question
of the graph:

* objects that refer to each other in a circle never go, whatever else is released
  (`Knot.releaseAll_obj?`);
* objects to which only later objects refer have all gone once nobody else refers to them
  (`not_mem_of_descending`).
-/

namespace RefHeap

open Object Heap

variable {κ : Type*} [Object κ]

/-! ## Circles -/

/-- Each object of `S` is referred to by one of `S`. -/
def Knot (h : Heap κ) (S : Set Nat) : Prop :=
  ∀ a ∈ S, ∃ b ∈ S, ∃ o, h.obj? b = some o ∧ a ∈ refs o

theorem Knot.congr {h h' : Heap κ} {S : Set Nat} (hknot : Knot h S)
    (hobj : ∀ a ∈ S, h'.obj? a = h.obj? a) : Knot h' S := by
  intro a ha
  obtain ⟨b, hb, o, ho, hmem⟩ := hknot a ha
  exact ⟨b, hb, o, (hobj b hb).trans ho, hmem⟩

theorem Knot.releaseAll_obj? {S : Set Nat} (h : Heap κ) (work : List Nat) :
    Knot h S → h.Valid → (∀ a, (work.count a : Int) ≤ h.owned a) →
      ∀ a ∈ S, (h.releaseAll work).obj? a = h.obj? a := by
  induction h, work using releaseAll.induct with
  | case1 h =>
      intro _ _ _ a _
      rw [releaseAll]
  | case2 h b work hc ih =>
      -- a reference that is owned is one to a live object
      intro _ _ howned
      have hone := howned b
      simp only [owned, count, hc, List.count_cons_self, Option.map_none, Option.getD_none] at hone
      omega
  | case3 h b work c hc hlast ih =>
      intro hknot hvalid howned a ha
      have hone : 1 ≤ h.owned b := by
        have hb := howned b
        rw [List.count_cons_self] at hb
        omega
      -- an object of the knot has a reference that nobody releases
      have hout : b ∉ S := by
        intro hb
        obtain ⟨d, -, o, ho, hmem⟩ := hknot b hb
        have hzero := (inbound_eq_zero hc hlast hone).1
        have hpos := inbound_pos_of_refs ho hmem
        omega
      have hkeep : ∀ d ∈ S, (h.remove b).obj? d = h.obj? d :=
        fun d hd => remove_obj?_of_ne (ne_of_mem_of_not_mem hd hout)
      obtain ⟨hvalid', hwork, -⟩ := remove_valid hc hlast hvalid howned
      rw [releaseAll_last hc hlast, ih (hknot.congr hkeep) hvalid' hwork a ha, hkeep a ha]
  | case4 h b work c hc hmore ih =>
      intro hknot hvalid howned a ha
      obtain ⟨hvalid', hwork⟩ := pred_valid hc hmore howned
      have hkeep : ∀ d ∈ S, (h.modify b (· - 1) id).obj? d = h.obj? d :=
        fun d _ => modify_obj? h b (· - 1) d
      rw [releaseAll_more hc hmore, ih (hknot.congr hkeep) hvalid' hwork a ha, hkeep a ha]

theorem Knot.release_obj? {S : Set Nat} {h : Heap κ} (hknot : Knot h S) (hvalid : h.Valid) {a : Nat}
    (howned : 1 ≤ h.owned a) : ∀ b ∈ S, (h.release a).obj? b = h.obj? b :=
  Knot.releaseAll_obj? h [a] hknot hvalid (count_singleton_le hvalid howned)

/-! ## Objects that somebody counts -/

/-- The objects of a kind are there because of a reference. -/
def Counted (K : κ → Prop) (h : Heap κ) : Prop :=
  ∀ a c, h.cell a = some c → K c.obj → 1 ≤ c.count

namespace Counted

variable {K : κ → Prop} {h : Heap κ}

omit [Object κ] in
theorem addRef (hcounted : Counted K h) (a : Nat) : Counted K (h.addRef a) := by
  intro b c hc hK
  rw [Heap.addRef, modify_cell] at hc
  split_ifs at hc
  · obtain ⟨c₀, hc₀, rfl⟩ := Option.map_eq_some_iff.mp hc
    exact Nat.le_add_left 1 c₀.count
  · exact hcounted b c hc hK

theorem releaseAll (h : Heap κ) (work : List Nat) :
    Counted K h → Counted K (h.releaseAll work) := by
  induction h, work using Heap.releaseAll.induct with
  | case1 h =>
      intro hcounted
      rwa [Heap.releaseAll]
  | case2 h b work hc ih =>
      intro hcounted
      rw [Heap.releaseAll]
      split
      · exact ih hcounted
      · next c hc' => simp [hc] at hc'
  | case3 h b work c hc hlast ih =>
      intro hcounted
      rw [releaseAll_last hc hlast]
      apply ih
      intro a d hd hK
      rw [remove_cell] at hd
      split_ifs at hd
      exact hcounted a d hd hK
  | case4 h b work c hc hmore ih =>
      intro hcounted
      rw [releaseAll_more hc hmore]
      apply ih
      intro a d hd hK
      rw [modify_cell] at hd
      split_ifs at hd with ha
      · subst ha
        obtain rfl : _ = d := by simpa [hc] using hd
        show 1 ≤ c.count - 1
        omega
      · exact hcounted a d hd hK

omit [Object κ] in
theorem setObj (hcounted : Counted K h) {a : Nat} {o o' : κ} (hobj : h.obj? a = some o)
    (hkind : K o' → K o) : Counted K (h.setObj a o') := by
  intro b c hc hK
  rw [Heap.setObj, modify_cell] at hc
  split_ifs at hc with hb
  · subst hb
    obtain ⟨c₀, hc₀, rfl⟩ := Option.map_eq_some_iff.mp hc
    obtain rfl : c₀.obj = o := by simpa [obj?, hc₀] using hobj
    exact hcounted b c₀ hc₀ (hkind hK)
  · exact hcounted b c hc hK

omit [Object κ] in
theorem addRefAll (work : List Nat) (hcounted : Counted K h) : Counted K (h.addRefAll work) := by
  induction work generalizing h with
  | nil => exact hcounted
  | cons a work ih => exact ih (hcounted.addRef a)

theorem new_addRef (hcounted : Counted K h) (x : h.FreeAddress) (o : κ) :
    Counted K ((h.new x o).addRef h.next) := by
  intro b c hc hK
  rw [Heap.addRef, modify_cell] at hc
  split_ifs at hc with hb
  · obtain ⟨c₀, hc₀, rfl⟩ := Option.map_eq_some_iff.mp hc
    exact Nat.le_add_left 1 c₀.count
  · have hold : (h.addRefAll (refs o)).cell b = some c := (if_neg hb).symm.trans hc
    exact hcounted.addRefAll (refs o) b c hold hK

/-- When all references to objects of a kind come from later objects of the kind, none is
left. -/
theorem not_mem_of_descending (hcounted : Counted K h)
    (howned : ∀ a o, h.obj? a = some o → K o → h.owned a ≤ 0)
    (hrefs : ∀ a o, h.obj? a = some o → K o →
      ∀ b o', h.obj? b = some o' → a ∈ refs o' → K o' ∧ a < b) :
    ∀ a o, h.obj? a = some o → ¬ K o := by
  -- there would be ever later ones
  have hlater : ∀ a o, h.obj? a = some o → K o →
      ∃ b o', h.obj? b = some o' ∧ K o' ∧ a < b := by
    intro a o ho hK
    obtain ⟨c, hc, rfl⟩ := Option.map_eq_some_iff.mp ho
    have hcount := hcounted a c hc hK
    have hzero := howned a _ ho hK
    rw [owned, count_of_cell hc] at hzero
    obtain ⟨b, o', hb, hmem⟩ := exists_refs_of_inbound (h := h) (a := a) (by omega)
    obtain ⟨hK', hlt⟩ := hrefs a _ ho hK b o' hb hmem
    exact ⟨b, o', hb, hK', hlt⟩
  intro a o ho hK
  have hbeyond : ∀ n, ∃ b o', h.obj? b = some o' ∧ K o' ∧ n ≤ b := by
    intro n
    induction n with
    | zero => exact ⟨a, o, ho, hK, Nat.zero_le a⟩
    | succ n ih =>
        obtain ⟨b, o', hb, hK', hle⟩ := ih
        obtain ⟨d, o'', hd, hK'', hlt⟩ := hlater b o' hb hK'
        exact ⟨d, o'', hd, hK'', by omega⟩
  obtain ⟨b, o', hb, -, hle⟩ := hbeyond h.next
  obtain ⟨c, hc, -⟩ := Option.map_eq_some_iff.mp hb
  have hlt := lt_next hc
  omega

end Counted

end RefHeap
