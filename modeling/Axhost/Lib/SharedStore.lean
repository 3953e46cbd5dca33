import Mathlib.Logic.Function.Basic
import Mathlib.Data.List.Induction
import Mathlib.Data.List.Nodup
import Axhost.Lib.Transition

/-!
# Programs that share a store

A program makes calls on the cells of a store, one at a time, and goes on with the answer.
Several of them take turns, a call each.

* `Program.run_congr`: a program depends on the cells it calls, and on nothing else;
* `Alone`: the invariant of programs none of which writes a cell that another one calls;
* `Processes.eq_serial`: such programs may as well run one after the other, in any order;
* `Processes.reachable_silence`: programs that only read are not noticed.
-/

namespace SharedStore

open Transition

/-- The calls there are on a cell: the answer to each, what it leaves of the cell, and whether it
is one that may change it. -/
structure Interface (σ : Type*) where
  Call : Type
  Answer : Call → Type
  exec (c : Call) (cell : σ) : Answer c × σ
  writes : Call → Bool
  exec_snd {c : Call} (h : writes c = false) (cell : σ) : (exec c cell).2 = cell

inductive Program {σ : Type*} (I : Interface σ) (κ α : Type*)
  | done (result : α)
  | call (key : κ) (c : I.Call) (next : I.Answer c → Program I κ α)

namespace Program

universe w

variable {σ κ : Type*} {α β : Type w} {I : Interface σ}

/-- A single call. -/
def single (key : κ) (c : I.Call) : Program I κ (I.Answer c) := call key c done

def bind : Program I κ α → (α → Program I κ β) → Program I κ β
  | done result, f => f result
  | call key c next, f => call key c fun answer => (next answer).bind f

instance : Monad (Program I κ) where
  pure := done
  bind := bind

variable [DecidableEq κ]

def result? : Program I κ α → Option α
  | done result => some result
  | call _ _ _ => none

/-- A program that has the store for itself. -/
def run : Program I κ α → (κ → σ) → α × (κ → σ)
  | done result, store => (result, store)
  | call key c next, store =>
    (next (I.exec c (store key)).1).run (Function.update store key (I.exec c (store key)).2)

/-- The cells that a program calls. -/
def touched : Program I κ α → (κ → σ) → List κ
  | done _, _ => []
  | call key c next, store => key :: (next (I.exec c (store key)).1).touched
      (Function.update store key (I.exec c (store key)).2)

/-- The cells that a program may change. -/
def written : Program I κ α → (κ → σ) → List κ
  | done _, _ => []
  | call key c next, store => (if I.writes c then [key] else []) ++
      (next (I.exec c (store key)).1).written
        (Function.update store key (I.exec c (store key)).2)

omit [DecidableEq κ] in
theorem eq_done {p : Program I κ α} {result : α} (h : p.result? = some result) :
    p = done result := by
  cases p with
  | done result' => rw [Option.some.inj h]
  | call key c next => cases h

@[simp] theorem run_pure (result : α) (store : κ → σ) :
    (pure result : Program I κ α).run store = (result, store) := rfl

@[simp] theorem run_bind (p : Program I κ α) (f : α → Program I κ β) (store : κ → σ) :
    (p >>= f).run store = (f (p.run store).1).run (p.run store).2 := by
  change (p.bind f).run store = _
  induction p generalizing store with
  | done result => rfl
  | call key c next ih =>
      rw [bind, run, run]
      exact ih _ _

@[simp] theorem run_ite (P : Prop) [Decidable P] (p q : Program I κ α) (store : κ → σ) :
    (if P then p else q).run store = if P then p.run store else q.run store := by
  split_ifs <;> rfl

theorem written_subset (p : Program I κ α) (store : κ → σ) : p.written store ⊆ p.touched store := by
  induction p generalizing store with
  | done result => exact List.Subset.refl _
  | call key c next ih =>
      intro k hk
      rcases List.mem_append.mp hk with hhere | hlater
      · split_ifs at hhere
        · rw [List.mem_singleton.mp hhere]
          exact List.mem_cons_self
        · exact absurd hhere List.not_mem_nil
      · exact List.mem_cons_of_mem _ (ih _ _ hlater)

/-- A call changes its own cell at most, and only if it is one that writes. -/
theorem exec_of_notMem (key : κ) (c : I.Call) (store : κ → σ) {k : κ}
    (h : k ∉ (if I.writes c then [key] else [])) :
    Function.update store key (I.exec c (store key)).2 k = store k := by
  by_cases hkey : k = key
  · subst hkey
    rw [Function.update_self]
    apply I.exec_snd
    apply Bool.eq_false_iff.mpr
    intro hwrites
    simp [hwrites] at h
  · exact Function.update_of_ne hkey _ _

theorem run_congr {p : Program I κ α} {store store' : κ → σ}
    (h : ∀ k ∈ p.touched store, store' k = store k) :
    (p.run store').1 = (p.run store).1 ∧ p.touched store' = p.touched store ∧
      p.written store' = p.written store ∧
      ∀ k, store' k = store k → (p.run store').2 k = (p.run store).2 k := by
  induction p generalizing store store' with
  | done result => exact ⟨rfl, rfl, rfl, fun _ hk => hk⟩
  | call key c next ih =>
      have hkey : store' key = store key := h key List.mem_cons_self
      have hupdate (k : κ) (hk : store' k = store k) :
          Function.update store' key (I.exec c (store key)).2 k =
            Function.update store key (I.exec c (store key)).2 k := by
        rw [Function.update_apply, Function.update_apply, hk]
      obtain ⟨hresult, htouched, hwritten, hfinal⟩ := ih (I.exec c (store key)).1
        fun k hk => hupdate k (h k (List.mem_cons_of_mem _ hk))
      simp only [run, touched, written, hkey]
      exact ⟨hresult, by rw [htouched], by rw [hwritten], fun k hk => hfinal k (hupdate k hk)⟩

/-- Whatever the answers are, each call of the program meets `P`. -/
def Only (P : κ → I.Call → Prop) : Program I κ α → Prop
  | done _ => True
  | call key c next => P key c ∧ ∀ answer, (next answer).Only P

section Only

omit [DecidableEq κ]

variable {P : κ → I.Call → Prop}

theorem only_pure (result : α) : (pure result : Program I κ α).Only P := trivial

theorem only_single {key : κ} {c : I.Call} (h : P key c) :
    (single key c : Program I κ (I.Answer c)).Only P := ⟨h, fun _ => trivial⟩

theorem Only.bind {p : Program I κ α} {f : α → Program I κ β} (hp : p.Only P)
    (hf : ∀ result, (f result).Only P) : (p >>= f).Only P := by
  change (p.bind f).Only P
  induction p with
  | done result => exact hf result
  | call key c next ih => exact ⟨hp.1, fun answer => ih answer (hp.2 answer)⟩

theorem only_ite {Q : Prop} [Decidable Q] {p q : Program I κ α} (hp : Q → p.Only P)
    (hq : ¬ Q → q.Only P) : (if Q then p else q).Only P := by
  split_ifs with h
  · exact hp h
  · exact hq h

theorem only_unless {Q : Prop} [Decidable Q] {result : α} {p : Program I κ α} (hp : p.Only P) :
    (if Q then pure result else p).Only P :=
  only_ite (fun _ => only_pure result) fun _ => hp

end Only

end Program

/-- Programs that run at the same time. -/
structure Processes {σ : Type*} (I : Interface σ) (ι κ α : Type*) where
  programs : ι → Program I κ α
  store : κ → σ

namespace Processes

variable {σ ι κ α : Type*} {I : Interface σ} [DecidableEq ι] [DecidableEq κ]

/-- It is the turn of program `i`. -/
def step (s : Processes I ι κ α) (i : ι) : Option (Processes I ι κ α) :=
  match s.programs i with
  | .done _ => none
  | .call key c next => some {
      programs := Function.update s.programs i (next (I.exec c (s.store key)).1)
      store := Function.update s.store key (I.exec c (s.store key)).2 }

def system (start : Processes I ι κ α) : System (Processes I ι κ α) ι where
  init s := s = start
  step := step

/-- A turn is a call of the program whose turn it is. -/
theorem step_call {s t : Processes I ι κ α} {i : ι} (h : s.step i = some t) :
    ∃ key c next, s.programs i = .call key c next ∧ t =
      { programs := Function.update s.programs i (next (I.exec c (s.store key)).1)
        store := Function.update s.store key (I.exec c (s.store key)).2 } := by
  unfold step at h
  cases hprogram : s.programs i with
  | done result => simp [hprogram] at h
  | call key c next =>
      rw [hprogram] at h
      exact ⟨key, c, next, rfl, (Option.some.inj h).symm⟩

theorem only_of_reachable {start s : Processes I ι κ α} {i : ι} {P : κ → I.Call → Prop}
    (hprogram : (start.programs i).Only P) (h : (system start).Reachable s) :
    (s.programs i).Only P := by
  induction h with
  | init hs =>
      rw [show _ = start from hs]
      exact hprogram
  | @step s t j _ hstep ih =>
      obtain ⟨key, c, next, hturn, rfl⟩ := step_call hstep
      dsimp only
      by_cases hi : i = j
      · rw [hi] at ih ⊢
        rw [hturn] at ih
        rw [Function.update_self]
        exact ih.2 _
      · rwa [Function.update_of_ne hi]

/-- No program writes a cell that another one calls. -/
def Apart (start : Processes I ι κ α) : Prop :=
  ∀ i j, i ≠ j → ∀ k ∈ (start.programs i).written start.store,
    k ∉ (start.programs j).touched start.store

/-- Each program goes on as if it had the store for itself. -/
structure Alone (start s : Processes I ι κ α) : Prop where
  result : ∀ i, ((s.programs i).run s.store).1 = ((start.programs i).run start.store).1
  final : ∀ i, ∀ k ∈ (start.programs i).touched start.store,
    ((s.programs i).run s.store).2 k = ((start.programs i).run start.store).2 k
  touched : ∀ i, (s.programs i).touched s.store ⊆ (start.programs i).touched start.store
  written : ∀ i, (s.programs i).written s.store ⊆ (start.programs i).written start.store
  frame : ∀ k, (∀ i, k ∉ (start.programs i).written start.store) → s.store k = start.store k

omit [DecidableEq ι] in
theorem Alone.refl (start : Processes I ι κ α) : Alone start start where
  result _ := rfl
  final _ _ _ := rfl
  touched _ := List.Subset.refl _
  written _ := List.Subset.refl _
  frame _ _ := rfl

/-- What a turn does, to the program whose turn it is and to the store. -/
theorem step_cases {s t : Processes I ι κ α} {i : ι} (h : s.step i = some t) :
    (∀ j, j ≠ i → t.programs j = s.programs j) ∧
      (t.programs i).run t.store = (s.programs i).run s.store ∧
      (t.programs i).touched t.store ⊆ (s.programs i).touched s.store ∧
      (t.programs i).written t.store ⊆ (s.programs i).written s.store ∧
      ∀ k, k ∉ (s.programs i).written s.store → t.store k = s.store k := by
  obtain ⟨key, c, next, hprogram, rfl⟩ := step_call h
  refine ⟨fun j hj => Function.update_of_ne hj _ _, ?_⟩
  dsimp only
  rw [hprogram, Function.update_self]
  refine ⟨rfl, List.subset_cons_self _ _, List.subset_append_right _ _, fun k hk => ?_⟩
  exact Program.exec_of_notMem key c s.store fun hhere => hk (List.mem_append_left _ hhere)

theorem Alone.step {start s t : Processes I ι κ α} (hapart : Apart start) (h : Alone start s)
    {i : ι} (hstep : s.step i = some t) : Alone start t := by
  obtain ⟨hothers, hrun, htouched, hwritten, hframe⟩ := step_cases hstep
  -- what another program calls is as it was before the turn
  have hkept (j : ι) (hj : j ≠ i) (k : κ) (hk : k ∈ (start.programs j).touched start.store) :
      t.store k = s.store k :=
    hframe k fun hwrites => hapart i j hj.symm k (h.written i hwrites) hk
  have hsame (j : ι) (hj : j ≠ i) :=
    Program.run_congr fun k hk => hkept j hj k (h.touched j hk)
  constructor
  · intro j
    by_cases hj : j = i
    · rw [hj, hrun, h.result]
    · rw [hothers j hj, (hsame j hj).1, h.result]
  · intro j k hk
    by_cases hj : j = i
    · rw [hj] at hk ⊢
      rw [hrun, h.final i k hk]
    · rw [hothers j hj, (hsame j hj).2.2.2 k (hkept j hj k hk), h.final j k hk]
  · intro j
    by_cases hj : j = i
    · rw [hj]
      exact List.Subset.trans htouched (h.touched i)
    · rw [hothers j hj, (hsame j hj).2.1]
      exact h.touched j
  · intro j
    by_cases hj : j = i
    · rw [hj]
      exact List.Subset.trans hwritten (h.written i)
    · rw [hothers j hj, (hsame j hj).2.2.1]
      exact h.written j
  · intro k hk
    rw [hframe k fun hwrites => hk i (h.written i hwrites), h.frame k hk]

theorem alone {start s : Processes I ι κ α} (hapart : Apart start)
    (h : (system start).Reachable s) : Alone start s := by
  refine h.induct (fun s hs => ?_) fun s i t _ halone hstep => halone.step hapart hstep
  rw [show s = start from hs]
  exact .refl start

/-- All programs have ended. -/
def Ended (s : Processes I ι κ α) : Prop := ∀ i, (s.programs i).result?.isSome

omit [DecidableEq ι] [DecidableEq κ] in
theorem Ended.eq_done {s : Processes I ι κ α} (h : Ended s) (i : ι) :
    ∃ result, s.programs i = .done result := by
  obtain ⟨result, hresult⟩ := Option.isSome_iff_exists.mp (h i)
  exact ⟨result, Program.eq_done hresult⟩

/-- A program that has ended has the result that it has alone. -/
theorem result_of_ended {start s : Processes I ι κ α} (hapart : Apart start)
    (h : (system start).Reachable s) {i : ι} {result : α}
    (hended : (s.programs i).result? = some result) :
    result = ((start.programs i).run start.store).1 := by
  have hresult := (alone hapart h).result i
  rw [Program.eq_done hended] at hresult
  exact hresult

omit [DecidableEq ι] in
/-- Once all have ended, it does not matter how they took turns. -/
theorem Alone.store_eq {start s t : Processes I ι κ α} (hs : Alone start s) (ht : Alone start t)
    (hsended : Ended s) (htended : Ended t) : s.store = t.store := by
  funext k
  by_cases hwrites : ∃ i, k ∈ (start.programs i).written start.store
  · obtain ⟨i, hi⟩ := hwrites
    have hk := Program.written_subset _ _ hi
    have hsfinal := hs.final i k hk
    have htfinal := ht.final i k hk
    obtain ⟨_, hsi⟩ := hsended.eq_done i
    obtain ⟨_, hti⟩ := htended.eq_done i
    rw [hsi] at hsfinal
    rw [hti] at htfinal
    exact hsfinal.trans htfinal.symm
  · rw [hs.frame k (not_exists.mp hwrites), ht.frame k (not_exists.mp hwrites)]

/-! ## One after the other -/

/-- The store after the programs have run one after the other. -/
def serial (start : Processes I ι κ α) (order : List ι) : κ → σ :=
  order.foldl (fun store i => ((start.programs i).run store).2) start.store

/-- A program may take all the turns until it has ended. -/
theorem reachable_finish {start s : Processes I ι κ α} (h : (system start).Reachable s) (i : ι) :
    (system start).Reachable {
      programs := Function.update s.programs i (.done ((s.programs i).run s.store).1)
      store := ((s.programs i).run s.store).2 } := by
  generalize hprogram : s.programs i = p
  induction p generalizing s with
  | done result =>
      rw [Program.run, ← hprogram, Function.update_eq_self]
      exact h
  | call key c next ih =>
      have hstep : s.step i = some {
          programs := Function.update s.programs i (next (I.exec c (s.store key)).1)
          store := Function.update s.store key (I.exec c (s.store key)).2 } := by
        rw [step, hprogram]
      have hrest := ih _ (System.Reachable.step i h hstep) (Function.update_self _ _ _)
      dsimp only at hrest
      rw [Function.update_idem] at hrest
      exact hrest

theorem reachable_serial (start : Processes I ι κ α) {order : List ι} (hnodup : order.Nodup) :
    ∃ programs, (system start).Reachable { programs := programs, store := serial start order } ∧
      (∀ i ∈ order, (programs i).result?.isSome) ∧ ∀ i ∉ order, programs i = start.programs i := by
  induction order using List.reverseRecOn with
  | nil => exact ⟨start.programs, .init rfl, by simp, fun _ _ => rfl⟩
  | append_singleton order i ih =>
      obtain ⟨hbefore, -, hdisjoint⟩ := List.nodup_append.mp hnodup
      have hi : i ∉ order := fun hmem => hdisjoint i hmem i (by simp) rfl
      obtain ⟨programs, hreach, hdone, hrest⟩ := ih hbefore
      have hfinish := reachable_finish hreach i
      dsimp only at hfinish
      rw [hrest i hi] at hfinish
      refine ⟨_, by rwa [serial, List.foldl_append], fun j hj => ?_, fun j hj => ?_⟩
      · by_cases hji : j = i
        · rw [hji, Function.update_self]
          rfl
        · rw [Function.update_of_ne hji]
          refine hdone j ((List.mem_append.mp hj).resolve_right ?_)
          simpa using hji
      · have hji : j ≠ i := fun heq => hj (by simp [heq])
        rw [Function.update_of_ne hji]
        exact hrest j fun hmem => hj (List.mem_append_left _ hmem)

/-- Programs none of which writes what another one calls leave what they leave one after the
other, in any order. -/
theorem eq_serial {start s : Processes I ι κ α} (hapart : Apart start)
    (h : (system start).Reachable s) (hended : Ended s) {order : List ι} (hnodup : order.Nodup)
    (hall : ∀ i, i ∉ order → (start.programs i).result?.isSome) :
    s.store = serial start order := by
  obtain ⟨programs, hreach, hserial, hrest⟩ := reachable_serial start hnodup
  refine (alone hapart h).store_eq (alone hapart hreach) hended fun i => ?_
  by_cases hi : i ∈ order
  · exact hserial i hi
  · dsimp only
    rw [hrest i hi]
    exact hall i hi

/-! ## Programs that only read -/

/-- Some of the programs have ended. -/
def silence (s : Processes I ι κ α) (silent : ι → Bool) (results : ι → α) :
    Processes I ι κ α where
  programs i := if silent i then .done (results i) else s.programs i
  store := s.store

omit [DecidableEq ι] [DecidableEq κ] in
theorem silence_of_silent (s : Processes I ι κ α) {silent : ι → Bool} (results : ι → α) {i : ι}
    (hi : silent i = true) : (s.silence silent results).programs i = .done (results i) :=
  if_pos hi

omit [DecidableEq ι] [DecidableEq κ] in
theorem silence_of_not_silent (s : Processes I ι κ α) {silent : ι → Bool} (results : ι → α) {i : ι}
    (hi : silent i = false) : (s.silence silent results).programs i = s.programs i := by
  unfold silence
  dsimp only
  rw [if_neg (by simp [hi])]

omit [DecidableEq κ] in
/-- It does not matter what a program that has ended would do. -/
theorem silence_update (programs : ι → Program I κ α) (store : κ → σ) (silent : ι → Bool)
    (results : ι → α) (i : ι) (p : Program I κ α) :
    Processes.silence { programs := Function.update programs i p, store := store } silent results =
      { programs := Function.update
          (Processes.silence { programs := programs, store := store } silent results).programs i
          (if silent i then .done (results i) else p)
        store := store } := by
  unfold silence
  dsimp only
  congr 1
  funext j
  by_cases hj : j = i
  · rw [hj, Function.update_self, Function.update_self]
  · rw [Function.update_of_ne hj, Function.update_of_ne hj]

/-- Programs that only read are not noticed: the others get as far without them. -/
theorem reachable_silence {start s : Processes I ι κ α} {silent : ι → Bool}
    (hreads : ∀ i, silent i = true → (start.programs i).Only fun _ c => I.writes c = false)
    (results : ι → α) (h : (system start).Reachable s) :
    (system (start.silence silent results)).Reachable (s.silence silent results) := by
  induction h with
  | init hs =>
      rw [show _ = start from hs]
      exact .init rfl
  | @step s t i hreach hstep ih =>
      obtain ⟨key, c, next, hprogram, rfl⟩ := step_call hstep
      rw [silence_update]
      cases hi : silent i with
      | true =>
          -- the turn leaves the store as it was, and the program as having ended
          have hturn := only_of_reachable (hreads i hi) hreach
          rw [hprogram] at hturn
          rw [I.exec_snd hturn.1, Function.update_eq_self, if_pos rfl]
          change (system (start.silence silent results)).Reachable
            { programs := Function.update (s.silence silent results).programs i _
              store := s.store }
          rw [← silence_of_silent s results hi, Function.update_eq_self]
          exact ih
      | false =>
          refine .step i ih ?_
          have hsilenced := (s.silence_of_not_silent results hi).trans hprogram
          change (s.silence silent results).step i = _
          unfold step
          rw [hsilenced]
          rfl

omit [DecidableEq ι] in
theorem apart_silence {start : Processes I ι κ α} {silent : ι → Bool} (results : ι → α)
    (hapart : ∀ i j, i ≠ j → silent i = false → silent j = false →
      ∀ k ∈ (start.programs i).written start.store, k ∉ (start.programs j).touched start.store) :
    (start.silence silent results).Apart := by
  intro i j hij k hwritten htouched
  cases hi : silent i with
  | true =>
      rw [silence_of_silent start results hi] at hwritten
      exact absurd hwritten List.not_mem_nil
  | false =>
      cases hj : silent j with
      | true =>
          rw [silence_of_silent start results hj] at htouched
          exact absurd htouched List.not_mem_nil
      | false =>
          rw [silence_of_not_silent start results hi] at hwritten
          rw [silence_of_not_silent start results hj] at htouched
          exact hapart i j hij hi hj k hwritten htouched

omit [DecidableEq ι] in
theorem serial_silence (start : Processes I ι κ α) {silent : ι → Bool} (results : ι → α)
    {order : List ι} (horder : ∀ i ∈ order, silent i = false) :
    (start.silence silent results).serial order = start.serial order := by
  unfold serial
  refine List.foldl_ext _ _ _ fun store i hi => ?_
  rw [silence_of_not_silent start results (horder i hi)]

section Beside

variable {start s : Processes I ι κ α} {silent : ι → Bool}
  (hreads : ∀ i, silent i = true → (start.programs i).Only fun _ c => I.writes c = false)
  (hapart : ∀ i j, i ≠ j → silent i = false → silent j = false →
    ∀ k ∈ (start.programs i).written start.store, k ∉ (start.programs j).touched start.store)
  (h : (system start).Reachable s)

include hreads hapart h

/-- Beside programs that only read, whatever they read, a program has the result that it has
alone. -/
theorem result_beside {i : ι} (hi : silent i = false) {result : α}
    (hended : (s.programs i).result? = some result) :
    result = ((start.programs i).run start.store).1 := by
  have hsilenced := reachable_silence hreads (fun _ => result) h
  rw [← silence_of_not_silent s (fun _ => result) hi] at hended
  have halone := result_of_ended (apart_silence _ hapart) hsilenced hended
  rwa [silence_of_not_silent start _ hi] at halone

theorem eq_serial_beside (hended : ∀ i, silent i = false → (s.programs i).result?.isSome)
    {order : List ι} (hnodup : order.Nodup) (horder : ∀ i, i ∈ order ↔ silent i = false) :
    s.store = serial start order := by
  have hnotSilent (i : ι) (hi : i ∉ order) : silent i = true := by
    simpa using mt (horder i).mpr hi
  let results (i : ι) := ((start.programs i).run start.store).1
  have hsilenced := reachable_silence hreads results h
  rw [← serial_silence start results fun i hi => (horder i).mp hi]
  refine eq_serial (apart_silence results hapart) hsilenced (fun i => ?_) hnodup fun i hi => ?_
  · cases hi : silent i with
    | true =>
        rw [silence_of_silent s results hi]
        rfl
    | false =>
        rw [silence_of_not_silent s results hi]
        exact hended i hi
  · rw [silence_of_silent start results (hnotSilent i hi)]
    rfl

end Beside

end Processes

end SharedStore
