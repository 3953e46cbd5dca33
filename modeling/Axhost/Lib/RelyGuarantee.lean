import Axhost.Lib.SharedStore

/-!
# Programs that rely on each other

What a program comes to where others change the store between its calls, as long as their changes
are of a kind that it relies on.

* `Program.Ensures`: the program ends as it should, whatever changes of that kind there are, with
  a rule for each way to make a program;
* `Program.Keeps`: and it makes no other changes itself, as long as there are no others;
* `Program.Follows`: what it does alone is what it does with such changes in between;
* `Processes.ensures`: programs that keep to changes of that kind may rely on each other.
-/

namespace SharedStore

open Transition

/-- The changes that a program relies on the others to make no others than. -/
structure Rely (σ κ : Type*) where
  changes : (κ → σ) → (κ → σ) → Prop
  refl (store : κ → σ) : changes store store
  trans {a b c : κ → σ} (hab : changes a b) (hbc : changes b c) : changes a c

namespace Program

universe w

variable {σ κ : Type*} {α β : Type w} {I : Interface σ} [DecidableEq κ] {R : Rely σ κ}

/-- With such changes before each of its calls and after the last one, the program ends with a
result and a store that meet `Q`. -/
def Ensures (R : Rely σ κ) : Program I κ α → (α → (κ → σ) → Prop) → (κ → σ) → Prop
  | done result, Q, store => ∀ store', R.changes store store' → Q result store'
  | call key c next, Q, store => ∀ store', R.changes store store' →
      (next (I.exec c (store' key)).1).Ensures R Q
        (Function.update store' key (I.exec c (store' key)).2)

variable {p : Program I κ α} {Q : α → (κ → σ) → Prop} {store store' : κ → σ}

theorem Ensures.change (h : p.Ensures R Q store) (hchange : R.changes store store') :
    p.Ensures R Q store' := by
  cases p with
  | done result => exact fun store'' hchange' => h store'' (R.trans hchange hchange')
  | call key c next => exact fun store'' hchange' => h store'' (R.trans hchange hchange')

theorem Ensures.mono {Q' : α → (κ → σ) → Prop} (h : p.Ensures R Q store)
    (hQ : ∀ result store', Q result store' → Q' result store') : p.Ensures R Q' store := by
  induction p generalizing store with
  | done result => exact fun store' hchange => hQ result store' (h store' hchange)
  | call key c next ih => exact fun store' hchange => ih _ (h store' hchange)

theorem ensures_of_forall (h : ∀ result store', Q result store') : p.Ensures R Q store := by
  induction p generalizing store with
  | done result => exact fun store' _ => h result store'
  | call key c next ih => exact fun store' _ => ih _

theorem ensures_pure {result : α} (h : ∀ store', R.changes store store' → Q result store') :
    (pure result : Program I κ α).Ensures R Q store := h

theorem Ensures.bind {Q : β → (κ → σ) → Prop} {f : α → Program I κ β}
    (h : p.Ensures R (fun result => (f result).Ensures R Q) store) :
    (p >>= f).Ensures R Q store := by
  change (p.bind f).Ensures R Q store
  induction p generalizing store with
  | done result => exact h store (R.refl store)
  | call key c next ih => exact fun store' hchange => ih _ (h store' hchange)

theorem ensures_ite {P : Prop} [Decidable P] {q : Program I κ α} (hp : P → p.Ensures R Q store)
    (hq : ¬ P → q.Ensures R Q store) : (if P then p else q).Ensures R Q store := by
  split_ifs with h
  · exact hp h
  · exact hq h

theorem ensures_unless {P : Prop} [Decidable P] {result : α} {q : Program I κ α}
    (hresult : P → ∀ store', R.changes store store' → Q result store')
    (hq : ¬ P → q.Ensures R Q store) : (if P then pure result else q).Ensures R Q store :=
  ensures_ite (fun h => ensures_pure (hresult h)) hq

/-! ## What a program does to the others -/

/-- With such changes before each of its calls, the calls make such changes. -/
def Keeps (R : Rely σ κ) : Program I κ α → (κ → σ) → Prop
  | done _, _ => True
  | call key c next, store => ∀ store', R.changes store store' →
      R.changes store' (Function.update store' key (I.exec c (store' key)).2) ∧
        (next (I.exec c (store' key)).1).Keeps R
          (Function.update store' key (I.exec c (store' key)).2)

theorem Keeps.change (h : p.Keeps R store) (hchange : R.changes store store') :
    p.Keeps R store' := by
  cases p with
  | done result => trivial
  | call key c next => exact fun store'' hchange' => h store'' (R.trans hchange hchange')

theorem keeps_pure {result : α} : (pure result : Program I κ α).Keeps R store := trivial

theorem Keeps.bind {f : α → Program I κ β} (hp : p.Keeps R store)
    (hf : p.Ensures R (fun result => (f result).Keeps R) store) : (p >>= f).Keeps R store := by
  change (p.bind f).Keeps R store
  induction p generalizing store with
  | done result => exact hf store (R.refl store)
  | call key c next ih =>
      exact fun store' hchange =>
        ⟨(hp store' hchange).1, ih _ (hp store' hchange).2 (hf store' hchange)⟩

theorem keeps_ite {P : Prop} [Decidable P] {q : Program I κ α} (hp : P → p.Keeps R store)
    (hq : ¬ P → q.Keeps R store) : (if P then p else q).Keeps R store := by
  split_ifs with h
  · exact hp h
  · exact hq h

theorem keeps_unless {P : Prop} [Decidable P] {result : α} {q : Program I κ α}
    (hq : ¬ P → q.Keeps R store) : (if P then pure result else q).Keeps R store :=
  keeps_ite (fun _ => keeps_pure) hq

section Only

variable {P : κ → I.Call → Prop} (honly : p.Only P)
  (hcall : ∀ key c store, P key c →
    R.changes store (Function.update store key (I.exec c (store key)).2))

include honly hcall

/-- A program each call of which makes such a change, whatever there is before it. -/
theorem Only.keeps (store : κ → σ) : p.Keeps R store := by
  induction p generalizing store with
  | done result => trivial
  | call key c next ih =>
      exact fun store' _ => ⟨hcall key c store' honly.1, ih _ (honly.2 _) _⟩

theorem Only.ensures (store : κ → σ) :
    p.Ensures R (fun _ store' => R.changes store store') store := by
  suffices hfrom : ∀ store', R.changes store store' →
      p.Ensures R (fun _ store' => R.changes store store') store' from hfrom store (R.refl store)
  induction p with
  | done result => exact fun store' h store'' hchange => R.trans h hchange
  | call key c next ih =>
      intro store' h store'' hchange
      exact ih _ (honly.2 _) _ (R.trans (R.trans h hchange) (hcall key c store'' honly.1))

end Only

theorem ensures_of_reads (hreads : p.Only fun _ c => I.writes c = false) (store : κ → σ) :
    p.Ensures R (fun _ store' => R.changes store store') store := by
  refine hreads.ensures (fun key c store hreads => ?_) store
  rw [I.exec_snd hreads, Function.update_eq_self]
  exact R.refl store

/-! ## What a program does alone -/

/-- From any store that compares to the one it has alone as `V` says, the program does what it does
alone, if that is `ok`. -/
def Follows (R : Rely σ κ) (V : (κ → σ) → (κ → σ) → Prop) (ok : α → Prop) (p : Program I κ α) :
    Prop :=
  ∀ a b, V a b → ok (p.run a).1 →
    p.Ensures R (fun result b' => result = (p.run a).1 ∧ V (p.run a).2 b') b

section Follows

variable {V : (κ → σ) → (κ → σ) → Prop} {ok : α → Prop} {ok' : β → Prop}

theorem follows_pure (hV : ∀ a b b', V a b → R.changes b b' → V a b') (result : α) :
    (pure result : Program I κ α).Follows R V ok :=
  fun a b hab _ => ensures_pure fun b' hchange => ⟨rfl, hV a b b' hab hchange⟩

theorem follows_single (hV : ∀ a b b', V a b → R.changes b b' → V a b') {key : κ} {c : I.Call}
    {ok : I.Answer c → Prop}
    (hanswer : ∀ a b, V a b → ok (I.exec c (a key)).1 →
      (I.exec c (b key)).1 = (I.exec c (a key)).1 ∧
        V (Function.update a key (I.exec c (a key)).2)
          (Function.update b key (I.exec c (b key)).2)) :
    (single key c : Program I κ (I.Answer c)).Follows R V ok := by
  intro a b hab hok b' hchange
  obtain ⟨hsame, hafter⟩ := hanswer a b' (hV a b b' hab hchange) hok
  exact fun b'' hchange' => ⟨hsame, hV _ _ b'' hafter hchange'⟩

theorem Follows.bind {f : α → Program I κ β} (hp : p.Follows R V ok)
    (hf : ∀ result, ok result → (f result).Follows R V ok')
    (hok : ∀ result a, ok' ((f result).run a).1 → ok result) : (p >>= f).Follows R V ok' := by
  intro a b hab hok'
  rw [run_bind] at hok' ⊢
  have hresult := hok _ _ hok'
  apply Ensures.bind
  refine (hp a b hab hresult).mono fun result b' hfollows => ?_
  obtain ⟨rfl, hafter⟩ := hfollows
  exact hf _ hresult _ _ hafter hok'

theorem follows_ite {P : Prop} [Decidable P] {q : Program I κ α} (hp : P → p.Follows R V ok)
    (hq : ¬ P → q.Follows R V ok) : (if P then p else q).Follows R V ok := by
  split_ifs with h
  · exact hp h
  · exact hq h

end Follows

end Program

namespace Processes

variable {σ ι κ α : Type*} {I : Interface σ} [DecidableEq ι] [DecidableEq κ]
  {start s : Processes I ι κ α} {R : Rely σ κ}

/-- If each program makes such changes as long as the others do, they all do. -/
theorem keeps (hkeeps : ∀ i, (start.programs i).Keeps R start.store)
    (h : (system start).Reachable s) (i : ι) : (s.programs i).Keeps R s.store := by
  induction h generalizing i with
  | init hs =>
      rw [show _ = start from hs]
      exact hkeeps i
  | @step s t j hreach hstep ih =>
      have hturn := ih j
      obtain ⟨key, c, next, hprogram, rfl⟩ := step_call hstep
      rw [hprogram] at hturn
      obtain ⟨hchange, hrest⟩ := hturn s.store (R.refl s.store)
      dsimp only
      by_cases hij : i = j
      · rw [hij, Function.update_self]
        exact hrest
      · rw [Function.update_of_ne hij]
        exact (ih i).change hchange

theorem changes (hkeeps : ∀ i, (start.programs i).Keeps R start.store)
    (h : (system start).Reachable s) : R.changes start.store s.store := by
  induction h with
  | init hs =>
      rw [show _ = start from hs]
      exact R.refl _
  | @step s t i hreach hstep ih =>
      have hturn := keeps hkeeps hreach i
      obtain ⟨key, c, next, hprogram, rfl⟩ := step_call hstep
      rw [hprogram] at hturn
      exact R.trans ih (hturn s.store (R.refl s.store)).1

/-- What one of them ensures from the start it ensures all along, whoever has his turn when. -/
theorem ensures {Q : α → (κ → σ) → Prop} (hkeeps : ∀ i, (start.programs i).Keeps R start.store)
    {i : ι} (hi : (start.programs i).Ensures R Q start.store) (h : (system start).Reachable s) :
    (s.programs i).Ensures R Q s.store := by
  induction h with
  | init hs =>
      rw [show _ = start from hs]
      exact hi
  | @step s t j hreach hstep ih =>
      have hturn := keeps hkeeps hreach j
      obtain ⟨key, c, next, hprogram, rfl⟩ := step_call hstep
      rw [hprogram] at hturn
      obtain ⟨hchange, -⟩ := hturn s.store (R.refl s.store)
      dsimp only
      by_cases hij : i = j
      · rw [hij] at ih ⊢
        rw [hprogram] at ih
        rw [Function.update_self]
        exact ih s.store (R.refl s.store)
      · rw [Function.update_of_ne hij]
        exact ih.change hchange

/-- What a program that has ended has ensured. -/
theorem ensured {Q : α → (κ → σ) → Prop} (hkeeps : ∀ i, (start.programs i).Keeps R start.store)
    {i : ι} (hi : (start.programs i).Ensures R Q start.store) (h : (system start).Reachable s)
    {result : α} (hended : (s.programs i).result? = some result) : Q result s.store := by
  have hensures := ensures hkeeps hi h
  rw [Program.eq_done hended] at hensures
  exact hensures s.store (R.refl s.store)

end Processes

end SharedStore
