import Mathlib.Data.List.Basic

/-!
# Labelled transition systems

A system has initial states and a partial step function; every choice that is not
the system's own (an outcome of a foreign call, the next party to move) is in the
label.  `Run` records the state before each label, so a condition on steps can be
stated next to a property of the visited states:

* `Reachable.induct` is the invariant rule;
* `Run.visited_iff` turns a one-step equivalence into one about whole runs;
* `Run.steps_iff` does so for a property of the steps.
-/

namespace Transition

/-- Initial states and a step function that is undefined where a label is not enabled. -/
structure System (σ ι : Type*) where
  init : σ → Prop
  step : σ → ι → Option σ

variable {σ ι : Type*}

namespace System

/-- A run from `s` to `u`, with the state before each label. -/
inductive Run (S : System σ ι) : σ → List (σ × ι) → σ → Prop
  | nil (s : σ) : Run S s [] s
  | cons {s t u : σ} {a : ι} {trace : List (σ × ι)} (hstep : S.step s a = some t)
      (hrun : Run S t trace u) : Run S s ((s, a) :: trace) u

/-- The states a run goes through, its last one included. -/
def visited (trace : List (σ × ι)) (last : σ) : List σ :=
  trace.map Prod.fst ++ [last]

inductive Reachable (S : System σ ι) : σ → Prop
  | init {s : σ} (hinit : S.init s) : Reachable S s
  | step {s t : σ} (a : ι) (hreach : Reachable S s) (hstep : S.step s a = some t) :
      Reachable S t

def exec (S : System σ ι) : σ → List ι → Option σ
  | s, [] => some s
  | s, a :: labels => (S.step s a).bind fun t => S.exec t labels

variable {S : System σ ι}

theorem exec_cons {s t : σ} {a : ι} (h : S.step s a = some t) (labels : List ι) :
    S.exec s (a :: labels) = S.exec t labels := by
  rw [exec, h, Option.bind_some]

theorem exec_append (s : σ) (labels labels' : List ι) :
    S.exec s (labels ++ labels') = (S.exec s labels).bind fun t => S.exec t labels' := by
  induction labels generalizing s with
  | nil => rfl
  | cons a labels ih => simp only [List.cons_append, exec, Option.bind_assoc, ih]

theorem visited_cons (s : σ) (a : ι) (trace : List (σ × ι)) (u : σ) :
    visited ((s, a) :: trace) u = s :: visited trace u := rfl

theorem Run.mem_first {s u : σ} {trace : List (σ × ι)} (h : S.Run s trace u) :
    s ∈ visited trace u := by
  cases h with
  | nil => simp [visited]
  | cons => simp [visited]

theorem Run.step_isSome {s u : σ} {trace : List (σ × ι)} (h : S.Run s trace u) {v : σ × ι}
    (hv : v ∈ trace) : (S.step v.1 v.2).isSome := by
  induction h with
  | nil => simp at hv
  | cons hstep _ ih =>
      rcases List.mem_cons.mp hv with rfl | hv
      · simp [hstep]
      · exact ih hv

theorem mem_visited {trace : List (σ × ι)} {v : σ × ι} (hv : v ∈ trace) (u : σ) :
    v.1 ∈ visited trace u :=
  List.mem_append_left _ (List.mem_map_of_mem hv)

theorem Run.append {s t u : σ} {tr tr' : List (σ × ι)} (h : S.Run s tr t)
    (h' : S.Run t tr' u) : S.Run s (tr ++ tr') u := by
  induction h with
  | nil => exact h'
  | cons hstep _ ih => exact .cons hstep (ih h')

theorem Run.reachable {s u : σ} {trace : List (σ × ι)} (h : S.Run s trace u)
    (hs : S.Reachable s) : S.Reachable u := by
  induction h with
  | nil => exact hs
  | cons hstep _ ih => exact ih (.step _ hs hstep)

theorem run_of_exec {s u : σ} {labels : List ι} (h : S.exec s labels = some u) :
    ∃ trace, trace.map Prod.snd = labels ∧ S.Run s trace u := by
  induction labels generalizing s with
  | nil =>
      obtain rfl : s = u := by simpa [exec] using h
      exact ⟨[], rfl, .nil s⟩
  | cons a labels ih =>
      obtain ⟨t, hstep, hrest⟩ := Option.bind_eq_some_iff.mp h
      obtain ⟨trace, hlabels, hrun⟩ := ih hrest
      exact ⟨(s, a) :: trace, by simp [hlabels], .cons hstep hrun⟩

theorem Reachable.induct {I : σ → Prop} (hinit : ∀ s, S.init s → I s)
    (hstep : ∀ s a t, S.Reachable s → I s → S.step s a = some t → I t) {s : σ}
    (h : S.Reachable s) : I s := by
  induction h with
  | init hs => exact hinit _ hs
  | step a hreach hst ih => exact hstep _ a _ hreach ih hst

/-- An invariant holds in every state that a run visits. -/
theorem Run.forall_visited {I : σ → Prop} {C : σ → ι → Prop}
    (hstep : ∀ s a t, I s → C s a → S.step s a = some t → I t) {s u : σ}
    {trace : List (σ × ι)} (h : S.Run s trace u) (hs : I s)
    (hC : ∀ v ∈ trace, C v.1 v.2) : ∀ x ∈ visited trace u, I x := by
  induction h with
  | nil s => simpa [visited] using hs
  | cons hst _ ih =>
      simp only [List.forall_mem_cons] at hC
      rw [visited_cons, List.forall_mem_cons]
      exact ⟨hs, ih (hstep _ _ _ hs hC.1 hst) hC.2⟩

/-- A property of steps that comes to the condition `C` as long as `I` holds before the step, and
`I` is kept by the steps that meet `C`. -/
theorem Run.steps_iff {I : σ → Prop} {P C : σ → ι → Prop}
    (hinv : ∀ s a t, I s → C s a → S.step s a = some t → I t)
    (hiff : ∀ s a t, I s → S.step s a = some t → (P s a ↔ C s a)) {s u : σ}
    {trace : List (σ × ι)} (h : S.Run s trace u) (hI : I s) :
    (∀ v ∈ trace, P v.1 v.2) ↔ ∀ v ∈ trace, C v.1 v.2 := by
  induction h with
  | nil s => simp
  | cons hst _ ih =>
      rw [List.forall_mem_cons, List.forall_mem_cons, hiff _ _ _ hI hst]
      exact and_congr_right fun hC => ih (hinv _ _ _ hI hC hst)

/-- If one step keeps `P` exactly under the condition `C`, as long as the invariant
`I` and `P` hold before it, then a run keeps `P` throughout exactly when all of its
steps meet `C`. -/
theorem Run.visited_iff {I P : σ → Prop} {C : σ → ι → Prop}
    (hinv : ∀ s a t, I s → S.step s a = some t → I t)
    (hiff : ∀ s a t, I s → P s → S.step s a = some t → (P t ↔ C s a)) {s u : σ}
    {trace : List (σ × ι)} (h : S.Run s trace u) (hI : I s) (hP : P s) :
    (∀ x ∈ visited trace u, P x) ↔ ∀ v ∈ trace, C v.1 v.2 := by
  induction h with
  | nil s => simp [visited, hP]
  | @cons s t u a trace hst hrun ih =>
      have hIt : I t := hinv _ _ _ hI hst
      rw [visited_cons, List.forall_mem_cons, List.forall_mem_cons]
      constructor
      · rintro ⟨-, hall⟩
        have hPt : P t := hall t hrun.mem_first
        exact ⟨(hiff _ _ _ hI hP hst).mp hPt, (ih hIt hPt).mp hall⟩
      · rintro ⟨hC, hrest⟩
        have hPt : P t := (hiff _ _ _ hI hP hst).mpr hC
        exact ⟨hP, (ih hIt hPt).mpr hrest⟩

end System

end Transition
