import Axhost.Lib.Ledger
import Axhost.Lib.Transition
import Axhost.Platform.Windows
import Mathlib.Data.List.Perm.Basic

/-!
# COM in the threads of the pool

`com_initialize_context.cc`, and what `CreateGlobalSinkInThread` and `InvokeInThread` do first: a
thread that has no `ComInitializeContext` gets one, and it is destroyed when the thread ends.  The
pool ends idle threads and starts new ones as it likes.

* `WorkerThreads.calls_cleared`: the calls that initialize COM and uninitialize it, in every
  order of tasks and ends of threads.
-/

namespace Axhost

open Ledger Transition

structure ComInitializeContext where
  hr : HRESULT
  initialized : Bool
deriving DecidableEq, Repr

/-- The constructor, with what `CoInitializeEx` comes to. -/
def ComInitializeContext.new (hr : HRESULT) : ComInitializeContext where
  hr := hr
  initialized := succeeded hr

/-- `contexts` is `g_tls`, by thread.  By the thread they are made in, `calls` has the calls of
`CoInitializeEx` that succeeded and those of `CoUninitialize`, and `attempts` all calls of the
first and the ends of the contexts they were made for. -/
structure WorkerThreads where
  contexts : List (ℕ × ComInitializeContext) := []
  calls : List (Event ℕ) := []
  attempts : List (Event ℕ) := []

inductive WorkerStep
  | task (thread : ℕ) (coInitializeEx : HRESULT)
  | exit (thread : ℕ)

namespace WorkerThreads

def hasLocalData (s : WorkerThreads) (thread : ℕ) : Bool :=
  (s.contexts.map Prod.fst).contains thread

/-- What a task does first. -/
def enter (s : WorkerThreads) (thread : ℕ) (coInitializeEx : HRESULT) : WorkerThreads :=
  if s.hasLocalData thread then s
  else
    let context := ComInitializeContext.new coInitializeEx
    { contexts := (thread, context) :: s.contexts
      calls := s.calls ++ if context.initialized then [.acquire thread] else []
      attempts := s.attempts ++ [.acquire thread] }

/-- A thread ends, and destroys its context if it has one. -/
def exit (s : WorkerThreads) (thread : ℕ) : WorkerThreads :=
  match s.contexts.lookup thread with
  | none => s
  | some context =>
    { contexts := s.contexts.erase (thread, context)
      calls := s.calls ++ if context.initialized then [.release thread] else []
      attempts := s.attempts ++ [.release thread] }

def step (s : WorkerThreads) : WorkerStep → Option WorkerThreads
  | .task thread coInitializeEx => some (s.enter thread coInitializeEx)
  | .exit thread => some (s.exit thread)

def system : System WorkerThreads WorkerStep where
  init s := s = {}
  step := step

/-- The threads whose context has initialized COM. -/
def initialized (s : WorkerThreads) : List ℕ :=
  (s.contexts.filter fun c => c.2.initialized).map Prod.fst

/-- A thread has one context, for which it has tried once to initialize COM, and COM is
initialized in those threads whose context has done it, once. -/
structure Inv (s : WorkerThreads) : Prop where
  nodup : (s.contexts.map Prod.fst).Nodup
  attempts : ∃ threads, held s.attempts [] = some threads ∧
    threads.Perm (s.contexts.map Prod.fst)
  calls : ∃ live, held s.calls [] = some live ∧ live.Perm s.initialized

theorem held_concat_release {events : List (Event ℕ)} {rs : List ℕ} {thread : ℕ}
    (h : ∃ live, held events [] = some live ∧ live.Perm (thread :: rs)) :
    ∃ live, held (events ++ [.release thread]) [] = some live ∧ live.Perm rs := by
  obtain ⟨live, hlive, hperm⟩ := h
  have hheld : thread ∈ live := hperm.symm.subset List.mem_cons_self
  refine ⟨live.erase thread, ?_, (List.cons_perm_iff_perm_erase.mp hperm.symm).2.symm⟩
  rw [held_append, hlive, Option.bind_some, held_release_of_mem hheld, held_nil]

theorem held_concat_acquire {events : List (Event ℕ)} {rs : List ℕ} (thread : ℕ)
    (h : ∃ live, held events [] = some live ∧ live.Perm rs) :
    ∃ live, held (events ++ [.acquire thread]) [] = some live ∧ live.Perm (thread :: rs) := by
  obtain ⟨live, hlive, hperm⟩ := h
  refine ⟨thread :: live, ?_, hperm.cons thread⟩
  rw [held_append, hlive, Option.bind_some, held_acquire, held_nil]

theorem enter_inv {s : WorkerThreads} (hinv : Inv s) (thread : ℕ) (coInitializeEx : HRESULT) :
    Inv (s.enter thread coInitializeEx) := by
  unfold enter
  split_ifs with hdata
  · exact hinv
  · obtain ⟨hnodup, hattempts, hcalls⟩ := hinv
    have hfresh : thread ∉ s.contexts.map Prod.fst := by simpa [hasLocalData] using hdata
    refine ⟨List.nodup_cons.mpr ⟨hfresh, hnodup⟩, held_concat_acquire thread hattempts, ?_⟩
    unfold initialized at hcalls ⊢
    dsimp only
    rw [List.filter_cons]
    split_ifs
    · exact held_concat_acquire thread hcalls
    · rw [List.append_nil]
      exact hcalls

theorem mem_of_lookup {contexts : List (ℕ × ComInitializeContext)} {thread : ℕ}
    {context : ComInitializeContext} (h : contexts.lookup thread = some context) :
    (thread, context) ∈ contexts := by
  induction contexts with
  | nil => exact absurd h (by simp)
  | cons c contexts ih =>
      rw [List.lookup_cons] at h
      split at h
      · next heq =>
        obtain rfl := Option.some.inj h
        rw [eq_of_beq heq]
        exact List.mem_cons_self
      · exact List.mem_cons_of_mem c (ih h)

theorem exit_inv {s : WorkerThreads} (hinv : Inv s) (thread : ℕ) : Inv (s.exit thread) := by
  unfold exit
  split
  · exact hinv
  · next context hlookup =>
    obtain ⟨hnodup, ⟨threads, hthreads, hall⟩, live, hlive, hsome⟩ := hinv
    have hsplit := List.perm_cons_erase (mem_of_lookup hlookup)
    unfold initialized at hsome
    have hinitialized := hsome.trans ((hsplit.filter fun c => c.2.initialized).map Prod.fst)
    rw [List.filter_cons] at hinitialized
    refine ⟨(List.erase_sublist.map Prod.fst).nodup hnodup,
      held_concat_release ⟨threads, hthreads, hall.trans (hsplit.map Prod.fst)⟩, ?_⟩
    unfold initialized
    dsimp only
    split_ifs at hinitialized ⊢
    · exact held_concat_release ⟨live, hlive, hinitialized⟩
    · rw [List.append_nil]
      exact ⟨live, hlive, hinitialized⟩

theorem reachable_inv {s : WorkerThreads} (hreach : system.Reachable s) : Inv s := by
  refine hreach.induct ?_ ?_
  · rintro _ rfl
    exact ⟨.nil, ⟨[], rfl, .nil⟩, [], rfl, .nil⟩
  · intro s a t _ hinv hstep
    cases a with
    | task thread coInitializeEx =>
        obtain rfl := Option.some.inj hstep
        exact enter_inv hinv thread coInitializeEx
    | exit thread =>
        obtain rfl := Option.some.inj hstep
        exact exit_inv hinv thread

/-- However tasks and ends of threads follow each other: a thread that has a context has tried
once to initialize COM for it; COM is initialized, once, in exactly those threads whose context
has succeeded, and is never uninitialized in a thread where it is not; and once all threads have
ended it is initialized in none. -/
theorem calls_cleared {s : WorkerThreads} (hreach : system.Reachable s) :
    (∃ threads live, held s.attempts [] = some threads ∧ held s.calls [] = some live ∧
      threads.Nodup ∧ live.Nodup ∧
      (∀ thread, thread ∈ threads ↔ s.hasLocalData thread = true) ∧
      ∀ thread, thread ∈ live ↔
        ∃ context, (thread, context) ∈ s.contexts ∧ context.initialized = true) ∧
      (s.contexts = [] → Cleared s.calls ∧ Cleared s.attempts) := by
  obtain ⟨hnodup, ⟨threads, hthreads, hall⟩, live, hlive, hsome⟩ := reachable_inv hreach
  have hsub : s.initialized.Sublist (s.contexts.map Prod.fst) := List.filter_sublist.map Prod.fst
  refine ⟨⟨threads, live, hthreads, hlive, hall.nodup_iff.mpr hnodup,
    hsome.nodup_iff.mpr (hsub.nodup hnodup), fun thread => ?_, fun thread => ?_⟩, fun hnone => ?_⟩
  · rw [hall.mem_iff, hasLocalData, List.contains_iff_mem]
  · rw [hsome.mem_iff]
    unfold initialized
    simp
  · unfold initialized at hsome
    rw [hnone] at hall hsome
    obtain rfl := hall.eq_nil
    obtain rfl := hsome.eq_nil
    exact ⟨hlive, hthreads⟩

/-- One thread ends and comes back under its number, in which COM cannot be initialized then. -/
theorem calls_cleared_again :
    let s := ((({} : WorkerThreads).enter 1 S_OK).exit 1).enter 1 E_FAIL
    (∃ threads live, held s.attempts [] = some threads ∧ held s.calls [] = some live ∧
      threads.Nodup ∧ live.Nodup ∧
      (∀ thread, thread ∈ threads ↔ s.hasLocalData thread = true) ∧
      ∀ thread, thread ∈ live ↔
        ∃ context, (thread, context) ∈ s.contexts ∧ context.initialized = true) ∧
      (s.contexts = [] → Cleared s.calls ∧ Cleared s.attempts) := by
  intro s
  exact calls_cleared (.step (.task 1 E_FAIL)
    (.step (.exit 1) (.step (.task 1 S_OK) (.init rfl) rfl) rfl) rfl)

end WorkerThreads

end Axhost
