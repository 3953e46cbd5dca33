import Axhost.Lib.Transition
import Axhost.Lifetime.Runtime

/-!
# Suspended class objects in multiple-use mode

After a successful construction the class objects accept activations.  The last
`ReleaseServerReference` suspends them as a side effect and only restarts the timer; a
`CheckForExit` that finds no reference suspends them too, and an exit follows at once
unless the idle warning comes first.  `accepting_iff` says that these two are the only
ways to stop accepting activations without having asked for an exit.
-/

namespace Axhost.Runtime

open Transition

/-- What reaches the runtime: its references and its timer, and the end of its warning. -/
inductive ServerCall
  | addServerReference
  | releaseServerReference
  | checkForExit
  | dismissWarning
deriving DecidableEq, Repr

def call (rt : Runtime) : ServerCall → Option Runtime
  | .addServerReference => some rt.addServerReference
  | .releaseServerReference => some rt.releaseServerReference
  | .checkForExit => some rt.checkForExit
  | .dismissWarning => if rt.warningOpen then some rt.dismissWarning else none

/-- Multiple-use mode after a constructor that registered and resumed its classes. -/
def multipleUse : System Runtime ServerCall where
  init rt := rt = constructed true true true true
  step := call

/-- A client can connect, unless the host has asked for its exit. -/
def Accepting (rt : Runtime) : Prop := rt.exitEvents = 0 → rt.com.suspended = false

/-- The calls that leave the class objects as they are or ask for an exit. -/
def KeepsAccepting (rt : Runtime) : ServerCall → Prop
  | .releaseServerReference => rt.com.refs = 1 → rt.exitEvents ≠ 0
  | .checkForExit => rt.com.refs = 0 → rt.idle → rt.exitEvents ≠ 0
  | _ => True

instance (rt : Runtime) : (c : ServerCall) → Decidable (rt.KeepsAccepting c)
  | .releaseServerReference => inferInstanceAs (Decidable (_ → _))
  | .checkForExit => inferInstanceAs (Decidable (_ → _ → _))
  | .addServerReference => .isTrue trivial
  | .dismissWarning => .isTrue trivial

theorem call_hasMultipleUse {rt rt' : Runtime} {c : ServerCall}
    (hmulti : rt.hasMultipleUse = true) (h : rt.call c = some rt') :
    rt'.hasMultipleUse = true := by
  cases c with
  | addServerReference =>
      obtain rfl := Option.some.inj h
      exact hmulti
  | releaseServerReference =>
      obtain rfl := Option.some.inj h
      rw [releaseServerReference_hasMultipleUse, hmulti]
  | checkForExit =>
      obtain rfl := Option.some.inj h
      rw [checkForExit_hasMultipleUse, hmulti]
  | dismissWarning =>
      obtain ⟨-, rfl⟩ : rt.warningOpen = true ∧ rt.dismissWarning = rt' := by
        simpa [call] using h
      exact hmulti

theorem call_accepting_iff {rt rt' : Runtime} {c : ServerCall}
    (hmulti : rt.hasMultipleUse = true) (hacc : rt.Accepting) (h : rt.call c = some rt') :
    rt'.Accepting ↔ rt.KeepsAccepting c := by
  unfold Accepting at hacc ⊢
  cases c with
  | addServerReference =>
      obtain rfl := Option.some.inj h
      simpa [KeepsAccepting] using hacc
  | releaseServerReference =>
      obtain rfl := Option.some.inj h
      have hsingle : ¬ (rt.com.refs = 1 ∧ rt.hasMultipleUse = false) := by simp [hmulti]
      rw [releaseServerReference_exitEvents, if_neg hsingle, releaseServerReference_suspended,
        KeepsAccepting]
      grind
  | checkForExit =>
      obtain rfl := Option.some.inj h
      rw [checkForExit_exitEvents, checkForExit_suspended, KeepsAccepting]
      grind
  | dismissWarning =>
      obtain ⟨-, rfl⟩ : rt.warningOpen = true ∧ rt.dismissWarning = rt' := by
        simpa [call] using h
      simp [KeepsAccepting]

/-- A run accepts activations for as long as no exit has been asked for exactly when no
`ReleaseServerReference` gives up the last reference and no `CheckForExit` opens the idle
warning before that. -/
theorem accepting_iff {trace : List (Runtime × ServerCall)} {last : Runtime}
    (hrun : multipleUse.Run (constructed true true true true) trace last) :
    (∀ rt ∈ System.visited trace last, rt.Accepting) ↔
      ∀ v ∈ trace, v.1.KeepsAccepting v.2 := by
  refine hrun.visited_iff (I := fun rt => rt.hasMultipleUse = true)
    (fun rt c rt' hI hstep => call_hasMultipleUse hI hstep)
    (fun rt c rt' hI hP hstep => call_accepting_iff hI hP hstep) rfl ?_
  unfold Accepting
  decide

/-- A client takes a reference and gives it up again. -/
def oneClient : List (Runtime × ServerCall) :=
  [(constructed true true true true, .addServerReference),
    ((constructed true true true true).addServerReference, .releaseServerReference)]

theorem oneClient_run : multipleUse.Run (constructed true true true true) oneClient
    (constructed true true true true).addServerReference.releaseServerReference :=
  .cons rfl (.cons rfl (.nil _))

/-- After it the class objects are suspended, and the timer runs on for a minute. -/
theorem not_accepting_after_client :
    ¬ ∀ trace last, multipleUse.Run (constructed true true true true) trace last →
      ∀ rt ∈ System.visited trace last, rt.Accepting := by
  intro hall
  have hlast := hall _ _ oneClient_run
    (constructed true true true true).addServerReference.releaseServerReference
    (by simp [System.visited])
  exact absurd (hlast (by decide)) (by decide)

/-- Two clients come, the first one goes, and a check finds the second. -/
theorem accepting_iff_twoClients : ∃ trace last,
    multipleUse.Run (constructed true true true true) trace last ∧
      trace.map Prod.snd = [.addServerReference, .addServerReference, .releaseServerReference,
        .checkForExit] ∧
      ∀ rt ∈ System.visited trace last, rt.Accepting := by
  have hrun : multipleUse.Run (constructed true true true true)
      [(_, .addServerReference), (_, .addServerReference), (_, .releaseServerReference),
        (_, .checkForExit)] _ :=
    .cons rfl (.cons rfl (.cons rfl (.cons rfl (.nil _))))
  exact ⟨_, _, hrun, rfl, (accepting_iff hrun).mpr (by decide)⟩

end Axhost.Runtime
