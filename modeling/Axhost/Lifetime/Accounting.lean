import Axhost.Lifetime.Host

/-!
# What COM's count says about a host

COM counts the containers that are alive and the locks that are outstanding, whatever the
clients do and however a `CreateInstance` ends.  An exit is asked for where the count is found
to be zero, with one exception: the idle warning stands between the test and the request, and
clients are served while it is open.

* `Host.step_balanced`: one step keeps the count;
* `Host.accounted_iff`: over a run every request is made at a count of zero exactly when the
  warning is closed with nothing acquired.
-/

namespace Axhost.Host

open Transition

/-- The host as any constructor leaves it. -/
def launched (hasMultipleUse suspendSucceeded hasRegisteredClass resumeSucceeded : Bool) :
    Host where
  runtime := Runtime.constructed hasMultipleUse suspendSucceeded hasRegisteredClass
    resumeSucceeded

/-- A step asks for an exit only where nothing is acquired, and in single-use mode a step that
gives up the last thing asks for one, unless it is `CheckForExit`. -/
structure Accounted (h : Host) (e : HostEvent) (t : Host) : Prop where
  quiet_of_exit : t.runtime.exitEvents ≠ h.runtime.exitEvents → t.acquired = 0
  exit_of_last : h.runtime.hasMultipleUse = false → e ≠ .timeout → 0 < h.acquired →
    t.acquired = 0 → t.runtime.exitEvents = h.runtime.exitEvents + 1

/-- The idle warning is closed with nothing acquired. -/
def ClosesIdle (h : Host) (e : HostEvent) : Prop := e = .dismissWarning → h.acquired = 0

theorem Accounted.of_eq {h t : Host} {e : HostEvent}
    (hexit : t.runtime.exitEvents = h.runtime.exitEvents)
    (hacquired : 0 < h.acquired → t.acquired ≠ 0) : Accounted h e t :=
  ⟨fun hne => absurd hexit hne, fun _ _ hpos hzero => absurd hzero (hacquired hpos)⟩

/-- Giving up a container or a lock: in single-use mode the last one asks for the exit. -/
theorem accounted_release {h t : Host} {e : HostEvent} (hbal : Balanced h)
    (hruntime : t.runtime = h.runtime.releaseServerReference)
    (hacquired : t.acquired = h.acquired - 1) : Accounted h e t := by
  have hrefs := hbal.refs_eq
  have hexit := Runtime.releaseServerReference_exitEvents h.runtime
  rw [← hruntime] at hexit
  constructor
  · intro hne
    split_ifs at hexit with hlast
    · omega
    · exact absurd hexit hne
  · intro hsingle _ _ hzero
    have hlast : h.runtime.com.refs = 1 := by omega
    rw [hexit, if_pos ⟨hlast, hsingle⟩]

theorem step_accounted_iff {h t : Host} {e : HostEvent} (hbal : Balanced h)
    (hstep : h.step e = some t) : Accounted h e t ↔ h.ClosesIdle e := by
  have hrefs := hbal.refs_eq
  have hother (hacc : Accounted h e t) (he : e ≠ .dismissWarning) :
      Accounted h e t ↔ h.ClosesIdle e := iff_of_true hacc fun heq => absurd heq he
  cases step_cases hstep with
  | construct f control =>
      refine hother (.of_eq (by simp [construct]) fun hpos => ?_) (by simp)
      rw [construct_acquired]
      omega
  | count e i c he =>
      refine hother (.of_eq rfl fun hpos => ?_) he
      rw [set_acquired]
      omega
  | destroy i c hi hruntime hlocks hgone =>
      exact hother (accounted_release hbal hruntime hgone) (by simp)
  | lockServer fLock =>
      have hacquired := lockServer_acquired h fLock
      cases fLock with
      | true =>
          refine hother (.of_eq rfl fun hpos => ?_) (by simp)
          rw [hacquired, if_pos rfl]
          omega
      | false => exact hother (accounted_release hbal rfl hacquired) (by simp)
  | tick ms => exact hother (.of_eq rfl fun hpos => Int.ne_of_gt hpos) (by simp)
  | timeout =>
      refine hother ⟨fun hne => ?_, fun _ hother => absurd rfl hother⟩ (by simp)
      have hexit := Runtime.checkForExit_exitEvents { h.runtime with checkForExitTimer := none }
      split_ifs at hexit with hzero
      · exact hrefs.symm.trans hzero.1
      · exact absurd hexit hne
  | dismissWarning hopen =>
      constructor
      · intro hacc _
        exact hacc.quiet_of_exit (by simp)
      · intro hidle
        exact ⟨fun _ => hidle rfl, fun _ _ hpos hzero => absurd hzero (Int.ne_of_gt hpos)⟩
  | processExit => exact hother (.of_eq rfl fun hpos => Int.ne_of_gt hpos) (by simp)

theorem launched_balanced (m sus reg res : Bool) : Balanced (launched m sus reg res) := by
  constructor
  · cases m <;> cases sus <;> cases reg <;> cases res <;> rfl
  · exact Int.le_refl 0

/-- A run in which no lock is given back that is not held, from any constructor: the count is
that of the containers and locks throughout, and its requests are accounted for exactly when
the idle warning is closed with nothing acquired. -/
theorem accounted_iff {m sus reg res : Bool} {trace : List (Host × HostEvent)} {last : Host}
    (hrun : system.Run (launched m sus reg res) trace last)
    (hgives : ∀ v ∈ trace, v.1.GivesBack v.2) :
    ((∀ h ∈ System.visited trace last, h.runtime.com.refs = h.acquired) ∧
      ∀ v ∈ trace, ∀ t, v.1.step v.2 = some t → Accounted v.1 v.2 t) ↔
    ∀ v ∈ trace, v.1.ClosesIdle v.2 := by
  have hbal : ∀ h ∈ System.visited trace last, Balanced h := hrun.forall_visited (C := GivesBack)
    (fun _ _ _ hI hC hstep => step_balanced hI hC hstep) (launched_balanced m sus reg res) hgives
  have hiff : ∀ v ∈ trace, ∀ t, v.1.step v.2 = some t →
      (Accounted v.1 v.2 t ↔ v.1.ClosesIdle v.2) :=
    fun v hv t hstep => step_accounted_iff (hbal v.1 (System.mem_visited hv last)) hstep
  constructor
  · rintro ⟨-, haccounted⟩ v hv
    obtain ⟨t, hstep⟩ := Option.isSome_iff_exists.mp (hrun.step_isSome hv)
    exact (hiff v hv t hstep).mp (haccounted v hv t hstep)
  · intro hidle
    refine ⟨fun h hh => (hbal h hh).refs_eq, fun v hv t hstep => ?_⟩
    exact (hiff v hv t hstep).mpr (hidle v hv)

/-! ## A client that comes while the warning is open -/

/-- Nobody comes for a minute; a client creates an instance while the warning is open. -/
def lateClient (f : HostContainerFactory) (control : Control) : List HostEvent :=
  [.tick 60000, .timeout, .construct f control]

/-- The host with its warning open. -/
def warned : Host where
  runtime := { (launched true true true true).runtime with
    now := 60000
    checkForExitTimer := none }.checkForExit

theorem exec_lateClient (f : HostContainerFactory) (control : Control) :
    system.exec (launched true true true true) (lateClient f control) =
      some (warned.construct f control) := rfl

theorem not_accounted_lateClient :
    ¬ ∀ (m sus reg res : Bool) (trace : List (Host × HostEvent)) (last : Host),
      system.Run (launched m sus reg res) trace last →
        (∀ v ∈ trace, v.1.GivesBack v.2) →
          (∀ h ∈ System.visited trace last, h.runtime.com.refs = h.acquired) ∧
            ∀ v ∈ trace, ∀ t, v.1.step v.2 = some t → Accounted v.1 v.2 t := by
  intro hall
  let f : HostContainerFactory := ⟨0, CLSCTX_INPROC_SERVER⟩
  let control : Control := ⟨false, fun _ => false, []⟩
  obtain ⟨trace, hlabels, hrun⟩ := System.run_of_exec (exec_lateClient f control)
  have hclosed := hrun.append (.cons (a := .dismissWarning) rfl (.nil _))
  have hgives : ∀ v ∈ trace ++ [(warned.construct f control, .dismissWarning)],
      v.1.GivesBack v.2 := by
    intro v hv
    have hlabel : v.2 ∈ lateClient f control ++ [.dismissWarning] := by
      rw [← hlabels]
      simpa using List.mem_map_of_mem (f := Prod.snd) hv
    unfold GivesBack
    split
    · next heq => simp [heq, lateClient] at hlabel
    · trivial
  obtain ⟨-, haccounted⟩ := hall _ _ _ _ _ _ hclosed hgives
  have hquiet := (haccounted (warned.construct f control, .dismissWarning)
    (List.mem_append_right _ (List.mem_singleton_self _)) _ rfl).quiet_of_exit (by decide)
  exact absurd hquiet (by decide)

/-- A client takes a lock and gives it back. -/
theorem accounted_iff_lock :
    ((∀ h ∈ System.visited [(launched false true true true, HostEvent.lockServer true),
          ((launched false true true true).lockServer true, HostEvent.lockServer false)]
          (((launched false true true true).lockServer true).lockServer false),
        h.runtime.com.refs = h.acquired) ∧
      ∀ v ∈ [(launched false true true true, HostEvent.lockServer true),
          ((launched false true true true).lockServer true, HostEvent.lockServer false)],
        ∀ t, v.1.step v.2 = some t → Accounted v.1 v.2 t) ↔
    ∀ v ∈ [(launched false true true true, HostEvent.lockServer true),
          ((launched false true true true).lockServer true, HostEvent.lockServer false)],
      v.1.ClosesIdle v.2 := by
  refine accounted_iff (.cons rfl (.cons rfl (.nil _))) ?_
  have hheld : 0 < ((launched false true true true).lockServer true).locks := by decide
  simpa [GivesBack] using hheld

end Axhost.Host
