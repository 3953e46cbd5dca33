import Axhost.Lib.Transition
import Axhost.Lifetime.Container

/-!
# A standalone host and its pending exits

The clients of a host call factories they already hold, take and give up references to
containers, and lock the server; the exit timer fires; and the exits that were asked for
are processed some time later.  `CreateInstance` is taken apart into its steps, so that
whatever its message box dispatches can fall between them.

The zero test and the exit are far apart: what is created after the test is lost.
`processExit_quiet` states when nothing is.
-/

namespace Axhost

open Transition

/-- A host with its live containers and the locks that are taken and not given back. -/
structure Host where
  runtime : Runtime
  containers : List HostContainer := []
  locks : Int := 0
  exited : Bool := false

/-- Containers are named by their place in the list. -/
inductive HostEvent
  | construct (f : HostContainerFactory) (control : Control)
  | queryInterface (i : Nat) (riid : IID) (ppv : Bool)
  | addRef (i : Nat)
  | release (i : Nat)
  | lockServer (fLock : Bool)
  | tick (ms : Nat)
  | timeout
  | dismissWarning
  | processExit

namespace Runtime

/-- An exit is queued, or will be when the warning is closed. -/
def pending (rt : Runtime) : Prop := rt.exitEvents ≠ 0 ∨ rt.warningOpen = true

instance (rt : Runtime) : Decidable rt.pending := inferInstanceAs (Decidable (_ ∨ _))

theorem releaseServerReference_pending (rt : Runtime) :
    rt.releaseServerReference.pending ↔
      rt.pending ∨ rt.com.refs = 1 ∧ rt.hasMultipleUse = false := by
  unfold pending
  rw [releaseServerReference_exitEvents, releaseServerReference_warningOpen]
  split_ifs with hlast <;> simp [hlast]

theorem checkForExit_pending (rt : Runtime) :
    rt.checkForExit.pending ↔ rt.pending ∨ rt.com.refs = 0 := by
  unfold pending
  rw [checkForExit_exitEvents, checkForExit_warningOpen]
  by_cases hzero : rt.com.refs = 0 <;> by_cases hidle : rt.idle <;> simp [hzero, hidle]

end Runtime

namespace Host

/-- `new HostContainer` in `CreateInstance`, with the reference of its `CComPtr`. -/
def construct (h : Host) (f : HostContainerFactory) (control : Control) : Host :=
  let (c, rt) := HostContainer.new f.classId f.classContext control h.runtime
  { h with runtime := rt, containers := h.containers ++ [c.addRef] }

def release (h : Host) (i : Nat) (c : HostContainer) : Host :=
  match c.release h.runtime with
  | (some c, rt) => { h with runtime := rt, containers := h.containers.set i c }
  | (none, rt) => { h with runtime := rt, containers := h.containers.eraseIdx i }

def lockServer (h : Host) (fLock : Bool) : Host :=
  { h with
    runtime := HostContainerFactory.lockServer fLock h.runtime
    locks := if fLock then h.locks + 1 else h.locks - 1 }

/-- Nothing runs any more once an exit has been processed. -/
def step (h : Host) (e : HostEvent) : Option Host :=
  if h.exited then none
  else match e with
    | .construct f control => some (h.construct f control)
    | .queryInterface i riid ppv => h.containers[i]?.map fun c =>
      { h with containers := h.containers.set i (c.queryInterface riid ppv).2.2 }
    | .addRef i => h.containers[i]?.map fun c =>
      { h with containers := h.containers.set i c.addRef }
    | .release i => h.containers[i]?.map fun c => h.release i c
    | .lockServer fLock => some (h.lockServer fLock)
    | .tick ms => some { h with runtime := { h.runtime with now := h.runtime.now + ms } }
    | .timeout => h.runtime.timeout.map fun rt => { h with runtime := rt }
    | .dismissWarning =>
      if h.runtime.warningOpen then some { h with runtime := h.runtime.dismissWarning }
      else none
    | .processExit => if h.runtime.exitEvents = 0 then none else some { h with exited := true }

/-- The host after a constructor that registered a class. -/
def start (hasMultipleUse suspendSucceeded resumeSucceeded : Bool) : Host where
  runtime := Runtime.constructed hasMultipleUse suspendSucceeded true resumeSucceeded

def system : System Host HostEvent where
  init h := ∃ m sus res, h = start m sus res
  step := step

/-- No container is alive and no lock is outstanding. -/
def Quiet (h : Host) : Prop := h.containers = [] ∧ h.locks ≤ 0

def Pending (h : Host) : Prop := h.runtime.pending

instance (h : Host) : Decidable h.Pending := inferInstanceAs (Decidable h.runtime.pending)

/-- Nothing is acquired while an exit is pending, and no lock is given back that is not
held. -/
def Orderly (h : Host) : HostEvent → Prop
  | .construct _ _ => ¬ h.Pending
  | .lockServer true => ¬ h.Pending
  | .lockServer false => 0 < h.locks
  | _ => True

/-- The containers that are alive and the locks that are outstanding. -/
def acquired (h : Host) : Int := h.containers.length + h.locks

/-- A lock is given back only while one is held. -/
def GivesBack (h : Host) : HostEvent → Prop
  | .lockServer false => 0 < h.locks
  | _ => True

/-- COM's count is that of the containers and locks. -/
structure Balanced (h : Host) : Prop where
  refs_eq : h.runtime.com.refs = h.acquired
  locks_nonneg : 0 ≤ h.locks

theorem construct_acquired (h : Host) (f : HostContainerFactory) (control : Control) :
    (h.construct f control).acquired = h.acquired + 1 := by
  simp only [acquired, construct, List.length_append, List.length_singleton]
  omega

theorem lockServer_acquired (h : Host) (fLock : Bool) :
    (h.lockServer fLock).acquired = if fLock then h.acquired + 1 else h.acquired - 1 := by
  cases fLock with
  | false =>
      simp only [acquired, lockServer, Bool.false_eq_true, if_false]
      omega
  | true =>
      simp only [acquired, lockServer, if_true]
      omega

/-- A release takes a reference off the container, or the container out of the host. -/
theorem release_cases {h : Host} {i : Nat} {c : HostContainer} (hc : h.containers[i]? = some c) :
    (∃ c', h.release i c = { h with containers := h.containers.set i c' }) ∨
    (h.release i c).runtime = h.runtime.releaseServerReference ∧
      (h.release i c).locks = h.locks ∧ (h.release i c).acquired = h.acquired - 1 := by
  obtain ⟨hi, -⟩ := List.getElem?_eq_some_iff.mp hc
  unfold release
  by_cases hone : c.ref = 1
  · rw [HostContainer.release_of_one hone]
    refine Or.inr ⟨rfl, rfl, ?_⟩
    simp only [acquired]
    rw [List.length_eraseIdx_of_lt hi]
    omega
  · rw [HostContainer.release_of_ne_one hone]
    exact Or.inl ⟨_, rfl⟩

theorem set_acquired (h : Host) (i : Nat) (c : HostContainer) :
    { h with containers := h.containers.set i c }.acquired = h.acquired := by
  simp [acquired]

/-- What a step comes to.  A call to a container changes the container's count, or takes the
container out of the host. -/
inductive Change (h : Host) : HostEvent → Host → Prop
  | construct (f : HostContainerFactory) (control : Control) :
      Change h (.construct f control) (h.construct f control)
  | count (e : HostEvent) (i : Nat) (c : HostContainer) (he : e ≠ .dismissWarning) :
      Change h e { h with containers := h.containers.set i c }
  | destroy (i : Nat) (c : HostContainer) (hi : i < h.containers.length)
      (hruntime : (h.release i c).runtime = h.runtime.releaseServerReference)
      (hlocks : (h.release i c).locks = h.locks)
      (hgone : (h.release i c).acquired = h.acquired - 1) :
      Change h (.release i) (h.release i c)
  | lockServer (fLock : Bool) : Change h (.lockServer fLock) (h.lockServer fLock)
  | tick (ms : Nat) :
      Change h (.tick ms) { h with runtime := { h.runtime with now := h.runtime.now + ms } }
  | timeout : Change h .timeout
      { h with runtime := { h.runtime with checkForExitTimer := none }.checkForExit }
  | dismissWarning (hopen : h.runtime.warningOpen = true) :
      Change h .dismissWarning { h with runtime := h.runtime.dismissWarning }
  | processExit : Change h .processExit { h with exited := true }

theorem step_cases {h t : Host} {e : HostEvent} (hstep : h.step e = some t) : Change h e t := by
  unfold step at hstep
  rw [Option.ite_none_left_eq_some] at hstep
  obtain ⟨-, hstep⟩ := hstep
  cases e with
  | construct f control =>
      obtain rfl := Option.some.inj hstep
      exact .construct f control
  | queryInterface i riid ppv =>
      obtain ⟨c, -, rfl⟩ := Option.map_eq_some_iff.mp hstep
      exact .count _ i _ (by simp)
  | addRef i =>
      obtain ⟨c, -, rfl⟩ := Option.map_eq_some_iff.mp hstep
      exact .count _ i _ (by simp)
  | release i =>
      obtain ⟨c, hc, rfl⟩ := Option.map_eq_some_iff.mp hstep
      obtain ⟨hi, -⟩ := List.getElem?_eq_some_iff.mp hc
      rcases release_cases hc with ⟨c', hkept⟩ | ⟨hruntime, hlocks, hgone⟩
      · rw [hkept]
        exact .count _ i c' (by simp)
      · exact .destroy i c hi hruntime hlocks hgone
  | lockServer fLock =>
      obtain rfl := Option.some.inj hstep
      exact .lockServer fLock
  | tick ms =>
      obtain rfl := Option.some.inj hstep
      exact .tick ms
  | timeout =>
      obtain ⟨rt, htimeout, rfl⟩ := Option.map_eq_some_iff.mp hstep
      obtain ⟨due, -, -, rfl⟩ := Runtime.timeout_eq_some htimeout
      exact .timeout
  | dismissWarning =>
      simp only [Option.ite_none_right_eq_some] at hstep
      obtain ⟨hopen, hstep⟩ := hstep
      obtain rfl := Option.some.inj hstep
      exact .dismissWarning hopen
  | processExit =>
      simp only [Option.ite_none_left_eq_some] at hstep
      obtain rfl := Option.some.inj hstep.2
      exact .processExit

theorem step_balanced {h t : Host} {e : HostEvent} (hbal : Balanced h) (hgives : h.GivesBack e)
    (hstep : h.step e = some t) : Balanced t := by
  have hrefs := hbal.refs_eq
  have hlocks := hbal.locks_nonneg
  cases step_cases hstep with
  | construct f control =>
      refine ⟨?_, hlocks⟩
      rw [construct_acquired, ← hrefs]
      simp [construct]
  | count e i c => exact ⟨hrefs.trans (set_acquired h i c).symm, hlocks⟩
  | destroy i c hi hruntime hsame hgone =>
      refine ⟨?_, hsame ▸ hlocks⟩
      rw [hruntime, hgone, Runtime.releaseServerReference_refs, hrefs]
  | lockServer fLock =>
      cases fLock with
      | true =>
          refine ⟨?_, ?_⟩
          · rw [lockServer_acquired, if_pos rfl, ← hrefs]
            simp [lockServer, HostContainerFactory.lockServer]
          · simp only [lockServer, if_true]
            omega
      | false =>
          have hheld : 0 < h.locks := hgives
          refine ⟨?_, ?_⟩
          · rw [lockServer_acquired, if_neg (by decide), ← hrefs]
            simp [lockServer, HostContainerFactory.lockServer]
          · simp only [lockServer, Bool.false_eq_true, if_false]
            omega
  | tick ms => exact ⟨hrefs, hlocks⟩
  | timeout =>
      refine ⟨?_, hlocks⟩
      rw [Runtime.checkForExit_refs]
      exact hrefs
  | dismissWarning hopen => exact ⟨hrefs, hlocks⟩
  | processExit => exact ⟨hrefs, hlocks⟩

/-- COM's count is that of the containers and locks, and it is zero while an exit is
pending. -/
structure Inv (h : Host) : Prop where
  refs_eq : h.runtime.com.refs = h.containers.length + h.locks
  locks_nonneg : 0 ≤ h.locks
  refs_of_pending : h.Pending → h.runtime.com.refs = 0

theorem Inv.balanced {h : Host} (hinv : Inv h) : Balanced h := ⟨hinv.refs_eq, hinv.locks_nonneg⟩

theorem Inv.quiet {h : Host} (hinv : Inv h) (hpending : h.Pending) : h.Quiet := by
  have hrefs := hinv.refs_eq
  have hzero := hinv.refs_of_pending hpending
  have hlocks := hinv.locks_nonneg
  constructor
  · apply List.eq_nil_of_length_eq_zero
    omega
  · omega

theorem start_inv (m sus res : Bool) : Inv (start m sus res) := by
  constructor
  · cases m <;> cases sus <;> cases res <;> rfl
  · exact Int.le_refl 0
  · intro hpending
    have hnone : ¬ (start m sus res).Pending := by
      cases m <;> cases sus <;> cases res <;> decide
    exact absurd hpending hnone

theorem Orderly.givesBack {h : Host} {e : HostEvent} (horderly : h.Orderly e) : h.GivesBack e := by
  cases e with
  | lockServer fLock =>
      cases fLock with
      | true => trivial
      | false => exact horderly
  | _ => trivial

theorem releaseServerReference_refs_of_pending {h : Host} (hinv : Inv h) (hheld : 0 < h.acquired)
    (hpending : h.runtime.releaseServerReference.pending) :
    h.runtime.releaseServerReference.com.refs = 0 := by
  have hrefs : h.runtime.com.refs = h.acquired := hinv.balanced.refs_eq
  rw [Runtime.releaseServerReference_refs]
  rcases (Runtime.releaseServerReference_pending h.runtime).mp hpending with hbefore | hlast
  · -- there was something to release, so no exit was pending
    have hzero := hinv.refs_of_pending hbefore
    omega
  · omega

theorem step_inv {h t : Host} {e : HostEvent} (hinv : Inv h) (horderly : h.Orderly e)
    (hstep : h.step e = some t) : Inv t := by
  have hbal := step_balanced hinv.balanced horderly.givesBack hstep
  refine ⟨hbal.refs_eq, hbal.locks_nonneg, fun hpending => ?_⟩
  cases step_cases hstep with
  | construct f control =>
      refine absurd ?_ horderly
      unfold Pending Runtime.pending at hpending ⊢
      simpa [construct] using hpending
  | count e i c => exact hinv.refs_of_pending hpending
  | destroy i c hi hruntime =>
      have hheld : 0 < h.acquired := by
        have hlocks := hinv.locks_nonneg
        unfold acquired
        omega
      unfold Pending at hpending
      rw [hruntime] at hpending ⊢
      exact releaseServerReference_refs_of_pending hinv hheld hpending
  | lockServer fLock =>
      cases fLock with
      | true => exact absurd hpending horderly
      | false =>
          have hheld : 0 < h.acquired := by
            have hlock : 0 < h.locks := horderly
            unfold acquired
            omega
          exact releaseServerReference_refs_of_pending hinv hheld hpending
  | tick ms => exact hinv.refs_of_pending hpending
  | timeout =>
      rw [Runtime.checkForExit_refs]
      rcases (Runtime.checkForExit_pending _).mp hpending with hbefore | hzero
      · exact hinv.refs_of_pending hbefore
      · exact hzero
  | dismissWarning hopen => exact hinv.refs_of_pending (Or.inr hopen)
  | processExit => exact hinv.refs_of_pending hpending

theorem pending_of_processExit {h : Host} (hstep : (h.step .processExit).isSome) :
    h.Pending := by
  unfold step at hstep
  by_cases hzero : h.runtime.exitEvents = 0
  · simp [hzero] at hstep
  · exact Or.inl hzero

/-- In a run that acquires nothing while an exit is pending, and gives no lock back twice,
every exit is processed in a state without containers and locks. -/
theorem processExit_quiet {m sus res : Bool} {trace : List (Host × HostEvent)} {last : Host}
    (hrun : system.Run (start m sus res) trace last)
    (horderly : ∀ v ∈ trace, v.1.Orderly v.2) :
    ∀ v ∈ trace, v.2 = .processExit → v.1.Quiet := by
  intro v hv hexit
  have hinv : Inv v.1 := hrun.forall_visited (C := Orderly)
    (fun _ _ _ hI hC hstep => step_inv hI hC hstep) (start_inv m sus res) horderly v.1
    (System.mem_visited hv last)
  have hstep := hrun.step_isSome hv
  rw [hexit] at hstep
  exact hinv.quiet (pending_of_processExit hstep)

/-! ## What is acquired in the gap is lost -/

theorem exists_processExit {h : Host} (hpending : h.Pending) (hexited : h.exited = false) :
    ∃ labels t, system.exec h labels = some t ∧ (t.step .processExit).isSome ∧
      t.containers = h.containers ∧ t.locks = h.locks := by
  by_cases hqueued : h.runtime.exitEvents = 0
  · have hopen : h.runtime.warningOpen = true := hpending.resolve_left (by simp [hqueued])
    refine ⟨[.dismissWarning], { h with runtime := h.runtime.dismissWarning }, ?_, ?_, rfl, rfl⟩
    · simp [System.exec, system, step, hexited, hopen]
    · simp [step, hexited]
  · refine ⟨[], h, rfl, ?_, rfl, rfl⟩
    simp [step, hexited, hqueued]

theorem construct_pending_lost {h : Host} (hpending : h.Pending) (hexited : h.exited = false)
    (f : HostContainerFactory) (control : Control) :
    ∃ labels t, system.exec (h.construct f control) labels = some t ∧
      (t.step .processExit).isSome ∧ ¬ t.Quiet := by
  have hpending' : (h.construct f control).Pending := by
    unfold Pending Runtime.pending at hpending ⊢
    simpa [construct] using hpending
  obtain ⟨labels, t, hexec, hexit, hcontainers, -⟩ := exists_processExit hpending' hexited
  refine ⟨labels, t, hexec, hexit, fun hquiet => ?_⟩
  have hnil : (h.construct f control).containers = [] := hcontainers.symm.trans hquiet.1
  simp [construct] at hnil

theorem lockServer_pending_lost {h : Host} (hinv : Inv h) (hpending : h.Pending)
    (hexited : h.exited = false) :
    ∃ labels t, system.exec (h.lockServer true) labels = some t ∧
      (t.step .processExit).isSome ∧ ¬ t.Quiet := by
  have hpending' : (h.lockServer true).Pending := hpending
  obtain ⟨labels, t, hexec, hexit, -, hlocks⟩ := exists_processExit hpending' hexited
  refine ⟨labels, t, hexec, hexit, fun hquiet => ?_⟩
  have htaken : t.locks = h.locks + 1 := hlocks
  have hle := hquiet.2
  have hnonneg := hinv.locks_nonneg
  omega

/-! ## `CreateInstance` is its steps -/

theorem createInstance_exec {h : Host} (hexited : h.exited = false) (f : HostContainerFactory)
    {control : Control} (hnull : control.isNull = false) (riid : IID) :
    system.exec h [.construct f control, .queryInterface h.containers.length riid true,
        .release h.containers.length] =
      some { h with
        runtime := (f.createInstance control false riid true h.runtime).2.2.2
        containers := h.containers ++
          (f.createInstance control false riid true h.runtime).2.2.1.toList } := by
  set c := (HostContainer.new f.classId f.classContext control h.runtime).1.addRef with hc
  set rt := (HostContainer.new f.classId f.classContext control h.runtime).2 with hrt
  have hcreate : (f.createInstance control false riid true h.runtime).2.2 =
      (c.queryInterface riid true).2.2.release rt := by
    simp [HostContainerFactory.createInstance, HostContainer.isInitialized, hnull, hc, hrt]
  have hconstruct : h.construct f control =
      { h with runtime := rt, containers := h.containers ++ [c] } := rfl
  rw [hcreate]
  simp only [System.exec, system, step, hexited, hconstruct, release]
  rcases hrelease : (c.queryInterface riid true).2.2.release rt with ⟨_ | c', rt'⟩
  · simp [hrelease, List.eraseIdx_append_of_length_le]
  · simp [hrelease]

theorem createInstance_isNull_exec {h : Host} (hexited : h.exited = false)
    (f : HostContainerFactory) {control : Control} (hnull : control.isNull = true) (riid : IID) :
    system.exec h [.construct f control, .release h.containers.length] =
      some { h with
        runtime := (f.createInstance control false riid true h.runtime).2.2.2 } := by
  rw [f.createInstance_isNull h.runtime hnull]
  have hrelease := HostContainer.release_of_one
    (c := (HostContainer.new f.classId f.classContext control h.runtime).1.addRef) (by simp)
  simp [System.exec, system, step, hexited, construct, release, hrelease,
    List.eraseIdx_append_of_length_le]

/-! ## An activation in the gap -/

/-- A client's only container goes, the exit is queued, and another client's call comes in
before it is processed. -/
def activation (f : HostContainerFactory) (control : Control) : List HostEvent :=
  [.construct f control, .release 0, .construct f control]

theorem not_quiet_activation :
    ¬ ∀ (m sus res : Bool) (trace : List (Host × HostEvent)) (last : Host),
      system.Run (start m sus res) trace last →
        ∀ v ∈ trace, v.2 = .processExit → v.1.Quiet := by
  intro hall
  obtain ⟨trace, -, hrun⟩ := System.run_of_exec (rfl : system.exec (start false true true)
    (activation ⟨0, CLSCTX_INPROC_SERVER⟩ ⟨false, fun _ => false, []⟩) = some _)
  have hexit := hrun.append (.cons (a := .processExit) rfl (.nil _))
  have hquiet := hall _ _ _ _ _ hexit _
    (List.mem_append_right _ (List.mem_singleton_self _)) rfl
  exact absurd hquiet.1 (List.append_ne_nil_of_right_ne_nil _ (List.cons_ne_nil _ _))

/-- A client takes a lock and gives it back, and the exit is processed. -/
theorem processExit_quiet_lock :
    (((start false true true).lockServer true).lockServer false).Quiet := by
  have hrun : system.Run (start false true true)
      [(start false true true, .lockServer true),
        ((start false true true).lockServer true, .lockServer false),
        (((start false true true).lockServer true).lockServer false, .processExit)] _ :=
    .cons rfl (.cons rfl (.cons rfl (.nil _)))
  refine processExit_quiet hrun ?_ (((start false true true).lockServer true).lockServer false,
    .processExit) (by simp) rfl
  have hfree : ¬ (start false true true).Pending := by decide
  have hheld : 0 < ((start false true true).lockServer true).locks := by decide
  simpa [Orderly] using ⟨hfree, hheld⟩

end Host

end Axhost
