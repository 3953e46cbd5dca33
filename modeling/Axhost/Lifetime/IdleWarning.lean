import Axhost.Lib.Transition
import Axhost.Lifetime.Runtime

/-!
# When the idle warning is shown

`CheckForExit` warns that no COM interaction has occurred when `m_acquisitionCount` is zero.
The count is kept by `AddServerReference`, which `RunAsStandalone` overrides and
`RunAsSurrogate` inherits from `HostSurrogateRuntime`, where it does nothing.

* `History.warned_iff`: the warnings of a run tell the truth exactly when each check that could
  show the first one is `Informed`;
* `History.warnings_le_one`: no run shows it twice.
-/

namespace Axhost

open Transition

inductive RuntimeClass
  | runAsSurrogate
  | runAsStandalone
deriving DecidableEq, Repr

namespace RuntimeClass

def addServerReference : RuntimeClass → Runtime → Runtime
  | runAsSurrogate, rt => rt
  | runAsStandalone, rt => rt.addServerReference

def releaseServerReference : RuntimeClass → Runtime → Runtime
  | runAsSurrogate, rt => rt
  | runAsStandalone, rt => rt.releaseServerReference

/-- What the constructors leave; that of `RunAsSurrogate` adds nothing to the timer of its
base. -/
def Constructed : RuntimeClass → Runtime → Prop
  | runAsSurrogate, rt => rt = Runtime.checkForExitLater {}
  | runAsStandalone, rt => ∃ m sus reg res, rt = Runtime.constructed m sus reg res

end RuntimeClass

/-- What calls the runtime: the constructor and the destructor of a container, `LockServer`,
its timer, and the end of its warning. -/
inductive RuntimeEvent
  | construct
  | destroy
  | lockServer (fLock : Bool)
  | checkForExit
  | dismissWarning
deriving DecidableEq, Repr

/-- A runtime, with the containers constructed and locks taken so far and the warnings shown. -/
structure History where
  runtime : Runtime
  acquisitions : Nat := 0
  warnings : Nat := 0
deriving DecidableEq, Repr

namespace History

/-- COM's counter has the value `refs` when the runtime is called. -/
def counting (s : History) (refs : Int) : Runtime :=
  { s.runtime with com := { s.runtime.com with refs := refs } }

/-- The message boxes that `CheckForExit` shows. -/
def shown (s : History) (refs : Int) : Nat :=
  (s.counting refs).checkForExit.messages.length - s.runtime.messages.length

def acquire (cls : RuntimeClass) (s : History) (rt : Runtime) : History :=
  { s with runtime := cls.addServerReference rt, acquisitions := s.acquisitions + 1 }

def step (cls : RuntimeClass) (s : History) : Int × RuntimeEvent → Option History
  | (refs, .construct) => some (s.acquire cls (s.counting refs))
  | (refs, .destroy) => some { s with runtime := cls.releaseServerReference (s.counting refs) }
  | (refs, .lockServer true) => some (s.acquire cls (s.counting refs))
  | (refs, .lockServer false) =>
    some { s with runtime := cls.releaseServerReference (s.counting refs) }
  | (refs, .checkForExit) =>
    some { s with
      runtime := (s.counting refs).checkForExit
      warnings := s.warnings + s.shown refs }
  | (refs, .dismissWarning) =>
    if s.runtime.warningOpen then some { s with runtime := (s.counting refs).dismissWarning }
    else none

def system (cls : RuntimeClass) : System History (Int × RuntimeEvent) where
  init s := cls.Constructed s.runtime ∧ s.acquisitions = 0 ∧ s.warnings = 0
  step := step cls

/-- The step shows the warning. -/
def Warns (s : History) (a : Int × RuntimeEvent) : Prop := a.2 = .checkForExit ∧ s.shown a.1 ≠ 0

/-- A check that finds the count at zero, with no warning shown before, comes before anything
was acquired or knows of what was. -/
def Informed (cls : RuntimeClass) (s : History) (a : Int × RuntimeEvent) : Prop :=
  a = (0, .checkForExit) → s.warnings = 0 →
    s.acquisitions = 0 ∨ cls = .runAsStandalone ∧ s.acquisitions % 2 ^ 32 ≠ 0

instance (cls : RuntimeClass) (s : History) (a : Int × RuntimeEvent) :
    Decidable (s.Informed cls a) :=
  inferInstanceAs (Decidable (_ → _ → _))

/-- `m_acquisitionCount` and `m_warnedIdle` record what they are there for, the first of them
in one class only. -/
structure Recorded (cls : RuntimeClass) (s : History) : Prop where
  acquisitionCount : s.runtime.acquisitionCount =
    if cls = .runAsStandalone then BitVec.ofNat 32 s.acquisitions else 0
  warnedIdle : s.runtime.warnedIdle = decide (s.warnings ≠ 0)
  warnings_le : s.warnings ≤ 1

theorem checkForExit_acquisitionCount (rt : Runtime) :
    rt.checkForExit.acquisitionCount = rt.acquisitionCount := by
  unfold Runtime.checkForExit
  dsimp only [ServerProcess.coAddRefServerProcess, ServerProcess.coReleaseServerProcess]
  split_ifs <;> rfl

theorem checkForExit_warnedIdle (rt : Runtime) :
    rt.checkForExit.warnedIdle = (rt.warnedIdle || decide (rt.com.refs = 0 ∧ rt.idle)) := by
  unfold Runtime.checkForExit
  dsimp only [ServerProcess.coAddRefServerProcess, ServerProcess.coReleaseServerProcess]
  rw [Int.add_sub_cancel]
  unfold Runtime.idle
  split_ifs <;> simp_all [Runtime.exitApplicationLater, Runtime.checkForExitLater]

theorem checkForExit_messages (rt : Runtime) :
    rt.checkForExit.messages = rt.messages ++
      if rt.com.refs = 0 ∧ rt.idle then [Runtime.timedOut rt.checkForExitTimeout] else [] := by
  unfold Runtime.checkForExit
  dsimp only [ServerProcess.coAddRefServerProcess, ServerProcess.coReleaseServerProcess]
  rw [Int.add_sub_cancel]
  unfold Runtime.idle
  split_ifs <;> simp_all [Runtime.exitApplicationLater, Runtime.checkForExitLater]

theorem shown_eq (s : History) (refs : Int) :
    s.shown refs = if refs = 0 ∧ s.runtime.idle then 1 else 0 := by
  unfold shown
  rw [checkForExit_messages]
  have hcounting : (s.counting refs).com.refs = 0 ∧ (s.counting refs).idle ↔
      refs = 0 ∧ s.runtime.idle := Iff.rfl
  have hmessages : (s.counting refs).messages = s.runtime.messages := rfl
  rw [List.length_append, hmessages, Nat.add_sub_cancel_left]
  by_cases hshown : refs = 0 ∧ s.runtime.idle
  · rw [if_pos (hcounting.mpr hshown), if_pos hshown]
    rfl
  · rw [if_neg (mt hcounting.mp hshown), if_neg hshown]
    rfl

/-- The warning is due when nothing was recorded and it has not been shown. -/
theorem Recorded.idle_iff {cls : RuntimeClass} {s : History} (hrec : Recorded cls s) :
    s.runtime.idle ↔
      s.warnings = 0 ∧ (cls = .runAsStandalone → s.acquisitions % 2 ^ 32 = 0) := by
  unfold Runtime.idle
  rw [hrec.acquisitionCount, hrec.warnedIdle]
  have hzero : BitVec.ofNat 32 s.acquisitions = 0#32 ↔ s.acquisitions % 2 ^ 32 = 0 := by
    rw [← BitVec.toNat_inj, BitVec.toNat_ofNat]
    rfl
  cases cls with
  | runAsSurrogate => simp
  | runAsStandalone =>
      simp only [if_true, hzero, forall_const, ne_eq, decide_eq_false_iff_not, not_not]
      exact And.comm

theorem warns_iff {cls : RuntimeClass} {s : History} (hrec : Recorded cls s)
    (a : Int × RuntimeEvent) : (s.Warns a → s.acquisitions = 0) ↔ s.Informed cls a := by
  obtain ⟨refs, e⟩ := a
  have hwarns : s.Warns (refs, e) ↔ (refs, e) = (0, RuntimeEvent.checkForExit) ∧
      s.warnings = 0 ∧ (cls = .runAsStandalone → s.acquisitions % 2 ^ 32 = 0) := by
    rw [← hrec.idle_iff]
    unfold Warns
    dsimp only
    rw [shown_eq, Prod.mk.injEq]
    by_cases hzero : refs = 0 ∧ s.runtime.idle
    · simp [hzero]
    · rw [if_neg hzero]
      tauto
  rw [hwarns]
  unfold Informed
  tauto

theorem acquire_recorded {cls : RuntimeClass} {s : History} (hrec : Recorded cls s) (refs : Int) :
    Recorded cls (s.acquire cls (s.counting refs)) := by
  obtain ⟨hcount, hwarned, hle⟩ := hrec
  cases cls with
  | runAsSurrogate => exact ⟨hcount, hwarned, hle⟩
  | runAsStandalone =>
      refine ⟨?_, hwarned, hle⟩
      have hsum : s.runtime.acquisitionCount + 1 = BitVec.ofNat 32 (s.acquisitions + 1) := by
        rw [hcount, if_pos rfl, BitVec.ofNat_add]
        rfl
      exact hsum

theorem releaseServerReference_recorded {cls : RuntimeClass} {s : History}
    (hrec : Recorded cls s) (refs : Int) :
    Recorded cls { s with runtime := cls.releaseServerReference (s.counting refs) } := by
  obtain ⟨hcount, hwarned, hle⟩ := hrec
  cases cls with
  | runAsSurrogate => exact ⟨hcount, hwarned, hle⟩
  | runAsStandalone =>
      have hkept (rt : Runtime) : rt.releaseServerReference.acquisitionCount =
          rt.acquisitionCount ∧ rt.releaseServerReference.warnedIdle = rt.warnedIdle := by
        unfold Runtime.releaseServerReference
        dsimp only [ServerProcess.coReleaseServerProcess]
        split_ifs <;> exact ⟨rfl, rfl⟩
      exact ⟨(hkept _).1.trans hcount, (hkept _).2.trans hwarned, hle⟩

theorem step_recorded {cls : RuntimeClass} {s t : History} {a : Int × RuntimeEvent}
    (hrec : Recorded cls s) (hstep : step cls s a = some t) : Recorded cls t := by
  obtain ⟨refs, e⟩ := a
  cases e with
  | construct =>
      obtain rfl := Option.some.inj hstep
      exact acquire_recorded hrec refs
  | destroy =>
      obtain rfl := Option.some.inj hstep
      exact releaseServerReference_recorded hrec refs
  | lockServer fLock =>
      cases fLock with
      | true =>
          obtain rfl := Option.some.inj hstep
          exact acquire_recorded hrec refs
      | false =>
          obtain rfl := Option.some.inj hstep
          exact releaseServerReference_recorded hrec refs
  | checkForExit =>
      obtain rfl := Option.some.inj hstep
      have hidle : s.runtime.idle → s.warnings = 0 := fun h => (hrec.idle_iff.mp h).1
      have hle := hrec.warnings_le
      refine ⟨(checkForExit_acquisitionCount _).trans hrec.acquisitionCount, ?_, ?_⟩
      · dsimp only
        rw [checkForExit_warnedIdle, shown_eq]
        have hbefore : (s.counting refs).warnedIdle = decide (s.warnings ≠ 0) := hrec.warnedIdle
        have hdue : ((s.counting refs).com.refs = 0 ∧ (s.counting refs).idle) =
            (refs = 0 ∧ s.runtime.idle) := rfl
        simp only [hbefore, hdue]
        split_ifs with hshown <;> simp [hshown]
      · dsimp only
        rw [shown_eq]
        split_ifs with hshown
        · have hnone := hidle hshown.2
          omega
        · exact hle
  | dismissWarning =>
      simp only [step, Option.ite_none_right_eq_some] at hstep
      obtain rfl := Option.some.inj hstep.2
      exact ⟨hrec.acquisitionCount, hrec.warnedIdle, hrec.warnings_le⟩

theorem init_recorded {cls : RuntimeClass} {s : History} (hinit : (system cls).init s) :
    Recorded cls s := by
  obtain ⟨hconstructed, hacquisitions, hwarnings⟩ := hinit
  have hfresh : s.runtime.acquisitionCount = 0 ∧ s.runtime.warnedIdle = false := by
    cases cls with
    | runAsSurrogate =>
        rw [show s.runtime = Runtime.checkForExitLater {} from hconstructed]
        exact ⟨rfl, rfl⟩
    | runAsStandalone =>
        obtain ⟨m, sus, reg, res, hrt⟩ := hconstructed
        rw [hrt]
        cases m <;> cases sus <;> cases reg <;> cases res <;> exact ⟨rfl, rfl⟩
  refine ⟨?_, ?_, by omega⟩
  · rw [hfresh.1, hacquisitions]
    split_ifs <;> rfl
  · rw [hfresh.2, hwarnings]
    rfl

theorem visited_recorded {cls : RuntimeClass} {s last : History}
    {trace : List (History × (Int × RuntimeEvent))} (hinit : (system cls).init s)
    (hrun : (system cls).Run s trace last) :
    ∀ x ∈ System.visited trace last, Recorded cls x :=
  hrun.forall_visited (C := fun _ _ => True) (fun _ _ _ hI _ hstep => step_recorded hI hstep)
    (init_recorded hinit) fun _ _ => trivial

theorem warnings_le_one {cls : RuntimeClass} {s last : History}
    {trace : List (History × (Int × RuntimeEvent))} (hinit : (system cls).init s)
    (hrun : (system cls).Run s trace last) : last.warnings ≤ 1 :=
  (visited_recorded hinit hrun last
    (List.mem_append_right _ (List.mem_singleton_self _))).warnings_le

/-- In a run of either class the warning comes only before the first container and the first
lock, and at most once, exactly when every check is informed. -/
theorem warned_iff {cls : RuntimeClass} {s last : History}
    {trace : List (History × (Int × RuntimeEvent))} (hinit : (system cls).init s)
    (hrun : (system cls).Run s trace last) :
    ((∀ v ∈ trace, v.1.Warns v.2 → v.1.acquisitions = 0) ∧ last.warnings ≤ 1) ↔
      ∀ v ∈ trace, v.1.Informed cls v.2 := by
  have hiff : ∀ v ∈ trace, (v.1.Warns v.2 → v.1.acquisitions = 0) ↔ v.1.Informed cls v.2 :=
    fun v hv => warns_iff (visited_recorded hinit hrun v.1 (System.mem_visited hv last)) v.2
  constructor
  · rintro ⟨hwarned, -⟩ v hv
    exact (hiff v hv).mp (hwarned v hv)
  · intro hinformed
    exact ⟨fun v hv => (hiff v hv).mpr (hinformed v hv), warnings_le_one hinit hrun⟩

/-! ## A surrogate with a client -/

def surrogate : History where
  runtime := Runtime.checkForExitLater {}

theorem surrogate_init : (system .runAsSurrogate).init surrogate := ⟨rfl, rfl, rfl⟩

/-- A client has had a container of a surrogate for a minute: it is told that no interaction
has occurred. -/
theorem not_warned_surrogate :
    ¬ ∀ (cls : RuntimeClass) (s last : History) (trace : List (History × (Int × RuntimeEvent))),
      (system cls).init s → (system cls).Run s trace last →
        (∀ v ∈ trace, v.1.Warns v.2 → v.1.acquisitions = 0) ∧ last.warnings ≤ 1 := by
  intro hall
  have hrun : (system .runAsSurrogate).Run surrogate
      [(surrogate, (0, .construct)),
        (surrogate.acquire .runAsSurrogate (surrogate.counting 0), (0, .checkForExit))] _ :=
    .cons rfl (.cons rfl (.nil _))
  obtain ⟨hwarned, -⟩ := hall .runAsSurrogate _ _ _ surrogate_init hrun
  have hnone := hwarned (surrogate.acquire .runAsSurrogate (surrogate.counting 0),
    (0, .checkForExit)) (by simp) ⟨rfl, by decide⟩
  exact absurd hnone (by decide)

/-- Nobody comes to a standalone host for a minute; then a client does, and goes again. -/
theorem warned_iff_late : ∃ s trace last,
    (system .runAsStandalone).init s ∧ (system .runAsStandalone).Run s trace last ∧
      trace.map Prod.snd = [(0, .checkForExit), (0, .construct), (0, .dismissWarning),
        (1, .destroy), (0, .checkForExit)] ∧ last.warnings = 1 ∧
      ((∀ v ∈ trace, v.1.Warns v.2 → v.1.acquisitions = 0) ∧ last.warnings ≤ 1) := by
  have hinit : (system .runAsStandalone).init
      { runtime := Runtime.constructed true true true true } :=
    ⟨⟨true, true, true, true, rfl⟩, rfl, rfl⟩
  have hrun : (system .runAsStandalone).Run
      { runtime := Runtime.constructed true true true true }
      [(_, (0, .checkForExit)), (_, (0, .construct)), (_, (0, .dismissWarning)),
        (_, (1, .destroy)), (_, (0, .checkForExit))] _ :=
    .cons rfl (.cons rfl (.cons rfl (.cons rfl (.cons rfl (.nil _)))))
  exact ⟨_, _, _, hinit, hrun, rfl, by decide, (warned_iff hinit hrun).mpr (by decide)⟩

end History

end Axhost
