import Axhost.Lib.Transition
import Axhost.Lifetime.Runtime

/-!
# How long the host waits

A standalone host in multiple-use mode, with the time of every call.  The exit timer is started
by the constructor, by the release of the last reference, and by a check that finds one; it
fires at its time.  `main` reads `--timeout` and does not hand it to the runtime, which waits
for its own interval.

* `Timed.waits`: the invariant that ties the timer to the time since when the count is zero;
* `Timed.patient_iff`: when the exits of a run come no sooner than the option says;
* `Timed.not_patient_oneClient`: a host with a timeout of two minutes leaves after one.
-/

namespace Axhost

open Transition

/-- What `main` reads of a command line for a standalone host. -/
structure ParsedResult where
  specs : List ClassSpec := []
  timeout : Nat := 60000
  regcls : DWORD := 0
deriving DecidableEq, Repr

/-- The runtime that `main` makes, `new RunAsStandalone(parsed.specs, parsed.readyEvent,
parsed.regcls)`. -/
def ParsedResult.standalone (parsed : ParsedResult)
    (suspendSucceeded hasRegisteredClass resumeSucceeded : Bool) : Runtime :=
  .constructed (Runtime.checkMultipleUse parsed.specs parsed.regcls) suspendSucceeded
    hasRegisteredClass resumeSucceeded

inductive TimedEvent
  | addServerReference
  | releaseServerReference
  | tick (ms : Nat)
  | timeout
  | dismissWarning
deriving DecidableEq, Repr

/-- A runtime, and the last time at which its count was not zero; before any client, that is
the start of the host. -/
structure Timed where
  runtime : Runtime
  busyUntil : Nat := 0
deriving DecidableEq, Repr

namespace Timed

/-- The runtime goes on as `rt`, at the same time or later. -/
def observe (s : Timed) (rt : Runtime) : Timed where
  runtime := rt
  busyUntil := if s.runtime.com.refs ≠ 0 ∨ rt.com.refs ≠ 0 then rt.now else s.busyUntil

/-- Time does not pass the timer that is running. -/
def step (s : Timed) : TimedEvent → Option Timed
  | .addServerReference => some (s.observe s.runtime.addServerReference)
  | .releaseServerReference => some (s.observe s.runtime.releaseServerReference)
  | .tick ms =>
    if ∀ due ∈ s.runtime.checkForExitTimer, s.runtime.now + ms ≤ due then
      some (s.observe { s.runtime with now := s.runtime.now + ms })
    else none
  | .timeout => s.runtime.timeout.map s.observe
  | .dismissWarning =>
    if s.runtime.warningOpen then some (s.observe s.runtime.dismissWarning) else none

def system (parsed : ParsedResult) : System Timed TimedEvent where
  init s := ∃ sus reg res, s = { runtime := parsed.standalone sus reg res }
  step := step

/-- The count is zero and has been for `timeout` milliseconds. -/
def Idled (timeout : Nat) (s : Timed) : Prop :=
  s.runtime.com.refs = 0 ∧ s.busyUntil + timeout ≤ s.runtime.now

/-- If `CheckForExit` asks for an exit here, then the host has waited. -/
def Patient (timeout : Nat) (s : Timed) (e : TimedEvent) : Prop :=
  e = .timeout ∨ e = .dismissWarning → ∀ t, s.step e = some t →
    t.runtime.exitEvents ≠ s.runtime.exitEvents → Idled timeout s

/-- No reference is added while more have been released than there were. -/
def Counted (s : Timed) (e : TimedEvent) : Prop :=
  e = .addServerReference → 0 ≤ s.runtime.com.refs

/-- The interval of the host is long enough where a check finds the count at zero, and the idle
warning is closed no sooner than the option says. -/
def Timely (timeout : Nat) (s : Timed) : TimedEvent → Prop
  | .timeout => s.runtime.com.refs = 0 → ¬ s.runtime.idle → timeout ≤ 60000
  | .dismissWarning => Idled timeout s
  | _ => True

instance (timeout : Nat) (s : Timed) : Decidable (Idled timeout s) :=
  inferInstanceAs (Decidable (_ ∧ _))

instance (s : Timed) (e : TimedEvent) : Decidable (s.Counted e) :=
  inferInstanceAs (Decidable (_ → _))

instance (timeout : Nat) (s : Timed) : (e : TimedEvent) → Decidable (s.Timely timeout e)
  | .timeout => inferInstanceAs (Decidable (_ → _ → _))
  | .dismissWarning => inferInstanceAs (Decidable (Idled timeout s))
  | .addServerReference => .isTrue trivial
  | .releaseServerReference => .isTrue trivial
  | .tick _ => .isTrue trivial

/-! ## The timer and the count -/

/-- A timer that runs while the count is zero is due a minute after the last reference, and no
earlier than now. -/
structure Waits (s : Timed) : Prop where
  hasMultipleUse : s.runtime.hasMultipleUse = true
  interval : s.runtime.checkForExitTimeout = 60000
  now_le : ∀ due, s.runtime.checkForExitTimer = some due → s.runtime.now ≤ due
  due_eq : s.runtime.com.refs = 0 → ∀ due, s.runtime.checkForExitTimer = some due →
    due = s.busyUntil + 60000

/-- In multiple-use mode the release of the last reference starts the timer, and no release asks
for an exit. -/
theorem releaseServerReference_multiple {rt : Runtime} (hmulti : rt.hasMultipleUse = true) :
    rt.releaseServerReference = { rt with
      com := rt.com.coReleaseServerProcess.2
      checkForExitTimer :=
        if rt.com.refs = 1 then some (rt.now + rt.checkForExitTimeout)
        else rt.checkForExitTimer } := by
  have hone : rt.com.refs - 1 = 0 ↔ rt.com.refs = 1 := by omega
  unfold Runtime.releaseServerReference
  dsimp only [ServerProcess.coReleaseServerProcess]
  simp only [hone]
  split_ifs with hlast
  · simp [Runtime.checkForExitLater]
  · rfl

theorem releaseServerReference_waits {s : Timed} (hwaits : Waits s) :
    Waits (s.observe s.runtime.releaseServerReference) := by
  obtain ⟨hmulti, hinterval, hnow, hdue⟩ := hwaits
  have hrefs := Runtime.releaseServerReference_refs s.runtime
  rw [releaseServerReference_multiple hmulti] at hrefs ⊢
  refine ⟨hmulti, hinterval, fun due htimer => ?_, fun hzero due htimer => ?_⟩
  · dsimp only [observe] at htimer ⊢
    split_ifs at htimer with hlast
    · obtain rfl := Option.some.inj htimer
      omega
    · exact hnow due htimer
  · -- the count has just come to zero, so the timer has just been started
    have hlast : s.runtime.com.refs = 1 := by
      dsimp only [observe] at hzero hrefs
      omega
    dsimp only [observe] at htimer ⊢
    rw [if_pos hlast] at htimer
    obtain rfl := Option.some.inj htimer
    rw [if_pos (Or.inl (by omega)), hinterval]

theorem tick_waits {s : Timed} {ms : Nat} (hwaits : Waits s)
    (hbefore : ∀ due ∈ s.runtime.checkForExitTimer, s.runtime.now + ms ≤ due) :
    Waits (s.observe { s.runtime with now := s.runtime.now + ms }) := by
  obtain ⟨hmulti, hinterval, -, hdue⟩ := hwaits
  refine ⟨hmulti, hinterval, fun due htimer => hbefore due htimer, fun hzero due htimer => ?_⟩
  have hzero' : s.runtime.com.refs = 0 := hzero
  have hkept := hdue hzero' due htimer
  simpa [observe, hzero'] using hkept

theorem timeout_waits {s : Timed} {rt : Runtime} (hwaits : Waits s)
    (htimeout : s.runtime.timeout = some rt) : Waits (s.observe rt) := by
  obtain ⟨hmulti, hinterval, -, -⟩ := hwaits
  obtain ⟨due, -, -, rfl⟩ := Runtime.timeout_eq_some htimeout
  unfold Runtime.checkForExit
  dsimp only [ServerProcess.coAddRefServerProcess, ServerProcess.coReleaseServerProcess]
  rw [Int.add_sub_cancel]
  split_ifs with hzero hidle
  · exact ⟨hmulti, hinterval, by simp [observe], by simp [observe]⟩
  · refine ⟨hmulti, hinterval, ?_, ?_⟩ <;> simp [observe, Runtime.exitApplicationLater]
  · refine ⟨hmulti, hinterval, ?_, fun hcount => absurd hcount hzero⟩
    simp [observe, Runtime.checkForExitLater]

theorem waits {s t : Timed} {e : TimedEvent} (hwaits : Waits s) (hcounted : s.Counted e)
    (hstep : s.step e = some t) : Waits t := by
  cases e with
  | addServerReference =>
      obtain rfl := Option.some.inj hstep
      obtain ⟨hmulti, hinterval, hnow, -⟩ := hwaits
      have hnonneg := hcounted rfl
      refine ⟨hmulti, hinterval, hnow, fun hzero => ?_⟩
      have hsum : s.runtime.com.refs + 1 = 0 := hzero
      omega
  | releaseServerReference =>
      obtain rfl := Option.some.inj hstep
      exact releaseServerReference_waits hwaits
  | tick ms =>
      simp only [step, Option.ite_none_right_eq_some] at hstep
      obtain rfl := Option.some.inj hstep.2
      exact tick_waits hwaits hstep.1
  | timeout =>
      obtain ⟨rt, htimeout, rfl⟩ := Option.map_eq_some_iff.mp hstep
      exact timeout_waits hwaits htimeout
  | dismissWarning =>
      simp only [step, Option.ite_none_right_eq_some] at hstep
      obtain rfl := Option.some.inj hstep.2
      obtain ⟨hmulti, hinterval, hnow, hdue⟩ := hwaits
      refine ⟨hmulti, hinterval, hnow, fun hzero due htimer => ?_⟩
      have hzero' : s.runtime.com.refs = 0 := hzero
      have hkept := hdue hzero' due htimer
      simpa [observe, hzero'] using hkept

/-! ## The exits -/

/-- The check asks for an exit exactly when it finds no reference and the warning is not due. -/
theorem timeout_exits_iff {s : Timed} {rt : Runtime} (htimeout : s.runtime.timeout = some rt) :
    (s.observe rt).runtime.exitEvents ≠ s.runtime.exitEvents ↔
      s.runtime.com.refs = 0 ∧ ¬ s.runtime.idle := by
  obtain ⟨due, -, -, rfl⟩ := Runtime.timeout_eq_some htimeout
  have hexit := Runtime.checkForExit_exitEvents { s.runtime with checkForExitTimer := none }
  have hidle : Runtime.idle { s.runtime with checkForExitTimer := none } ↔ s.runtime.idle :=
    Iff.rfl
  simp only [observe, hexit, hidle]
  split_ifs with hasks <;> simp [hasks]

/-- A check that finds no reference comes a minute after the last one. -/
theorem now_eq_of_timeout {s : Timed} {rt : Runtime} (hwaits : Waits s)
    (htimeout : s.runtime.timeout = some rt) (hzero : s.runtime.com.refs = 0) :
    s.busyUntil + 60000 = s.runtime.now := by
  obtain ⟨due, htimer, hdue, -⟩ := Runtime.timeout_eq_some htimeout
  have hnow := hwaits.now_le due htimer
  have heq := hwaits.due_eq hzero due htimer
  omega

theorem patient_iff_timely {s t : Timed} {e : TimedEvent} (timeout : Nat) (hwaits : Waits s)
    (hstep : s.step e = some t) : s.Patient timeout e ↔ s.Timely timeout e := by
  have hother (he : ¬ (e = .timeout ∨ e = .dismissWarning)) (htimely : s.Timely timeout e) :
      s.Patient timeout e ↔ s.Timely timeout e :=
    iff_of_true (fun hasks => absurd hasks he) htimely
  cases e with
  | addServerReference => exact hother (by simp) trivial
  | releaseServerReference => exact hother (by simp) trivial
  | tick ms => exact hother (by simp) trivial
  | timeout =>
      obtain ⟨rt, htimeout, rfl⟩ := Option.map_eq_some_iff.mp hstep
      constructor
      · intro hpatient hzero hidle
        have hexit := (timeout_exits_iff htimeout).mpr ⟨hzero, hidle⟩
        have hwait := (hpatient (Or.inl rfl) _ hstep hexit).2
        have hnow := now_eq_of_timeout hwaits htimeout hzero
        omega
      · intro htimely _ t' hstep' hexit
        obtain rfl := Option.some.inj (hstep.symm.trans hstep')
        obtain ⟨hzero, hidle⟩ := (timeout_exits_iff htimeout).mp hexit
        have hle := htimely hzero hidle
        have hnow := now_eq_of_timeout hwaits htimeout hzero
        exact ⟨hzero, by omega⟩
  | dismissWarning =>
      simp only [step, Option.ite_none_right_eq_some] at hstep
      obtain ⟨hopen, hstep⟩ := hstep
      constructor
      · intro hpatient
        refine hpatient (Or.inr rfl) _ (if_pos hopen) ?_
        simp [observe]
      · intro hidled _ _ _ _
        exact hidled

theorem standalone_waits {parsed : ParsedResult}
    (hmulti : Runtime.checkMultipleUse parsed.specs parsed.regcls = true) (sus reg res : Bool) :
    Waits { runtime := parsed.standalone sus reg res } := by
  unfold ParsedResult.standalone
  rw [hmulti]
  cases sus <;> cases reg <;> cases res <;>
    exact ⟨rfl, rfl, fun due htimer => by cases htimer; decide,
      fun _ due htimer => by cases htimer; rfl⟩

theorem visited_waits {parsed : ParsedResult}
    (hmulti : Runtime.checkMultipleUse parsed.specs parsed.regcls = true) {sus reg res : Bool}
    {trace : List (Timed × TimedEvent)} {last : Timed}
    (hrun : (system parsed).Run { runtime := parsed.standalone sus reg res } trace last)
    (hcounted : ∀ v ∈ trace, v.1.Counted v.2) : ∀ s ∈ System.visited trace last, Waits s :=
  hrun.forall_visited (C := Counted) (fun _ _ _ hI hC hstep => waits hI hC hstep)
    (standalone_waits hmulti sus reg res) hcounted

/-- A run in multiple-use mode whose steps are `Counted` and `Timely` asks for no exit before
the time of `--timeout` has passed without a reference; and one that asks for none, with no
reference added below zero, is `Timely`. -/
theorem patient_iff {parsed : ParsedResult}
    (hmulti : Runtime.checkMultipleUse parsed.specs parsed.regcls = true) {sus reg res : Bool}
    {trace : List (Timed × TimedEvent)} {last : Timed}
    (hrun : (system parsed).Run { runtime := parsed.standalone sus reg res } trace last) :
    ((∀ v ∈ trace, v.1.Counted v.2 ∧ v.1.Timely parsed.timeout v.2) →
      ∀ v ∈ trace, v.1.Patient parsed.timeout v.2) ∧
    ((∀ v ∈ trace, v.1.Counted v.2) → (∀ v ∈ trace, v.1.Patient parsed.timeout v.2) →
      ∀ v ∈ trace, v.1.Timely parsed.timeout v.2) := by
  have hiff (hcounted : ∀ v ∈ trace, v.1.Counted v.2) : ∀ v ∈ trace,
      (v.1.Patient parsed.timeout v.2 ↔ v.1.Timely parsed.timeout v.2) := by
    intro v hv
    obtain ⟨t, hstep⟩ := Option.isSome_iff_exists.mp (hrun.step_isSome hv)
    exact patient_iff_timely parsed.timeout
      (visited_waits hmulti hrun hcounted v.1 (System.mem_visited hv last)) hstep
  constructor
  · intro hall v hv
    exact (hiff (fun w hw => (hall w hw).1) v hv).mpr (hall v hv).2
  · intro hcounted hpatient v hv
    exact (hiff hcounted v hv).mp (hpatient v hv)

/-! ## A timeout of two minutes -/

/-- `--multiple-use --timeout 2m`. -/
def twoMinutes : ParsedResult where
  specs := [{ clsid := 1 }]
  timeout := 120000
  regcls := REGCLS_MULTIPLEUSE

/-- A client comes, goes after a second, and the host leaves a minute later. -/
def oneClient : List TimedEvent :=
  [.addServerReference, .tick 1000, .releaseServerReference, .tick 60000]

def afterClient : Timed where
  runtime := { twoMinutes.standalone true true true with
    com := { refs := 0, suspended := true }
    now := 61000
    checkForExitTimer := some 61000
    acquisitionCount := 1 }
  busyUntil := 1000

theorem exec_oneClient : (system twoMinutes).exec
    { runtime := twoMinutes.standalone true true true } oneClient = some afterClient := by
  decide

theorem not_patient_oneClient :
    ¬ ∀ (parsed : ParsedResult) (sus reg res : Bool) (trace : List (Timed × TimedEvent))
      (last : Timed), Runtime.checkMultipleUse parsed.specs parsed.regcls = true →
        (system parsed).Run { runtime := parsed.standalone sus reg res } trace last →
          ∀ v ∈ trace, v.1.Patient parsed.timeout v.2 := by
  intro hall
  obtain ⟨trace, -, hrun⟩ := System.run_of_exec exec_oneClient
  have hleaves := hrun.append (.cons (a := .timeout) rfl (.nil _))
  have hpatient := hall twoMinutes true true true _ _ rfl hleaves (afterClient, .timeout)
    (List.mem_append_right _ (List.mem_singleton_self _))
  have hidled := hpatient (Or.inl rfl) _ rfl (by decide)
  exact absurd hidled.2 (by decide)

/-- `--multiple-use`, with the timeout the host has anyway. -/
def oneMinute : ParsedResult where
  specs := [{ clsid := 1 }]
  regcls := REGCLS_MULTIPLEUSE

/-- A client comes and goes, and the host leaves when nobody has come for a minute. -/
theorem patient_iff_oneClient : ∃ trace last,
    (system oneMinute).Run { runtime := oneMinute.standalone true true true } trace last ∧
      trace.map Prod.snd = oneClient ++ [.timeout] ∧ last.runtime.exitEvents = 1 ∧
      ∀ v ∈ trace, v.1.Patient oneMinute.timeout v.2 := by
  have hrun : (system oneMinute).Run { runtime := oneMinute.standalone true true true }
      [(_, .addServerReference), (_, .tick 1000), (_, .releaseServerReference),
        (_, .tick 60000), (_, .timeout)] _ :=
    .cons rfl (.cons rfl (.cons rfl (.cons rfl (.cons rfl (.nil _)))))
  exact ⟨_, _, hrun, rfl, rfl, (patient_iff (by decide) hrun).1 (by decide)⟩

end Timed

end Axhost
