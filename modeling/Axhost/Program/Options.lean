import Axhost.Lifetime.ExitTimer
import Mathlib.Data.List.Induction

/-!
# The options of the program

`command_line_parser.h` and the callbacks of `command_line_parser.cc`: what is left of a command
line when the option library has called them, in whatever order it does.  `--register` also names
the AppID, if none is named yet; `--register-appid` names it in any case.

* `ParsedOptions.registers_of_callbacks`: what any sequence of callbacks registers, and when the
  class that it names is not registered at all.
-/

namespace Axhost

/-- All of `ParsedResult` that `main` and the logging read. -/
structure ParsedOptions extends ParsedResult where
  classId : QUuid := 0
  embedding : Bool := false
  readyEvent : QString := []
  enableLogging : Bool := false
  logLevel : QString := []
  logFile : QString := []
  logDir : QString := []
  registerClassId : QString := []
  registerAppId : QString := []
  unregisterClassId : QString := []
  registerLogging : Bool := false
  registerLogLevel : QString := []
  registerLogDir : QString := []
deriving DecidableEq, Repr

/-- What the library calls for the options that name what to register: `register_function`, and
the assignment of a bound variable.  Either has two spellings. -/
inductive RegisterCallback
  | register (value : QString)
  | registerAppId (value : QString)
deriving DecidableEq, Repr

/-- The class that a callback is called with. -/
def RegisterCallback.classGiven : RegisterCallback → Option QString
  | register value => some value
  | registerAppId _ => none

def RegisterCallback.value : RegisterCallback → QString
  | register value => value
  | registerAppId value => value

def RegisterCallback.namesAppId : RegisterCallback → Bool
  | register _ => false
  | registerAppId _ => true

/-- The callbacks from the last one on that names the AppID in any case, or all of them. -/
def sinceAppId : List RegisterCallback → List RegisterCallback
  | [] => []
  | c :: callbacks =>
    if callbacks.any RegisterCallback.namesAppId then sinceAppId callbacks else c :: callbacks

namespace ParsedOptions

def callback (parsed : ParsedOptions) : RegisterCallback → ParsedOptions
  | .register value =>
    let parsed := { parsed with registerClassId := value }
    if parsed.registerAppId.isEmpty then { parsed with registerAppId := parsed.registerClassId }
    else parsed
  | .registerAppId value => { parsed with registerAppId := value }

theorem callback_registerClassId (parsed : ParsedOptions) (value : QString) :
    (parsed.callback (.register value)).registerClassId = value := by
  unfold callback
  dsimp only
  split_ifs <;> rfl

theorem callback_registerAppId (parsed : ParsedOptions) (value : QString) :
    (parsed.callback (.register value)).registerAppId =
      if parsed.registerAppId.isEmpty then value else parsed.registerAppId := by
  unfold callback
  dsimp only
  split_ifs <;> rfl

/-- The first of some names that is not empty. -/
def firstNamed (names : List QString) : QString := (names.find? fun s => !s.isEmpty).getD []

theorem sinceAppId_cons (c : RegisterCallback) (callbacks : List RegisterCallback) :
    sinceAppId (c :: callbacks) =
      if callbacks.any RegisterCallback.namesAppId then sinceAppId callbacks
      else c :: callbacks := rfl

theorem sinceAppId_of_not_any {callbacks : List RegisterCallback}
    (h : ¬ callbacks.any RegisterCallback.namesAppId = true) :
    sinceAppId callbacks = callbacks := by
  cases callbacks with
  | nil => rfl
  | cons c callbacks =>
      rw [List.any_cons, Bool.or_eq_true, not_or] at h
      exact if_neg h.2

theorem firstNamed_cons (name : QString) (names : List QString) :
    firstNamed (name :: names) = if name.isEmpty then firstNamed names else name := by
  unfold firstNamed
  cases hname : name.isEmpty <;> simp [hname]

theorem foldl_registerAppId (parsed : ParsedOptions) (callbacks : List RegisterCallback) :
    (callbacks.foldl callback parsed).registerAppId =
      if callbacks.any RegisterCallback.namesAppId then
        firstNamed ((sinceAppId callbacks).map RegisterCallback.value)
      else firstNamed (parsed.registerAppId :: callbacks.map RegisterCallback.value) := by
  induction callbacks generalizing parsed with
  | nil =>
      rw [List.map_nil, firstNamed_cons]
      cases happid : parsed.registerAppId with
      | nil => exact happid
      | cons c s => exact happid
  | cons c callbacks ih =>
      rw [List.foldl_cons, ih, List.any_cons, sinceAppId_cons]
      by_cases hany : callbacks.any RegisterCallback.namesAppId = true
      · rw [if_pos hany, if_pos hany, hany, Bool.or_true, if_pos rfl]
      · rw [if_neg hany, if_neg hany, Bool.eq_false_iff.mpr hany, Bool.or_false]
        cases c with
        | register value =>
            have hvalue : (RegisterCallback.register value).value = value := rfl
            have hkeeps : ¬ (RegisterCallback.register value).namesAppId = true :=
              Bool.false_ne_true
            rw [if_neg hkeeps, callback_registerAppId, List.map_cons, hvalue]
            simp only [firstNamed_cons]
            split_ifs <;> rfl
        | registerAppId value => rfl

theorem foldl_registerClassId (parsed : ParsedOptions) (callbacks : List RegisterCallback) :
    (callbacks.foldl callback parsed).registerClassId =
      ((callbacks.filterMap RegisterCallback.classGiven).getLast?).getD
        parsed.registerClassId := by
  induction callbacks generalizing parsed with
  | nil => rfl
  | cons c callbacks ih =>
      rw [List.foldl_cons, ih]
      cases c with
      | register value =>
          have hgiven : (RegisterCallback.register value :: callbacks).filterMap
              RegisterCallback.classGiven =
                value :: callbacks.filterMap RegisterCallback.classGiven := rfl
          rw [callback_registerClassId, hgiven, List.getLast?_cons]
          rfl
      | registerAppId value => rfl

/-- The class is the last one given, and the AppID the first name that is not empty since it was
named in any case.  `main` registers nothing where the AppID is empty: with a class, it is exactly
when an empty AppID is the last thing given. -/
theorem registers_of_callbacks (callbacks : List RegisterCallback) :
    (callbacks.foldl callback {}).registerClassId =
        ((callbacks.filterMap RegisterCallback.classGiven).getLast?).getD [] ∧
      (callbacks.foldl callback {}).registerAppId =
        firstNamed ((sinceAppId callbacks).map RegisterCallback.value) ∧
      ((callbacks.foldl callback {}).registerClassId ≠ [] ∧
          (callbacks.foldl callback {}).registerAppId = [] ↔
        (callbacks.foldl callback {}).registerClassId ≠ [] ∧
          callbacks.getLast? = some (.registerAppId [])) := by
  refine ⟨foldl_registerClassId {} callbacks, ?_, and_congr_right fun hclass => ?_⟩
  · rw [foldl_registerAppId, firstNamed_cons]
    split_ifs with hany hnil
    · rfl
    · rw [sinceAppId_of_not_any hany]
    · exact absurd rfl hnil
  · induction callbacks using List.reverseRecOn with
    | nil => exact absurd rfl hclass
    | append_singleton callbacks c _ =>
        rw [List.foldl_append, List.foldl_cons, List.foldl_nil] at hclass ⊢
        rw [List.getLast?_concat, Option.some_inj]
        cases c with
        | register value =>
            rw [callback_registerClassId] at hclass
            rw [callback_registerAppId]
            have hkept : (if (callbacks.foldl callback {}).registerAppId.isEmpty then value
                else (callbacks.foldl callback {}).registerAppId) ≠ [] := by
              split_ifs with hempty
              · exact hclass
              · simpa using hempty
            exact iff_of_false hkept (by simp)
        | registerAppId value => exact (RegisterCallback.registerAppId.injEq value []).symm.to_iff

end ParsedOptions

end Axhost
