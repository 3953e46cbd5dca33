import Axhost.Program.Interference
import Axhost.Registration.Stream

/-!
# Whose log a file is

The name of a log file ends in the number of the process.  Where the file is comes from the options
or from the registry, and others may write that while it is read.

* `ProgramRun.log_files_apart`: two runs log to one file only where one of them is told the file.
-/

namespace Axhost

open QString Registry SharedStore

/-- The path of a file in a directory ends with the name of the file. -/
def LogEnvironment.KeepsNames (env : LogEnvironment) : Prop :=
  ∀ directory file, file <:+ env.filePath directory file

theorem LogEnvironment.plain_keepsNames (pid : Nat) :
    ({ LogEnvironment.plain with pid := pid } : LogEnvironment).KeepsNames :=
  fun directory file => List.suffix_append (directory ++ qString "/") file

/-! ## The number at the end of a name -/

theorem eq_of_cons_suffix {c : QChar} {s t : QString} (h : c :: s <:+ c :: t) (hc : c ∉ t) :
    s = t := by
  rcases List.suffix_cons_iff.mp h with heq | hsuffix
  · exact (List.cons.inj heq).2
  · exact absurd (hsuffix.mem List.mem_cons_self) hc

/-- The end of the name of a log file. -/
def logEnding (digits : QString) : QString :=
  qLatin1Char '-' :: (digits ++ qString ".log")

theorem logEnding_pid (pid : Nat) :
    qString ("-" ++ toString pid ++ ".log") =
      logEnding ((Nat.toDigits 10 pid).map qLatin1Char) := by
  unfold logEnding qString
  rw [String.toList_append, String.toList_append, Nat.toString_eq_repr, Nat.toList_repr,
    List.map_append, List.map_append]
  rfl

theorem toLower_logEnding (digits : QString) :
    toLower (logEnding digits) = logEnding (toLower digits) := by
  unfold toLower logEnding
  rw [List.map_cons, List.map_append]
  rfl

theorem digitsFrom_toLower (base value : Nat) (s : QString) :
    digitsFrom base value (toLower s) = digitsFrom base value s := by
  induction s generalizing value with
  | nil => rfl
  | cons c s ih =>
      have hcons : toLower (c :: s) = lowerChar c :: toLower s := rfl
      rw [hcons, digitsFrom, digitsFrom, digitValue_lowerChar]
      cases digitValue c with
      | none => rfl
      | some digit =>
          dsimp only
          rw [ih]

/-- One text does not end in two numbers. -/
theorem number_of_logEnding {s digits digits' : QString} {n m : Nat}
    (hn : digitsFrom 10 0 digits = some n) (hm : digitsFrom 10 0 digits' = some m)
    (h : logEnding digits <:+ s) (h' : logEnding digits' <:+ s) : n = m := by
  have hmark {digits : QString} {n : Nat} (hn : digitsFrom 10 0 digits = some n) :
      qLatin1Char '-' ∉ digits ++ qString ".log" := by
    rw [List.mem_append]
    rintro (hmem | hmem)
    · obtain ⟨digit, hdigit⟩ := digit_of_mem_digitsFrom hn _ hmem
      have hnone : digitValue (qLatin1Char '-') = none := by decide
      exact absurd (hnone.symm.trans hdigit) (by simp)
    · exact absurd hmem (by decide)
  have hdigits : digits = digits' := by
    rcases List.suffix_or_suffix_of_suffix h h' with hsuffix | hsuffix
    · exact List.append_cancel_right (eq_of_cons_suffix hsuffix (hmark hm))
    · exact (List.append_cancel_right (eq_of_cons_suffix hsuffix (hmark hn))).symm
  rw [hdigits, hm] at hn
  exact (Option.some.inj hn).symm

/-! ## Names of log files -/

theorem getLogFilename_suffix {env : LogEnvironment} (hkeeps : env.KeepsNames)
    (directory : QString) :
    logEnding (toLower ((Nat.toDigits 10 env.pid).map qLatin1Char)) <:+
      toLower (getLogFilename env directory) := by
  have hending : logEnding ((Nat.toDigits 10 env.pid).map qLatin1Char) <:+
      getLogFilename env directory := by
    rw [← logEnding_pid]
    exact (List.suffix_append (getLoggerName env) _).trans (hkeeps _ _)
  rw [← toLower_logEnding]
  exact hending.map lowerChar

/-- The names of the log files of two processes differ, and not only in their letter case. -/
theorem pid_of_getLogFilename {env env' : LogEnvironment} (hkeeps : env.KeepsNames)
    (hkeeps' : env'.KeepsNames) {directory directory' : QString}
    (h : toLower (getLogFilename env directory) = toLower (getLogFilename env' directory')) :
    env.pid = env'.pid := by
  have hpid (n : Nat) : digitsFrom 10 0 (toLower ((Nat.toDigits 10 n).map qLatin1Char)) = some n :=
    (digitsFrom_toLower 10 0 _).trans (digitsFrom_toDigits n)
  have hsuffix := getLogFilename_suffix hkeeps directory
  rw [h] at hsuffix
  exact number_of_logEnding (hpid _) (hpid _) hsuffix (getLogFilename_suffix hkeeps' directory')

theorem initializeLoggingStandalone_file (env : LogEnvironment) (parsed : ParsedOptions) :
    (initializeLoggingStandalone env parsed).file =
      if parsed.logFile ≠ [] then parsed.logFile
      else if parsed.logDir ≠ [] ∨ parsed.enableLogging then getLogFilename env parsed.logDir
      else [] := by
  unfold initializeLoggingStandalone
  dsimp only [createDefaultLogger]
  cases parsed.logFile with
  | cons c s => rfl
  | nil =>
      cases parsed.logDir with
      | cons c s => simp
      | nil => cases parsed.enableLogging <;> rfl

namespace ProgramRun

variable {ι κ : Type*} [DecidableEq ι] [DecidableEq κ] {resolve : QString → κ}
  {runs : ι → ProgramRun}

/-- A standalone host that is told which file to log to. -/
def Told (run : ProgramRun) (file : QString) : Prop :=
  run.tried.runsAsSurrogate = false ∧ run.tried.logFile = file ∧ file ≠ []

omit [DecidableEq ι] [DecidableEq κ] in
/-- A run logs to `stderr`, to the file that it is told, or to a file of its own name. -/
theorem LoggerFrom.file_cases {given : κ → ValueName → RegistryValue → Prop} {run : ProgramRun}
    {logger : Logger} (h : run.LoggerFrom resolve given logger) :
    logger.file = [] ∨ run.Told logger.file ∨
      ∃ directory, logger.file = getLogFilename run.env directory := by
  unfold LoggerFrom at h
  split_ifs at h with hsurrogate
  · obtain ⟨settings, -, rfl⟩ := h
    rw [loggingFromSettings_eq]
    dsimp only [createDefaultLogger]
    split_ifs
    · exact Or.inr (Or.inr ⟨settings.directory, rfl⟩)
    · exact Or.inl rfl
  · rw [h, initializeLoggingStandalone_file]
    split_ifs with hfile hgiven
    · exact Or.inr (Or.inl ⟨Bool.eq_false_iff.mpr hsurrogate, rfl, hfile⟩)
    · exact Or.inr (Or.inr ⟨run.tried.logDir, rfl⟩)
    · exact Or.inl rfl

/-- Processes at the same time, whatever they find in the registry, and whoever writes it while they
read: two of them log to one file only where one of the two is told the file. -/
theorem log_files_apart {reg : Registry κ} {s : Processes registryInterface ι κ MainResult}
    (hkeeps : ∀ i, (runs i).env.KeepsNames)
    (h : (together resolve runs reg).system.Reachable s) {i j : ι} {result result' : MainResult}
    (hended : (s.programs i).result? = some result)
    (hended' : (s.programs j).result? = some result')
    (hpid : (runs i).env.pid ≠ (runs j).env.pid)
    (hsame : toLower result.logger.file = toLower result'.logger.file) :
    (result.logger.file = [] ∧ result'.logger.file = []) ∨
      (runs i).Told result.logger.file ∨ (runs j).Told result'.logger.file := by
  rcases (loggerFrom_of_reachable h hended).file_cases with hstderr | htold | ⟨directory, hfile⟩
  · rw [hstderr] at hsame
    exact Or.inl ⟨hstderr, List.map_eq_nil_iff.mp hsame.symm⟩
  · exact Or.inr (Or.inl htold)
  · rcases (loggerFrom_of_reachable h hended').file_cases with hstderr | htold |
      ⟨directory', hfile'⟩
    · rw [hstderr] at hsame
      exact Or.inl ⟨List.map_eq_nil_iff.mp hsame, hstderr⟩
    · exact Or.inr (Or.inr htold)
    · rw [hfile, hfile'] at hsame
      exact absurd (pid_of_getLogFilename (hkeeps i) (hkeeps j) hsame) hpid

/-- A surrogate, and a standalone host that is told the file of the surrogate. -/
def crossed : Bool → ProgramRun
  | false =>
    { surrogateRun with
      tried := { logFile := qString "OLD/axhost-8.log" }
      parsed := .ok { logFile := qString "OLD/axhost-8.log" } }
  | true => { surrogateRun with env := { LogEnvironment.plain with pid := 8 } }

theorem log_files_apart_crossed :
    ∃ s result result', (together id crossed configured).system.exec
        (together id crossed configured) (List.replicate 6 true) = some s ∧
      (s.programs false).result? = some result ∧ (s.programs true).result? = some result' ∧
      ((result.logger.file = [] ∧ result'.logger.file = []) ∨
        (crossed false).Told result.logger.file ∨ (crossed true).Told result'.logger.file) := by
  have hexec : (((together id crossed configured).system.exec (together id crossed configured)
      (List.replicate 6 true)).bind fun s =>
        (s.programs false).result?.bind fun result =>
          (s.programs true).result?.map fun result' =>
            (result.logger.file, result'.logger.file)) =
      some (qString "OLD/axhost-8.log", qString "old/axhost-8.log") := by decide +kernel
  obtain ⟨s, hs, hboth⟩ := Option.bind_eq_some_iff.mp hexec
  obtain ⟨result, hended, hother⟩ := Option.bind_eq_some_iff.mp hboth
  obtain ⟨result', hended', hfiles⟩ := Option.map_eq_some_iff.mp hother
  obtain ⟨hfile, hfile'⟩ := Prod.mk.inj hfiles
  obtain ⟨trace, -, hrun⟩ := Transition.System.run_of_exec hs
  refine ⟨s, result, result', hs, hended, hended', log_files_apart ?_ (hrun.reachable (.init rfl))
    hended hended' (by decide) ?_⟩
  · rintro (_ | _)
    · exact LogEnvironment.plain_keepsNames 7
    · exact LogEnvironment.plain_keepsNames 8
  · rw [hfile, hfile']
    decide +kernel

end ProgramRun

end Axhost
