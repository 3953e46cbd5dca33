import Axhost.Platform.ClassIdText
import Axhost.Program.Options
import Axhost.Registration.LoggingSettings

/-!
# The logger of a process

`logging.cc`.  A standalone host takes its logger from its own options, a surrogate from the
settings that the registry has for its class.

* `loggingFromSettings_eq_iff`: when a surrogate logs as a standalone host with the same options
  would.
-/

namespace Axhost

open QString

inductive LogLevel
  | trace
  | debug
  | info
  | warn
  | err
deriving DecidableEq, Repr

/-- What the logging asks of Qt and of the process. -/
structure LogEnvironment where
  applicationName : QString
  tempLocation : QString
  cleanPath : QString → QString
  filePath : QString → QString → QString
  pid : Nat
  filePath_ne_nil : ∀ directory file, file ≠ [] → filePath directory file ≠ []

/-- Paths as they are written. -/
def LogEnvironment.plain : LogEnvironment where
  applicationName := []
  tempLocation := qString "C:/Temp"
  cleanPath := id
  filePath directory file := directory ++ qString "/" ++ file
  pid := 7
  filePath_ne_nil := fun directory file _ => by simp [qString]

/-- The default logger: it writes to the file, or to `stderr` where that is empty. -/
structure Logger where
  name : QString
  file : QString
  level : LogLevel
deriving DecidableEq, Repr

def getLoggerName (env : LogEnvironment) : QString :=
  if env.applicationName.isEmpty then qString "axhost" else env.applicationName

def getLogDirectory (env : LogEnvironment) : QString :=
  env.cleanPath (env.tempLocation ++ qString "/" ++ getLoggerName env)

def getLogFilename (env : LogEnvironment) (directory : QString) : QString :=
  let dir := if directory.isEmpty then getLogDirectory env else directory
  env.filePath dir (getLoggerName env ++ qString ("-" ++ toString env.pid ++ ".log"))

def parseLogLevel (level : QString) (defaultLevel : LogLevel) : LogLevel :=
  let lower := toLower level
  if lower = qString "trace" then .trace
  else if lower = qString "debug" then .debug
  else if lower = qString "info" then .info
  else if lower = qString "warn" ∨ lower = qString "warning" then .warn
  else if lower = qString "error" ∨ lower = qString "err" then .err
  else defaultLevel

def createDefaultLogger (env : LogEnvironment) (filepath : QString) (level : LogLevel) :
    Logger where
  name := getLoggerName env
  file := filepath
  level := level

def initializeLoggingStandalone (env : LogEnvironment) (parsed : ParsedOptions) : Logger :=
  let loggingEnabled := parsed.enableLogging
  let loggingEnabled :=
    if !parsed.logFile.isEmpty || !parsed.logDir.isEmpty then true else loggingEnabled
  let logFile :=
    if !parsed.logFile.isEmpty then parsed.logFile
    else if !parsed.logDir.isEmpty then getLogFilename env parsed.logDir
    else if loggingEnabled then getLogFilename env []
    else []
  let logLevel : LogLevel :=
    if !parsed.logLevel.isEmpty then parseLogLevel parsed.logLevel .info else .info
  createDefaultLogger env logFile logLevel

/-- `InitializeLoggingSurrogate` once it has read the settings of its class. -/
def loggingFromSettings (env : LogEnvironment) (settings : LoggingSettings) : Logger :=
  if settings.enabled then
    let logFile :=
      if !settings.directory.isEmpty then getLogFilename env settings.directory
      else getLogFilename env []
    let logLevel : LogLevel :=
      if !settings.level.isEmpty then parseLogLevel settings.level .info else .info
    createDefaultLogger env logFile logLevel
  else createDefaultLogger env [] .info

def initializeLoggingSurrogate {κ : Type*} (resolve : QString → κ) (env : LogEnvironment)
    (faults : ReadFaults) (clsid : QString) (reg : Registry κ) : Logger :=
  loggingFromSettings env (readLoggingSettings resolve faults clsid reg)

theorem getLogFilename_ne_nil (env : LogEnvironment) (directory : QString) :
    getLogFilename env directory ≠ [] := by
  unfold getLogFilename
  apply env.filePath_ne_nil
  simp [qString]

/-! ## Levels -/

@[simp] theorem parseLogLevel_nil (defaultLevel : LogLevel) :
    parseLogLevel [] defaultLevel = defaultLevel := by
  unfold parseLogLevel
  rfl

theorem parseLogLevel_ite (level : QString) :
    (if !level.isEmpty then parseLogLevel level .info else .info) = parseLogLevel level .info := by
  cases level with
  | nil => rfl
  | cons c s => rfl

theorem getLogFilename_ite (env : LogEnvironment) (directory : QString) :
    (if !directory.isEmpty then getLogFilename env directory else getLogFilename env []) =
      getLogFilename env directory := by
  cases directory with
  | nil => rfl
  | cons c s => rfl

theorem loggingFromSettings_eq (env : LogEnvironment) (settings : LoggingSettings) :
    loggingFromSettings env settings =
      createDefaultLogger env
        (if settings.enabled then getLogFilename env settings.directory else [])
        (if settings.enabled then parseLogLevel settings.level .info else .info) := by
  unfold loggingFromSettings
  dsimp only
  rw [parseLogLevel_ite, getLogFilename_ite]
  split_ifs <;> rfl

/-! ## Surrogates and standalone hosts -/

/-- The options of a standalone host that say what the settings of a surrogate do. -/
def LoggingSettings.standaloneOptions (settings : LoggingSettings) : ParsedOptions where
  enableLogging := settings.enabled
  logLevel := settings.level
  logDir := settings.directory

theorem initializeLoggingStandalone_eq (env : LogEnvironment) (settings : LoggingSettings) :
    initializeLoggingStandalone env settings.standaloneOptions =
      createDefaultLogger env
        (if settings.enabled ∨ settings.directory ≠ [] then getLogFilename env settings.directory
          else [])
        (parseLogLevel settings.level .info) := by
  unfold initializeLoggingStandalone LoggingSettings.standaloneOptions
  dsimp only
  rw [parseLogLevel_ite]
  cases settings.directory with
  | nil => cases settings.enabled <;> rfl
  | cons c s => simp

/-- A surrogate logs as a standalone host would with the same options, unless its logging is
disabled and it is given a directory or a level other than that of information. -/
theorem loggingFromSettings_eq_iff (env : LogEnvironment) (settings : LoggingSettings) :
    loggingFromSettings env settings =
        initializeLoggingStandalone env settings.standaloneOptions ↔
      (settings.enabled = false → settings.directory = [] ∧
        parseLogLevel settings.level .info = .info) := by
  rw [loggingFromSettings_eq, initializeLoggingStandalone_eq]
  unfold createDefaultLogger
  cases settings.enabled with
  | true => simp
  | false =>
      simp only [Bool.false_eq_true, if_false, false_or, forall_const, Logger.mk.injEq, true_and]
      refine and_congr ?_ eq_comm
      split_ifs with hdirectory
      · exact iff_of_false (getLogFilename_ne_nil env _).symm hdirectory
      · exact iff_of_true rfl (not_not.mp hdirectory)

end Axhost
