/-
# The start of the program

`main` turns a signal off, reads its command line and its configuration, starts the
display, writes the first states, registers the monitors, starts the executor and the
API server, and enters the loop; it ends at the first of these that fails. What the
operating system answers is given. The window of one platform is only asked whether
it begins, and what is printed is left out.
-/

import PixelStatus.Host.CommandLine
import PixelStatus.Host.Registration
import PixelStatus.Host.Simulator

namespace PixelStatus

open Host

/-! ## Secrets -/

/-- `std::isalnum` in the "C" locale. -/
def isAlnumByte (byte : UInt8) : Bool :=
  isDigitByte byte || (0x41 ≤ byte && byte ≤ 0x5A) || (0x61 ≤ byte && byte ≤ 0x7A)

def upperByte (byte : UInt8) : UInt8 := if 0x61 ≤ byte ∧ byte ≤ 0x7A then byte - 0x20 else byte

def environmentName (name : Bytes) : Bytes :=
  bytes "PIXELSTATUS_SECRET_" ++
    name.map fun byte => if isAlnumByte byte then upperByte byte else 0x5F

/-- The environment goes before the credential manager, which one platform has. -/
def systemSecretResolver (platform : Platform) (environment credentials : Bytes → Option Bytes) :
    SecretResolver :=
  some fun name =>
    match environment (environmentName name) with
    | some secret => some secret
    | none => if platform = .windows then credentials name else none

/-! ## The token -/

def hexDigit (digit : Nat) : UInt8 :=
  if digit < 10 then UInt8.ofNat (0x30 + digit) else UInt8.ofNat (0x57 + digit)

/-- Eight hexadecimal digits, as `std::setw(8)` and `std::setfill('0')` print a word. -/
def hexWord (word : UInt32) : Bytes :=
  [7, 6, 5, 4, 3, 2, 1, 0].map fun place => hexDigit (word.toNat / 16 ^ place % 16)

def generateBearerToken (words : Fin 8 → UInt32) : Bytes := (List.ofFn words).flatMap hexWord

/-! ## The start -/

/-- What the program finds around it. -/
structure Surroundings where
  /-- `std::signal(SIGPIPE, SIG_IGN)` is taken. -/
  ignoresSigpipe : Bool
  defaultConfigPath : Bytes
  file : Bytes → ConfigFile
  library : JsonLibrary
  environment : Bytes → Option Bytes
  credentials : Bytes → Option Bytes
  /-- What keeps the window from beginning. -/
  windowError : Option Bytes
  /-- The port that the socket library reports for the browser display. -/
  boundPort : Int
  /-- What keeps a worker's thread from being created, with its text. -/
  threadError : Option (Option Bytes)
  apiBinds : Bool
  /-- What the random device yields for the words of a token. -/
  randomWords : Fin 8 → UInt32
  startedAt : TimePoint

/-- Why the program ends before its loop. -/
inductive StartFailure
  | signalFailed
  | usage
  | configuration (errors : List Bytes)
  | noDisplay
  | windowFailed (detail : Bytes)
  | displayFailed (detail : Bytes)
  | statesFailed
  | monitorFailed (error : Bytes)
  | executorFailed (error : Bytes)
  | apiFailed (error : Bytes)

/-- What has been started when the program enters its loop. -/
structure Started (build : HostBuild) where
  options : CommandLine
  config : AppConfig
  webDisplay : Option HttpDisplayDriver
  states : StateStore
  engine : MonitorEngine build.platform MonitorRunner
  executor : Option (MonitorExecutor build.platform MonitorRunner)
  api : Option StatusApi

namespace Program

variable (build : HostBuild) (round : Rounding) (surroundings : Surroundings)

/-- Only one platform has no such signal. -/
def ignoreSigpipe : Except StartFailure Unit :=
  if build.platform ≠ .windows ∧ surroundings.ignoresSigpipe = false then .error .signalFailed
  else .ok ()

def loadOptions (arguments : List Bytes) : Except StartFailure CommandLine :=
  match parseCommandLine build.platform surroundings.defaultConfigPath arguments with
  | none => .error .usage
  | some options => .ok options

def loadConfig (path : Bytes) : Except StartFailure AppConfig :=
  let loaded := loadConfigFile build.platform round surroundings.library.parse path
    (surroundings.file path)
  match loaded.config with
  | none => .error (.configuration loaded.errors)
  | some config => .ok config

/-- There has to be a display, and a window that is wanted has to begin. -/
def startWindow (options : CommandLine) : Except StartFailure Unit :=
  if !options.windowEnabled && !options.webDisplayEnabled then .error .noDisplay
  else if options.windowEnabled then
    match surroundings.windowError with
    | some detail => .error (.windowFailed detail)
    | none => .ok ()
  else .ok ()

def displayOptions (options : CommandLine) : HttpDisplayOptions where
  bindAddress := options.webDisplayBind
  port := options.webDisplayPort
  defaultRefreshInterval := options.webRefreshInterval

def startDisplay (options : CommandLine) (display : DisplayConfig) :
    Except StartFailure (Option HttpDisplayDriver) :=
  if options.webDisplayEnabled then
    match (HttpDisplayDriver.create display.width display.height (displayOptions options)).begin
      surroundings.boundPort with
    | (true, driver) => .ok (some driver)
    | (false, driver) => .error (.displayFailed driver.driverState.detail)
  else .ok none

def startStates (config : AppConfig) : Except StartFailure StateStore :=
  match initializeStates config surroundings.startedAt with
  | none => .error .statesFailed
  | some states => .ok states

/-- What the program looks its secrets up with. -/
def resolver : SecretResolver :=
  systemSecretResolver build.platform surroundings.environment surroundings.credentials

def startMonitors (monitors : List PullMonitorConfig) :
    Except StartFailure (MonitorEngine build.platform MonitorRunner) :=
  match registerMonitors build (resolver build surroundings) surroundings.startedAt monitors with
  | .error error => .error (.monitorFailed error)
  | .ok engine => .ok engine

/-- A new executor for these options. -/
def createExecutor (options : CommandLine) (engine : MonitorEngine build.platform MonitorRunner)
    (states : StateStore) : MonitorExecutor build.platform MonitorRunner where
  options := { workerCount := min options.monitorWorkerCount engine.jobs.length }
  system := { engine, store := states, pumps := fun _ => none }

/-- The executor is where its workers begin when it is returned. -/
def startExecutor (options : CommandLine) (engine : MonitorEngine build.platform MonitorRunner)
    (states : StateStore) :
    Except StartFailure (Option (MonitorExecutor build.platform MonitorRunner)) :=
  if engine.jobs.length ≠ 0 then
    let executor := createExecutor build options engine states
    match executor.refusal, surroundings.threadError with
    | some error, _ => .error (.executorFailed error)
    | none, some what => .error (.executorFailed (MonitorExecutor.startErrorText what))
    | none, none => .ok (some executor.beginStart)
  else .ok none

/-- The API serves this machine only. -/
def unboundApiText (options : CommandLine) : Bytes :=
  bytes "Unable to bind HTTP status server to 127.0.0.1:" ++ decimal options.apiPort.toNat

def startApi (options : CommandLine) : Except StartFailure (Option StatusApi) :=
  if options.apiEnabled then
    let token := options.apiToken.getD (generateBearerToken surroundings.randomWords)
    if surroundings.apiBinds then
      .ok (some { library := surroundings.library, bearerToken := token })
    else
      .error (.apiFailed (unboundApiText options))
  else .ok none

def start (arguments : List Bytes) : Except StartFailure (Started build) := do
  ignoreSigpipe build surroundings
  let options ← loadOptions build surroundings arguments
  let config ← loadConfig build round surroundings options.configPath
  startWindow surroundings options
  let webDisplay ← startDisplay surroundings options config.display
  let states ← startStates surroundings config
  let engine ← startMonitors build surroundings config.monitors
  let executor ← startExecutor build surroundings options engine states
  let api ← startApi surroundings options
  return { options, config, webDisplay, states, engine, executor, api }

/-- What the loop is given. -/
def setting (calendar : Calendar) (started : Started build) : SimulatorSetting where
  round := round
  config := started.config
  calendar := calendar
  runFor := started.options.runFor
  startedAt := surroundings.startedAt

/-- The simulator as it enters its loop. -/
def enter (started : Started build) : SimulatorRun where
  simulator :=
    { states := started.states
      webDisplay := started.webDisplay
      frame := Frame.create started.config.display.width started.config.display.height
      nextFrame := surroundings.startedAt
      nextTransition := surroundings.startedAt + transitionPeriod }
  clock := surroundings.startedAt

end Program

end PixelStatus
