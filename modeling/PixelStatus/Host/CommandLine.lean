/-
# The command line

The simulator reads its arguments in one pass, each option over the ones before
it. Beside the pass stands the language that it reads: an argument list spells a
list of settings, one behind the other.
-/

import PixelStatus.Core.Config.Fields
import PixelStatus.Core.DigitValues
import PixelStatus.Host.HttpDisplayDriver
import PixelStatus.Host.MonitorExecutor

namespace PixelStatus

structure CommandLine where
  configPath : Bytes
  runFor : Option Duration := none
  apiPort : UInt16 := 8787
  apiToken : Option Bytes := none
  apiEnabled : Bool := true
  webDisplayBind : Bytes := bytes "127.0.0.1"
  webDisplayPort : UInt16 := 8788
  webRefreshInterval : Duration := 100
  monitorWorkerCount : Nat := 2
  webDisplayEnabled : Bool := true
  windowEnabled : Bool

namespace CommandLine

/-! ## Options that take the argument behind them -/

variable (options : CommandLine) (value : Bytes)

/-- An unsigned number from one to a bound. -/
def readUnsigned (high : Nat) (value : Bytes) : Option Nat :=
  match fromCharsUnsigned value with
  | none => none
  | some number => if number = 0 ∨ number > high then none else some number

def readRunFor : Option CommandLine :=
  match fromChars value with
  | none => none
  | some milliseconds =>
      if milliseconds ≤ 0 then none else some { options with runFor := some milliseconds }

def readApiPort : Option CommandLine :=
  (readUnsigned 65535 value).map fun port => { options with apiPort := UInt16.ofNat port }

def readApiToken : Option CommandLine :=
  if value = [] then none else some { options with apiToken := some value }

def readWebDisplayPort : Option CommandLine :=
  (readUnsigned 65535 value).map fun port => { options with webDisplayPort := UInt16.ofNat port }

def readWebDisplayBind : Option CommandLine :=
  if value = [] then none else some { options with webDisplayBind := value }

def readWebRefresh : Option CommandLine :=
  match fromChars value with
  | none => none
  | some milliseconds =>
      if milliseconds < 16 ∨ milliseconds > 5 * 60 * 1000 then none
      else some { options with webRefreshInterval := milliseconds }

def readMonitorWorkers : Option CommandLine :=
  (readUnsigned Host.maximumMonitorWorkerCount value).map fun count =>
    { options with monitorWorkerCount := count }

/-- What reads the argument behind this one, if this one takes an argument. -/
def valueReader (argument : Bytes) : Option (CommandLine → Bytes → Option CommandLine) :=
  if argument = bytes "--run-for-ms" then some readRunFor
  else if argument = bytes "--api-port" then some readApiPort
  else if argument = bytes "--api-token" then some readApiToken
  else if argument = bytes "--web-display-port" then some readWebDisplayPort
  else if argument = bytes "--web-display-bind" then some readWebDisplayBind
  else if argument = bytes "--web-refresh-ms" then some readWebRefresh
  else if argument = bytes "--monitor-workers" then some readMonitorWorkers
  else none

/-! ## The pass -/

/-- What an argument does that stands alone. -/
def flag (argument : Bytes) : Option (CommandLine → CommandLine) :=
  if argument = bytes "--no-api" then some fun options => { options with apiEnabled := false }
  else if argument = bytes "--no-web-display" then
    some fun options => { options with webDisplayEnabled := false }
  else if argument = bytes "--no-window" then
    some fun options => { options with windowEnabled := false }
  else none

/-- Read what is left, given whether a path was read. -/
def parseArguments : List Bytes → CommandLine → Bool → Option CommandLine
  | [], options, _ => some options
  | argument :: rest, options, configWasSet =>
      match valueReader argument with
      | some read =>
          match rest with
          | [] => none
          | value :: rest =>
              match read options value with
              | none => none
              | some options => parseArguments rest options configWasSet
      | none =>
          match flag argument with
          | some set => parseArguments rest (set options) configWasSet
          | none =>
              if configWasSet || argument.head? = some 0x2D then none
              else parseArguments rest { options with configPath := argument } true

end CommandLine

/-- What an empty command line leaves, on each platform. -/
def defaultCommandLine (platform : Platform) (defaultConfigPath : Bytes) : CommandLine where
  configPath := defaultConfigPath
  windowEnabled := platform = .windows

def parseCommandLine (platform : Platform) (defaultConfigPath : Bytes) (arguments : List Bytes) :
    Option CommandLine :=
  CommandLine.parseArguments arguments (defaultCommandLine platform defaultConfigPath) false

/-! ## The language -/

/-- A setting that the command line can make. -/
inductive Setting
  | runFor (milliseconds : Nat)
  | apiPort (port : Nat)
  | apiToken (token : Bytes)
  | webDisplayPort (port : Nat)
  | webDisplayBind (address : Bytes)
  | webRefresh (milliseconds : Nat)
  | monitorWorkers (count : Nat)
  | noApi
  | noWebDisplay
  | noWindow
  | configPath (path : Bytes)

/-- Digits that denote a number between two bounds. -/
structure NumberText (low high : Nat) (text : Bytes) (number : Nat) : Prop where
  digits : IsDigits text
  value : number = decimalValue text
  between : low ≤ number ∧ number ≤ high

namespace Setting

def apply (options : CommandLine) : Setting → CommandLine
  | .runFor milliseconds => { options with runFor := some milliseconds }
  | .apiPort port => { options with apiPort := UInt16.ofNat port }
  | .apiToken token => { options with apiToken := some token }
  | .webDisplayPort port => { options with webDisplayPort := UInt16.ofNat port }
  | .webDisplayBind address => { options with webDisplayBind := address }
  | .webRefresh milliseconds => { options with webRefreshInterval := milliseconds }
  | .monitorWorkers count => { options with monitorWorkerCount := count }
  | .noApi => { options with apiEnabled := false }
  | .noWebDisplay => { options with webDisplayEnabled := false }
  | .noWindow => { options with windowEnabled := false }
  | .configPath path => { options with configPath := path }

def isPath : Setting → Bool
  | .configPath _ => true
  | _ => false

/-- The arguments that name a setting which takes a value. -/
inductive ValueText : Setting → Bytes → Bytes → Prop
  | runFor {text : Bytes} {number : Nat} (spelled : NumberText 1 (2 ^ 63 - 1) text number) :
      ValueText (.runFor number) (bytes "--run-for-ms") text
  | apiPort {text : Bytes} {number : Nat} (spelled : NumberText 1 65535 text number) :
      ValueText (.apiPort number) (bytes "--api-port") text
  | apiToken {text : Bytes} (nonempty : text ≠ []) :
      ValueText (.apiToken text) (bytes "--api-token") text
  | webDisplayPort {text : Bytes} {number : Nat} (spelled : NumberText 1 65535 text number) :
      ValueText (.webDisplayPort number) (bytes "--web-display-port") text
  | webDisplayBind {text : Bytes} (nonempty : text ≠ []) :
      ValueText (.webDisplayBind text) (bytes "--web-display-bind") text
  | webRefresh {text : Bytes} {number : Nat} (spelled : NumberText 16 300000 text number) :
      ValueText (.webRefresh number) (bytes "--web-refresh-ms") text
  | monitorWorkers {text : Bytes} {number : Nat} (spelled : NumberText 1 8 text number) :
      ValueText (.monitorWorkers number) (bytes "--monitor-workers") text

/-- The argument that makes a setting by itself. A path is whatever begins with no
minus sign, the empty one too. -/
inductive WordText : Setting → Bytes → Prop
  | noApi : WordText .noApi (bytes "--no-api")
  | noWebDisplay : WordText .noWebDisplay (bytes "--no-web-display")
  | noWindow : WordText .noWindow (bytes "--no-window")
  | configPath {path : Bytes} (plain : path.head? ≠ some 0x2D) :
      WordText (.configPath path) path

end Setting

/-- The arguments spell the settings, in their order. -/
inductive CommandLineText : List Bytes → List Setting → Prop
  | done : CommandLineText [] []
  | value {setting : Setting} {option text : Bytes} {rest : List Bytes} {settings : List Setting}
      (spelled : setting.ValueText option text) (behind : CommandLineText rest settings) :
      CommandLineText (option :: text :: rest) (setting :: settings)
  | word {setting : Setting} {argument : Bytes} {rest : List Bytes} {settings : List Setting}
      (spelled : setting.WordText argument) (behind : CommandLineText rest settings) :
      CommandLineText (argument :: rest) (setting :: settings)

end PixelStatus
