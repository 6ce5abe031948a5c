import DebugBridge.Failure
import DebugBridge.Path
import DebugBridge.Text.Digits

/-!
# Settings

What a host is told before it connects: where the device is and how long to wait for it, where
the keys are, and how to log. Every setting has a default. Settings can be of the right form and
still make no sense; `Settings.problems` lists what is wrong with them.
-/

namespace DebugBridge

/-- Where the device is and how long to wait for it. Times are in microseconds, and zero means
without limit. -/
structure ClientSettings where
  address : String := "127.0.0.1:5555"
  connectTimeout : Nat := 10000000
  socketTimeout : Nat := 0
  deriving DecidableEq, Repr

/-- Where the keys are. -/
structure KeySettings where
  privateKeyPath : Option String := none
  publicKeyPath : Option String := none
  /-- Whether to make a new pair when there is no private key. -/
  generateIfMissing : Bool := true
  deriving DecidableEq, Repr

/-- How much to log, from the least to the most. -/
inductive LogLevel where
  | error
  | warn
  | info
  | debug
  | trace
  deriving DecidableEq, Repr

/-- How to log. -/
structure LogSettings where
  appName : String := "adb-transport"
  level : LogLevel := .info
  jsonFormat : Bool := false
  deriving DecidableEq, Repr

/-- All settings of a host. -/
structure Settings where
  client : ClientSettings := {}
  keys : KeySettings := {}
  logging : LogSettings := {}
  deriving DecidableEq, Repr

/-- What can be wrong with settings. -/
inductive SettingsProblem where
  | addressEmpty
  | addressWithoutPort (address : String)
  | connectTimeoutTooShort
  | socketTimeoutTooShort
  | privateKeyPathEmpty
  | keyPathsEqual
  | appNameEmpty
  | appNameTooLong (size : Nat)
  deriving DecidableEq, Repr

/-- The wording of a problem. -/
def SettingsProblem.message : SettingsProblem → String
  | addressEmpty => "Client address cannot be empty"
  | addressWithoutPort address =>
    s!"Invalid client address format: '{address}' (expected format: 'host:5555')"
  | connectTimeoutTooShort => "Connect timeout too short (minimum: 100ms)"
  | socketTimeoutTooShort => "Socket timeout too short (minimum: 10ms)"
  | privateKeyPathEmpty => "private_key_path cannot be empty when set"
  | keyPathsEqual => "Private and public key paths must differ"
  | appNameEmpty => "Application name cannot be empty"
  | appNameTooLong size => s!"Application name too long: {size} characters (maximum: 64)"

/-- Milliseconds in microseconds. -/
def milliseconds (count : Nat) : Nat := 1000 * count

/-- A list with one member or none. -/
def SettingsProblem.when (problem : SettingsProblem) (present : Bool) : List SettingsProblem :=
  if present then [problem] else []

namespace ClientSettings

/-- The shortest limit for connecting, other than none. -/
def minConnectTimeout : Nat := milliseconds 100

/-- The shortest limit for reading and writing, other than none. -/
def minSocketTimeout : Nat := milliseconds 10

open SettingsProblem in
/-- What is wrong with the settings of a client. -/
def problems (settings : ClientSettings) : List SettingsProblem :=
  addressEmpty.when (settings.address = "") ++
    (addressWithoutPort settings.address).when
      (settings.address ≠ "" ∧ ':' ∉ settings.address.toList) ++
    connectTimeoutTooShort.when
      (settings.connectTimeout ≠ 0 ∧ settings.connectTimeout < minConnectTimeout) ++
    socketTimeoutTooShort.when
      (settings.socketTimeout ≠ 0 ∧ settings.socketTimeout < minSocketTimeout)

end ClientSettings

namespace KeySettings

open SettingsProblem in
/-- What is wrong with the settings for keys. -/
def problems (settings : KeySettings) : List SettingsProblem :=
  privateKeyPathEmpty.when (settings.privateKeyPath = some "") ++
    keyPathsEqual.when
      (settings.privateKeyPath ≠ none ∧ settings.privateKeyPath = settings.publicKeyPath)

/-- The file of the private key. If none is given, it is in the home directory. -/
def privateKeyFile (home : Option String) (settings : KeySettings) : Except Failure String :=
  match settings.privateKeyPath, home with
  | some path, _ => .ok path
  | none, some home => .ok (Path.join (Path.join home ".android") "adbkey")
  | none, none => .error (.config "HOME is not set")

/-- The file of the public key. If none is given, it is beside the private key. -/
def publicKeyFile (home : Option String) (settings : KeySettings) : Except Failure String :=
  match settings.publicKeyPath with
  | some path => .ok path
  | none => (settings.privateKeyFile home).map (· ++ ".pub")

end KeySettings

namespace LogLevel

/-- All levels, in order. -/
def all : List LogLevel :=
  [error, warn, info, debug, trace]

/-- The name of a level. -/
def name : LogLevel → String
  | error => "error"
  | warn => "warn"
  | info => "info"
  | debug => "debug"
  | trace => "trace"

/-- Reads a level: its name, in which upper and lower case count as the same, or its number,
counted from one. -/
def parse? (text : String) : Option LogLevel :=
  match Text.decimal? text.toList with
  | some 0 => none
  | some (number + 1) => all[number]?
  | none => all.find? (·.name == text.map Char.toLower)

end LogLevel

namespace LogSettings

/-- The longest name of an application, in bytes. -/
def maxAppName : Nat := 64

open SettingsProblem in
/-- What is wrong with the settings for logging. -/
def problems (settings : LogSettings) : List SettingsProblem :=
  appNameEmpty.when (settings.appName = "") ++
    (appNameTooLong settings.appName.utf8ByteSize).when
      (maxAppName < settings.appName.utf8ByteSize)

end LogSettings

namespace Settings

/-- What is wrong with settings. -/
def problems (settings : Settings) : List SettingsProblem :=
  settings.client.problems ++ settings.keys.problems ++ settings.logging.problems

/-- Refuses settings with problems, and names them all. -/
def check (settings : Settings) : Except Failure Unit :=
  match settings.problems with
  | [] => .ok ()
  | problems =>
    .error (.config (String.intercalate "\n  - "
      ("Configuration validation failed:" :: problems.map SettingsProblem.message)))

end Settings
end DebugBridge
