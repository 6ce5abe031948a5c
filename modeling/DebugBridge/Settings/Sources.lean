import DebugBridge.Files
import DebugBridge.Settings.Reading
import DebugBridge.Settings.Writing

/-!
# Where settings come from

Settings are read from a file and written to one, or taken from the environment. Variables that
are not set leave the defaults, and so do times that are not numbers of 64 bits.
-/

namespace DebugBridge

/-- The values of variables, by their names. -/
abbrev Environment := String → Option String

namespace Settings

/-- A fault of the file that settings are kept in. -/
def fileFailure (action : String) (fault : FileFault) : Failure :=
  .config s!"Failed to {action} config file: {fault.message}"

/-- Reads settings from a file. -/
def load (path : String) (files : Files) : Except Failure Settings := do
  let entry ← (files.find path).mapError (fileFailure "open")
  let text ← (entry.content >>= Files.decodeText).mapError (fileFailure "read")
  parse text

/-- Writes settings to a file. -/
def save (settings : Settings) (path : String) (files : Files) : Except Failure Files :=
  match settings.write? with
  | none => .error (.config "Failed to serialize config")
  | some text => (files.write path (Utf8.encode text)).mapError (fileFailure "write")

/-- The number of milliseconds that a variable gives. -/
def timeOf? (text : String) : Option Nat := do
  let count ← Text.decimal? text.toList
  if count < UInt64.size then return milliseconds count else none

/-- The defaults, changed by what the environment says. -/
def ofEnvironment (environment : Environment) : Settings :=
  let client : ClientSettings := {}
  let time (name : String) (absent : Nat) : Nat :=
    ((environment name).bind timeOf?).getD absent
  { client := {
      address := (environment "ADB_TRANSPORT_ADDRESS").getD client.address
      connectTimeout := time "ADB_TRANSPORT_CONNECT_TIMEOUT_MS" client.connectTimeout
      socketTimeout := time "ADB_TRANSPORT_SOCKET_TIMEOUT_MS" client.socketTimeout }
    keys := { privateKeyPath := environment "ADB_TRANSPORT_PRIVATE_KEY" } }

end Settings
end DebugBridge
