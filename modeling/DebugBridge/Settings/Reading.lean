import DebugBridge.Settings.Basic
import DebugBridge.Toml.Document

/-!
# Reading settings

Settings are written in three sections, each of which may be missing. A section that is there has
to be complete, apart from the paths of the keys. Instead of a table it may be a list that gives
the values in their order. What no setting is named after is ignored.
-/

namespace DebugBridge

open Toml

/-- The entries of a section. -/
structure Section where
  /-- The value of a setting, found by its name and its place. -/
  value? : String → Nat → Option Value

namespace Section

/-- A value as a section. A list has to have a value for each of the settings. -/
def ofValue? (size : Nat) : Value → Option Section
  | .table _ entries => some ⟨fun name _ => entries.lookup name⟩
  | .list items => if size ≤ items.length then some ⟨fun _ place => items[place]?⟩ else none
  | .tables rows =>
    if size ≤ rows.length then some ⟨fun _ place => rows[place]?.map (.table .header)⟩ else none
  | _ => none

/-- Reads a section of a document, or gives the default when it is missing. -/
def read? {Part : Type} (name : String) (size : Nat) (absent : Part)
    (read : Section → Option Part) (document : Entries) : Option Part :=
  match document.lookup name with
  | none => some absent
  | some value => (ofValue? size value).bind read

/-- A value as a text. -/
def textOf? : Value → Option String
  | .text content => some content
  | _ => none

/-- A setting that is a text. -/
def text? (found : Section) (name : String) (place : Nat) : Option String :=
  (found.value? name place).bind textOf?

/-- A setting that is a text and may be missing. -/
def path? (found : Section) (name : String) (place : Nat) : Option (Option String) :=
  match found.value? name place with
  | none => some none
  | some value => (textOf? value).map some

/-- A setting that holds or does not. -/
def truth? (found : Section) (name : String) (place : Nat) : Option Bool :=
  match found.value? name place with
  | some (.truth holds) => some holds
  | _ => none

/-- A setting that is a time, given in milliseconds. -/
def time? (found : Section) (name : String) (place : Nat) : Option Nat :=
  match found.value? name place with
  | some (.integer (.ofNat count)) => some (milliseconds count)
  | _ => none

end Section

namespace Settings

/-- What the section about connecting sets. -/
def clientOf? (found : Section) : Option ClientSettings := do
  return {
    address := ← found.text? "address" 0
    connectTimeout := ← found.time? "connect_timeout" 1
    socketTimeout := ← found.time? "socket_timeout" 2 }

/-- What the section about keys sets. -/
def keysOf? (found : Section) : Option KeySettings := do
  return {
    privateKeyPath := ← found.path? "private_key_path" 0
    publicKeyPath := ← found.path? "public_key_path" 1
    generateIfMissing := ← found.truth? "generate_if_missing" 2 }

/-- What the section about logging sets. -/
def loggingOf? (found : Section) : Option LogSettings := do
  return {
    appName := ← found.text? "app_name" 0
    level := ← LogLevel.parse? (← found.text? "log_level" 1)
    jsonFormat := ← found.truth? "json_format" 2 }

/-- The settings in a document. -/
def ofDocument? (document : Entries) : Option Settings := do
  return {
    client := ← Section.read? "client" 3 {} clientOf? document
    keys := ← Section.read? "auth" 3 {} keysOf? document
    logging := ← Section.read? "logging" 3 {} loggingOf? document }

/-- The settings that a text gives. -/
def parse (text : String) : Except Failure Settings :=
  match (Toml.parse? text).bind ofDocument? with
  | some settings => .ok settings
  | none => .error (.config "Failed to parse TOML")

end Settings
end DebugBridge
