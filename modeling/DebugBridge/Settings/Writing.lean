import DebugBridge.Settings.Basic
import DebugBridge.Toml.Quoted

/-!
# Writing settings

Every setting that has a value is written under the heading of its section, one on a line, with
an empty line between sections.
-/

namespace DebugBridge

namespace Settings

open Toml

/-- A time as it is written, in milliseconds. -/
def time? (time : Nat) : Option String :=
  let count := time / milliseconds 1
  if count ≤ maxInteger then some (toString count) else none

/-- A section: its name, and its settings as they are written. -/
def writeSection (name : String) (settings : List (String × String)) : String :=
  s!"[{name}]\n" ++ String.join (settings.map fun (key, value) => s!"{key} = {value}\n")

/-- The text that gives these settings, unless a time is too long for it. -/
def write? (settings : Settings) : Option String := do
  let keys := settings.keys
  let path (name : String) (value : Option String) : List (String × String) :=
    value.toList.map fun value => (name, quoteText value)
  return String.intercalate "\n" [
    writeSection "client" [
      ("address", quoteText settings.client.address),
      ("connect_timeout", ← time? settings.client.connectTimeout),
      ("socket_timeout", ← time? settings.client.socketTimeout)],
    writeSection "auth" (
      path "private_key_path" keys.privateKeyPath ++
      path "public_key_path" keys.publicKeyPath ++
      [("generate_if_missing", toString keys.generateIfMissing)]),
    writeSection "logging" [
      ("app_name", quoteText settings.logging.appName),
      ("log_level", quoteText settings.logging.level.name),
      ("json_format", toString settings.logging.jsonFormat)]]

/-- A text that shows how settings are written: it gives every setting its default. -/
def example? : Option String :=
  write? {}

end Settings
end DebugBridge
