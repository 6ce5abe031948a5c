import DebugBridge.Failure
import DebugBridge.Text.Blank
import DebugBridge.Text.Quoted
import DebugBridge.Text.Utf8

/-!
# Banners

A device introduces itself as `type:serial:key=value;key=value;…`, usually with a NUL at the end.
Only the first two colons separate; the values of the properties may hold colons, commas and
equals signs. Of two values for one key the later one counts. The property `features` has to be
there; it lists names separated by commas.
-/

namespace DebugBridge

/-- What a device says about itself. -/
structure Banner where
  /-- The whole text, without the NULs at its end. -/
  raw : String
  systemType : String
  serial : String
  /-- Keys and values in the order in which they are given. -/
  properties : List (String × String)
  /-- The names in the property `features`, each of them once. -/
  features : List String
  deriving DecidableEq, Repr

namespace Banner

/-- Cuts a text at the first occurrence of a character, which belongs to neither half. -/
def cutAt? (separator : Char) : List Char → Option (List Char × List Char)
  | [] => none
  | char :: rest =>
    if char = separator then some ([], rest)
    else (cutAt? separator rest).map fun (front, back) => (char :: front, back)

/-- The key and the value of one entry; an entry without an equals sign has none. -/
def entry? (entry : List Char) : Option (String × String) :=
  (cutAt? '=' entry).map fun (key, value) => (String.ofList key, String.ofList value)

/-- The properties in a text of entries separated by semicolons. -/
def entries (text : List Char) : List (String × String) :=
  (text.splitOn ';').filterMap entry?

/-- The value of the last entry with a key. -/
def lookup? (key : String) (properties : List (String × String)) : Option String :=
  properties.reverse.lookup key

/-- The names in a list separated by commas, each of them once; empty places name nothing. -/
def names (list : String) : List String :=
  (((list.toList.splitOn ',').filter (· ≠ [])).map String.ofList).eraseDups

/-- Reads a banner. -/
def parse (payload : Bytes) : Except Failure Banner :=
  let chars := Text.dropTrailingNuls (Utf8.lossyChars payload)
  let raw := String.ofList chars
  let malformed :=
    Failure.invalidBanner ("Expected '<type>:<serial>:<properties>', got " ++ Text.quote raw)
  match cutAt? ':' chars with
  | none => .error malformed
  | some (systemType, rest) =>
    match cutAt? ':' rest with
    | none => .error malformed
    | some (serial, rest) =>
      let properties := entries rest
      match lookup? "features" properties with
      | none =>
        .error (.invalidBanner ("Connect banner has no features key: " ++ Text.quote raw))
      | some features =>
        .ok {
          raw
          systemType := String.ofList systemType
          serial := String.ofList serial
          properties
          features := names features }

/-- The value of a property. -/
def property? (key : String) (banner : Banner) : Option String :=
  lookup? key banner.properties

/-- Whether the device has a feature. -/
def supports (feature : String) (banner : Banner) : Bool :=
  banner.features.contains feature

end Banner
end DebugBridge
