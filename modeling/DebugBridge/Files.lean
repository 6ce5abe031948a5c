import DebugBridge.Path
import DebugBridge.Text.Utf8

/-!
# Files

The files that a program can see, below the directory it works in. Everything above that
directory is taken to hold no file. A path is followed piece by piece, and each piece has to be
found in a directory. Reading and writing fail for the reasons that `FileFault` lists.
-/

namespace DebugBridge

/-- Why a file cannot be read or written. -/
inductive FileFault where
  | missing
  | isDirectory
  | notDirectory
  | nameTooLong
  | hasNul
  | notText
  deriving DecidableEq, Repr

/-- The wording of a fault. -/
def FileFault.message : FileFault → String
  | missing => "No such file or directory (os error 2)"
  | isDirectory => "Is a directory (os error 21)"
  | notDirectory => "Not a directory (os error 20)"
  | nameTooLong => "File name too long (os error 36)"
  | hasNul => "file name contained an unexpected NUL byte"
  | notText => "stream did not contain valid UTF-8"

/-- A file with its content, or a directory. -/
inductive FileEntry where
  | file (content : Bytes)
  | directory
  deriving DecidableEq, Repr

/-- The content, which only a file has. -/
def FileEntry.content : FileEntry → Except FileFault Bytes
  | file content => .ok content
  | directory => .error .isDirectory

/-- Files and directories by their names, outermost first. The directories around an entry need
not be listed. -/
structure Files where
  listed : List (List (List Char) × FileEntry) := []
  deriving DecidableEq, Repr

namespace Files

/-- A place that a path can lead to. -/
inductive Place where
  /-- A directory above the files. -/
  | above
  | inside (names : List (List Char))
  deriving DecidableEq, Repr

/-- The place one directory up. -/
def Place.up : Place → Place
  | above => above
  | inside names => if names = [] then above else inside names.dropLast

/-- The longest name, in bytes. -/
def maxName : Nat := 255

/-- The longest path, in bytes. -/
def maxPath : Nat := 4095

/-- What is at a place. -/
def entry? (files : Files) : Place → Option FileEntry
  | .above => some .directory
  | .inside names =>
    (files.listed.lookup names).or
      (if names = [] ∨ files.listed.any (names.isPrefixOf ·.1) then some .directory else none)

/-- The place that pieces of a path lead to. Nothing has to be there. -/
def follow (files : Files) : List (List Char) → Place → Except FileFault Place
  | [], place => .ok place
  | piece :: rest, place =>
    match files.entry? place with
    | none => .error .missing
    | some (.file _) => .error .notDirectory
    | some .directory =>
      if !Path.isSolid piece then follow files rest place
      else if Path.partOf piece = .up then follow files rest place.up
      else if maxName < (Utf8.encodeChars piece).length then .error .nameTooLong
      else
        match place with
        | .above => .error .missing
        | .inside names => follow files rest (.inside (names ++ [piece]))

/-- The place that a path leads to with some of its pieces. -/
def locate (path : String) (pieces : List (List Char)) (files : Files) : Except FileFault Place :=
  if path.toList.contains '\x00' then .error .hasNul
  else if path = "" then .error .missing
  else if maxPath < path.utf8ByteSize then .error .nameTooLong
  else files.follow pieces (if Path.isAbsolute path then .above else .inside [])

/-- Finds a file or a directory. -/
def find (path : String) (files : Files) : Except FileFault FileEntry := do
  match files.entry? (← files.locate path (Path.pieces path)) with
  | some entry => return entry
  | none => throw .missing

/-- Whether there is something at a path. -/
def contains (path : String) (files : Files) : Bool :=
  (files.find path).isOk

/-- The content of a file. -/
def read (path : String) (files : Files) : Except FileFault Bytes := do
  (← files.find path).content

/-- Bytes that have to be text. -/
def decodeText (bytes : Bytes) : Except FileFault String :=
  match Utf8.decode? bytes with
  | some text => .ok text
  | none => .error .notText

/-- Adds an entry in place of what was there. -/
def put (names : List (List Char)) (entry : FileEntry) (files : Files) : Files :=
  { listed := (names, entry) :: files.listed.filter (·.1 != names) }

/-- Writes a file. What was in it is lost; the directory around it has to be there. A path with a
slash at its end is not a path of a file, whatever is there. -/
def write (path : String) (content : Bytes) (files : Files) : Except FileFault Files := do
  let pieces := Path.pieces path
  let named := (pieces.reverse.dropWhile (· == [])).reverse
  if named ≠ pieces then
    let _ ← files.locate path (named.dropLast ++ [[]])
    throw .isDirectory
  let place ← files.locate path named
  if files.entry? place = some .directory then throw .isDirectory
  match place with
  | .above => throw .isDirectory
  | .inside names => return files.put names (.file content)

/-- Adds an entry at the end of a path that begins in a directory. The directories on the way are
there from then on. -/
def add (entry : FileEntry) : List (List Char) → List (List Char) → Files → Files
  | [], names, files => files.put names entry
  | piece :: rest, names, files =>
    if !Path.isSolid piece then add entry rest names files
    else if Path.partOf piece = .up then add entry rest names.dropLast (files.put names .directory)
    else add entry rest (names ++ [piece]) files

/-- Files under the given paths. -/
def ofList (entries : List (String × FileEntry)) : Files :=
  entries.foldl (fun files (path, entry) => files.add entry (Path.pieces path) []) {}

end Files
end DebugBridge
