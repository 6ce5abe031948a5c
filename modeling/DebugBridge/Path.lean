/-!
# Paths

A path is a text with slashes. Different texts may write the same path: several slashes count as
one, a slash at the end says nothing, and neither does a single dot behind the first place.
`Path.parts` is what the text stands for, so that `Path.Same` compares meanings.
-/

namespace DebugBridge.Path

/-- What a path is made of. -/
inductive Part where
  /-- The slash that an absolute path begins with. -/
  | root
  /-- A dot at the beginning. -/
  | here
  /-- Two dots: one directory up. -/
  | up
  | name (chars : List Char)
  deriving DecidableEq, Repr

/-- The texts between the slashes. -/
def pieces (path : String) : List (List Char) :=
  path.toList.splitOn '/'

/-- What the beginning of a path says by itself. -/
def front : List (List Char) → List Part
  | [] :: _ :: _ => [.root]
  | ['.'] :: _ => [.here]
  | _ => []

/-- Whether a piece says something wherever it stands. -/
def isSolid (piece : List Char) : Bool :=
  piece != [] && piece != ['.']

/-- The part that a piece stands for. -/
def partOf (piece : List Char) : Part :=
  if piece = ['.', '.'] then .up else .name piece

/-- What a path is made of, in order. -/
def parts (path : String) : List Part :=
  front (pieces path) ++ ((pieces path).filter isSolid).map partOf

/-- Whether two texts write the same path. -/
def Same (left right : String) : Prop :=
  parts left = parts right

instance (left right : String) : Decidable (Same left right) :=
  inferInstanceAs (Decidable (parts left = parts right))

/-- Whether a path starts from the root. -/
def isAbsolute (path : String) : Bool :=
  path.toList.head? = some '/'

/-- A path inside a directory. An absolute path stays what it is. -/
def join (directory path : String) : String :=
  if isAbsolute path then path
  else if directory.toList.getLast?.all (· == '/') then directory ++ path
  else directory ++ "/" ++ path

end DebugBridge.Path
