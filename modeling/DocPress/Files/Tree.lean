import DocPress.Files.Path
import DocPress.Text.Utf8

/-!
# File trees

* `Node` — a file with its bytes or a directory; `find?`, `put`, `erase` — access by location, which
  is the list of names from the root.
* `Error` — why a path cannot be used; `Error.message` — its wording.
* `Disk` — a tree and the current directory.
* `locate`, `read`, `readText`, `exists`, `isFile`, `isDirectory`, `entries` — looking at disk.
* `write` — a file replaced or created.
-/

namespace DocPress.Files

/-- The name of a file or directory: bytes, which are mostly but not always UTF-8. -/
abbrev Name := List UInt8

/-- A file with its content, or a directory with its entries in ascending order of names. -/
inductive Node where
  | file (content : List UInt8)
  | directory (entries : List (Name × Node))

/-- The order of names: by their bytes. -/
def nameLess : Name → Name → Bool
  | _, [] => false
  | [], _ :: _ => true
  | a :: as, b :: bs => if a = b then nameLess as bs else a < b

/-- Entries with one more, which replaces an entry of the same name. -/
def insertEntry (name : Name) (node : Node) : List (Name × Node) → List (Name × Node)
  | [] => [(name, node)]
  | (n, x) :: rest =>
    if name = n then (name, node) :: rest
    else if nameLess name n then (name, node) :: (n, x) :: rest
    else (n, x) :: insertEntry name node rest

namespace Node

/-- The entries of a directory; a file has none. -/
def entries : Node → List (Name × Node)
  | .file _ => []
  | .directory entries => entries

/-- What is at a location. -/
def find? (node : Node) : List Name → Option Node
  | [] => some node
  | name :: rest =>
    match node.entries.lookup name with
    | some inner => inner.find? rest
    | none => none

/-- A tree with something put at a location. Directories on the way are created, and a file on the
way gives place to one. -/
def put (node content : Node) : List Name → Node
  | [] => content
  | name :: rest =>
    let inner := (node.entries.lookup name).getD (.directory [])
    .directory (insertEntry name (inner.put content rest) node.entries)

/-- A tree without what is at a location. -/
def erase (node : Node) : List Name → Node
  | [] => .directory []
  | [name] => .directory (node.entries.filter fun entry => entry.1 != name)
  | name :: rest =>
    match node.entries.lookup name with
    | some inner => .directory (insertEntry name (inner.erase rest) node.entries)
    | none => node

end Node

/-- Why a path cannot be used. -/
inductive Error where
  | notFound
  | notADirectory
  | isADirectory
  /-- The bytes of a file are not text. -/
  | invalidText
  deriving DecidableEq, Repr

/-- The wording of an error. -/
def Error.message : Error → String
  | .notFound => "No such file or directory (os error 2)"
  | .notADirectory => "Not a directory (os error 20)"
  | .isADirectory => "Is a directory (os error 21)"
  | .invalidText => "stream did not contain valid UTF-8"

/-- All files, and the path of the current directory from the root. -/
structure Disk where
  root : Node
  current : String

/-- The pieces of the path from the root that a path stands for. -/
def Disk.pieces (disk : Disk) (path : String) : List (List Char) :=
  (anchored (join disk.current path).toList).2

/-- The location that pieces lead to from a location. Each piece asks for a directory to start from,
and the piece `..` leads upwards. -/
def walk (root : Node) : List Name → List (List Char) → Except Error (List Name)
  | place, [] => .ok place
  | place, piece :: rest =>
    match root.find? place with
    | none => .error .notFound
    | some (.file _) => .error .notADirectory
    | some (.directory entries) =>
      if isVoid piece then walk root place rest
      else if piece = ['.', '.'] then walk root place.dropLast rest
      else
        let name := Text.Utf8.encode piece
        match entries.lookup name with
        | some _ => walk root (place ++ [name]) rest
        | none => .error .notFound

/-- The location that a path leads to. -/
def Disk.locate (disk : Disk) (path : String) : Except Error (List Name) :=
  if path.isEmpty then .error .notFound else walk disk.root [] (disk.pieces path)

/-- What a path leads to. -/
def Disk.node (disk : Disk) (path : String) : Except Error Node := do
  let place ← disk.locate path
  match disk.root.find? place with
  | some node => pure node
  | none => .error .notFound

/-- Whether a path leads anywhere. -/
def Disk.exists (disk : Disk) (path : String) : Bool := (disk.node path).isOk

/-- Whether a path leads to a file. -/
def Disk.isFile (disk : Disk) (path : String) : Bool :=
  match disk.node path with
  | .ok (.file _) => true
  | _ => false

/-- Whether a path leads to a directory. -/
def Disk.isDirectory (disk : Disk) (path : String) : Bool :=
  match disk.node path with
  | .ok (.directory _) => true
  | _ => false

/-- The names in a directory, in ascending order; none if there is no such directory. -/
def Disk.names (disk : Disk) (path : String) : List Name :=
  match disk.node path with
  | .ok (.directory entries) => entries.map fun entry => entry.1
  | _ => []

/-- The bytes of a file. -/
def Disk.read (disk : Disk) (path : String) : Except Error (List UInt8) := do
  match ← disk.node path with
  | .file content => pure content
  | .directory _ => .error .isADirectory

/-- The text of a file. -/
def Disk.readText (disk : Disk) (path : String) : Except Error String := do
  match Text.Utf8.decode? (← disk.read path) with
  | some text => pure text
  | none => .error .invalidText

/-- Where a file of this path is written: its location, if the directory of it exists, and if the
path can be a file's. -/
def Disk.target (disk : Disk) (path : String) : Except Error (List Name) :=
  if path.isEmpty then .error .notFound
  else do
    let pieces := disk.pieces path
    let named := (pieces.reverse.dropWhile (· = [])).reverse
    let place ← walk disk.root [] named.dropLast
    match named.getLast?, disk.root.find? place with
    | none, _ => .error .isADirectory
    | some _, none => .error .notFound
    | some _, some (.file _) => .error .notADirectory
    | some name, some (.directory entries) =>
      if named.length < pieces.length || isVoid name || name = ['.', '.'] then
        .error .isADirectory
      else
        let name := Text.Utf8.encode name
        match entries.lookup name with
        | some (.directory _) => .error .isADirectory
        | _ => pure (place ++ [name])

/-- Files after one is written, replaced if it is there already. -/
def Disk.write (disk : Disk) (path : String) (content : List UInt8) : Except Error Disk := do
  let place ← disk.target path
  pure { disk with root := disk.root.put (.file content) place }

end DocPress.Files
