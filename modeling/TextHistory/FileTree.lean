/-!
# File trees

As much of a file system as settings and logs touch: directories and files under a root, with a
current directory that relative paths start from. Entries are kept by their place, the list of
names that leads there from the root.

Paths are walked name by name. Every name but the last has to lead to a directory; `.` stays and
`..` goes up, not past the root; a path that ends in a slash insists on a directory. So the same
entry has many paths, and they are all reduced to its place (`resolve`) before anything is read or
written. Names and paths have a greatest length in bytes, and a path cannot hold the character
U+0000, which marks the end of one.
-/

namespace TextHistory

/-- Why a file could not be read. -/
inductive IoError
  /-- There is nothing at the path. -/
  | notFound
  /-- There is a directory at the path. -/
  | isDirectory
  /-- A name on the way does not lead to a directory. -/
  | notDirectory
  /-- The file does not hold a text. -/
  | notText
  /-- The path, or a name on it, is too long. -/
  | nameTooLong
  /-- The path holds the character U+0000. -/
  | nulInPath
deriving DecidableEq

/-- The wording of a read error. -/
def IoError.message : IoError → String
  | notFound => "No such file or directory (os error 2)"
  | isDirectory => "Is a directory (os error 21)"
  | notDirectory => "Not a directory (os error 20)"
  | notText => "stream did not contain valid UTF-8"
  | nameTooLong => "File name too long (os error 36)"
  | nulInPath => "file name contained an unexpected NUL byte"

/-- What there is at a place. -/
inductive FileEntry
  /-- A file and what it holds. -/
  | file (content : ByteArray)
  /-- A directory. -/
  | directory

/-- A tree of files. -/
structure FileTree where
  /-- What there is, by place; of two entries for a place the first counts. -/
  entries : List (List String × FileEntry)
  /-- The place of the current directory. -/
  current : List String

namespace FileTree

/-- A tree with nothing but a current directory. -/
def empty (current : List String) : FileTree := ⟨[], current⟩

/-- The names on a path, with a last `.` for a slash at its end. -/
def names (path : String) : List String :=
  let parts := (path.splitOn "/").filter (· != "")
  if path.toList.getLast? == some '/' then parts ++ ["."] else parts

/-- The most bytes that a name can have. -/
def maxNameSize : Nat := 255

/-- The most bytes that a path can have. -/
def maxPathSize : Nat := 4095

/-- Refuses a path that leads nowhere in any tree. -/
def checkPath (path : String) : Except IoError Unit :=
  if path.toList.contains '\x00' then .error .nulInPath
  else if path.isEmpty then .error .notFound
  else if maxPathSize < path.utf8ByteSize then .error .nameTooLong
  else .ok ()

variable (t : FileTree)

/-- What there is at a place. The root and the way to the current directory are directories. -/
def entry? (place : List String) : Option FileEntry :=
  (t.entries.lookup place).or (if place.isPrefixOf t.current then some .directory else none)

/-- Follows names from a place on. -/
def walk (place : List String) : List String → Except IoError (List String)
  | [] => .ok place
  | name :: rest =>
    match t.entry? place with
    | some .directory =>
      if name = "." then walk place rest
      else if name = ".." then walk place.dropLast rest
      else if maxNameSize < name.utf8ByteSize then .error .nameTooLong
      else if (t.entry? (place ++ [name])).isSome then walk (place ++ [name]) rest
      else .error .notFound
    | some (.file _) => .error .notDirectory
    | none => .error .notFound

/-- Where a path starts. -/
def startOf (path : String) : List String :=
  if path.toList.head? == some '/' then [] else t.current

/-- The place that a path leads to. -/
def resolve (path : String) : Except IoError (List String) := do
  checkPath path
  t.walk (t.startOf path) (names path)

/-- Whether there is anything at a path. -/
def hasPath (path : String) : Bool := (t.resolve path).toBool

/-- The text of the file at a path. -/
def readText (path : String) : Except IoError String := do
  let place ← t.resolve path
  match t.entry? place with
  | some (.file content) =>
    match String.fromUTF8? content with
    | some s => .ok s
    | none => .error .notText
  | some .directory => .error .isDirectory
  | none => .error .notFound

/-- The tree with an entry at a place. -/
def put (place : List String) (e : FileEntry) : FileTree :=
  { t with entries := (place, e) :: t.entries.filter fun x ↦ x.1 != place }

/-- The tree with an entry at a place, and with directories on the way there. -/
def add (place : List String) (e : FileEntry) : FileTree :=
  let parents := (List.range place.length).map place.take
  let t := parents.foldl (fun t p ↦ if (t.entry? p).isSome then t else t.put p .directory) t
  t.put place e

/-- The tree with a text written behind what the file at a path holds, or to a new file there.
If that cannot be done, nothing happens. -/
def append (path : String) (text : String) : FileTree :=
  match checkPath path, (names path).getLast? with
  | .ok (), some name =>
    if name = "." || name = ".." || maxNameSize < name.utf8ByteSize then t
    else
      match t.walk (t.startOf path) (names path).dropLast with
      | .error _ => t
      | .ok place =>
        match t.entry? place, t.entry? (place ++ [name]) with
        | some .directory, some (.file content) =>
          t.put (place ++ [name]) (.file (content ++ text.toUTF8))
        | some .directory, none => t.put (place ++ [name]) (.file text.toUTF8)
        | _, _ => t
  | _, _ => t

end FileTree

end TextHistory
