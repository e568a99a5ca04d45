import Chip8.Rom

/-!
# Storage

Files and directories, as far as opening a file for reading needs them. A path is followed component
by component; every component but the last one has to be a directory, and so has the last one if a
slash comes behind it. Outside of the working directory only those directories and devices are known
that every system has.
-/

namespace Chip8

/-- A file or a directory. -/
inductive Node
  /-- A file with its content. -/
  | file (content : List UInt8)
  /-- A directory with its entries. -/
  | directory (entries : List (String × Node))

/-- Why something could not be opened or read. -/
inductive StorageError
  /-- There is nothing of that name. -/
  | notFound
  /-- A file stands where a directory has to be. -/
  | notDirectory
  /-- A directory cannot be read like a file. -/
  | isDirectory
  /-- The path or a name in it is too long. -/
  | nameTooLong
  /-- The path holds a character that no path can hold. -/
  | nulInName
deriving DecidableEq, Repr

/-- The text of a storage error. -/
def StorageError.message : StorageError → String
  | .notFound => "No such file or directory (os error 2)"
  | .notDirectory => "Not a directory (os error 20)"
  | .isDirectory => "Is a directory (os error 21)"
  | .nameTooLong => "File name too long (os error 36)"
  | .nulInName => "file name contained an unexpected NUL byte"

namespace Node

/-- The longest name of an entry, in bytes. -/
def maxNameSize : Nat := 255

/-- The longest path, in bytes. -/
def maxPathSize : Nat := 4095

/-! ## Around the working directory -/

/-- A directory of which no entry is known. -/
def unknown : Node := .directory []

/-- Entries that are directories of which no entry is known. -/
def unknowns (names : List String) : List (String × Node) := names.map fun name => (name, unknown)

/-- A file without end. No more of it counts than shows that it is too large, so its bytes do not
matter. -/
def endless : Node := .file (.replicate (maxRomSize + 1) 0)

/-- The directory of the devices. -/
def devices : Node :=
  .directory ([("null", .file []), ("zero", endless), ("full", endless), ("random", endless),
    ("urandom", endless)] ++ unknowns ["mqueue", "pts", "shm"])

/-- The root directory with the directories that every system has. -/
def root : Node :=
  .directory ([("dev", devices),
    ("usr", .directory (unknowns ["bin", "include", "lib", "local", "sbin", "share", "src"])),
    ("var", .directory (unknowns ["cache", "lib", "local", "log", "opt", "spool", "tmp"]))] ++
    unknowns ["bin", "boot", "etc", "home", "lib", "media", "mnt", "opt", "proc", "root", "run", "sbin",
      "srv", "sys", "tmp"])

/-- The directories around the working directory, the innermost first: it lies in a directory for
temporary files. -/
def surroundings : List Node := [unknown, root]

/-! ## Paths -/

/-- The components of a path. Empty components are kept: they stand for slashes too many. -/
def components (path : String) : List String :=
  path.splitOn "/"

/-- One component further down, from the innermost of some nested nodes. The outermost directory is
its own parent. -/
def descend (trail : List Node) (name : String) : Except StorageError (List Node) :=
  match trail with
  | .file _ :: _ => .error .notDirectory
  | [] => .error .notFound
  | .directory entries :: outer =>
    if name = "" ∨ name = "." then .ok trail
    else if name = ".." then .ok (if outer.isEmpty then trail else outer)
    else if maxNameSize < name.utf8ByteSize then .error .nameTooLong
    else match entries.lookup name with
      | some node => .ok (node :: trail)
      | none => .error .notFound

/-- Follows components from nested nodes on. -/
def follow (trail : List Node) : List String → Except StorageError (List Node)
  | [] => .ok trail
  | name :: rest => do
    let trail ← descend trail name
    follow trail rest

/-- Opens what a path names, seen from this directory. -/
def openPath (workingDirectory : Node) (path : String) : Except StorageError Node := do
  if path.contains '\x00' then throw .nulInName
  if path = "" then throw .notFound
  if maxPathSize < path.utf8ByteSize then throw .nameTooLong
  let start := if path.startsWith "/" then [root] else workingDirectory :: surroundings
  let trail ← follow start (components path)
  match trail with
  | node :: _ => return node
  | [] => throw .notFound

/-- What reading an opened node yields. -/
def stream : Node → List ReadOutcome
  | .file content => [.chunk content]
  | .directory _ => [.failed StorageError.isDirectory.message]

end Node

end Chip8
