import Playstation.File

/-!
# File trees

A file tree is a directory whose files, and those of the directories in it,
are known with their contents. A relative path is walked from that directory
one name at a time, and each name is looked for only in a directory. Whatever
lies outside of the tree consists of directories without files.
-/

namespace Playstation

/-- A directory and all that is below it: the contents of each file with the
names which lead to it. A directory below it exists if it has a file. -/
structure FileTree where
  /-- The files. -/
  files : List (List String × ByteArray)

namespace FileTree

/-- What the names of a path lead to. -/
inductive Entry where
  /-- A directory. -/
  | directory
  /-- A file with its contents. -/
  | file (contents : ByteArray)

/-- A place which a path leads to: names below the directory, or a directory
outside. -/
inductive Place where
  /-- Below the directory. -/
  | below (names : List String)
  /-- Anywhere else. -/
  | outside
  deriving DecidableEq

/-- What is found under a list of names. -/
def entry? (tree : FileTree) (names : List String) : Option Entry :=
  match tree.files.find? fun file => file.1 = names with
  | some (_, contents) => some (.file contents)
  | none =>
    if names = [] ∨ tree.files.any fun file => names.isPrefixOf file.1 then some .directory
    else none

/-- What is found at a place. -/
def entryAt? (tree : FileTree) : Place → Option Entry
  | .below names => tree.entry? names
  | .outside => some .directory

/-- The place which a part of a path leads to from a directory. -/
def Place.child (place : Place) (part : String) : Place :=
  if part = "" ∨ part = "." then place
  else
    match place with
    | .below names =>
      if part ≠ ".." then .below (names ++ [part])
      else if names = [] then .outside
      else .below names.dropLast
    | .outside => .outside

/-- Follow one part of a path. A name is found neither in a file nor outside
of the tree, and one which is too long nowhere. -/
def follow (tree : FileTree) (place : Place) (part : String) : Except FileFault Place :=
  match tree.entryAt? place with
  | some .directory =>
    let child := place.child part
    let named := part ≠ "" ∧ part ≠ "." ∧ part ≠ ".."
    if Path.maxPartBytes < part.utf8ByteSize then .error .nameTooLong
    else if named ∧ place = .outside then .error .notFound
    else if (tree.entryAt? child).isSome then .ok child
    else .error .notFound
  | some (.file _) => .error .notDirectory
  | none => .error .notFound

/-- The place of a path. The empty path has none. -/
def locate (tree : FileTree) (path : String) : Except FileFault Place :=
  if path = "" then .error .notFound
  else if !Path.isValid path then .error .invalidPath
  else if Path.maxBytes < path.utf8ByteSize then .error .nameTooLong
  else
    let start := if path.startsWith "/" then Place.outside else .below []
    (path.splitOn "/").foldlM tree.follow start

/-- The contents of the file at a path. -/
def read (tree : FileTree) (path : String) : Except FileFault ByteArray :=
  match tree.locate path with
  | .ok place =>
    match tree.entryAt? place with
    | some (.file contents) => .ok contents
    | some .directory => .error .isDirectory
    | none => .error .notFound
  | .error fault => .error fault

/-- Whether there is a file or a directory at a path. -/
def holds (tree : FileTree) (path : String) : Bool :=
  match tree.locate path with
  | .ok _ => true
  | .error _ => false

/-- The files of a tree, read without effects. -/
def system {m : Type → Type} [Monad m] (tree : FileTree) : FileSystem m where
  read path := pure (tree.read path)
  holds path := pure (tree.holds path)

end FileTree

end Playstation
