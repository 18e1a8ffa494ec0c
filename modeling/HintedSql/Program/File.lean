import HintedSql.Text.Space
set_option relaxedAutoImplicit false
set_option autoImplicit false

/-!
# Files

What can go wrong with a file, and trees of files with paths that are followed from their root.

## Main definitions

* `HintedSql.FileError`, `HintedSql.FileError.message`.
* `HintedSql.FileTree` — the files below a directory.
* `HintedSql.FileTree.read`, `HintedSql.FileTree.canCreateIn`.
-/

namespace HintedSql

/-- What can go wrong with a file. -/
inductive FileError where
  | notFound
  | notDirectory
  | isDirectory
  | nameTooLong
  /-- The bytes of a text are not in UTF-8. -/
  | notText
  /-- Something that has no words of its own here. -/
  | other (description : String)
deriving DecidableEq, Repr

/-- What is said about a file. -/
def FileError.message : FileError → String
  | notFound => "No such file or directory (os error 2)"
  | notDirectory => "Not a directory (os error 20)"
  | isDirectory => "Is a directory (os error 21)"
  | nameTooLong => "File name too long (os error 36)"
  | notText => "stream did not contain valid UTF-8"
  | other description => description

/-- The text that bytes encode. -/
def decodeText (bytes : ByteArray) : Except FileError String :=
  match String.fromUTF8? bytes with
  | some s => .ok s
  | none => .error .notText

/-- The files below a directory: the names on the way to each of them, and its bytes. -/
structure FileTree where
  files : List (List String × ByteArray)

namespace FileTree

/-- What a place that a path leads to is. -/
inductive Place where
  | file (bytes : ByteArray)
  | directory (path : List String)
  /-- A directory around the tree. -/
  | outside

/-- The parts of a path between slashes. -/
def parts (path : String) : List String :=
  (Text.splitOn '/' path.toList).map String.ofList

/-- What stands at a place, where the names of the way to it are given. -/
def at? (t : FileTree) (path : List String) : Option Place :=
  match t.files.find? (·.1 == path) with
  | some (_, bytes) => some (.file bytes)
  | none =>
    if path.isEmpty || t.files.any (fun f => path.isPrefixOf f.1) then some (.directory path)
    else none

/-- The longest name that a file may have, in bytes. -/
def nameLimit : Nat :=
  255

/-- The longest path, in bytes. -/
def pathLimit : Nat :=
  4095

/-- Follow one part of a path. -/
def step (t : FileTree) (place : Place) (part : String) : Except FileError Place :=
  match place with
  | .file _ => .error .notDirectory
  | .outside =>
    if part == "" || part == "." || part == ".." then .ok .outside
    else if nameLimit < part.utf8ByteSize then .error .nameTooLong
    else .error .notFound
  | .directory path =>
    if part == "" || part == "." then .ok place
    else if part == ".." then
      .ok (if path.isEmpty then .outside else .directory path.dropLast)
    else if nameLimit < part.utf8ByteSize then .error .nameTooLong
    else
      match t.at? (path ++ [part]) with
      | some place => .ok place
      | none => .error .notFound

/-- Follow a path from the root of a tree. Of what lies outside the tree only the directories around
it are found. -/
def find (t : FileTree) (path : String) : Except FileError Place :=
  if pathLimit < path.utf8ByteSize then .error .nameTooLong
  else (parts path).foldlM t.step (if path.startsWith "/" then .outside else .directory [])

/-- The bytes of a file. -/
def read (t : FileTree) (path : String) : Except FileError ByteArray := do
  match ← t.find path with
  | .file bytes => return bytes
  | .directory _ | .outside => .error .isDirectory

/-- Whether a path leads to a file. -/
def isFile (t : FileTree) (path : String) : Bool :=
  match t.find path with
  | .ok (.file _) => true
  | _ => false

/-- Whether a file can be created in a directory, where the directories on the way are created if
they are missing. Their names may be neither too long nor hold a null character. -/
def canCreateIn (t : FileTree) (directory : String) : Bool :=
  let named := (parts directory).all fun part =>
    part.utf8ByteSize ≤ nameLimit && !part.toList.contains '\x00'
  match t.find directory with
  | .ok (.file _) | .error .notDirectory | .error .nameTooLong => false
  | _ => named

end FileTree

end HintedSql
