/-
**A tree of text files.**

* `FileTree`: texts by the names on the way to them. A directory is there because a file is in it,
  and the root is always there;
* `FileTree.place`: where a path leads. Every name on the way must be that of a directory, also
  before `..`;
* `FileTree.fileNames`: the names of the file that a path leads to, where its directory exists;
* `FileTree.read` and `FileTree.set`: a file is read whole, with line feeds as its only line ends; it
  is set without a change to any other file.
-/

import TypeSchema.Text.Newline
import TypeSchema.Text.Path
import TypeSchema.Text.Quoted

namespace TypeSchema

/-- Why a file cannot be read or written. -/
inductive FileFault where
  /-- There is nothing of that name, or no directory to write into. -/
  | missing
  /-- A file stands where a directory is needed. -/
  | notDirectory
  /-- A directory stands where a file is needed. -/
  | directory
deriving DecidableEq, Repr

/-- A file that cannot be read or written. -/
structure FileError where
  fault : FileFault
  path : Path
deriving DecidableEq, Repr

/-- The wording of a fault with its number. -/
def FileFault.message : FileFault → String
  | missing => "[Errno 2] No such file or directory"
  | notDirectory => "[Errno 20] Not a directory"
  | directory => "[Errno 21] Is a directory"

/-- The wording of an error. -/
def FileError.message (error : FileError) : String :=
  error.fault.message ++ ": " ++ quote error.path.text

/-- Texts by the names that lead to them from the root. -/
structure FileTree where
  files : List (List String × String)

/-- Where a path leads: to names under the root, or to a directory outside of it. -/
inductive FileTree.Place where
  | inside (names : List String)
  | outside
deriving DecidableEq, Repr

namespace FileTree

/-- The tree of some files. -/
def ofFiles (files : List (String × String)) : FileTree :=
  ⟨files.map fun (name, text) => ((Path.ofText name).parts, text)⟩

/-- The text of a file. -/
def text? (tree : FileTree) (names : List String) : Option String := tree.files.lookup names

/-- Whether some names lead to a directory. -/
def isDirectory (tree : FileTree) (names : List String) : Bool :=
  names.isEmpty ||
    tree.files.any fun file => names.isPrefixOf file.1 && names.length < file.1.length

/-- Whether a place is a directory. -/
def isDirectoryPlace (tree : FileTree) : Place → Bool
  | .outside => true
  | .inside names => tree.isDirectory names

/-- A step from a directory. Nothing is known of what lies outside of the root. -/
def step (name : String) : Place → Except FileFault Place
  | .outside => if name = ".." then .ok .outside else .error .missing
  | .inside [] => .ok (if name = ".." then .outside else .inside [name])
  | .inside names => .ok (.inside (if name = ".." then names.dropLast else names ++ [name]))

/-- A step into a directory. -/
def enter (tree : FileTree) (place : Place) (name : String) : Except FileFault Place := do
  let next ← step name place
  if tree.isDirectoryPlace next then .ok next
  else
    match next with
    | .inside names => .error (if (tree.text? names).isSome then .notDirectory else .missing)
    | .outside => .error .missing

/-- Where a path leads, whether something is there or not. -/
def place (tree : FileTree) (path : Path) : Except FileFault Place := do
  let start : Place := if path.root = "" then .inside [] else .outside
  let directory ← path.parts.dropLast.foldlM tree.enter start
  match path.parts.getLast? with
  | none => .ok directory
  | some name => step name directory

/-- The names of the file that a path may lead to. -/
def fileNames (tree : FileTree) (path : Path) : Except FileFault (List String) :=
  match tree.place path with
  | .error fault => .error fault
  | .ok .outside => .error .directory
  | .ok (.inside names) => if tree.isDirectory names then .error .directory else .ok names

/-- Whether there is a file or a directory at a path. -/
def holds (tree : FileTree) (path : Path) : Bool :=
  match tree.fileNames path with
  | .ok names => (tree.text? names).isSome
  | .error fault => fault == .directory

/-- The text of the file at a path. -/
def read (tree : FileTree) (path : Path) : Except FileError String :=
  match tree.fileNames path with
  | .error fault => .error ⟨fault, path⟩
  | .ok names =>
    match tree.text? names with
    | none => .error ⟨.missing, path⟩
    | some text => .ok (String.ofList (unixLines text.toList))

/-- The files with one of them set. -/
def put (names : List String) (text : String) :
    List (List String × String) → List (List String × String)
  | [] => [(names, text)]
  | (other, old) :: rest =>
    if other = names then (names, text) :: rest else (other, old) :: put names text rest

/-- The tree with one of its files set. -/
def set (tree : FileTree) (names : List String) (text : String) : FileTree :=
  ⟨put names text tree.files⟩

/-- The files that are new or have another text than in an older tree. -/
def changed (older newer : FileTree) : List (List String × String) :=
  newer.files.filter fun (names, text) => older.text? names != some text

end FileTree

end TypeSchema
