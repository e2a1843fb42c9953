import TargetAssembly.Keyed
import TargetAssembly.Text.Quoted
import TargetAssembly.Text.Split

/-!
# Files and directories

A tree of directories and regular files below a working directory, without links, and the
operations that a build needs on it: making directories, reading a file and writing one.  Paths
are relative; two dots lead to the directory above, and from the top back to the top.  Each
operation fails in the ways in which the system fails, and an operation that fails half way
leaves what it did before.
-/

namespace TargetAssembly

/-! ## Paths -/

/-- A relative path: the names between its slashes, without empty ones and without single dots. -/
structure FilePath where
  /-- The names, from the top down; two dots lead up. -/
  parts : List String
deriving DecidableEq, Repr

namespace FilePath

/-- The path that a text writes. -/
def ofText (s : String) : FilePath :=
  ⟨((Text.pieces '/' s.toList).map String.ofList).filter fun p => p ≠ "" ∧ p ≠ "."⟩

/-- The text of a path; the working directory is a single dot. -/
def text (p : FilePath) : String :=
  if p.parts.isEmpty then "." else "/".intercalate p.parts

/-- The path without its last name. -/
def parent (p : FilePath) : FilePath := ⟨p.parts.dropLast⟩

end FilePath

/-! ## Failures -/

/-- The ways in which an operation on files fails. -/
inductive FileFault where
  /-- A name on the way does not exist. -/
  | notFound
  /-- What was to be made exists already. -/
  | alreadyExists
  /-- A name on the way is no directory. -/
  | notDirectory
  /-- A directory stands where a file has to. -/
  | isDirectory
  /-- A name, or the whole path, is too long. -/
  | tooLong
  /-- The path holds a null character. -/
  | nullCharacter
deriving DecidableEq, Repr

/-- The number and the wording by which the system names a failure; a null character is refused
before the system is asked. -/
def FileFault.wording : FileFault → String
  | notFound => "[Errno 2] No such file or directory"
  | alreadyExists => "[Errno 17] File exists"
  | notDirectory => "[Errno 20] Not a directory"
  | isDirectory => "[Errno 21] Is a directory"
  | tooLong => "[Errno 36] File name too long"
  | nullCharacter => "embedded null byte"

/-- A failure of an operation on a path. -/
structure FileError where
  /-- What went wrong. -/
  fault : FileFault
  /-- The path that was asked for. -/
  path : FilePath
deriving DecidableEq, Repr

/-- The message of a failure. -/
def FileError.message (e : FileError) : String :=
  if e.fault = .nullCharacter then e.fault.wording
  else e.fault.wording ++ ": " ++ Text.quoted e.path.text

/-! ## Trees -/

/-- What a name stands for. -/
inductive FileNode where
  /-- A directory. -/
  | directory
  /-- A regular file and its bytes. -/
  | file (bytes : List UInt8)
deriving DecidableEq, Repr

/-- The names that lead from the top to a node, none of them two dots. -/
abbrev Location := List String

/-- What stands at each location.  The top is always a directory. -/
structure FileTree where
  /-- The nodes below the top. -/
  nodes : List (Location × FileNode) := []
deriving DecidableEq, Repr

namespace FileTree

/-- The node at a location. -/
def node? (t : FileTree) (l : Location) : Option FileNode :=
  if l.isEmpty then some .directory else t.nodes.lookup l

/-- Put a node at a location. -/
def put (t : FileTree) (l : Location) (n : FileNode) : FileTree := ⟨Keyed.set l n t.nodes⟩

/-- The greatest number of bytes in a name. -/
def maxNameBytes : Nat := 255

/-- The greatest number of bytes in a path. -/
def maxPathBytes : Nat := 4095

/-- Follow names from a location that is there; all but the last have to lead to directories. -/
def follow (t : FileTree) : Location → List String → Except FileFault Location
  | l, [] => .ok l
  | l, name :: rest =>
    match t.node? l with
    | some .directory =>
      if name = ".." then follow t l.dropLast rest
      else if maxNameBytes < name.utf8ByteSize then .error .tooLong
      else
        let next := l ++ [name]
        match t.node? next with
        | some _ => follow t next rest
        | none => .error .notFound
    | some (.file _) => .error .notDirectory
    | none => .error .notFound

/-- Where a path leads to: a location that is there, or one at which a node can be made. -/
inductive Target where
  /-- The path leads to a node. -/
  | existing (l : Location) (n : FileNode)
  /-- The last name of the path is new in its directory. -/
  | fresh (l : Location)

/-- Follow a path whose last name may be new. -/
def target (t : FileTree) (p : FilePath) : Except FileFault Target := do
  let found (l : Location) : Except FileFault Target :=
    match t.node? l with
    | some n => .ok (.existing l n)
    | none => .error .notFound
  if p.text.toList.contains '\x00' then throw .nullCharacter
  if maxPathBytes < p.text.utf8ByteSize then throw .tooLong
  match p.parts.getLast? with
  | none => found []
  | some name =>
    let l ← follow t [] p.parts.dropLast
    match t.node? l with
    | some .directory =>
      if name = ".." then found l.dropLast
      else if maxNameBytes < name.utf8ByteSize then throw .tooLong
      else
        let next := l ++ [name]
        match t.node? next with
        | some n => return .existing next n
        | none => return .fresh next
    | _ => throw .notDirectory

/-- Whether a path leads to anything. -/
def contains (t : FileTree) (p : FilePath) : Bool :=
  match t.target p with
  | .ok (.existing _ _) => true
  | _ => false

/-- Whether a path leads to a directory. -/
def isDirectory (t : FileTree) (p : FilePath) : Bool :=
  match t.target p with
  | .ok (.existing _ .directory) => true
  | _ => false

/-- Make one directory. -/
def makeDirectory (t : FileTree) (p : FilePath) : Except FileFault FileTree :=
  match t.target p with
  | .ok (.fresh l) => .ok (t.put l .directory)
  | .ok (.existing _ _) => .error .alreadyExists
  | .error e => .error e

/-- A directory that was not made is no failure where one is there already. -/
def unlessDirectory (t : FileTree) (p : FilePath) (fault : FileFault) : Except FileError Unit :=
  if t.isDirectory p then .ok () else .error ⟨fault, p⟩

/-- Make a directory unless it is there.  The names of the path are given from the last one up; the
directories above are made first where they are missing. -/
def makeDirectories (t : FileTree) : (namesUp : List String) → FileTree × Except FileError Unit
  | [] => (t, .ok ())
  | name :: above =>
    let p : FilePath := ⟨above.reverse ++ [name]⟩
    match t.makeDirectory p with
    | .ok t => (t, .ok ())
    | .error .notFound =>
      match makeDirectories t above with
      | (t, .error e) => (t, .error e)
      | (t, .ok ()) =>
        match t.makeDirectory p with
        | .ok t => (t, .ok ())
        | .error fault => (t, t.unlessDirectory p fault)
    | .error fault => (t, t.unlessDirectory p fault)

/-- Make a directory that is not there.  The names of the path are given from the last one up; the
directories above are made first where they are missing. -/
def makeNewDirectories (t : FileTree) :
    (namesUp : List String) → FileTree × Except FileError Unit
  | [] => (t, .error ⟨.alreadyExists, ⟨[]⟩⟩)
  | name :: above =>
    let p : FilePath := ⟨above.reverse ++ [name]⟩
    let make (t : FileTree) : FileTree × Except FileError Unit :=
      match t.makeDirectory p with
      | .ok t => (t, .ok ())
      | .error fault => (t, .error ⟨fault, p⟩)
    if above.isEmpty || t.contains ⟨above.reverse⟩ then make t
    else match makeNewDirectories t above with
      | (t, .ok ()) => make t
      | (t, .error e) => if e.fault = .alreadyExists then make t else (t, .error e)

/-- The bytes of the file that a path leads to. -/
def read (t : FileTree) (p : FilePath) : Except FileError (List UInt8) :=
  match t.target p with
  | .ok (.existing _ (.file bytes)) => .ok bytes
  | .ok (.existing _ .directory) => .error ⟨.isDirectory, p⟩
  | .ok (.fresh _) => .error ⟨.notFound, p⟩
  | .error e => .error ⟨e, p⟩

/-- Write a file whose directory is there. -/
def write (t : FileTree) (p : FilePath) (bytes : List UInt8) : FileTree × Except FileError Unit :=
  match t.target p with
  | .ok (.existing l (.file _)) => (t.put l (.file bytes), .ok ())
  | .ok (.fresh l) => (t.put l (.file bytes), .ok ())
  | .ok (.existing _ .directory) => (t, .error ⟨.isDirectory, p⟩)
  | .error e => (t, .error ⟨e, p⟩)

/-- Write a file, and make the directories above it where they are missing. -/
def writeDeep (t : FileTree) (p : FilePath) (bytes : List UInt8) :
    FileTree × Except FileError Unit :=
  match t.makeDirectories p.parent.parts.reverse with
  | (t, .error e) => (t, .error e)
  | (t, .ok ()) => t.write p bytes

end FileTree

end TargetAssembly
