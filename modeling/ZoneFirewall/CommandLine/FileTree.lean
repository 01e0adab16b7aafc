import ZoneFirewall.Table
import ZoneFirewall.Text.Literal

/-!
# Files and directories

Files and directories are a tree, seen from a working directory. A path is walked part by part:
every part but the last must be a directory, and two dots lead back to the directory above. Names
and paths have a greatest length.

* `Path`: a path; `Path.ofText`, `Path.text`: as it is written, without needless slashes and dots.
* `FileTree`: what there is at each place.
* `FileTree.read`, `FileTree.write`, `FileTree.makeDirectories`, `FileTree.contains`.
* `FileTree.changes`: what is new in a tree.
* `FileError`: why one of them fails; `FileError.message`: the wording.
-/

namespace ZoneFirewall.CommandLine

/-! ## Paths -/

/-- A path. -/
structure Path where
  /-- The slashes that an absolute path starts with, the empty text for any other. -/
  root : String
  /-- The names on the way. -/
  parts : List String
  deriving DecidableEq, Repr

namespace Path

/-- The parts of some characters between slashes, without those that lead nowhere. -/
def partsOf (cs : List Char) : List String :=
  ((cs.splitOn '/').map String.ofList).filter fun part => part ≠ "" ∧ part ≠ "."

/-- The slashes that a path starts with: two stay two, more are one. -/
def rootOf (cs : List Char) : String :=
  match (cs.takeWhile (· = '/')).length with
  | 0 => ""
  | 2 => "//"
  | _ => "/"

/-- The path of a text. -/
def ofText (text : String) : Path := ⟨rootOf text.toList, partsOf text.toList⟩

/-- The path as it is written. -/
def text (p : Path) : String :=
  if p.root = "" ∧ p.parts = [] then "." else p.root ++ "/".intercalate p.parts

/-- The path without its last part. -/
def parent (p : Path) : Path := { p with parts := p.parts.dropLast }

/-- The path up to one of its parts. -/
def upTo (p : Path) (n : Nat) : Path := { p with parts := p.parts.take n }

/-- The paths on the way to this one, the shortest first and this one last. -/
def leading (p : Path) : List Path := (List.range p.parts.length).map fun n => p.upTo (n + 1)

end Path

/-! ## Errors -/

/-- What can be wrong with a path. -/
inductive FileFault where
  /-- There is nothing at the path. -/
  | notFound
  /-- There is a directory where a file is wanted. -/
  | isDirectory
  /-- There is a file where a directory is wanted. -/
  | notDirectory
  /-- There is a file where a directory is to be made. -/
  | alreadyExists
  /-- The path, or a name on it, has too many bytes. -/
  | nameTooLong
  /-- There is a character in the path that ends it. -/
  | endingCharacter
  deriving DecidableEq, Repr

/-- A path with what is wrong with it. -/
structure FileError where
  /-- What is wrong. -/
  fault : FileFault
  /-- The path. -/
  path : Path
  deriving DecidableEq, Repr

/-- The number and the wording of the fault. -/
def FileFault.reason : FileFault → String
  | .notFound => "[Errno 2] No such file or directory"
  | .isDirectory => "[Errno 21] Is a directory"
  | .notDirectory => "[Errno 20] Not a directory"
  | .alreadyExists => "[Errno 17] File exists"
  | .nameTooLong => "[Errno 36] File name too long"
  | .endingCharacter => "embedded null byte"

/-- The wording of the error. -/
def FileError.message (e : FileError) : String :=
  match e.fault with
  | .endingCharacter => e.fault.reason
  | _ => e.fault.reason ++ ": " ++ Text.literal e.path.text

/-! ## Trees -/

/-- What there is at a place. -/
inductive Entry where
  /-- A file with its content. -/
  | file (bytes : List UInt8)
  /-- A directory. -/
  | directory
  deriving DecidableEq, Repr

/-- What there is at each place. Places are paths that have been walked: two dots stand only at the
front, for directories above the working directory. -/
structure FileTree where
  /-- The places where there is something. -/
  entries : Table Path Entry

namespace FileTree

/-- The tree with nothing in it. -/
def empty : FileTree := ⟨.empty⟩

/-- What there is at a place. The working directory and those above it are always there. -/
def entry? (t : FileTree) (place : Path) : Option Entry :=
  if place.parts.all (· = "..") then some .directory else t.entries.get? place

/-- The tree with something put at a place. -/
def put (t : FileTree) (place : Path) (entry : Entry) : FileTree :=
  ⟨t.entries.insert place entry⟩

/-- The place one step further than a directory. -/
def stepInto (place : Path) (part : String) : Path :=
  if part = ".." then
    if place.parts.all (· = "..") then
      if place.root = "" then { place with parts := part :: place.parts } else place
    else place.parent
  else { place with parts := place.parts ++ [part] }

/-- The greatest number of bytes of a name. -/
def nameLimit : Nat := 255

/-- The greatest number of bytes of a path. -/
def pathLimit : Nat := 4095

/-- What is wrong with a path whatever the tree is. -/
def fault? (p : Path) : Option FileFault :=
  if p.text.toList.contains '\x00' then some .endingCharacter
  else if p.text.utf8ByteSize > pathLimit then some .nameTooLong
  else none

/-- The place that some parts lead to from a place, or what is wrong on the way. -/
def walkFrom (t : FileTree) (place : Path) : List String → Except FileFault Path
  | [] => .ok place
  | part :: rest =>
    match t.entry? place with
    | none => .error .notFound
    | some (.file _) => .error .notDirectory
    | some .directory =>
      if part.utf8ByteSize > nameLimit then .error .nameTooLong
      else walkFrom t (stepInto place part) rest

/-- The place that a path leads to; there may be nothing there. -/
def walk (t : FileTree) (p : Path) : Except FileFault Path :=
  match fault? p with
  | some fault => .error fault
  | none => t.walkFrom { p with parts := [] } p.parts

/-- Whether there is something at a path. A path that is too long is a fault also here. -/
def contains (t : FileTree) (p : Path) : Except FileError Bool :=
  match t.walk p with
  | .error .nameTooLong => .error ⟨.nameTooLong, p⟩
  | .error _ => .ok false
  | .ok place => .ok (t.entry? place).isSome

/-- The content of a file. -/
def read (t : FileTree) (p : Path) : Except FileError (List UInt8) :=
  match t.walk p with
  | .error fault => .error ⟨fault, p⟩
  | .ok place =>
    match t.entry? place with
    | none => .error ⟨.notFound, p⟩
    | some .directory => .error ⟨.isDirectory, p⟩
    | some (.file bytes) => .ok bytes

/-- The tree with the content of a file set, new or not. -/
def write (t : FileTree) (p : Path) (bytes : List UInt8) : Except FileError FileTree :=
  match t.walk p with
  | .error fault => .error ⟨fault, p⟩
  | .ok place =>
    if t.entry? place = some .directory then .error ⟨.isDirectory, p⟩
    else .ok (t.put place (.file bytes))

/-- The tree with a new directory, for which there is a place. -/
def makeDirectory (t : FileTree) (p : Path) : Except FileFault FileTree :=
  match t.walk p with
  | .error fault => .error fault
  | .ok place =>
    match t.entry? place with
    | some _ => .error .alreadyExists
    | none => .ok (t.put place .directory)

/-- Whether a path leads to a directory. -/
def isDirectory (t : FileTree) (p : Path) : Bool :=
  match t.walk p with
  | .ok place => t.entry? place = some .directory
  | .error _ => false

/-- The tree with a directory at a path, new or not. -/
def ensureDirectory (t : FileTree) (p : Path) : FileTree × Option FileError :=
  match t.makeDirectory p with
  | .ok made => (made, none)
  | .error fault => if t.isDirectory p then (t, none) else (t, some ⟨fault, p⟩)

/-- The tree with a directory at a path up to one of its parts. Those on the way to it are made
before it, if it is found that they are not there. -/
def ensureLeading (t : FileTree) (p : Path) : Nat → FileTree × Option FileError
  | 0 => t.ensureDirectory (p.upTo 0)
  | n + 1 =>
    match t.ensureDirectory (p.upTo (n + 1)) with
    | (_, some ⟨.notFound, _⟩) =>
      match t.ensureLeading p n with
      | (made, none) => made.ensureDirectory (p.upTo (n + 1))
      | stopped => stopped
    | done => done

/-- The tree with a directory at a path, and at all those on the way to it. Directories that have
been made stay if another one cannot be made. -/
def makeDirectories (t : FileTree) (p : Path) : FileTree × Option FileError :=
  t.ensureLeading p p.parts.length

/-- The places where there is something else than before, with what is there. -/
def changes (before after : FileTree) : List (Path × Entry) :=
  after.entries.entries.filter fun e => before.entries.get? e.1 ≠ some e.2

/-- The tree with some files in it, the directories on their ways included. A file whose place is
taken by a directory, or on whose way there is a file, is left out. -/
def ofFiles (files : List (Path × List UInt8)) : FileTree :=
  files.foldl (fun t file =>
    match t.makeDirectories file.1.parent with
    | (made, none) => (made.write file.1 file.2).toOption.getD t
    | (_, some _) => t) empty

end FileTree

end ZoneFirewall.CommandLine
