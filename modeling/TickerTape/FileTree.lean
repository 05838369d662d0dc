import TickerTape.Text.Split

/-!
# Files and their paths

A tree of directories and files in memory. The names on a path are followed one by one, from the
root if the path starts with a slash and from the current directory if not. Each name is looked up
in the place that the names before it lead to, so that place has to be a directory, even for the
empty name behind a slash at the end of the path.

## Main definitions

* `TickerTape.ReadFault` — why a file could not be read.
* `TickerTape.FileTree` — a tree, and `TickerTape.FileTree.bare` one without files of its own.
* `TickerTape.FileTree.follow` — the place that a path leads to.
* `TickerTape.FileTree.read` — the bytes of the file at a path.
-/

namespace TickerTape

/-- Why a file could not be read. -/
inductive ReadFault where
  /-- There is no such file. -/
  | missing
  /-- It may not be read. -/
  | denied
  /-- A name on its path is looked up in a file. -/
  | notDirectory
  /-- It is a directory. -/
  | directory
  /-- Its path, or a name on it, is too long. -/
  | nameTooLong
  /-- Its bytes are no UTF-8. -/
  | notText
  /-- Anything else. -/
  | other (detail : String)
  deriving DecidableEq, Repr

/-- The text of a fault. -/
def ReadFault.message : ReadFault → String
  | missing => "No such file or directory (os error 2)"
  | denied => "Permission denied (os error 13)"
  | notDirectory => "Not a directory (os error 20)"
  | directory => "Is a directory (os error 21)"
  | nameTooLong => "File name too long (os error 36)"
  | notText => "stream did not contain valid UTF-8"
  | other detail => detail

/-- A place in a tree: the names that lead to it from the root. -/
abbrev Place := List String

/-- Directories and files by their places. The root is a directory of every tree. -/
structure FileTree where
  directories : List Place
  files : List (Place × List UInt8)
  /-- The current directory. -/
  current : Place
  deriving DecidableEq

namespace FileTree

/-- A path has fewer bytes than this. -/
def pathRoom : Nat := 4096

/-- A name has at most this many bytes. -/
def maxName : Nat := 255

/-- Whether a place is a directory. -/
def isDirectory (t : FileTree) (p : Place) : Bool := p.isEmpty || t.directories.contains p

/-- Whether there is anything at a place. -/
def has (t : FileTree) (p : Place) : Bool := t.isDirectory p || (t.files.lookup p).isSome

/-- The tree with a file at a place. -/
def write (t : FileTree) (p : Place) (bytes : List UInt8) : FileTree :=
  { t with files := (p, bytes) :: t.files }

/-- Follows a name from a place. -/
def step (t : FileTree) (p : Place) (name : String) : Except ReadFault Place :=
  if !t.isDirectory p then .error .notDirectory
  else if name = "" ∨ name = "." then .ok p
  else if name = ".." then .ok p.dropLast
  else if maxName < name.utf8ByteSize then .error .nameTooLong
  else if t.has (p ++ [name]) then .ok (p ++ [name])
  else .error .missing

/-- The place that a path leads to. -/
def follow (t : FileTree) (path : String) : Except ReadFault Place :=
  if path = "" then .error .missing
  else if pathRoom ≤ path.utf8ByteSize then .error .nameTooLong
  else
    let start := if path.toList.head? = some '/' then [] else t.current
    ((Text.split '/' path.toList).map String.ofList).foldlM t.step start

/-- The bytes of the file at a path. -/
def read (t : FileTree) (path : String) : Except ReadFault (List UInt8) := do
  let p ← t.follow path
  match t.files.lookup p with
  | some bytes => .ok bytes
  | none => .error .directory

/-- A tree with the usual directories and no files but empty devices: the one that never holds
anything, and an input that has ended under each of its names. -/
def bare : FileTree where
  directories :=
    ["bin", "boot", "dev", "etc", "home", "lib", "media", "mnt", "opt", "proc", "root", "run",
      "sbin", "srv", "sys", "tmp", "usr", "var"].map ([·]) ++
    [["dev", "fd"], ["home", "user"], ["usr", "bin"], ["usr", "lib"], ["usr", "local"],
      ["usr", "share"], ["var", "log"], ["var", "tmp"]]
  files := [(["dev", "null"], []), (["dev", "stdin"], []), (["dev", "fd", "0"], [])]
  current := ["home", "user"]

/-- A file that was written is read at its place. -/
theorem read_write (t : FileTree) (p : Place) (bytes : List UInt8) (path : String)
    (h : (t.write p bytes).follow path = .ok p) : (t.write p bytes).read path = .ok bytes := by
  rw [read, h]
  simp [write, bind, Except.bind]

/-- Every name is looked up in a directory. -/
theorem isDirectory_of_step {t : FileTree} {p q : Place} {name : String}
    (h : t.step p name = .ok q) : t.isDirectory p = true := by
  unfold step at h
  split at h
  · contradiction
  · simp_all

example : bare.read "/dev/../dev//null" = .ok [] := by cbv
example : bare.read "/dev/null/" = .error .notDirectory := by cbv
example : bare.read "." = .error .directory := by cbv

end FileTree

end TickerTape
