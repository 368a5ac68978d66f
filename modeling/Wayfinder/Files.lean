import Wayfinder.Text.Bytes
/-!
# Files

The files below the current directory, by their paths.
-/

namespace Wayfinder

/-- Why a file cannot be read. -/
inductive FileFault
  | notFound
  | unreadable
  deriving Repr, DecidableEq

structure Files where
  entries : List (String × Bytes) := []

namespace Files

/-- The components of a path that name something: neither empty nor `.`. -/
def components (path : String) : List String :=
  ((path.toList.splitOn '/').map String.ofList).filter fun c => c ≠ "" ∧ c ≠ "."

/-- The file with some components. -/
def file? (fs : Files) (parts : List String) : Option Bytes :=
  (fs.entries.find? fun e => components e.1 = parts).map Prod.snd

/-- Whether some file lies below the directory with some components. -/
def isDirectory (fs : Files) (parts : List String) : Bool :=
  parts.isEmpty || fs.entries.any fun e =>
    parts.isPrefixOf (components e.1) && parts.length < (components e.1).length

/-- Names have at most this many bytes. -/
def maxNameLength : Nat := 255

/-- Paths have fewer bytes than this. -/
def maxPathLength : Nat := 4096

/-- Why nothing can be read outside of the current directory, given a path from a directory there. The directories
themselves exist and are no files; nothing is found in them, but names that are too long are not even looked for. -/
def outside (parts : List String) : FileFault :=
  match parts.dropWhile (· = "..") with
  | [] => .unreadable
  | c :: _ => if maxNameLength < c.utf8ByteSize then .unreadable else .notFound

/-- Walks down from a directory, whose components are held in reverse. To go on from a file is a fault of its own. -/
def resolve (fs : Files) (directory : List String) : List String → Except FileFault (List String)
  | [] => .ok directory.reverse
  | ".." :: rest =>
    match directory with
    | [] => .error (outside rest)
    | _ :: above => resolve fs above rest
  | c :: rest =>
    let here := (c :: directory).reverse
    if maxNameLength < c.utf8ByteSize then .error .unreadable
    else if fs.isDirectory here then resolve fs (c :: directory) rest
    else if (fs.file? here).isSome then
      if rest.isEmpty then .ok here else .error .unreadable
    else .error .notFound

/-- Whether a path can only name a directory. -/
def asksDirectory (path : String) : Bool :=
  match (path.toList.splitOn '/').getLast? with
  | some [] | some ['.'] => true
  | _ => false

/-- The bytes of a file. Directories, and paths that lead through a file, cannot be read. -/
def read (fs : Files) (path : String) : Except FileFault Bytes := do
  if path.toList.contains '\x00' ∨ maxPathLength ≤ path.utf8ByteSize then .error .unreadable
  else if path = "" then .error .notFound
  else if path.toList.head? = some '/' then .error (outside (components path))
  else
    let parts ← fs.resolve [] (components path)
    match fs.file? parts with
    | some bytes =>
      if fs.isDirectory parts || asksDirectory path then .error .unreadable
      else .ok bytes
    | none => .error .unreadable

end Files

end Wayfinder
