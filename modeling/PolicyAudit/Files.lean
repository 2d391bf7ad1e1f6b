import PolicyAudit.Path
import PolicyAudit.Text.Utf8

/-! # Files

The service reads results documents through a function of type `Files`, which knows nothing of
directories.  A `FileTree` is such a function in the form of data: directories and files by their
absolute places, looked up step by step as a file system does.

Only the last name of a path may be that of a file, so that a slash behind it is a mistake.  A name
of more than 255 bytes can belong to nothing. -/

namespace PolicyAudit

/-- Why a file cannot be read as text. -/
inductive ReadFailure where
  | notFound
  | other (reason : String)
deriving DecidableEq, Repr

/-- What reading a file gives: its text, or why there is none. -/
abbrev Files := Path → Except ReadFailure String

inductive FileEntry where
  | directory
  | file (content : List UInt8)
deriving DecidableEq, Repr

/-- Entries by the names that lead to them from the root; of two entries with the same names the
first counts.  The root is a directory. -/
structure FileTree where
  entries : List (List String × FileEntry)

namespace FileTree

def empty : FileTree := ⟨[]⟩

def entry? (t : FileTree) (place : List String) : Option FileEntry :=
  if place = [] then some .directory else (t.entries.find? (·.1 = place)).map (·.2)

/-! ### Writing -/

/-- Follows the parts of a path from a directory and makes each directory on the way that is not
there, also one that the next part leaves again.  Answers the names that lead to the last one. -/
def makeAlong (t : FileTree) (place : List String) : List String → FileTree × List String
  | [] => (t, place)
  | part :: rest =>
    if part = "" ∨ part = "." then t.makeAlong place rest
    else if part = ".." then t.makeAlong place.dropLast rest
    else
      let next := place ++ [part]
      if (t.entry? next).isSome then t.makeAlong next rest
      else makeAlong ⟨(next, .directory) :: t.entries⟩ next rest

/-- The tree with the directories of an absolute path. -/
def makeDirectory (t : FileTree) (p : Path) : FileTree := (t.makeAlong [] p.parts).1

/-- The tree with a file at an absolute path, and with the directories in front of its name. -/
def writeFile (t : FileTree) (p : Path) (content : List UInt8) : FileTree :=
  let (t, place) := t.makeAlong [] p.parts.dropLast
  ⟨(place ++ p.parts.getLast?.toList, .file content) :: t.entries⟩

/-! ### Reading -/

def maxNameBytes : Nat := 255

def maxPathBytes : Nat := 4095

def isDirectory : ReadFailure := .other "Is a directory (os error 21)"

def notDirectory : ReadFailure := .other "Not a directory (os error 20)"

def nameTooLong : ReadFailure := .other "File name too long (os error 36)"

def notUtf8 : ReadFailure := .other "stream did not contain valid UTF-8"

def nullByte : ReadFailure := .other "file name contained an unexpected NUL byte"

/-- Follows the parts of a path from a directory, given by the names that lead to it. -/
def follow (t : FileTree) (place : List String) : List String → Except ReadFailure (List UInt8)
  | [] => .error isDirectory
  | part :: parts =>
    if part = "" ∨ part = "." then t.follow place parts
    else if part = ".." then t.follow place.dropLast parts
    else if maxNameBytes < part.utf8ByteSize then .error nameTooLong
    else match t.entry? (place ++ [part]) with
      | none => .error .notFound
      | some .directory => t.follow (place ++ [part]) parts
      | some (.file content) => if parts.isEmpty then .ok content else .error notDirectory

/-- The content of the file at an absolute path. -/
def readBytes (t : FileTree) (p : Path) : Except ReadFailure (List UInt8) :=
  if '\x00' ∈ p.text.toList then .error nullByte
  else if maxPathBytes < p.text.utf8ByteSize then .error nameTooLong
  else t.follow [] p.parts

/-- The text of the file at an absolute path. -/
def files (t : FileTree) : Files := fun p =>
  match t.readBytes p with
  | .error e => .error e
  | .ok bytes =>
    match Text.ofBytes? bytes with
    | some s => .ok s
    | none => .error notUtf8

end FileTree
end PolicyAudit
