import Outline.Text.LineBreak
import Outline.Text.Utf8

/-!
# Folders

What a path leads to, and the contents of a folder kept as a list of files. Paths are written with
slashes; a path that does not begin with one is taken from the folder.
-/
namespace Outline

/-- What a path leads to. -/
inductive Entry
  | missing
  | directory
  | file (bytes : List Nat)
  deriving DecidableEq, Repr

namespace Entry

/-- The text of a file, every line end written as a line feed. -/
def text (bytes : List Nat) : Except Utf8.DecodeError Text :=
  (Utf8.decode bytes).map Text.unifyLineEnds

end Entry

/-- The parts of a path: empty ones and single dots are left out, and two dots take back the part
before. -/
def pathParts (path : Text) : List Text :=
  ((Text.splitAtChar '/' path).foldl (fun parts part =>
    if part.isEmpty || part = ['.'] then parts
    else if part = ['.', '.'] then parts.tail
    else part :: parts) []).reverse

def parentPath (path : Text) : Text :=
  let parent := (Text.splitAtChar '/' path).dropLast
  match parent with
  | [] => ['.']
  | [[]] => ['/']
  | parts => Text.join ['/'] parts

/-- A folder: where it is, and its files with their paths from there. -/
structure Folder where
  place : Text
  files : List (Text × List Nat) := []

namespace Folder

def parts (f : Folder) (path : Text) : List Text :=
  match path with
  | '/' :: _ => pathParts path
  | _ => pathParts (f.place ++ '/' :: path)

def entry (f : Folder) (path : Text) : Entry :=
  let parts := f.parts path
  match f.files.find? fun file => f.parts file.1 == parts with
  | some file => .file file.2
  | none =>
    if parts.isPrefixOf (f.parts []) || f.files.any fun file => parts.isPrefixOf (f.parts file.1)
    then .directory
    else .missing

/-- The folder after a text was added at the end of a file, which comes to be if it is not
there. -/
def append (f : Folder) (path : Text) (t : Text) : Folder :=
  let parts := f.parts path
  let bytes := Utf8.encode t
  match f.entry path with
  | .file _ =>
    { f with
      files := f.files.map fun file =>
        if f.parts file.1 == parts then (file.1, file.2 ++ bytes) else file }
  | _ => { f with files := f.files ++ [(path, bytes)] }

end Folder

end Outline
