import MarkupOrder.Input.ByteStream

/-!
# Files

* `Files`: what there is under each name, a file, a directory or nothing.
* `Files.readText`: the text of a file, or why there is none.
* `Files.write`: the files after one has been written.
-/

namespace MarkupOrder.Command

/-- What can be under a name. -/
inductive Entry where
  | file (bytes : ByteArray)
  | directory

/-- What there is under each name. -/
abbrev Files := Text → Option Entry

/-- Why a file could not be read. -/
inductive FileError where
  | missing
  | isDirectory
  | notUtf8
deriving DecidableEq, Repr

namespace FileError

/-- The reason in words. -/
def reason : FileError → Text
  | missing => "No such file or directory (os error 2)".toList
  | isDirectory => "Is a directory (os error 21)".toList
  | notUtf8 => InputError.notUtf8.reason

end FileError

namespace Files

/-- An empty directory, in which only it and the one around it have names. -/
def fresh : Files := fun name =>
  if name = ['.'] ∨ name = ['.', '.'] then some .directory else none

/-- Put an entry under a name. -/
def put (fs : Files) (name : Text) (e : Entry) : Files := fun n => if n = name then some e else fs n

/-- The text of a file. -/
def readText (fs : Files) (name : Text) : Except FileError Text :=
  match fs name with
  | none => .error .missing
  | some .directory => .error .isDirectory
  | some (.file bytes) =>
    match decode? bytes with
    | none => .error .notUtf8
    | some t => .ok t

/-- The files after a text has been written to one of them. -/
def write (fs : Files) (name text : Text) : Files := fs.put name (.file (encode text))

end Files

end MarkupOrder.Command
