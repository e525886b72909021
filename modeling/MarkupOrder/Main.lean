import MarkupOrder.Command.Run

/-!
# The program

The files named by the arguments are read before the run, and those that the run has changed are
written back behind it.
-/

namespace MarkupOrder.Command

/-- All bytes of a stream, behind those read already. -/
partial def readBytes (stream : IO.FS.Stream) (bytes : ByteArray) : IO ByteArray := do
  let more ← stream.read 65536
  if more.isEmpty then return bytes else readBytes stream (bytes ++ more)

/-- What there is under a name. What is there and cannot be read is taken for a directory. -/
def readEntry (name : Text) : IO (Option Entry) := do
  match ← (IO.FS.readBinFile (String.ofList name)).toBaseIO with
  | .ok bytes => return some (.file bytes)
  | .error (.noFileOrDirectory ..) => return none
  | .error _ => return some .directory

/-- Write a file back if the run has changed it. -/
def writeBack (before after : Files) (name : Text) : IO Unit := do
  match before name, after name with
  | some (.file old), some (.file new) =>
    if old.data ≠ new.data then IO.FS.writeBinFile (String.ofList name) new
  | _, _ => return

end MarkupOrder.Command

open MarkupOrder MarkupOrder.Command in
/-- Run the program. -/
def main (arguments : List String) : IO UInt32 := do
  let args := arguments.map String.toList
  let mut files : Files := fun _ => none
  for name in filesOf args do
    if let some entry ← readEntry name then
      files := files.put name entry
  let stdin ←
    if readsStandardInput args then readBytes (← IO.getStdin) .empty else pure .empty
  let outcome := run (← (← IO.getStderr).isTty) args stdin files
  (← IO.getStdout).write (encode outcome.stdout)
  (← IO.getStderr).write (encode outcome.stderr)
  for name in filesOf args do
    writeBack files outcome.files name
  return UInt32.ofNat outcome.code
