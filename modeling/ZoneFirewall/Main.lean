import ZoneFirewall.CommandLine.Run

/-!
# The program

Looks at the files that the arguments name, runs, and carries out what the run says.
-/

namespace ZoneFirewall.CommandLine

/-- What there is at a path of the system. -/
def lookAt (path : Path) : IO (Option Entry) := do
  try
    let bytes ← IO.FS.readBinFile path.text
    return some (.file bytes.toList)
  catch
    | .noFileOrDirectory .. => return none
    | _ => return some .directory

/-- Looks at a path and at those on the way to it. -/
def lookAlong (files : FileTree) (path : Path) : IO FileTree :=
  path.leading.foldlM (fun files path => do
    match files.walk path with
    | .error _ => return files
    | .ok place =>
      if (files.entry? place).isSome then return files
      match ← lookAt path with
      | none => return files
      | some entry => return files.put place entry) files

/-- All bytes on standard input. -/
partial def readInput (stream : IO.FS.Stream) (soFar : ByteArray) : IO ByteArray := do
  let chunk ← stream.read 65536
  if chunk.isEmpty then return soFar else readInput stream (soFar ++ chunk)

/-- The hosts that the system lists. -/
def readHosts : IO (Table String String) := do
  match ← lookAt (.ofText "/etc/hosts") with
  | some (.file bytes) => return hostsOfText ((Text.decodeUtf8 bytes).toOption.getD "")
  | _ => return .empty

/-- Writes what there is at a place. -/
def carryOut (change : Path × Entry) : IO Unit :=
  match change with
  | (path, .directory) => IO.FS.createDirAll path.text
  | (path, .file bytes) => IO.FS.writeBinFile path.text ⟨bytes.toArray⟩

end ZoneFirewall.CommandLine

open ZoneFirewall.CommandLine in
/-- Runs the program on its arguments. -/
def main (arguments : List String) : IO UInt32 := do
  let before ← (pathsOf arguments).foldlM lookAlong .empty
  let input ← if readsInput arguments then readInput (← IO.getStdin) .empty else pure .empty
  let outcome := run arguments input.toList before (← readHosts)
  for change in before.changes outcome.files do
    carryOut change
  IO.print outcome.output
  for entry in outcome.log do
    IO.eprintln entry.text
  match outcome.ending with
  | .refused => IO.eprint helpText
  | .aborted failure => IO.eprintln failure.message
  | _ => pure ()
  return UInt32.ofNat outcome.ending.status
