import Courier.CommandLine.Run

/-! The tool as a program: it looks up what a command line may need, runs it, and writes what it leaves. -/

namespace Courier.CommandLine

/-- What stands at a path now. Behind a file (code 20) there is nothing, and a path that is too long (code
36) leads to nothing that can be seen; whatever else is there and cannot be read counts as a directory. -/
def fileState (path : String) : IO Config.FileState := do
  try
    let bytes ← IO.FS.readBinFile path
    return .content bytes.toList
  catch
    | .noFileOrDirectory .. => return .missing
    | .inappropriateType _ code _ => return if code = 20 then .missing else .directory
    | .permissionDenied .. => return .barred true .forbidden
    | .invalidArgument _ code _ => return if code = 36 then .barred false .nameTooLong else .directory
    | _ => return .directory

partial def readAll (stream : IO.FS.Stream) (done : ByteArray) : IO ByteArray := do
  let block ← stream.read 65536
  if block.isEmpty then return done else readAll stream (done ++ block)

end Courier.CommandLine

open Courier Courier.CommandLine in
def main (words : List String) : IO UInt32 := do
  let configFile := (← IO.getEnv Config.fileVariable).map Utf8.ofString
  let found ← (pathsOf configFile words).mapM fun path => return (path, ← fileState path)
  let input ← if readsInput words then readAll (← IO.getStdin) ByteArray.empty else pure ByteArray.empty
  let files : Config.Files := fun path => (found.lookup path).getD .missing
  let result := run { files, configFile, input := input.toList } words
  for (path, state) in found do
    match result.files path with
    | .content bytes =>
      if state ≠ .content bytes then IO.FS.writeBinFile path ⟨bytes.toArray⟩
    | _ => pure ()
  (← IO.getStdout).write ⟨result.output.toArray⟩
  for line in result.remarks do
    IO.eprintln line
  return result.exit.toUInt32
