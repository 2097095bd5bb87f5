import MpegRecorder.Command.Run
import MpegRecorder.Storage.Changes

/-!
The program. It shows the command the files and directories on the way to the paths that its
arguments name, and then makes real what the command did to them.
-/

namespace MpegRecorder.Command

open Storage

def look (storage : Storage) (path : String) : IO Storage := do
  let place := (← IO.currentDir) / path
  if ← place.isDir then
    let (_, tree) := storage.tree.makeDirectories (storage.tree.start path) (Path.segments path)
    return { storage with tree }
  if ! (← place.pathExists) then
    return storage
  let content ← IO.FS.readBinFile place
  match storage.truncate path with
  | (.ok destination, storage) =>
    return storage.modify destination.file fun file => { file with content := ⟨content⟩ }
  | (.error _, storage) => return storage

/-- The part of real storage that the command can see. -/
def survey (arguments : List String) : IO Storage := do
  let here := (← IO.currentDir).toString
  ((paths arguments).flatMap Path.way).foldlM look (.empty (Path.segments here))

def enact (before after : Storage) : IO Unit := do
  for directory in newDirectories before after do
    IO.FS.createDirAll directory
  for (path, content) in changedFiles before after do
    IO.FS.writeBinFile path content.toByteArray

partial def readAll (stream : IO.FS.Stream) (front : ByteArray) : IO ByteArray := do
  let piece ← stream.read 65536
  if piece.isEmpty then return front
  readAll stream (front ++ piece)

end MpegRecorder.Command

open MpegRecorder

def main (arguments : List String) : IO UInt32 := do
  let before ← Command.survey arguments
  let standardInput ←
    if Command.readsStandardInput arguments then
      Command.readAll (← IO.getStdin) ByteArray.empty
    else pure ByteArray.empty
  let (outcome, after) := Command.run arguments before standardInput.toList
  Command.enact before after
  for line in outcome.lines do
    IO.println line
  for line in outcome.errorLine do
    IO.eprintln line
  return UInt32.ofNat outcome.code
