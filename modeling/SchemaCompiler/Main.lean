import Std.Time.DateTime.Timestamp
import SchemaCompiler.CommandLine.Run
import SchemaCompiler.Folder.Change

/-!
# The program

Loads the files at the paths of a command, runs it on them and carries out the
changes on the disk.
-/

namespace SchemaCompiler

/-- Adds the file or empty folder that the disk has at a place. -/
def Folder.note (root : Folder) (place : Place) : IO Folder := do
  let path := (← IO.currentDir) / pathBelow "" place
  if ← path.isDir then
    return if root.hasFolder place then root else putAt (.folder .empty) place root
  else if ← path.pathExists then
    return putAt (.file (← IO.FS.readBinFile path).data.toList) place root
  else
    return root

/-- Adds all that the disk has at a place and below. Links inside are not followed. -/
partial def Folder.load (root : Folder) (place : Place) : IO Folder := do
  let path := (← IO.currentDir) / pathBelow "" place
  let mut root ← root.note place
  if ← path.isDir then
    for entry in ← path.readDir do
      unless (← entry.path.symlinkMetadata).type == .symlink do
        root ← root.load (place ++ [entry.fileName])
  return root

def CommandLine.Command.load (command : Command) : IO Folder := do
  let mut root := Folder.empty
  for path in command.paths do
    let places := Folder.placesOn path
    for place in places do
      root ← root.note place
    root ← root.load (places.getLastD [])
  return root

def Change.carryOut (change : Change) : IO Unit := do
  let onDisk (place : Folder.Place) := return (← IO.currentDir) / Folder.pathBelow "" place
  match change with
  | remove place => IO.FS.removeFile (← onDisk place)
  | makeFolder place => IO.FS.createDirAll (← onDisk place)
  | write place content => IO.FS.writeBinFile (← onDisk place) ⟨content.toArray⟩

def currentTimestamp : IO Timestamp := do
  let now ← Std.Time.Timestamp.now
  return { seconds := now.toSecondsSinceUnixEpoch.val }

end SchemaCompiler

open SchemaCompiler in
def main (arguments : List String) : IO UInt32 := do
  let before ←
    match CommandLine.Command.read arguments with
    | .ok command => command.load
    | .error _ => pure Folder.empty
  let (outcome, after) := CommandLine.run arguments (← currentTimestamp) before
  (before.changes after).forM Change.carryOut
  IO.print outcome.output
  IO.eprint outcome.errors
  return outcome.exitCode.toUInt32
