import Footage.CommandLine.Run
import Std.Time.DateTime.Timestamp

/-!
# The program

The parts of the disk that the arguments name are read into a tree, the command is run on it, and
what it changed is written back.
-/

namespace Footage

def absolutePath (path : Path) : String := "/" ++ String.intercalate "/" path

/-- Adds what the disk holds at a path to a tree, without what a folder contains. -/
def readPlace (tree : FileTree) (path : Path) : IO FileTree := do
  let place := (← IO.currentDir) / absolutePath path
  if tree.isFolder path || (tree.content? path).isSome then return tree
  else if ← place.isDir then return { tree with folders := tree.folders ++ [path] }
  else if ← place.pathExists then
    return tree.put path (← IO.FS.readBinFile place).toList
  else return tree

/-- Adds everything on the way of a path, and the dump that the folder at its end may hold. -/
def readWay (tree : FileTree) (text : String) : IO FileTree := do
  let mut tree := tree
  let mut path := tree.startOf text
  for name in FileTree.namesOf text do
    path := if name = ".." then path.dropLast else path ++ [name]
    tree ← readPlace tree path
  if tree.isFolder path then
    let place := (← IO.currentDir) / absolutePath path
    for entry in ← place.readDir do
      if isDumpFile entry.fileName then tree ← readPlace tree (path ++ [entry.fileName])
  return tree

/-- The tree around the working folder, as far as the paths lead. -/
def readTree (paths : List String) : IO FileTree := do
  let here := FileTree.namesOf (← IO.currentDir).toString
  let mut tree := FileTree.ofFiles here []
  for path in paths do
    tree ← readWay tree path
  return tree

/-- Makes the disk follow a change of the tree. -/
def writeChanges (before after : FileTree) : IO Unit := do
  for path in after.folders do
    if !before.isFolder path then IO.FS.createDirAll (absolutePath path)
  for (path, _) in before.files do
    if (after.content? path).isNone then IO.FS.removeFile (absolutePath path)
  for (path, content) in after.files do
    if before.content? path ≠ some content then
      IO.FS.writeBinFile (absolutePath path) ⟨content.toArray⟩

end Footage

open Footage in
def main (arguments : List String) : IO UInt32 := do
  let paths := match CommandLine.Invocation.parse arguments with
    | .ok invocation => invocation.paths
    | .error _ => []
  let before ← readTree paths
  let moment := (← Std.Time.Timestamp.now).toNanosecondsSinceUnixEpoch.val
  let outcome := CommandLine.run ⟨moment⟩ arguments before
  (← IO.getStdout).putStr outcome.output
  writeChanges before outcome.tree
  if let some report := outcome.report then
    (← IO.getStderr).putStrLn s!"Error: {report.text}"
  if outcome.code = 2 then (← IO.getStderr).putStrLn CommandLine.usage
  return UInt32.ofNat outcome.code
