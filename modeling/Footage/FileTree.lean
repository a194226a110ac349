import Footage.Packet.Dump

/-!
# Files and folders

Files are held in a tree, in which paths are walked name by name. A step fails as it would on a
disk: names that are missing, files where a folder is needed, and folders where a file is.
-/

namespace Footage

/-- The names of the folders from the root on, and that of a file or folder at the end. -/
abbrev Path := List String

structure FileTree where
  files : List (Path × Bytes) := []
  /-- All folders but the root. -/
  folders : List Path := []
  /-- The folder in which paths start. -/
  here : Path := []
deriving DecidableEq, Repr

/-- Where the text of a path leads. -/
structure Target where
  path : Path
  /-- The text says that there is to be a folder: `dump/`. -/
  asFolder : Bool
deriving DecidableEq, Repr

namespace FileTree

/-- A tree of files below the working folder. -/
def ofFiles (here : Path) (files : List (Path × Bytes)) : FileTree :=
  let files := files.map fun (path, content) => (here ++ path, content)
  let above (path : Path) : List Path :=
    (List.range path.length).map fun n => path.take (n + 1)
  { here, files
    folders := (above here ++ files.flatMap fun (path, _) => above path.dropLast).eraseDups }

def isFolder (tree : FileTree) (path : Path) : Bool := path = [] || tree.folders.contains path

def content? (tree : FileTree) (path : Path) : Option Bytes := tree.files.lookup path

/-- Writes a file, in the place of one of that name. -/
def put (tree : FileTree) (path : Path) (content : Bytes) : FileTree :=
  { tree with files := tree.files.filter (·.1 ≠ path) ++ [(path, content)] }

/-! ## Walking a path -/

def maxNameSize : Nat := 255

def maxPathSize : Nat := 4095

/-- Nothing can be at the path. -/
def isTooLong (path : Path) : Bool := path.any (maxNameSize < ·.utf8ByteSize)

/-- Why there is nothing at the path. -/
def absence (path : Path) : IoError := if isTooLong path then .nameTooLong else .notFound

def checkPath (text : String) : Except IoError Unit :=
  if text.toList.contains '\x00' then .error .nulInPath
  else if text.isEmpty then .error .notFound
  else if maxPathSize < text.utf8ByteSize then .error .nameTooLong
  else .ok ()

def enter (tree : FileTree) : (here : Path) → (steps : List String) → Except IoError Path
  | here, [] => .ok here
  | here, "." :: rest => enter tree here rest
  | here, ".." :: rest => enter tree here.dropLast rest
  | here, name :: rest =>
    let path := here ++ [name]
    if tree.isFolder path then enter tree path rest
    else .error (if (tree.content? path).isSome then .notADirectory else absence path)

/-- The steps in the text of a path. -/
def stepsOf (text : String) : List String := (text.splitOn "/").filter (· ≠ "")

/-- A step to a name, and not one that stays or goes up. -/
def isName (step : String) : Bool := step ≠ "." && step ≠ ".."

/-- The steps in the text of a path without those that stay where they are. -/
def namesOf (text : String) : List String := (stepsOf text).filter (· ≠ ".")

def startOf (tree : FileTree) (text : String) : Path :=
  if text.startsWith "/" then [] else tree.here

/-- Walks all steps but a last one to a name, which need not be there. -/
def locate (tree : FileTree) (text : String) : Except IoError Target := do
  checkPath text
  let steps := stepsOf text
  match steps.getLast?.filter isName with
  | none => return ⟨← tree.enter (tree.startOf text) steps, true⟩
  | some name =>
    let folder ← tree.enter (tree.startOf text) steps.dropLast
    return ⟨folder ++ [name], text.endsWith "/"⟩

def lastName? (text : String) : Option String :=
  (namesOf text).getLast?.filter (· ≠ "..")

def pathTo (folder name : String) : String :=
  if folder.endsWith "/" then folder ++ name else folder ++ "/" ++ name

/-! ## Steps on files -/

def hasFolder (tree : FileTree) (text : String) : Bool :=
  match tree.locate text with
  | .ok target => tree.isFolder target.path
  | .error _ => false

def read (tree : FileTree) (text : String) : Except IoError Bytes := do
  let target ← tree.locate text
  if tree.isFolder target.path then throw .isADirectory
  match tree.content? target.path with
  | none => throw (absence target.path)
  | some content => if target.asFolder then throw .notADirectory else return content

/-- Creates a file, or empties one that is there. The answer is the file's path in the tree. -/
def create (tree : FileTree) (text : String) : Except IoError (Path × FileTree) := do
  let target ← tree.locate text
  if target.asFolder || tree.isFolder target.path then throw .isADirectory
  if isTooLong target.path then throw .nameTooLong
  return (target.path, tree.put target.path [])

/-! ## Making folders -/

/-- Makes the folder that the last step leads to. Only a step to a name can lead to a new one. -/
def makeFolder (start : Path) (steps : List String) : Effect FileTree IoError Unit := do
  let tree ← get
  let above ← tree.enter start steps.dropLast
  match steps.getLast?.filter isName with
  | none => throw .alreadyExists
  | some name =>
    let path := above ++ [name]
    if tree.isFolder path || (tree.content? path).isSome then throw .alreadyExists
    if isTooLong path then throw .nameTooLong
    set { tree with folders := tree.folders ++ [path] }

def ensureFolder (start : Path) (steps : List String) : Effect FileTree IoError Unit :=
  tryCatch (makeFolder start steps) fun error => do
    if ((← get).enter start steps).toOption.isNone then throw error

/-- Makes a folder. If something above it is missing, the folders above it are made first; they
are given from the innermost on. -/
def ensureFolders (start : Path) (steps : List String) :
    (above : List (List String)) → Effect FileTree IoError Unit
  | [] => ensureFolder start steps
  | outer :: rest =>
    tryCatch (ensureFolder start steps) fun error => do
      if error ≠ .notFound then throw error
      ensureFolders start outer rest
      ensureFolder start steps

/-- The ways to the folders above the place that the text of a path names, from the innermost
on. -/
def outerSteps (text : String) : List (List String) :=
  let names := namesOf text
  (List.range (names.length - 1)).reverse.map fun index => names.take (index + 1)

/-- Makes the folder at a path and those above it, as far as they are missing. -/
def makeFolders (text : String) : Effect FileTree IoError Unit := do
  checkPath text
  ensureFolders ((← get).startOf text) (stepsOf text) (outerSteps text)

/-! ## Dumps -/

def filesIn (tree : FileTree) (folder : Path) : Directory :=
  tree.files.filterMap fun (path, content) =>
    if path.dropLast = folder then path.getLast?.map fun name => (name, content) else none

/-- The names of the files and folders directly in a folder, in alphabetical order. -/
def namesIn (tree : FileTree) (folder : Path) : List String :=
  let paths := tree.files.map (·.1) ++ tree.folders
  let names := paths.filterMap fun path => if path.dropLast = folder then path.getLast? else none
  names.mergeSort fun a b => !(b < a)

/-- Puts other files in the place of those directly in a folder. -/
def setFilesIn (tree : FileTree) (folder : Path) (files : Directory) : FileTree :=
  let others := tree.files.filter fun (path, _) => path.dropLast ≠ folder
  { tree with files := others ++ files.map fun (name, content) => (folder ++ [name], content) }

def loadDump (tree : FileTree) (text : String) (codec : Codec) :
    Except PacketError PacketBuffer := do
  let target ← (tree.locate text).mapError .io
  if !tree.isFolder target.path then
    throw (.io (if (tree.content? target.path).isSome then .notADirectory else .notFound))
  PacketBuffer.ofDump (pathTo text) codec <|
    (tree.namesIn target.path).map fun name => (name, tree.read (pathTo text name))

/-- Writes a buffer's dump into a folder, which is made if it is missing. The answer is the number
of files. -/
def writeDump (buffer : PacketBuffer) (text : String) : Effect FileTree PacketError Nat := do
  (makeFolders text).rename PacketError.io
  let tree ← get
  let folder := (← (tree.locate text).mapError PacketError.io).path
  let reach (name : String) : Except IoError Unit := do
    checkPath (pathTo text name)
    if tree.isFolder (folder ++ [name]) then throw .isADirectory
  let (result, files) := (buffer.dumpInto reach (tree.namesIn folder)).run (tree.filesIn folder)
  set (tree.setFilesIn folder files)
  result.mapError PacketError.io

end FileTree

end Footage
