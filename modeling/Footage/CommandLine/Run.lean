import Footage.CommandLine.Arguments
import Footage.CommandLine.Info
import Footage.FileTree
import Footage.FrameRate
import Footage.ParameterSet.H264
import Footage.Settings

/-!
# Running a command

A command reads and writes a tree of files and prints to the standard output. Files that were
written before it fails stay written.
-/

namespace Footage.CommandLine

/-- What a command works on. -/
structure Desk where
  tree : FileTree
  /-- The lines printed so far. -/
  printed : List String := []

inductive Failure where
  | reported (report : Report)
  /-- Arithmetic left its range, which nobody reports. -/
  | crashed

abbrev Action (α : Type) := Effect Desk Failure α

namespace Action

variable {α : Type}

def fail (message : String) : Action α := throw (.reported ⟨message, []⟩)

/-- A result, or the report of its error seen from the step `context`. -/
def orReport {ε : Type} (context : String) (report : ε → Report) : Except ε α → Action α
  | .ok a => return a
  | .error error => throw (.reported ((report error).within context))

def orCrash : Option α → Action α
  | some a => return a
  | none => throw .crashed

def print (line : String) : Action Unit :=
  modify fun desk => { desk with printed := desk.printed ++ [line] }

/-- Changes the tree, or reports from the step `context` why not. -/
def onTree {ε : Type} (context : String) (report : ε → Report) (step : Effect FileTree ε α) :
    Action α := do
  let (result, tree) := step.run (← get).tree
  modify fun desk => { desk with tree }
  orReport context report result

def read (path : String) : Action Bytes := do
  orReport s!"reading {path}" Report.ofIo ((← get).tree.read path)

/-- Creates an empty file; the answer is its path in the tree. -/
def create (context path : String) : Action Path := do
  let (place, tree) ← orReport context Report.ofIo ((← get).tree.create path)
  modify fun desk => { desk with tree }
  return place

def put (place : Path) (content : Bytes) : Action Unit :=
  modify fun desk => { desk with tree := desk.tree.put place content }

end Action

/-- A sink that keeps what it is given, newest first. -/
def collector : ByteSink (List Bytes) where
  write octets := modify (octets :: ·)
  flush := return

/-! ## Reading -/

def loadSettings : (path : Option String) → Action Settings
  | none => return {}
  | some path => do
    let text ← Action.orReport s!"reading config {path}" Report.ofIo ((← get).tree.read path)
    if (String.fromUTF8? ⟨text.toArray⟩).isNone then
      throw (.reported ⟨s!"reading config {path}", ["stream did not contain valid UTF-8"]⟩)
    Action.orReport s!"parsing config {path}" (fun refusal => ⟨refusal.message, []⟩)
      (Settings.parse text)

/-- The packets of an input. Those of a byte stream were taken from `now` on. -/
def loadInput (now : WallTime) (input : Input) : Action PacketBuffer := do
  let tree := (← get).tree
  if tree.hasFolder input.path then
    Action.orReport s!"loading dump {input.path}" PacketError.report
      (tree.loadDump input.path input.codec)
  else
    if !FrameRate.isValid input.rate then
      Action.fail s!"invalid frame rate {Decimal.plainText input.rate}"
    let stream ← Action.read input.path
    let interval ← Action.orCrash (FrameRate.interval? input.rate)
    Action.orCrash (PacketBuffer.ofStream input.codec stream interval now).toOption

/-! ## Commands -/

def info (buffer : PacketBuffer) (perPacket asJson : Bool) : Action Unit := do
  let info := BufferInfo.of buffer
  if asJson then Action.print info.json
  else
    info.lines.forM Action.print
    if perPacket then (packetLines buffer).forM Action.print

def formatOfName? (path : String) : Option ContainerFormat :=
  match FileTree.lastName? path with
  | none => none
  | some name =>
    if hasExtension "mp4" name then some .mp4
    else if hasExtension "ts" name then some .transportStream
    else none

def save (now : WallTime) (input : Input) (output : String) (format : Option ContainerFormat) :
    Action Unit := do
  let some format := format <|> formatOfName? output
    | Action.fail s!"cannot infer container format of {output}, use --format"
  let buffer ← loadInput now input
  let place ← Action.create s!"creating {output}" output
  let (result, chunks) := (buffer.save format collector).run []
  Action.put place chunks.reverse.flatten
  if let .error (.overflow _) := result then throw .crashed
  Action.orReport s!"exporting to {output}" PacketError.report result

def dump (now : WallTime) (input : Input) (output : String) : Action Unit := do
  let buffer ← loadInput now input
  discard <| Action.onTree s!"dumping to {output}" PacketError.report
    (FileTree.writeDump buffer output)

/-- The byte streams of packets one after another, up to the first packet that has none. -/
def joinedStream (escaping : Bool) : List Packet → Bytes × Except PacketError Unit
  | [] => ([], .ok ())
  | p :: rest =>
    match p.toStream escaping with
    | .ok octets =>
      let (later, result) := joinedStream escaping rest
      (octets ++ later, result)
    | .error error => ([], .error error)

def join (now : WallTime) (settings : PacketSettings) (input : Input) (output : String) :
    Action Unit := do
  let buffer ← loadInput now input
  let place ← Action.create s!"creating {output}" output
  let (stream, result) := joinedStream settings.escaping buffer.packets
  Action.put place stream
  if let .error error := result then throw (.reported error.report)

def escape (input output : String) (codeLength : Nat) : Action Unit := do
  let some code := StartCode.ofLength? codeLength
    | Action.fail s!"invalid start code length {codeLength}"
  match AnnexB.encode (← Action.read input) code true with
  | .ok octets => Action.put (← Action.create s!"writing {output}" output) octets
  | .error error => Action.fail error.message

def unescape (input output : String) : Action Unit := do
  let stream ← Action.read input
  let body := stream.drop (StartCode.detect stream).length
  Action.put (← Action.create s!"writing {output}" output) (AnnexB.unescape body)

/-- Sends packets through a ring buffer. From packet `startAfter` on they are recorded. -/
def replay (settings : Settings) (startAfter : Nat) (packets : List Packet) : Session StreamFile :=
  let session : Session StreamFile := { ring := .empty settings.ring.budget, archive := {} }
  packets.zipIdx.foldl (fun session (p, index) =>
    let session :=
      if index = startAfter then session.start StreamFile.sink "replay" settings.recorder
      else session
    (session.add StreamFile.sink p).2) session

def record (now : WallTime) (settings : Settings) (input : Input) (output : String)
    (history : Option Duration) (startAfter : Nat) : Action Unit := do
  let buffer ← loadInput now input
  let place ← Action.create s!"creating {output}" output
  discard <| Action.orCrash (FrameRate.interval? input.rate)
  if buffer.length ≤ startAfter then
    Action.fail s!"input has {buffer.length} packets, recording would start after {startAfter}"
  let recorder := { settings.recorder with history := history.getD settings.recorder.history }
  Action.orCrash (Channel.checkCapacity recorder.channelCapacity).toOption
  let session := replay { settings with recorder } startAfter buffer.packets
  Action.put place session.stop.archive.content

def Command.run (now : WallTime) (settings : Settings) : Command → Action Unit
  | .info input perPacket asJson => do
    CommandLine.info (← loadInput now input) perPacket asJson
  | .save input output format => CommandLine.save now input output format
  | .dump input output => CommandLine.dump now input output
  | .join input output => CommandLine.join now settings.packet input output
  | .escape input output codeLength => CommandLine.escape input output codeLength
  | .unescape input output => CommandLine.unescape input output
  | .record input output history startAfter =>
    CommandLine.record now settings input output history startAfter

/-! ## The program -/

/-- What is left when the program has ended. -/
structure Outcome where
  /-- The exit code. -/
  code : Nat
  output : String
  /-- Why a command failed. -/
  report : Option Report
  tree : FileTree

def versionText : String := "vigil 0.1.0"

/-- Runs the program with the given arguments at the time `now`. -/
def run (now : WallTime) (arguments : List String) (tree : FileTree) : Outcome :=
  let text (lines : List String) : String := String.join (lines.map (· ++ "\n"))
  match Invocation.parse arguments with
  | .error .misuse => ⟨2, "", none, tree⟩
  | .error .help => ⟨0, text [usage], none, tree⟩
  | .error .version => ⟨0, text [versionText], none, tree⟩
  | .ok invocation =>
    let action : Action Unit := do
      let settings ← loadSettings invocation.settings
      invocation.command.run now settings
    let (result, desk) := action.run { tree }
    match result with
    | .ok () => ⟨0, text desk.printed, none, desk.tree⟩
    | .error (.reported report) => ⟨1, text desk.printed, some report, desk.tree⟩
    | .error .crashed => ⟨101, text desk.printed, none, desk.tree⟩

end Footage.CommandLine
