import Footage.Decimal.Whole
import Footage.Packet.Buffer

/-!
# Dumps

A dump is a directory with one file per NAL unit. The file holds the raw payload, and its name
tells the packet, the place in the packet and the packet's time: `003-001.000040000000.raw`.
-/

namespace Footage

/-- The regular files of a directory, in the order in which it lists them. -/
abbrev Directory := List (String × Bytes)

namespace Directory

def erase (dir : Directory) (drop : String → Bool) : Directory := dir.filter (!drop ·.1)

/-- Writes a file, in the place of one of that name. -/
def insert (dir : Directory) (name : String) (content : Bytes) : Directory :=
  dir.erase (· = name) ++ [(name, content)]

end Directory

structure DumpName where
  /-- Index of the packet in the buffer. -/
  packet : Nat
  /-- Index of the NAL unit in the packet. -/
  unit : Nat
  /-- Time of the packet in nanoseconds. -/
  nanos : Nat
deriving DecidableEq, Repr

namespace DumpName

/-- The digits of `n`, with zeros in front up to the width. -/
def padded (width n : Nat) : List Char :=
  let digits := Nat.toDigits 10 n
  List.replicate (width - digits.length) '0' ++ digits

def format (name : DumpName) : String :=
  String.ofList <|
    padded 3 name.packet ++ '-' :: padded 3 name.unit ++ '.' :: padded 12 name.nanos ++
      ".raw".toList

/-- The parts before and after the first `mark`. -/
def cut? (mark : Char) (text : List Char) : Option (List Char × List Char) :=
  match text.span (· ≠ mark) with
  | (before, _ :: after) => some (before, after)
  | (_, []) => none

/-- The text without an ending. -/
def dropEnding? (ending text : List Char) : Option (List Char) :=
  if ending.isSuffixOf text then some (text.take (text.length - ending.length)) else none

/-- What a name tells, if it is a dump file's. Numbers need not be padded. -/
def parse? (name : String) : Option DumpName := do
  let stem ← dropEnding? ".raw".toList name.toList
  let (indices, nanos) ← cut? '.' stem
  let (packet, unit) ← cut? '-' indices
  return ⟨← Decimal.whole? packet, ← Decimal.whole? unit, ← Decimal.whole? nanos⟩

end DumpName

/-- A name ends in a point and `extension`, with more than that point in front. -/
def hasExtension (extension name : String) : Bool :=
  let chars := name.toList
  match (chars.reverse.span (· ≠ '.')) with
  | (ending, _ :: stem) => ending.reverse = extension.toList && !stem.isEmpty
  | (_, []) => false

/-- Files of a dump are told from other files by their extension. -/
def isDumpFile (name : String) : Bool := hasExtension "raw" name

namespace PacketBuffer

def dumpFiles (buffer : PacketBuffer) : Directory :=
  buffer.packets.zipIdx.flatMap fun (p, packet) =>
    p.units.zipIdx.map fun (unit, index) =>
      ((DumpName.mk packet index (p.pts.nanos % wordLimit 64)).format, unit.toRaw.payload)

/-- Writes a buffer's dump into a directory that lists the given names; the answer is the number of
files written. Dump files that were there are removed first, and other files stay. `reach` tells
why a name is out of reach; the first such name ends the dump, and what was done before stays
done. -/
def dumpInto (buffer : PacketBuffer) (reach : String → Except IoError Unit) (listed : List String) :
    Effect Directory IoError Nat := do
  (listed.filter isDumpFile).forM fun name => do
    reach name
    modify (·.erase (· = name))
  buffer.dumpFiles.foldlM (fun written (name, content) => do
    reach name
    modify (·.insert name content)
    return written + 1) 0

/-- A packet index as a receive number of 64 bits with sign. -/
def receiveIdOf (index : Nat) : Int := Int.bmod index (wordLimit 64)

/-- Puts NAL units in order together to packets. Neighbours with the same packet index belong
together, and the first one tells the time. -/
def packetsOfFiles (codec : Codec) : List (DumpName × Bytes) → List (Nat × Packet)
  | [] => []
  | (name, content) :: rest =>
    let unit := NalUnit.ofRaw content
    let pts : Duration := ⟨name.nanos⟩
    let alone : Packet :=
      { receiveId := receiveIdOf name.packet, codec, units := [unit], pts, wall := .sinceEpoch pts }
    match packetsOfFiles codec rest with
    | (index, p) :: more =>
      if index = name.packet then (index, { alone with units := unit :: p.units }) :: more
      else (name.packet, alone) :: (index, p) :: more
    | [] => [(name.packet, alone)]

variable {α : Type}

/-- The dump files of a listing with what their names tell; `path` shows a file's name with that of
its directory. -/
def dumpEntries (path : String → String) (listing : List (String × α)) :
    Except PacketError (List (DumpName × α)) :=
  (listing.filter (isDumpFile ·.1)).mapM fun (name, content) =>
    match DumpName.parse? name with
    | some parsed => .ok (parsed, content)
    | none => .error (.invalidDumpFile (path name))

/-- Whether a file comes before another one by packet and place, or shares both. -/
def dumpOrder (a b : DumpName × α) : Bool :=
  a.1.packet < b.1.packet || (a.1.packet = b.1.packet && a.1.unit ≤ b.1.unit)

/-- The packets of a dump, given what a directory lists and what comes of reading it. Wall clock
times are the packets' times after 1970-01-01. -/
def ofDump (path : String → String) (codec : Codec)
    (listing : List (String × Except IoError Bytes)) : Except PacketError PacketBuffer := do
  let entries ← dumpEntries path listing
  let files ← (entries.mergeSort dumpOrder).mapM fun (name, content) =>
    (content.mapError PacketError.io).map fun content => (name, content)
  return ⟨(packetsOfFiles codec files).map (·.2)⟩

end PacketBuffer

end Footage
