import Footage.Export.TransportStream.Packet

/-!
# Program tables

Two tables tell a receiver where the video is: the association table names the program map, the
program map names the video flow. A checksum closes each table, such that the checksum of the
whole is zero.
-/

namespace Footage.TransportStream

/-! ## Checksum -/

/-- The polynomial of the checksum, without its leading term. -/
def polynomial : BitVec 32 := 0x04C11DB7

/-- Moves the register on by one bit. -/
def checksumBit (register : BitVec 32) : BitVec 32 :=
  if register.msb then (register <<< 1) ^^^ polynomial else register <<< 1

def checksumBits : (count : Nat) → BitVec 32 → BitVec 32
  | 0, register => register
  | count + 1, register => checksumBits count (checksumBit register)

def checksumByte (register : BitVec 32) (b : UInt8) : BitVec 32 :=
  checksumBits 8 (register ^^^ (b.toBitVec.setWidth 32 <<< 24))

/-- The MPEG-2 checksum of a table. -/
def checksum (octets : Bytes) : BitVec 32 := octets.foldl checksumByte (BitVec.allOnes 32)

/-! ## Tables -/

/-- A table: its number, then its length, the octets that follow, and the checksum. The length
counts all that comes after it. -/
def table (number : UInt8) (content : Bytes) : Bytes :=
  let length := content.length + 4
  let octets := [number, UInt8.ofNat (0xB0 ||| (length >>> 8) % 16), UInt8.ofNat length] ++ content
  octets ++ Bytes.bigEndian 4 (checksum octets).toNat

/-- A packet identifier behind its three reserved bits. -/
def pidField (flow : Flow) : Bytes :=
  [UInt8.ofNat (0xE0 ||| (flow.pid >>> 8)), UInt8.ofNat flow.pid]

/-- Stream or program 1, version 0, in force, the only part. -/
def tableIdentity : Bytes := [0x00, 0x01, 0xC1, 0x00, 0x00]

/-- Program 1 is described in the program map flow. -/
def associationTable : Bytes :=
  table 0x00 (tableIdentity ++ [0x00, 0x01] ++ pidField .programMap)

/-- The clock of the program is in the video flow, which carries a stream of the given type. -/
def mapTable (streamType : UInt8) : Bytes :=
  table 0x02 (tableIdentity ++ pidField .video ++ [0xF0, 0x00] ++
    [streamType] ++ pidField .video ++ [0xF0, 0x00])

end Footage.TransportStream
