import Footage.Bytes

/-!
# Transport stream packets

A transport stream is a row of packets of 188 octets. Each belongs to one of three flows, and a
counter modulo 16 numbers the packets of a flow. An adaptation field holds what does not belong
to the flow's data, and fills up a packet whose data are short.
-/

namespace Footage.TransportStream

def packetSize : Nat := 188

/-- Octets of a packet behind its header. -/
def roomSize : Nat := packetSize - 4

/-- The flows of a stream with one program of one video. -/
inductive Flow where
  | programAssociation
  | programMap
  | video
deriving DecidableEq, Repr

def Flow.pid : Flow → Nat
  | programAssociation => 0
  | programMap => 0x1000
  | video => 256

/-- The number of the next packet of each flow, modulo 16. -/
structure Counters where
  programAssociation : Nat := 0
  programMap : Nat := 0
  video : Nat := 0
deriving DecidableEq, Repr

namespace Counters

def get (counters : Counters) : Flow → Nat
  | .programAssociation => counters.programAssociation
  | .programMap => counters.programMap
  | .video => counters.video

def bump (counters : Counters) : Flow → Counters
  | .programAssociation =>
    { counters with programAssociation := (counters.programAssociation + 1) % 16 }
  | .programMap => { counters with programMap := (counters.programMap + 1) % 16 }
  | .video => { counters with video := (counters.video + 1) % 16 }

end Counters

/-- A packet without its number. -/
structure Packet where
  flow : Flow
  /-- A table or picture starts with the first octet of the payload. -/
  isStart : Bool
  /-- The adaptation field without its length. -/
  adaptation : Option Bytes
  payload : Bytes
deriving DecidableEq, Repr

def Packet.encode (packet : Packet) (counter : Nat) : Bytes :=
  let start := if packet.isStart then 0x40 else 0
  let control := if packet.adaptation.isSome then 0x30 else 0x10
  let field := match packet.adaptation with
    | none => []
    | some octets => UInt8.ofNat octets.length :: octets
  [0x47, UInt8.ofNat (start ||| (packet.flow.pid >>> 8)), UInt8.ofNat packet.flow.pid,
    UInt8.ofNat (control ||| counter)] ++ field ++ packet.payload

/-- The adaptation field of a packet whose payload leaves `slack` octets free. `fields` holds
the contents, empty if there is nothing to tell; then the field is only padding, which can be as
short as its length octet. -/
def stuffed (fields : Bytes) (slack : Nat) : Option Bytes :=
  if fields.isEmpty then
    if slack = 0 then none
    else if slack = 1 then some []
    else some (0 :: List.replicate (slack - 2) 0xFF)
  else some (fields ++ List.replicate slack 0xFF)

/-- Cuts octets into pieces: the first of up to `room` octets, the others of up to `size`.
`piece` holds the current piece, newest octet first. -/
def piecesFrom (size : Nat) (piece : Bytes) : (room : Nat) → Bytes → List Bytes
  | _, [] => if piece.isEmpty then [] else [piece.reverse]
  | 0, b :: rest => piece.reverse :: piecesFrom size [b] (size - 1) rest
  | room + 1, b :: rest => piecesFrom size (b :: piece) room rest

/-- Cuts octets into pieces: the first of up to `first` octets, the others of up to `size`. -/
def pieces (first size : Nat) (octets : Bytes) : List Bytes := piecesFrom size [] first octets

/-- The packets of one picture's octets. The first packet tells `fields` in its adaptation
field. -/
def videoPackets (fields octets : Bytes) : List Packet :=
  let overhead := if fields.isEmpty then 0 else 1 + fields.length
  let packet (isStart : Bool) (fields : Bytes) (room : Nat) (piece : Bytes) : Packet :=
    ⟨.video, isStart, stuffed fields (room - piece.length), piece⟩
  match pieces (roomSize - overhead) roomSize octets with
  | [] => []
  | first :: rest =>
    packet true fields (roomSize - overhead) first :: rest.map (packet false [] roomSize)

/-- The packet of a table: its section starts right away, and what is left is padding. -/
def tablePacket (flow : Flow) (table : Bytes) : Packet :=
  let payload := 0 :: table
  ⟨flow, true, none, payload ++ List.replicate (roomSize - payload.length) 0xFF⟩

end Footage.TransportStream
