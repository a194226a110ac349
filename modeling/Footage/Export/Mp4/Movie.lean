import Footage.Export.Mp4.Box
import Footage.LengthPrefix
import Footage.ParameterSet.Dimensions
import Footage.Word

/-!
# The movie box

The movie box describes the one track of a file: its picture size, how long each sample lasts,
which samples are keyframes, and where the samples lie.
-/

namespace Footage.Mp4

/-- One picture of the track. -/
structure Sample where
  /-- In ticks of the media clock. -/
  time : Nat
  /-- Length-prefixed NAL units. -/
  data : Bytes
  isKeyframe : Bool
deriving DecidableEq, Repr

def mediaTimescale : Nat := 90000

def movieTimescale : Nat := 1000

/-- How long a lone sample lasts. -/
def defaultDuration : Nat := 3000

/-- The time from one sample to the next, at least one tick and within 32 bits. -/
def gap (earlier later : Nat) : Nat := min (max (later - earlier) 1) (wordLimit 32 - 1)

/-- How long each sample lasts: until the next one, and the last one as long as the one before. -/
def durations (samples : List Sample) : List Nat :=
  let times := samples.map (·.time)
  let gaps := List.zipWith gap times times.tail
  if times.isEmpty then [] else gaps ++ [gaps.getLast?.getD defaultDuration]

/-- Equal neighbours counted together, each value behind its count. -/
def runs : List Nat → List (Nat × Nat)
  | [] => []
  | value :: rest =>
    match runs rest with
    | (count, next) :: more =>
      if next = value then (count + 1, next) :: more else (1, value) :: (count, next) :: more
    | [] => [(1, value)]

/-- The numbers of the keyframe samples, from 1. -/
def syncNumbers (samples : List Sample) : List Nat :=
  (samples.zipIdx.filter (·.1.isKeyframe)).map (·.2 + 1)

def word (n : Nat) : Bytes := Bytes.bigEndian 4 n
def half (n : Nat) : Bytes := Bytes.bigEndian 2 n

/-- Numbers behind their count. -/
def counted (entries : List Bytes) : Bytes := word entries.length ++ entries.flatten

/-- The picture is shown as it is. -/
def identityMatrix : Bytes :=
  [0x00010000, 0, 0, 0, 0x00010000, 0, 0, 0, 0x40000000].flatMap word

structure Movie where
  size : Dimensions
  /-- The decoder configuration record. -/
  configuration : Bytes
  samples : List Sample
  /-- Where the samples start in the file. -/
  offset : Nat

namespace Movie

def mediaDuration (m : Movie) : Nat := total (durations m.samples)

def movieDuration (m : Movie) : Nat := m.mediaDuration * movieTimescale / mediaTimescale

def movieHeader (m : Movie) : Box :=
  .leaf "mvhd" <| Box.versioned 0 <|
    word 0 ++ word 0 ++ word movieTimescale ++ word m.movieDuration ++ word 0x00010000 ++
      half 0x0100 ++ .zeros 10 ++ identityMatrix ++ .zeros 24 ++ word 2

def trackHeader (m : Movie) : Box :=
  .leaf "tkhd" <| Box.versioned 3 <|
    word 0 ++ word 0 ++ word 1 ++ word 0 ++ word m.movieDuration ++ .zeros 8 ++ half 0 ++ half 0 ++
      half 0 ++ half 0 ++ identityMatrix ++ word (m.size.width <<< 16) ++
      word (m.size.height <<< 16)

/-- The language is left undetermined. -/
def mediaHeader (m : Movie) : Box :=
  .leaf "mdhd" <| Box.versioned 0 <|
    word 0 ++ word 0 ++ word mediaTimescale ++ word m.mediaDuration ++ half 0x55C4 ++ half 0

def handler : Box :=
  .leaf "hdlr" <| Box.versioned 0 <|
    word 0 ++ .ofLatin "vide" ++ .zeros 12 ++ .ofLatin "VideoHandler" ++ [0]

def videoHeader : Box := .leaf "vmhd" (Box.versioned 1 (.zeros 8))

/-- The samples are in this very file. -/
def dataInformation : Box :=
  .node "dinf" [.mk "dref" (Box.versioned 0 (word 1)) [.leaf "url " (Box.versioned 1 [])]]

def sampleEntry (m : Movie) : Box :=
  .mk "avc1"
    (.zeros 6 ++ half 1 ++ .zeros 16 ++ half m.size.width ++ half m.size.height ++
      word 0x00480000 ++ word 0x00480000 ++ word 0 ++ half 1 ++ .zeros 32 ++ half 0x0018 ++
      half 0xFFFF)
    [.leaf "avcC" m.configuration]

def sampleDescription (m : Movie) : Box :=
  .mk "stsd" (Box.versioned 0 (word 1)) [m.sampleEntry]

/-- Durations as runs of equal ones. -/
def timeToSample (m : Movie) : Box :=
  .leaf "stts" <| Box.versioned 0 <| counted <|
    (runs (durations m.samples)).map fun (count, duration) => word count ++ word duration

def syncSamples (m : Movie) : Box :=
  .leaf "stss" (Box.versioned 0 (counted ((syncNumbers m.samples).map word)))

/-- All samples are in one chunk. -/
def sampleToChunk (m : Movie) : Box :=
  .leaf "stsc" (Box.versioned 0 (counted [word 1 ++ word m.samples.length ++ word 1]))

def sampleSizes (m : Movie) : Box :=
  .leaf "stsz" (Box.versioned 0 (word 0 ++ counted (m.samples.map fun s => word s.data.length)))

def chunkOffsets (m : Movie) : Box := .leaf "stco" (Box.versioned 0 (counted [word m.offset]))

def sampleTable (m : Movie) : Box :=
  .node "stbl" [m.sampleDescription, m.timeToSample, m.syncSamples, m.sampleToChunk,
    m.sampleSizes, m.chunkOffsets]

def track (m : Movie) : Box :=
  .node "trak" [m.trackHeader, .node "mdia" [m.mediaHeader, handler,
    .node "minf" [videoHeader, dataInformation, m.sampleTable]]]

def box (m : Movie) : Box := .node "moov" [m.movieHeader, m.track]

end Movie

end Footage.Mp4
