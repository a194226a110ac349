import Footage.Bytes

/-!
# MP4 boxes

An MP4 file is a row of boxes. A box tells its size and kind and holds content, of which the
rear part can be boxes again.
-/

namespace Footage.Mp4

/-- Size and kind. -/
def boxHeaderSize : Nat := 8

/-- A box: its kind of four characters, the content in front, and the boxes inside. -/
inductive Box where
  | mk (kind : String) (content : Bytes) (children : List Box)

namespace Box

/-- A box whose content is octets only. -/
def leaf (kind : String) (content : Bytes) : Box := mk kind content []

/-- A box that holds nothing but boxes. -/
def node (kind : String) (children : List Box) : Box := mk kind [] children

/-- Version 0 and the flags, in front of a box's other content. -/
def versioned (flags : Nat) (content : Bytes) : Bytes := Bytes.bigEndian 4 flags ++ content

/-- Content behind its size and kind. The size counts both. -/
def frame (kind : String) (content : Bytes) : Bytes :=
  Bytes.bigEndian 4 (boxHeaderSize + content.length) ++ Bytes.ofLatin kind ++ content

mutual

def encode : Box → Bytes
  | mk kind content children => frame kind (content ++ encodeAll children)

def encodeAll : List Box → Bytes
  | [] => []
  | box :: rest => encode box ++ encodeAll rest

end

end Box

end Footage.Mp4
