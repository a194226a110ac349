import Footage.Export.Mp4.Movie

/-!
# MP4 boxes at the reader

A reader knows of a file only its octets. It takes the size in front of a box by its word, passes
over the box to the next one, and goes into those boxes that it knows to hold others. It accepts
only boxes that lie back to back, from the first octet to the last, at every depth.

* `readBoxes`: the reader. `Tiles`: what it is to accept.
* `tiles_of_readBoxes`: it accepts nothing else.
* `Box.readBoxes_encodeAll`: it gets back the boxes that were written, provided the kind of each box
  tells where the boxes inside start and the size of each has room in its field.
* `Movie.isReadable_box`: a movie is made of such boxes.
-/

namespace Footage

theorem wordLimit_add (a b : Nat) : wordLimit (a + b) = wordLimit a * wordLimit b :=
  Nat.pow_add 2 a b

namespace Bytes

theorem foldl_toNat (bs : Bytes) (n : Nat) :
    bs.foldl (fun n b => 256 * n + b.toNat) n = n * wordLimit (8 * bs.length) + toNat bs := by
  induction bs generalizing n with
  | nil => simp [toNat, wordLimit]
  | cons b bs ih =>
    have first : toNat (b :: bs) = (256 * 0 + b.toNat) * wordLimit (8 * bs.length) + toNat bs :=
      ih _
    have longer : wordLimit (8 * (bs.length + 1)) = wordLimit (8 * bs.length) * 256 :=
      wordLimit_add _ 8
    rw [List.foldl_cons, ih, List.length_cons, longer, first]
    grind

theorem toNat_cons (b : UInt8) (rest : Bytes) :
    toNat (b :: rest) = b.toNat * wordLimit (8 * rest.length) + toNat rest := by
  rw [toNat, List.foldl_cons, foldl_toNat, Nat.mul_zero, Nat.zero_add]

theorem toNat_bigEndian (width n : Nat) :
    toNat (bigEndian width n) = n % wordLimit (8 * width) := by
  induction width with
  | zero => simp [bigEndian, toNat, wordLimit, Nat.mod_one]
  | succ width ih =>
    rw [bigEndian, toNat_cons, ih, length_bigEndian, Nat.mul_succ, wordLimit_add, Nat.mod_mul,
      UInt8.toNat_ofNat', Nat.shiftRight_eq_div_pow, Nat.mul_comm, Nat.add_comm]
    rfl

end Bytes

namespace Mp4

/-! ## The reader -/

/-- What a reader finds: the kind of a box, the content in front, and the boxes inside. -/
inductive Found where
  | mk (kind : Bytes) (content : Bytes) (children : List Found)

/-- Where the boxes inside start, in boxes of a kind that holds some. -/
def childrenStart (kind : Bytes) : Option Nat :=
  if kind ∈ ["moov", "trak", "mdia", "minf", "dinf", "stbl"].map Bytes.ofLatin then some 0
  else if kind ∈ ["dref", "stsd"].map Bytes.ofLatin then some 8
  else if kind = Bytes.ofLatin "avc1" then some 78
  else none

/-- The kind and body of the box in front, and what follows it. -/
def splitBox (octets : Bytes) : Option (Bytes × Bytes × Bytes) :=
  if boxHeaderSize ≤ Bytes.toNat (octets.take 4) ∧
      Bytes.toNat (octets.take 4) ≤ octets.length then
    some ((octets.drop 4).take 4, (octets.take (Bytes.toNat (octets.take 4))).drop boxHeaderSize,
      octets.drop (Bytes.toNat (octets.take 4)))
  else none

theorem length_of_splitBox {octets kind body rest : Bytes}
    (split : splitBox octets = some (kind, body, rest)) :
    octets.length = boxHeaderSize + body.length + rest.length := by
  unfold splitBox at split
  split at split
  · next inside =>
    cases split
    rw [List.length_drop, List.length_take, List.length_drop]
    omega
  · cases split

def readBoxes (octets : Bytes) : Option (List Found) :=
  match _split : splitBox octets with
  | none => if octets = [] then some [] else none
  | some (kind, body, rest) =>
    match childrenStart kind with
    | none => (readBoxes rest).map (.mk kind body [] :: ·)
    | some start =>
      if body.length < start then none
      else do
        let children ← readBoxes (body.drop start)
        let later ← readBoxes rest
        return .mk kind (body.take start) children :: later
termination_by octets.length
decreasing_by
  all_goals
    have sizes := length_of_splitBox _split
    rw [boxHeaderSize] at sizes
    try rw [List.length_drop]
    omega

theorem splitBox_frame {kind : String} {content : Bytes}
    (four : (Bytes.ofLatin kind).length = 4) (fits : FitsIn 32 (boxHeaderSize + content.length))
    (rest : Bytes) :
    splitBox (Box.frame kind content ++ rest) = some (Bytes.ofLatin kind, content, rest) := by
  generalize whole : Box.frame kind content ++ rest = octets
  have size : Bytes.toNat (octets.take 4) = boxHeaderSize + content.length := by
    rw [← whole, Box.frame, List.append_assoc, List.append_assoc, List.take_left' (by simp),
      Bytes.toNat_bigEndian]
    exact Nat.mod_eq_of_lt fits
  have framed : (Box.frame kind content).length = boxHeaderSize + content.length := by
    simp [Box.frame, four, boxHeaderSize]
    omega
  have long : boxHeaderSize + content.length ≤ octets.length := by
    rw [← whole, List.length_append, framed]
    omega
  rw [splitBox, size, if_pos ⟨Nat.le_add_right _ _, long⟩, ← whole, List.take_left' framed,
    List.drop_left' framed]
  have kindIs : ((Box.frame kind content ++ rest).drop 4).take 4 = Bytes.ofLatin kind := by
    rw [Box.frame, List.append_assoc, List.append_assoc, List.drop_left' (by simp),
      List.take_left' four]
  have body : (Box.frame kind content).drop boxHeaderSize = content := by
    rw [Box.frame]
    exact List.drop_left' (by simp [four, boxHeaderSize])
  rw [kindIs, body]

theorem readBoxes_nil : readBoxes [] = some [] := by
  rw [readBoxes]
  rfl

theorem readBoxes_of_none {octets : Bytes} (split : splitBox octets = none) :
    readBoxes octets = if octets = [] then some [] else none := by
  rw [readBoxes]
  split
  · rfl
  · next found => rw [split] at found; cases found

/-- A box in front is read before all that follows it. -/
theorem readBoxes_of_split {octets kind body rest : Bytes}
    (split : splitBox octets = some (kind, body, rest)) :
    readBoxes octets =
      match childrenStart kind with
      | none => (readBoxes rest).map (.mk kind body [] :: ·)
      | some start =>
        if body.length < start then none
        else do
          let children ← readBoxes (body.drop start)
          let later ← readBoxes rest
          return .mk kind (body.take start) children :: later := by
  rw [readBoxes]
  split
  · next nothing => rw [split] at nothing; cases nothing
  · next found => rw [split] at found; cases found; rfl

/-! ## What a reader accepts -/

/-- The octets are boxes one right behind the other, from the first octet to the last, and so are
the octets inside each of them. Each size counts its whole box. -/
inductive Tiles : Bytes → List Found → Prop
  | nil : Tiles [] []
  | cons {size kind content inner later : Bytes} {children rest : List Found} :
      size.length = 4 → kind.length = 4 →
      Bytes.toNat size = (size ++ kind ++ content ++ inner).length →
      Tiles inner children → Tiles later rest →
      Tiles (size ++ kind ++ content ++ inner ++ later) (.mk kind content children :: rest)

theorem parts_of_splitBox {octets kind body rest : Bytes}
    (split : splitBox octets = some (kind, body, rest)) :
    octets = octets.take 4 ++ kind ++ body ++ rest ∧ (octets.take 4).length = 4 ∧
      kind.length = 4 ∧ Bytes.toNat (octets.take 4) = (octets.take 4 ++ kind ++ body).length := by
  unfold splitBox at split
  split at split
  · next inside =>
    cases split
    obtain ⟨large, small⟩ := inside
    unfold boxHeaderSize at *
    have header : octets.take 4 ++ (octets.drop 4).take 4 = octets.take 8 := List.take_add.symm
    have front : octets.take 8 ++ (octets.take (Bytes.toNat (octets.take 4))).drop 8 =
        octets.take (Bytes.toNat (octets.take 4)) := by
      have sameHeader : octets.take 8 = (octets.take (Bytes.toNat (octets.take 4))).take 8 := by
        rw [List.take_take, Nat.min_eq_left large]
      rw [sameHeader, List.take_append_drop]
    refine ⟨?_, ?_, ?_, ?_⟩
    · rw [header, front, List.take_append_drop]
    · rw [List.length_take]
      omega
    · rw [List.length_take, List.length_drop]
      omega
    · rw [header, front, List.length_take, Nat.min_eq_left small]
  · cases split

/-- The box in front lies as it should if what is in it and what is behind it do. -/
theorem Tiles.of_splitBox {octets kind content inner later : Bytes} {children rest : List Found}
    (split : splitBox octets = some (kind, content ++ inner, later))
    (inside : Tiles inner children) (behind : Tiles later rest) :
    Tiles octets (.mk kind content children :: rest) := by
  obtain ⟨whole, sizeLength, kindLength, counted⟩ := parts_of_splitBox split
  rw [← List.append_assoc] at whole counted
  rw [whole]
  exact .cons sizeLength kindLength counted inside behind

theorem tiles_of_readBoxes {octets : Bytes} {boxes : List Found}
    (read : readBoxes octets = some boxes) : Tiles octets boxes := by
  induction size : octets.length using Nat.strongRecOn generalizing octets boxes with
  | ind n ih =>
    subst size
    cases split : splitBox octets with
    | none =>
      rw [readBoxes_of_none split] at read
      split at read
      · next nothing =>
        cases read
        rw [nothing]
        exact .nil
      · cases read
    | some parts =>
      obtain ⟨kind, body, later⟩ := parts
      have sizes := length_of_splitBox split
      rw [boxHeaderSize] at sizes
      rw [readBoxes_of_split split] at read
      -- what is inside and what is behind are both shorter than the whole
      cases holds : childrenStart kind with
      | none =>
        rw [holds] at read
        obtain ⟨rest, readLater, rfl⟩ := Option.map_eq_some_iff.1 read
        have behind := ih later.length (by omega) readLater rfl
        rw [← List.append_nil body] at split
        exact .of_splitBox split .nil behind
      | some start =>
        simp only [holds, Option.bind_eq_bind, Option.pure_def] at read
        split at read
        · cases read
        · obtain ⟨children, readInner, read⟩ := Option.bind_eq_some_iff.1 read
          obtain ⟨rest, readLater, read⟩ := Option.bind_eq_some_iff.1 read
          cases read
          have inside := ih (body.drop start).length (by rw [List.length_drop]; omega) readInner rfl
          have behind := ih later.length (by omega) readLater rfl
          rw [← List.take_append_drop start body] at split
          exact .of_splitBox split inside behind

/-! ## Written boxes -/

namespace Box

mutual

def found : Box → Found
  | mk kind content children => .mk (Bytes.ofLatin kind) content (foundAll children)

def foundAll : List Box → List Found
  | [] => []
  | box :: rest => found box :: foundAll rest

end

mutual

/-- A reader that goes by the kind finds the boxes inside, all the way down. -/
def IsReadable : Box → Prop
  | mk kind content children =>
    (Bytes.ofLatin kind).length = 4 ∧
    (match childrenStart (Bytes.ofLatin kind) with
      | none => children = []
      | some start => content.length = start) ∧
    AreReadable children

def AreReadable : List Box → Prop
  | [] => True
  | box :: rest => box.IsReadable ∧ AreReadable rest

end

theorem length_encode_le {box : Box} {boxes : List Box} (isIn : box ∈ boxes) :
    box.encode.length ≤ (encodeAll boxes).length := by
  induction boxes with
  | nil => exact absurd isIn List.not_mem_nil
  | cons first rest ih =>
    rw [encodeAll, List.length_append]
    obtain rfl | later := List.mem_cons.1 isIn
    · omega
    · have := ih later
      omega

mutual

theorem readBoxes_encode : ∀ {box : Box}, box.IsReadable → FitsIn 32 box.encode.length →
    ∀ rest, readBoxes (box.encode ++ rest) = (readBoxes rest).map (box.found :: ·)
  | mk kind content children, readable, fits, rest => by
    obtain ⟨four, inside, readableChildren⟩ := readable
    have size : (encode (mk kind content children)).length =
        boxHeaderSize + (content ++ encodeAll children).length := by
      simp [encode, frame, four, boxHeaderSize]
      omega
    have split := splitBox_frame four (size ▸ fits) rest
    rw [encode, readBoxes_of_split split, found]
    cases holds : childrenStart (Bytes.ofLatin kind) with
    | none =>
      rw [holds] at inside
      subst inside
      simp only [encodeAll, List.append_nil, foundAll]
    | some start =>
      rw [holds] at inside
      -- a box inside is smaller than the box around it
      have childrenFit : ∀ child ∈ children, FitsIn 32 child.encode.length := by
        intro child isIn
        have := length_encode_le isIn
        rw [FitsIn, size, List.length_append] at fits
        rw [FitsIn]
        omega
      have enough : ¬(content ++ encodeAll children).length < start := by
        rw [← inside, List.length_append]
        omega
      simp only [if_neg enough, List.drop_left' inside, List.take_left' inside,
        readBoxes_encodeAll readableChildren childrenFit]
      cases readBoxes rest <;> rfl

theorem readBoxes_encodeAll : ∀ {boxes : List Box}, AreReadable boxes →
    (∀ box ∈ boxes, FitsIn 32 box.encode.length) →
    readBoxes (encodeAll boxes) = some (foundAll boxes)
  | [], _, _ => readBoxes_nil
  | box :: rest, readable, fits => by
    rw [encodeAll, readBoxes_encode readable.1 (fits box List.mem_cons_self),
      readBoxes_encodeAll readable.2 fun other isIn => fits other (List.mem_cons_of_mem _ isIn)]
    rfl

end

theorem isReadable_leaf {kind : String} (four : (Bytes.ofLatin kind).length = 4)
    (plain : childrenStart (Bytes.ofLatin kind) = none) (content : Bytes) :
    (leaf kind content).IsReadable := by
  refine ⟨four, ?_, trivial⟩
  rw [plain]

theorem isReadable_node {kind : String} {children : List Box}
    (four : (Bytes.ofLatin kind).length = 4)
    (holds : childrenStart (Bytes.ofLatin kind) = some 0) (inside : AreReadable children) :
    (node kind children).IsReadable := by
  refine ⟨four, ?_, inside⟩
  rw [holds]
  rfl

end Box

namespace Movie

/-! ## The movie box -/

theorem isReadable_sampleDescription (m : Movie) : m.sampleDescription.IsReadable := by
  have configuration : (Box.leaf "avcC" m.configuration).IsReadable :=
    Box.isReadable_leaf (by decide) (by decide) _
  have entry : m.sampleEntry.IsReadable := by
    refine ⟨by decide, ?_, configuration, trivial⟩
    have holds : childrenStart (Bytes.ofLatin "avc1") = some 78 := by decide
    rw [holds]
    simp [half, word]
  refine ⟨by decide, ?_, entry, trivial⟩
  have holds : childrenStart (Bytes.ofLatin "stsd") = some 8 := by decide
  rw [holds]
  simp [Box.versioned, word]

theorem isReadable_dataInformation : dataInformation.IsReadable := by
  have location : (Box.leaf "url " (Box.versioned 1 [])).IsReadable :=
    Box.isReadable_leaf (by decide) (by decide) _
  refine Box.isReadable_node (by decide) (by decide) ⟨⟨by decide, ?_, location, trivial⟩, trivial⟩
  have holds : childrenStart (Bytes.ofLatin "dref") = some 8 := by decide
  rw [holds]
  simp [Box.versioned, word]

theorem isReadable_sampleTable (m : Movie) : m.sampleTable.IsReadable :=
  Box.isReadable_node (by decide) (by decide)
    ⟨m.isReadable_sampleDescription, Box.isReadable_leaf (by decide) (by decide) _,
      Box.isReadable_leaf (by decide) (by decide) _, Box.isReadable_leaf (by decide) (by decide) _,
      Box.isReadable_leaf (by decide) (by decide) _, Box.isReadable_leaf (by decide) (by decide) _,
      trivial⟩

theorem isReadable_track (m : Movie) : m.track.IsReadable := by
  have information : (Box.node "minf" [videoHeader, dataInformation, m.sampleTable]).IsReadable :=
    Box.isReadable_node (by decide) (by decide)
      ⟨Box.isReadable_leaf (by decide) (by decide) _, isReadable_dataInformation,
        m.isReadable_sampleTable, trivial⟩
  have media : (Box.node "mdia" [m.mediaHeader, handler,
      .node "minf" [videoHeader, dataInformation, m.sampleTable]]).IsReadable :=
    Box.isReadable_node (by decide) (by decide)
      ⟨Box.isReadable_leaf (by decide) (by decide) _, Box.isReadable_leaf (by decide) (by decide) _,
        information, trivial⟩
  exact Box.isReadable_node (by decide) (by decide)
    ⟨Box.isReadable_leaf (by decide) (by decide) _, media, trivial⟩

theorem isReadable_box (m : Movie) : m.box.IsReadable :=
  Box.isReadable_node (by decide) (by decide)
    ⟨Box.isReadable_leaf (by decide) (by decide) _, m.isReadable_track, trivial⟩

end Movie

end Mp4

end Footage
