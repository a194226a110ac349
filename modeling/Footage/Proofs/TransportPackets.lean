import Footage.Proofs.TableChecksum
import Footage.Export.TransportStream.Packet
import Mathlib.Data.List.Chain

/-!
# Transport stream packets at the receiver

A receiver knows nothing of how octets were cut into packets. It reads each packet by its header,
drops the adaptation field by the length in front of it, and puts the payloads of a flow together,
a new unit wherever a packet says that one starts.

* `receive`, `assemble`, `demux`: the receiver. `Accepts`: packets that it finds nothing wrong with.
* `Packet.receive_encode`: a packet without room left is read as what it was made of.
* `numbered`: packets with their numbers. `isChain_numbered`: each flow counts on.
* `carriesUnit_videoPackets`, `isSound_tablePacket`: the packets that the writer makes have no room
  left, however much is to be sent. `assemble_unit`: a receiver gets what was to be sent.
-/

namespace Footage.TransportStream

/-! ## The receiver -/

/-- What a receiver reads off a packet. -/
structure Received where
  pid : Nat
  counter : Nat
  isStart : Bool
  payload : Bytes
deriving DecidableEq, Repr

/-- What stands behind an adaptation field. The octet in front of the field tells its length. -/
def behindField : Bytes → Bytes
  | [] => []
  | length :: rest => rest.drop length.toNat

def receive : Bytes → Option Received
  | 0x47 :: flags :: low :: control :: rest => some
    { pid := flags.toNat % 32 * 256 + low.toNat
      counter := control.toNat % 16
      isStart := flags.toNat / 64 % 2 = 1
      payload := if control.toNat / 32 % 2 = 1 then behindField rest else rest }
  | _ => none

/-- Puts payloads together: the octets that belong to a unit that started before, and the units
that start in these packets. -/
def assemble : List Received → Bytes × List Bytes
  | [] => ([], [])
  | r :: rest =>
    let (later, units) := assemble rest
    if r.isStart then ([], (r.payload ++ later) :: units) else (r.payload ++ later, units)

/-- The octets of the video flow that belong to no unit, and the units. -/
def demux (packets : List Received) : Bytes × List Bytes :=
  assemble (packets.filter (·.pid = 256))

/-- The packet holds a table right from its start on, and padding behind it. -/
def CarriesTable (r : Received) : Prop :=
  r.isStart = true ∧ ∃ octets padding, r.payload = 0 :: octets ++ padding ∧ IsSection octets ∧
    ∀ b ∈ padding, b = 0xFF

def CountsOn (earlier later : Nat) : Prop := later = (earlier + 1) % 16

/-- A receiver finds nothing wrong with the packets. -/
structure Accepts (packets : List Bytes) (received : List Received) : Prop where
  length : ∀ packet ∈ packets, packet.length = 188
  /-- Each packet starts with its mark and has a header. -/
  read : packets.map receive = received.map some
  flow : ∀ r ∈ received, r.pid = 0 ∨ r.pid = 0x1000 ∨ r.pid = 256
  /-- No packet of a flow is missing. -/
  counter : ∀ pid, ((received.filter (·.pid = pid)).map (·.counter)).IsChain CountsOn
  table : ∀ r ∈ received, r.pid ≠ 256 → CarriesTable r

/-! ## One packet -/

/-- The octets that the adaptation field of a packet takes, with the one that tells its length. -/
def fieldSize : Option Bytes → Nat
  | none => 0
  | some field => field.length + 1

theorem behindField_append {field : Bytes} (short : field.length < 256) (payload : Bytes) :
    behindField (UInt8.ofNat field.length :: (field ++ payload)) = payload := by
  rw [behindField, UInt8.toNat_ofNat', Nat.mod_eq_of_lt short, List.drop_left]

theorem Flow.pid_injective {flow other : Flow} (same : flow.pid = other.pid) : flow = other := by
  revert flow other
  intro flow other
  cases flow <;> cases other <;> decide

namespace Packet

def IsFull (packet : Packet) : Prop :=
  fieldSize packet.adaptation + packet.payload.length = roomSize

def received (packet : Packet) (counter : Nat) : Received :=
  ⟨packet.flow.pid, counter, packet.isStart, packet.payload⟩

theorem length_encode {packet : Packet} (full : packet.IsFull) (counter : Nat) :
    (packet.encode counter).length = 188 := by
  have room : fieldSize packet.adaptation + packet.payload.length = 184 := full
  cases field : packet.adaptation with
  | none =>
    rw [field] at room
    simp only [encode, field, List.length_append, List.length_cons, List.length_nil, fieldSize] at *
    omega
  | some octets =>
    rw [field] at room
    simp only [encode, field, List.length_append, List.length_cons, List.length_nil, fieldSize] at *
    omega

/-- The octet with the counter says whether there is an adaptation field. -/
theorem control_octet (counter : Fin 16) :
    (UInt8.ofNat (0x30 ||| counter)).toNat / 32 % 2 = 1 ∧
    (UInt8.ofNat (0x10 ||| counter)).toNat / 32 % 2 = 0 ∧
    (UInt8.ofNat (0x30 ||| counter)).toNat % 16 = counter ∧
    (UInt8.ofNat (0x10 ||| counter)).toNat % 16 = counter := by
  revert counter
  decide

theorem flag_octets (flow : Flow) (isStart : Bool) :
    let flags := UInt8.ofNat ((if isStart then 0x40 else 0) ||| (flow.pid >>> 8))
    flags.toNat % 32 * 256 + (UInt8.ofNat flow.pid).toNat = flow.pid ∧
      decide (flags.toNat / 64 % 2 = 1) = isStart := by
  cases flow <;> cases isStart <;> decide

theorem receive_encode {packet : Packet} (full : packet.IsFull) {counter : Nat}
    (small : counter < 16) : receive (packet.encode counter) = some (packet.received counter) := by
  have room : fieldSize packet.adaptation + packet.payload.length = 184 := full
  obtain ⟨fielded, plain, number, number'⟩ := control_octet ⟨counter, small⟩
  obtain ⟨pid, start⟩ := flag_octets packet.flow packet.isStart
  cases field : packet.adaptation with
  | none =>
    simp only [encode, field, Option.isSome_none, Bool.false_eq_true, if_false, List.cons_append,
      List.nil_append, receive, received, pid, start, number', plain, Nat.zero_ne_one]
  | some octets =>
    have short : octets.length < 256 := by
      rw [field] at room
      simp only [fieldSize] at room
      omega
    simp only [encode, field, Option.isSome_some, if_true, List.cons_append, List.nil_append,
      receive, received, pid, start, number, fielded, behindField_append short]

end Packet

/-! ## Numbers -/

/-- The numbers of the next packets, once the given ones are sent. -/
def Counters.after (counters : Counters) (packets : List Packet) : Counters :=
  packets.foldl (fun counters packet => counters.bump packet.flow) counters

def numbered : Counters → List Packet → List (Packet × Nat)
  | _, [] => []
  | counters, packet :: rest =>
    (packet, counters.get packet.flow) :: numbered (counters.bump packet.flow) rest

namespace Counters

def AreSmall (counters : Counters) : Prop := ∀ flow, counters.get flow < 16

theorem get_bump_self (counters : Counters) (flow : Flow) :
    (counters.bump flow).get flow = (counters.get flow + 1) % 16 := by
  cases flow <;> rfl

theorem get_bump_of_ne (counters : Counters) {flow other : Flow} (apart : other ≠ flow) :
    (counters.bump flow).get other = counters.get other := by
  cases flow <;> cases other <;> first | rfl | exact absurd rfl apart

theorem AreSmall.bump {counters : Counters} (small : counters.AreSmall) (flow : Flow) :
    (counters.bump flow).AreSmall := by
  intro other
  by_cases same : other = flow
  · rw [same, get_bump_self]
    exact Nat.mod_lt _ (by decide)
  · rw [get_bump_of_ne counters same]
    exact small other

end Counters

theorem numbered_append (counters : Counters) (front back : List Packet) :
    numbered counters (front ++ back) =
      numbered counters front ++ numbered (counters.after front) back := by
  induction front generalizing counters with
  | nil => rfl
  | cons packet front ih => exact congrArg (_ :: ·) (ih _)

theorem map_fst_numbered (counters : Counters) (packets : List Packet) :
    (numbered counters packets).map Prod.fst = packets := by
  induction packets generalizing counters with
  | nil => rfl
  | cons packet rest ih => exact congrArg (packet :: ·) (ih _)

theorem mem_of_mem_numbered {counters : Counters} {packets : List Packet} {sent : Packet × Nat}
    (isIn : sent ∈ numbered counters packets) : sent.1 ∈ packets := by
  rw [← map_fst_numbered counters packets]
  exact List.mem_map_of_mem isIn

theorem lt_of_mem_numbered {counters : Counters} (small : counters.AreSmall)
    {packets : List Packet} : ∀ sent ∈ numbered counters packets, sent.2 < 16 := by
  induction packets generalizing counters with
  | nil => exact fun _ isIn => absurd isIn List.not_mem_nil
  | cons packet rest ih =>
    intro sent isIn
    obtain rfl | later := List.mem_cons.1 isIn
    · exact small packet.flow
    · exact ih (small.bump packet.flow) sent later

/-- Each flow counts on from its counter, whatever is sent in between on the others. -/
theorem isChain_numbered (flow : Flow) (packets : List Packet) {counters : Counters} {last : Nat}
    (next : CountsOn last (counters.get flow)) :
    (last :: ((numbered counters packets).filter (·.1.flow = flow)).map Prod.snd).IsChain
      CountsOn := by
  -- only packets of the flow itself move `last`, and only they bump its counter
  induction packets generalizing counters last with
  | nil => exact List.isChain_singleton last
  | cons packet rest ih =>
    by_cases same : packet.flow = flow
    · subst same
      rw [numbered, List.filter_cons_of_pos (by simp), List.map_cons]
      exact List.isChain_cons_cons.2 ⟨next, ih (counters.get_bump_self _)⟩
    · rw [numbered, List.filter_cons_of_neg (by simpa using same)]
      refine ih ?_
      rw [counters.get_bump_of_ne (Ne.symm same)]
      exact next

/-! ## Sent packets -/

def encodeAll (sent : List (Packet × Nat)) : List Bytes :=
  sent.map fun (packet, counter) => packet.encode counter

def receivedAll (sent : List (Packet × Nat)) : List Received :=
  sent.map fun (packet, counter) => packet.received counter

/-- A packet that is fit to be sent: it has no room left, and it holds a table if it is of a table's
flow. -/
structure Packet.IsSound (packet : Packet) : Prop where
  isFull : packet.IsFull
  table : packet.flow ≠ .video → ∀ counter, CarriesTable (packet.received counter)

theorem filter_receivedAll (sent : List (Packet × Nat)) (flow : Flow) :
    (receivedAll sent).filter (·.pid = flow.pid) =
      receivedAll (sent.filter (·.1.flow = flow)) := by
  rw [receivedAll, List.filter_map, receivedAll]
  congr 1
  refine List.filter_congr fun sent _ => decide_eq_decide.2 ?_
  exact ⟨Flow.pid_injective, congrArg Flow.pid⟩

theorem accepts_numbered {counters : Counters} (small : counters.AreSmall) {packets : List Packet}
    (sound : ∀ packet ∈ packets, packet.IsSound) :
    Accepts (encodeAll (numbered counters packets)) (receivedAll (numbered counters packets)) := by
  have soundSent : ∀ sent ∈ numbered counters packets, sent.1.IsSound := fun sent isIn =>
    sound sent.1 (mem_of_mem_numbered isIn)
  constructor
  case length =>
    intro octets isIn
    obtain ⟨sent, isSent, rfl⟩ := List.mem_map.1 isIn
    exact Packet.length_encode (soundSent sent isSent).isFull sent.2
  case read =>
    rw [encodeAll, receivedAll, List.map_map, List.map_map]
    refine List.map_congr_left fun sent isSent => ?_
    exact Packet.receive_encode (soundSent sent isSent).isFull
      (lt_of_mem_numbered small sent isSent)
  case flow =>
    intro r isIn
    obtain ⟨⟨packet, counter⟩, -, rfl⟩ := List.mem_map.1 isIn
    show packet.flow.pid = 0 ∨ packet.flow.pid = 0x1000 ∨ packet.flow.pid = 256
    cases packet.flow <;> decide
  case counter =>
    intro pid
    by_cases known : ∃ flow : Flow, flow.pid = pid
    · obtain ⟨flow, rfl⟩ := known
      -- the first packet counts on from a number that was not sent
      have before : CountsOn (counters.get flow + 15) (counters.get flow) := by
        have := small flow
        unfold CountsOn
        omega
      rw [filter_receivedAll, receivedAll, List.map_map]
      exact (isChain_numbered flow packets before).tail
    -- no flow, no packets
    · have none : (receivedAll (numbered counters packets)).filter (·.pid = pid) = [] := by
        refine List.filter_eq_nil_iff.2 fun r isIn => ?_
        obtain ⟨⟨packet, counter⟩, -, rfl⟩ := List.mem_map.1 isIn
        exact fun same => known ⟨packet.flow, of_decide_eq_true same⟩
      rw [none]
      exact List.isChain_nil
  case table =>
    intro r isIn notVideo
    obtain ⟨⟨packet, counter⟩, isSent, rfl⟩ := List.mem_map.1 isIn
    refine (soundSent _ isSent).table (fun video => notVideo ?_) counter
    exact congrArg Flow.pid video

/-! ## Pieces -/

theorem flatten_piecesFrom (size : Nat) (piece : Bytes) (room : Nat) (octets : Bytes) :
    (piecesFrom size piece room octets).flatten = piece.reverse ++ octets := by
  fun_induction piecesFrom size piece room octets <;> simp_all

theorem flatten_pieces (first size : Nat) (octets : Bytes) :
    (pieces first size octets).flatten = octets :=
  flatten_piecesFrom size [] first octets

theorem length_piecesFrom {size : Nat} (positive : 0 < size) (piece : Bytes) (room : Nat)
    (octets : Bytes) {first : Bytes} {rest : List Bytes}
    (cut : piecesFrom size piece room octets = first :: rest) :
    first.length ≤ piece.length + room ∧ ∀ later ∈ rest, later.length ≤ size := by
  fun_induction piecesFrom size piece room octets generalizing first rest with
  | case1 room empty => exact absurd cut (by simp)
  | case2 room notEmpty =>
    obtain ⟨rfl, rfl⟩ := List.cons.inj cut
    simp
  | case3 piece b octets ih =>
    -- the piece is full, and the next one starts with room for a whole packet
    obtain ⟨rfl, rfl⟩ := List.cons.inj cut
    refine ⟨by simp, ?_⟩
    cases later : piecesFrom size [b] (size - 1) octets with
    | nil => exact fun _ isIn => absurd isIn List.not_mem_nil
    | cons second rest =>
      obtain ⟨short, others⟩ := ih later
      have : second.length ≤ size := by simp at short; omega
      simpa using ⟨this, others⟩
  | case4 piece room b octets ih =>
    obtain ⟨short, others⟩ := ih cut
    exact ⟨by simp at short; omega, others⟩

/-! ## The packets of a picture -/

theorem fieldSize_stuffed (fields : Bytes) (slack : Nat) :
    fieldSize (stuffed fields slack) =
      (if fields.isEmpty then 0 else 1 + fields.length) + slack := by
  cases fields with
  | nil =>
    match slack with
    | 0 => rfl
    | 1 => rfl
    | slack + 2 => simp [stuffed, fieldSize]
  | cons b fields => simp [stuffed, fieldSize]; omega

/-- The packets carry the octets as one unit of the video flow, and have no room left. -/
structure CarriesUnit (octets : Bytes) (first : Packet) (rest : List Packet) : Prop where
  start : first.isStart = true
  continued : ∀ packet ∈ rest, packet.isStart = false
  video : ∀ packet ∈ first :: rest, packet.flow = .video
  isFull : ∀ packet ∈ first :: rest, packet.IsFull
  payload : (first :: rest).flatMap (·.payload) = octets

/-- However long the octets are, and whatever the first packet tells beside them. -/
theorem carriesUnit_videoPackets {fields octets : Bytes} (short : fields.length < roomSize)
    (notEmpty : octets ≠ []) :
    ∃ first rest, videoPackets fields octets = first :: rest ∧ CarriesUnit octets first rest := by
  generalize overheadIs : (if fields.isEmpty then 0 else 1 + fields.length) = overhead
  have enough : overhead ≤ roomSize := by
    rw [← overheadIs]
    split <;> omega
  have whole := flatten_pieces (roomSize - overhead) roomSize octets
  cases cut : pieces (roomSize - overhead) roomSize octets with
  | nil =>
    rw [cut] at whole
    exact absurd whole.symm notEmpty
  | cons first rest =>
    obtain ⟨firstFits, restFits⟩ := length_piecesFrom (by decide) _ _ _ cut
    refine ⟨_, _, by rw [videoPackets, overheadIs, cut], ?_⟩
    constructor
    case start => rfl
    case continued =>
      intro packet isIn
      obtain ⟨piece, -, rfl⟩ := List.mem_map.1 isIn
      rfl
    case video =>
      intro packet isIn
      obtain rfl | isIn := List.mem_cons.1 isIn
      · rfl
      · obtain ⟨piece, -, rfl⟩ := List.mem_map.1 isIn
        rfl
    case isFull =>
      intro packet isIn
      -- the stuffing fills up what the fields and the piece leave free
      obtain rfl | isIn := List.mem_cons.1 isIn
      · simp only [Packet.IsFull, fieldSize_stuffed, overheadIs]
        simp at firstFits
        omega
      · obtain ⟨piece, isPiece, rfl⟩ := List.mem_map.1 isIn
        have := restFits piece isPiece
        simp only [Packet.IsFull, fieldSize_stuffed, List.isEmpty_nil, if_true]
        omega
    case payload =>
      rw [cut] at whole
      simpa [List.flatMap_map, List.flatMap_id'] using whole

theorem assemble_continued {continued : List Received} (rest : List Received)
    (noStart : ∀ r ∈ continued, r.isStart = false) :
    assemble (continued ++ rest) =
      (continued.flatMap (·.payload) ++ (assemble rest).1, (assemble rest).2) := by
  induction continued with
  | nil => rfl
  | cons r continued ih =>
    rw [List.cons_append, assemble,
      ih fun later isIn => noStart later (List.mem_cons_of_mem _ isIn),
      noStart r List.mem_cons_self]
    simp

theorem flatMap_payload_numbered (counters : Counters) (packets : List Packet) :
    (receivedAll (numbered counters packets)).flatMap (·.payload) =
      packets.flatMap (·.payload) := by
  induction packets generalizing counters with
  | nil => rfl
  | cons packet rest ih => exact congrArg (packet.payload ++ ·) (ih _)

/-- A receiver gets the unit that the packets carry, if another unit or nothing follows. -/
theorem assemble_unit {octets : Bytes} {first : Packet} {rest : List Packet}
    (unit : CarriesUnit octets first rest) (counters : Counters) {later : List Received}
    (ends : (assemble later).1 = []) :
    assemble (receivedAll (numbered counters (first :: rest)) ++ later) =
      ([], octets :: (assemble later).2) := by
  have noStart : ∀ r ∈ receivedAll (numbered (counters.bump first.flow) rest),
      r.isStart = false := by
    intro r isIn
    obtain ⟨⟨packet, counter⟩, isSent, rfl⟩ := List.mem_map.1 isIn
    exact unit.continued packet (mem_of_mem_numbered isSent)
  show assemble (first.received _ :: (receivedAll (numbered _ rest) ++ later)) = _
  rw [assemble, assemble_continued _ noStart, flatMap_payload_numbered, ends, ← unit.payload]
  simp [Packet.received, unit.start]

/-! ## The packets of tables -/

theorem isSound_tablePacket (flow : Flow) {octets : Bytes} (fits : octets.length < roomSize)
    (isSection : IsSection octets) :
    (tablePacket flow octets).IsSound := by
  constructor
  case isFull =>
    have : octets.length < 184 := fits
    simp only [Packet.IsFull, tablePacket, fieldSize, List.length_append, List.length_cons,
      List.length_replicate, roomSize, packetSize]
    omega
  case table =>
    intro _ counter
    exact ⟨rfl, octets, _, rfl, isSection, fun b isIn => (List.mem_replicate.1 isIn).2⟩

theorem isSound_association : (tablePacket .programAssociation associationTable).IsSound :=
  isSound_tablePacket _ (by decide) (isSection_table _ (by decide))

theorem isSound_map (streamType : UInt8) :
    (tablePacket .programMap (mapTable streamType)).IsSound := by
  refine isSound_tablePacket _ ?_ (isSection_table _ ?_)
  · show List.length _ < 184
    simp [mapTable, table, tableIdentity, pidField]
  · simp [tableIdentity, pidField]

end Footage.TransportStream
