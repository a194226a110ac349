import Footage.Proofs.DecodeTimes
import Footage.Proofs.PictureContent
import Mathlib.Data.List.Zip

/-!
# The times that a receiver reads

A transport stream tells the times of its pictures in two places: in the header of each elementary
packet, and for keyframes also in the adaptation field of the packet with which the picture starts.
Both hold 33 bits of the time since the first picture.

* `readTimes`, `readClock`: the reader. `readTimes_pictureHeader`, `clockIn_pictureFields`: it gets
  what was written.
* `Muxer.clocks_dueOf`: the program clock is told with keyframes and nothing else.
* `TellsTimes`: what a receiver learns of a stream. `decodeTimes_told`: these are the least legal
  decode times, counted from the first.
-/

namespace Footage.TransportStream

/-! ## Reading times -/

/-- The time in the five octets of a field with the given mark, and what is behind. Each group of
bits has to be closed by a one. -/
def readTime (mark : Nat) : Bytes → Option (Nat × Bytes)
  | a :: b :: c :: d :: e :: rest =>
    if a.toNat / 16 = mark ∧ a.toNat % 2 = 1 ∧ c.toNat % 2 = 1 ∧ e.toNat % 2 = 1 then
      some (a.toNat / 2 % 8 * 0x40000000 + b.toNat * 0x400000 + c.toNat / 2 * 0x8000 +
        d.toNat * 0x80 + e.toNat / 2, rest)
    else none
  | _ => none

/-- The presentation and the decode time in the header of an elementary packet. If only one is
told it is both. -/
def readTimes : Bytes → Option (Nat × Nat)
  | 0 :: 0 :: 1 :: 0xE0 :: _ :: _ :: _ :: flags :: _ :: fields =>
    if flags.toNat / 64 = 2 then do
      let (pts, _) ← readTime 2 fields
      return (pts, pts)
    else if flags.toNat / 64 = 3 then do
      let (pts, behind) ← readTime 3 fields
      let (dts, _) ← readTime 1 behind
      return (pts, dts)
    else none
  | _ => none

/-- The adaptation field of a packet without its length. -/
def adaptationIn : Bytes → Option Bytes
  | 0x47 :: _ :: _ :: control :: length :: rest =>
    if control.toNat / 32 % 2 = 1 then some (rest.take length.toNat) else none
  | _ => none

/-- The program clock in an adaptation field, without its finer part. -/
def clockIn : Bytes → Option Nat
  | flags :: a :: b :: c :: d :: e :: _ :: _ =>
    if flags.toNat / 16 % 2 = 1 then
      some (a.toNat * 0x2000000 + b.toNat * 0x20000 + c.toNat * 0x200 + d.toNat * 2 +
        e.toNat / 128)
    else none
  | _ => none

def readClock (packet : Bytes) : Option Nat := (adaptationIn packet).bind clockIn

def startsPicture (packet : Bytes) : Bool :=
  match receive packet with
  | some r => r.pid = 256 && r.isStart
  | none => false

/-! ## Time fields -/

theorem readTime_timeField {mark : Nat} (small : mark < 16) (time : Nat) (rest : Bytes) :
    readTime mark (timeField mark time ++ rest) = some (time % wordLimit 33, rest) := by
  have limit : wordLimit 33 = 8589934592 := rfl
  simp only [timeField, List.cons_append, List.nil_append, readTime, UInt8.toNat_ofNat',
    Nat.shiftRight_eq_div_pow, limit]
  rw [if_pos (by omega)]
  congr 2
  omega

theorem readTimes_pictureHeader (pts dts : Nat) (stream : Bytes) :
    readTimes (pictureHeader pts dts ++ stream) =
      some (pts % wordLimit 33, dts % wordLimit 33) := by
  by_cases same : pts = dts
  · subst same
    have header : pictureHeader pts pts ++ stream =
        0 :: 0 :: 1 :: 0xE0 :: 0 :: 0 :: 0x80 :: 0x80 :: 5 :: (timeField 2 pts ++ stream) := by
      simp [pictureHeader]
    rw [header]
    show (readTime 2 (timeField 2 pts ++ stream) >>= _) = _
    rw [readTime_timeField (by decide)]
    rfl
  · have header : pictureHeader pts dts ++ stream =
        0 :: 0 :: 1 :: 0xE0 :: 0 :: 0 :: 0x80 :: 0xC0 :: 10 ::
          (timeField 3 pts ++ (timeField 1 dts ++ stream)) := by
      simp [pictureHeader, same]
    rw [header]
    show (readTime 3 (timeField 3 pts ++ (timeField 1 dts ++ stream)) >>= _) = _
    rw [readTime_timeField (by decide)]
    show (readTime 1 (timeField 1 dts ++ stream) >>= _) = _
    rw [readTime_timeField (by decide)]
    rfl

/-! ## Clock fields -/

theorem clockIn_clockField (flags : UInt8) (time : Nat) (rest : Bytes) :
    clockIn (flags :: (clockField time ++ rest)) =
      if flags.toNat / 16 % 2 = 1 then some (time % wordLimit 33) else none := by
  have limit : wordLimit 33 = 8589934592 := rfl
  simp only [clockField, List.cons_append, List.nil_append, clockIn, UInt8.toNat_ofNat',
    Nat.shiftRight_eq_div_pow, limit]
  split
  · congr 1
    omega
  · rfl

theorem clockIn_of_flags (flags : UInt8) (untold : flags.toNat / 16 % 2 ≠ 1) (rest : Bytes) :
    clockIn (flags :: rest) = none := by
  unfold clockIn
  split
  next same =>
    obtain ⟨rfl, -⟩ := List.cons.inj same
    exact if_neg untold
  next => rfl

/-- What fills up a field tells no clock. -/
theorem clockIn_stuffed_nil (slack : Nat) : (stuffed [] slack).bind clockIn = none := by
  match slack with
  | 0 => rfl
  | 1 => rfl
  | slack + 2 => exact clockIn_of_flags 0 (by decide) (List.replicate slack 0xFF)

theorem clockIn_pictureFields (isKeyframe : Bool) (clock : Option Nat) (slack : Nat) :
    (stuffed (pictureFields isKeyframe clock) slack).bind clockIn =
      clock.map (· % wordLimit 33) := by
  cases clock with
  | none =>
    cases isKeyframe with
    | false => exact clockIn_stuffed_nil slack
    | true => exact clockIn_of_flags 0x40 (by decide) (List.replicate slack 0xFF)
  | some time =>
    have flags : (0x40 : UInt8) ||| 0x10 = 0x50 := by decide
    have fields : pictureFields isKeyframe (some time) =
        (if isKeyframe then 0x50 else 0x10) :: clockField time := by
      cases isKeyframe <;> simp [pictureFields, flags]
    rw [fields]
    refine (clockIn_clockField _ time (List.replicate slack 0xFF)).trans (if_pos ?_)
    cases isKeyframe <;> decide

/-! ## Packets -/

namespace Packet

/-- The clock that a packet tells, whatever its number. -/
def clock (packet : Packet) : Option Nat := packet.adaptation.bind clockIn

theorem readClock_encode {packet : Packet} (full : packet.IsFull) {counter : Nat}
    (small : counter < 16) : readClock (packet.encode counter) = packet.clock := by
  have room : fieldSize packet.adaptation + packet.payload.length = 184 := full
  obtain ⟨fielded, plain, -, -⟩ := control_octet ⟨counter, small⟩
  unfold readClock clock
  congr 1
  cases field : packet.adaptation with
  | none =>
    rw [field] at room
    obtain ⟨b, rest, payload⟩ : ∃ b rest, packet.payload = b :: rest :=
      List.exists_cons_of_length_pos (by simp only [fieldSize] at room; omega)
    simp only [encode, field, payload, Option.isSome_none, Bool.false_eq_true, if_false,
      List.cons_append, List.nil_append, adaptationIn, plain, Nat.zero_ne_one]
  | some octets =>
    have short : octets.length < 256 := by
      rw [field] at room
      simp only [fieldSize] at room
      omega
    have length : (UInt8.ofNat octets.length).toNat = octets.length := by
      rw [UInt8.toNat_ofNat', Nat.mod_eq_of_lt short]
    simp only [encode, field, Option.isSome_some, if_true, List.cons_append, List.nil_append,
      adaptationIn, fielded, length, List.take_left]

def startsPicture (packet : Packet) : Bool := packet.flow = .video && packet.isStart

theorem startsPicture_encode {packet : Packet} (full : packet.IsFull) {counter : Nat}
    (small : counter < 16) :
    TransportStream.startsPicture (packet.encode counter) = packet.startsPicture := by
  unfold TransportStream.startsPicture startsPicture
  rw [receive_encode full small]
  show (decide (packet.flow.pid = 256) && packet.isStart) = _
  congr 1
  have isVideo : packet.flow.pid = Flow.video.pid ↔ packet.flow = .video :=
    ⟨Flow.pid_injective, congrArg Flow.pid⟩
  exact decide_eq_decide.mpr isVideo

def told (packet : Packet) : Bool × Option Nat := (packet.startsPicture, packet.clock)

end Packet

/-- Whether a picture starts in the packet, and the clock that it tells. -/
def toldBy (packet : Bytes) : Bool × Option Nat := (startsPicture packet, readClock packet)

theorem map_encodeAll {counters : Counters} (small : counters.AreSmall) {packets : List Packet}
    (full : ∀ packet ∈ packets, packet.IsFull) :
    (encodeAll (numbered counters packets)).map toldBy = packets.map (·.told) := by
  induction packets generalizing counters with
  | nil => rfl
  | cons packet rest ih =>
    have here := full packet List.mem_cons_self
    have later := ih (small.bump packet.flow) fun p isIn => full p (List.mem_cons_of_mem _ isIn)
    show toldBy (packet.encode _) :: (encodeAll (numbered _ rest)).map toldBy = _
    rw [later, toldBy, Packet.startsPicture_encode here (small packet.flow),
      Packet.readClock_encode here (small packet.flow)]
    rfl

/-! ## Emissions -/

/-- The first packet of a picture tells the fields, the others only fill up. -/
theorem exists_videoPackets (fields : Bytes) {octets : Bytes} (notEmpty : octets ≠ []) :
    ∃ first rest, videoPackets fields octets = first :: rest ∧
      (first.startsPicture = true ∧ ∃ slack, first.adaptation = stuffed fields slack) ∧
      ∀ packet ∈ rest, packet.startsPicture = false ∧
        ∃ slack, packet.adaptation = stuffed [] slack := by
  generalize overheadIs : (if fields.isEmpty then 0 else 1 + fields.length) = overhead
  have whole := flatten_pieces (roomSize - overhead) roomSize octets
  cases cut : pieces (roomSize - overhead) roomSize octets with
  | nil =>
    rw [cut] at whole
    exact absurd whole.symm notEmpty
  | cons first rest =>
    refine ⟨_, _, by rw [videoPackets, overheadIs, cut], ⟨rfl, _, rfl⟩, fun packet isIn => ?_⟩
    obtain ⟨piece, -, rfl⟩ := List.mem_map.mp isIn
    exact ⟨rfl, _, rfl⟩

theorem tablePackets_untimed (codec : Codec) :
    ∀ packet ∈ tablePackets codec, packet.startsPicture = false ∧ packet.clock = none := by
  intro packet isIn
  obtain rfl | isIn := List.mem_cons.mp isIn
  · exact ⟨rfl, rfl⟩
  · obtain rfl := List.mem_singleton.mp isIn
    exact ⟨rfl, rfl⟩

/-- Of each packet, whether a picture starts in it and the clock that it tells: clocks are told
where pictures start and nowhere else, and these are the given ones. -/
structure TellsClocks (clocks : List (Option Nat)) (told : List (Bool × Option Nat)) : Prop where
  starts : (told.filter (·.1)).map (·.2) = clocks
  others : ∀ packet ∈ told, packet.1 = false → packet.2 = none

namespace TellsClocks

theorem append {front back : List (Option Nat)} {first second : List (Bool × Option Nat)}
    (one : TellsClocks front first) (other : TellsClocks back second) :
    TellsClocks (front ++ back) (first ++ second) := by
  constructor
  · rw [List.filter_append, List.map_append, one.starts, other.starts]
  · exact List.forall_mem_append.mpr ⟨one.others, other.others⟩

/-- Where no picture starts no clock is told. -/
theorem of_untimed {told : List (Bool × Option Nat)}
    (untimed : ∀ packet ∈ told, packet.1 = false ∧ packet.2 = none) : TellsClocks [] told := by
  constructor
  · rw [List.filter_eq_nil_iff.mpr fun packet isIn => by simp [(untimed packet isIn).1]]
    rfl
  · exact fun packet isIn _ => (untimed packet isIn).2

theorem start (clock : Option Nat) : TellsClocks [clock] [(true, clock)] := by
  constructor
  · rfl
  · rintro packet isIn
    obtain rfl := List.mem_singleton.mp isIn
    exact nofun

end TellsClocks

theorem tellsClocks_packets (codec : Codec) (e : Emission) :
    TellsClocks [e.clock.map (· % wordLimit 33)] ((e.packets codec).map (·.told)) := by
  obtain ⟨first, rest, same, ⟨starts, slack, tells⟩, others⟩ :=
    exists_videoPackets (pictureFields e.isKeyframe e.clock) e.elementaryPacket_ne_nil
  have tables :
      TellsClocks [] ((if e.repeatsTables then tablePackets codec else []).map (·.told)) := by
    refine .of_untimed (List.forall_mem_map.mpr ?_)
    split
    · exact tablePackets_untimed codec
    · exact nofun
  have told : first.told = (true, e.clock.map (· % wordLimit 33)) := by
    rw [Packet.told, starts, Packet.clock, tells, clockIn_pictureFields]
  have filled : TellsClocks [] (rest.map (·.told)) := by
    refine .of_untimed (List.forall_mem_map.mpr fun packet isIn => ?_)
    obtain ⟨inside, slack, fills⟩ := others packet isIn
    exact ⟨inside, by rw [Packet.told, Packet.clock, fills, clockIn_stuffed_nil]⟩
  have all := tables.append ((TellsClocks.start (e.clock.map (· % wordLimit 33))).append filled)
  rw [Emission.packets, same, List.map_append, List.map_cons, told]
  exact all

theorem tellsClocks_packetsOf (codec : Codec) (emissions : List Emission) :
    TellsClocks (emissions.map (·.clock.map (· % wordLimit 33)))
      ((packetsOf codec emissions).map (·.told)) := by
  induction emissions with
  | nil => exact .of_untimed nofun
  | cons e rest ih =>
    rw [packetsOf, List.flatMap_cons, List.map_append]
    exact (tellsClocks_packets codec e).append ih

/-- The clocks that units are to tell, the first of them decoded after `last`: of each keyframe the
decode time, counted from the origin. -/
def clocksOf (codec : Codec) (last origin : Option Nat) (units : List Seen) : List (Option Nat) :=
  let times := decodeTimes last (units.map Seen.time)
  let origin := origin.getD (times.headD 0)
  units.zipWith
    (fun s dts => if showsKeyframe codec s.unit then some (dts - origin) else none) times

theorem clocksOf_cons (codec : Codec) (last origin : Option Nat) (s : Seen) (rest : List Seen) :
    clocksOf codec last origin (s :: rest) =
      (if showsKeyframe codec s.unit then
          some (decodeTime last s.time - origin.getD (decodeTime last s.time)) else none) ::
        clocksOf codec (some (decodeTime last s.time))
          (some (origin.getD (decodeTime last s.time))) rest := by
  rw [clocksOf, List.map_cons, decodeTimes, List.headD_cons, List.zipWith_cons_cons]
  rfl

/-- Nothing was written before the first keyframe, so the first picture needs no clock of its
own. -/
theorem Muxer.clocks_dueOf {m : Muxer} (fresh : m.unitsWritten = 0 → m.isStarted = false)
    (units : List AccessUnit) :
    (m.emissions units).map (·.clock) =
      clocksOf m.codec m.lastDecodeTime m.origin (m.dueOf units) := by
  induction units generalizing m with
  | nil => cases started : m.isStarted <;> simp [emissions, clocksOf, dueOf, due, seen]
  | cons unit rest ih =>
    have later : (m.noting unit).unitsWritten = 0 → (m.noting unit).isStarted = false := by
      unfold noting
      cases emits : m.emits unit with
      | false =>
        rw [if_neg (by simp)]
        simpa [opened, learn, emits] using fresh
      | true => exact fun none => by cases none
    rw [emissions, dueOf_cons, List.map_append, ih later, codec_noting, lastDecodeTime_noting,
      origin_noting, emission?]
    cases emits : m.emits unit with
    | false => rfl
    | true =>
      rw [if_pos rfl, if_pos rfl, if_pos rfl, if_pos rfl, clocksOf_cons]
      have first : m.unitsWritten = 0 → showsKeyframe m.codec unit = true := by
        intro none
        simpa [Muxer.emits, fresh none] using (Bool.and_eq_true_iff.mp emits).2
      have clock : ((m.opened unit).emission unit.pts.ticks (showsKeyframe m.codec unit)
          (content m.codec unit)).clock =
          if showsKeyframe m.codec unit || m.unitsWritten = 0 then
            some (decodeTime m.lastDecodeTime unit.pts.ticks -
              m.origin.getD (decodeTime m.lastDecodeTime unit.pts.ticks))
          else none := rfl
      rw [Option.toList_some, List.map_singleton, clock, List.singleton_append]
      congr 1
      cases keyframe : showsKeyframe m.codec unit with
      | true => rfl
      | false =>
        have later : m.unitsWritten ≠ 0 := fun none => by simp [first none] at keyframe
        simp [later]

/-! ## A whole stream -/

/-- The times that are told of the units of a stream: their least legal decode times, counted from
the first. -/
def timesOf (units : List Seen) : List Nat :=
  let times := units.map Seen.time
  (List.range units.length).map fun index => clampedTime times index - clampedTime times 0

theorem timesOf_eq (units : List Seen) :
    timesOf units = (decodeTimes none (units.map Seen.time)).map
      (· - (decodeTimes none (units.map Seen.time)).headD 0) := by
  unfold timesOf
  cases units with
  | nil => rfl
  | cons first rest =>
    rw [decodeTimes_eq, List.length_map]
    generalize (first :: rest).map Seen.time = times
    have origin : ((List.range (rest.length + 1)).map (clampedTime times)).headD 0 =
        clampedTime times 0 := by
      rw [List.range_succ_eq_map, List.map_cons, List.headD_cons]
    rw [List.length_cons, origin, List.map_map, Function.comp_def]

@[simp] theorem length_timesOf (units : List Seen) : (timesOf units).length = units.length := by
  simp [timesOf]

theorem eq_zero_of_head?_timesOf (units : List Seen) :
    ∀ time ∈ (timesOf units).head?, time = 0 := by
  cases units with
  | nil => exact nofun
  | cons first rest =>
    rw [timesOf, List.length_cons, List.range_succ_eq_map, List.map_cons, List.head?_cons]
    rintro _ ⟨⟩
    exact Nat.sub_self _

/-- No unit is shown before it is decoded, so the header tells one time. -/
theorem elementaryPackets_eq (codec : Codec) (units : List Seen) :
    elementaryPackets codec none none units =
      units.zipWith (fun s time => pictureHeader time time ++ s.stream codec) (timesOf units) := by
  rw [timesOf_eq, List.zipWith_map_right]
  refine List.zipWith_congr _ _ _ _ ?_
  have notBefore := forall₂_le_decodeTimes none (units.map Seen.time)
  rw [List.forall₂_map_left_iff] at notBefore
  refine notBefore.imp fun s dts shown => ?_
  rw [Seen.elementaryPacket, Nat.max_eq_right shown]
  rfl

theorem clocksOf_eq (codec : Codec) (units : List Seen) :
    clocksOf codec none none units =
      units.zipWith (fun s time => if showsKeyframe codec s.unit then some time else none)
        (timesOf units) := by
  rw [timesOf_eq, List.zipWith_map_right]
  rfl

/-- What a receiver learns of the times of a stream that holds the given units. -/
structure TellsTimes (codec : Codec) (units : List Seen) (packets pictures : List Bytes) :
    Prop where
  written : pictures =
    units.zipWith (fun s time => pictureHeader time time ++ s.stream codec) (timesOf units)
  startsAtZero : ∀ time ∈ (timesOf units).head?, time = 0
  /-- The presentation and the decode time of each picture are the same. -/
  headers : pictures.map readTimes = (timesOf units).map fun time =>
    some (time % wordLimit 33, time % wordLimit 33)
  /-- Where a picture starts its time is the clock too, if it is a keyframe. -/
  clocks : TellsClocks
    (units.zipWith (fun s time =>
      if showsKeyframe codec s.unit then some (time % wordLimit 33) else none) (timesOf units))
    (packets.map toldBy)

theorem headers_elementaryPackets (codec : Codec) (units : List Seen) :
    (elementaryPackets codec none none units).map readTimes =
      (timesOf units).map fun time => some (time % wordLimit 33, time % wordLimit 33) := by
  have each : ∀ (s : Seen) (time : Nat), readTimes (pictureHeader time time ++ s.stream codec) =
      some (time % wordLimit 33, time % wordLimit 33) :=
    fun s time => readTimes_pictureHeader time time _
  rw [elementaryPackets_eq, List.map_zipWith]
  simp only [each]
  refine List.ext_getElem (by simp) fun index _ _ => ?_
  rw [List.getElem_zipWith, List.getElem_map]

theorem clocks_streamPackets (parameters : StreamParameters) (units : List AccessUnit) :
    TellsClocks
      ((dueUnits parameters units).zipWith (fun s time =>
        if showsKeyframe parameters.codec s.unit then some (time % wordLimit 33) else none)
          (timesOf (dueUnits parameters units)))
      ((encodeAll (numbered {} (streamPackets parameters units))).map toldBy) := by
  have full : ∀ packet ∈ streamPackets parameters units, packet.IsFull :=
    fun packet isIn => (isSound_streamPackets parameters units packet isIn).isFull
  have tables : TellsClocks [] ((tablePackets parameters.codec).map (·.told)) :=
    .of_untimed (List.forall_mem_map.mpr (tablePackets_untimed parameters.codec))
  have pictures := tellsClocks_packetsOf parameters.codec
    ((Muxer.announced parameters).emissions units)
  have clocks : ((Muxer.announced parameters).emissions units).map (·.clock) =
      clocksOf parameters.codec none none (dueUnits parameters units) :=
    Muxer.clocks_dueOf (m := Muxer.announced parameters) (fun _ => rfl) units
  have told : ((Muxer.announced parameters).emissions units).map (·.clock.map (· % wordLimit 33)) =
      (dueUnits parameters units).zipWith (fun s time =>
        if showsKeyframe parameters.codec s.unit then some (time % wordLimit 33) else none)
          (timesOf (dueUnits parameters units)) := by
    have apart := (List.map_map (g := Option.map (· % wordLimit 33)) (f := Emission.clock)
      (l := (Muxer.announced parameters).emissions units)).symm
    refine apart.trans ?_
    rw [clocks, clocksOf_eq, List.map_zipWith]
    congr 1
    funext s time
    split <;> rfl
  rw [map_encodeAll areSmall_default full, streamPackets, List.map_append, ← told]
  exact tables.append pictures

section

variable {σ : Type} {sink : ByteSink σ} {held : σ → Bytes}

theorem stream_tellsTimes (keeps : sink.KeepsAccepted held) {parameters : StreamParameters}
    {out : σ} {s s' : Muxer × σ}
    (begun : (Muxer.writer sink).start parameters ({}, out) = (.ok (), s))
    {units : List AccessUnit} (done : forM units (Muxer.writer sink).write s = (.ok (), s')) :
    ∃ packets received pictures, held s'.2 = held out ++ packets.flatten ∧
      Accepts packets received ∧ demux received = ([], pictures) ∧
      TellsTimes parameters.codec (dueUnits parameters units) packets pictures := by
  refine ⟨_, _, _, held_stream keeps begun done,
    accepts_numbered areSmall_default (isSound_streamPackets parameters units),
    demux_streamPackets parameters units, ?_⟩
  constructor
  case written => exact elementaryPackets_eq _ _
  case startsAtZero => exact eq_zero_of_head?_timesOf _
  case headers => exact headers_elementaryPackets _ _
  case clocks => exact clocks_streamPackets parameters units

/-- Decode times that can be counted are, for the unit at each index, the latest of the times up to
there, each moved on by one for each step since; and these are the least times that rise from unit
to unit and come nowhere before the units' own times. In a stream whose units were taken both times
of each picture are its decode time counted from that of the first, of which a receiver reads 33
bits, and so is the clock, which is told just where a keyframe starts. Units that are left out do
not count. On a reliable sink all units are taken if decode times can be counted. -/
theorem decodeTimes_told [H264.SizeReader] (keeps : sink.KeepsAccepted held) :
    (∀ times : List Nat,
      let least := (List.range times.length).map (clampedTime times)
      ((∀ time ∈ least, FitsIn 64 time) → countedDecodeTimes none times = .ok least) ∧
      IsLegal times least ∧
      (∀ others, IsLegal times others → List.Forall₂ (· ≤ ·) least others) ∧
      ∀ index, clampedTime times 0 ≤ clampedTime times index) ∧
    (∀ {parameters out s}, (Muxer.writer sink).start parameters ({}, out) = (.ok (), s) →
      ∀ units : List AccessUnit,
        let shown := dueUnits parameters units
        (∀ {s'}, forM units (Muxer.writer sink).write s = (.ok (), s') →
          ∃ packets received pictures, held s'.2 = held out ++ packets.flatten ∧
            Accepts packets received ∧ demux received = ([], pictures) ∧
            TellsTimes parameters.codec shown packets pictures) ∧
        (sink.IsReliable held →
          (∀ index < shown.length, FitsIn 64 (clampedTime (shown.map Seen.time) index)) →
          ∃ s', forM units (Muxer.writer sink).write s = (.ok (), s'))) ∧
    (∀ {buffer : PacketBuffer} {out out'}, buffer.saveTransportStream sink out = (.ok (), out') →
      ∃ first parameters packets received pictures,
        buffer.exportStart = .ok (first, parameters) ∧ held out' = held out ++ packets.flatten ∧
        Accepts packets received ∧ demux received = ([], pictures) ∧
        TellsTimes parameters.codec (dueUnits parameters (buffer.exportUnits first)) packets
          pictures) := by
  refine ⟨fun times => ?_,
    fun {parameters out s} begun units => ⟨stream_tellsTimes keeps begun, ?_⟩,
    fun {buffer out out'} saved => ?_⟩
  · rw [← decodeTimes_eq]
    refine ⟨fun fits => countedDecodeTimes_eq_ok_iff.mpr ⟨rfl, fits⟩, isLegal_decodeTimes times,
      fun others => decodeTimes_le, fun index => ?_⟩
    obtain rfl | later := Nat.eq_zero_or_pos index
    · exact Nat.le_refl _
    · exact Nat.le_of_lt (clampedTime_lt later)
  · intro reliable fits
    refine exists_written reliable begun ?_
    rw [decodeTimes_eq, List.forall_mem_map, List.length_map]
    exact fun index inside => fits index (List.mem_range.mp inside)
  · obtain ⟨first, parameters, s, s', m, start, begun, written, finished⟩ :=
      PacketBuffer.exportFrom_eq_ok_iff.mp saved
    obtain ⟨packets, received, pictures, octets, accepted, shown, times⟩ :=
      stream_tellsTimes keeps begun written
    have ended := Muxer.finish_accepted keeps finished
    exact ⟨first, parameters, packets, received, pictures, start, ended.trans octets, accepted,
      shown, times⟩

/-- A keyframe, a unit without picture, and two units of which the second is to be shown before the
first. -/
def disorderedUnits : List AccessUnit :=
  [⟨.ofMillis 40, [.ofAnnexB [0, 0, 1, 0x65]], true⟩,
    ⟨.ofMillis 60, [.ofAnnexB [0, 0, 1, 0x06]], false⟩,
    ⟨.ofMillis 120, [.ofAnnexB [0, 0, 1, 0x41]], false⟩,
    ⟨.ofMillis 80, [.ofAnnexB [0, 0, 1, 0x65]], true⟩]

theorem decodeTimes_told_disorderedUnits :
    CommandLine.collector.KeepsAccepted (fun newestFirst => newestFirst.reverse.flatten) ∧
    ∃ s s' packets received pictures,
      (Muxer.writer CommandLine.collector).start longParameters ({}, []) = (.ok (), s) ∧
      forM disorderedUnits (Muxer.writer CommandLine.collector).write s = (.ok (), s') ∧
      s'.2.reverse.flatten = packets.flatten ∧ Accepts packets received ∧
      demux received = ([], pictures) ∧
      pictures.map readTimes = [some (0, 0), some (7200, 7200), some (7201, 7201)] ∧
      TellsClocks [some 0, none, some 7201] (packets.map toldBy) := by
  have keeps := CommandLine.collector_isReliable.keepsAccepted
  obtain ⟨-, streams, -⟩ := decodeTimes_told keeps
  have times : timesOf (dueUnits longParameters disorderedUnits) = [0, 7200, 7201] := by
    rw [timesOf_eq]
    decide
  have fits : ∀ index < 3, FitsIn 64
      (clampedTime ((dueUnits longParameters disorderedUnits).map Seen.time) index) := by decide
  have known : longParameters.codec ≠ .unknown := by decide
  obtain ⟨s, begun⟩ := Muxer.start_reliable CommandLine.collector_isReliable known []
  obtain ⟨tells, takes⟩ := streams begun disorderedUnits
  obtain ⟨s', written⟩ := takes CommandLine.collector_isReliable fits
  obtain ⟨packets, received, pictures, octets, accepted, shown, told⟩ := tells written
  have headers := told.headers
  have clocks := told.clocks
  rw [times] at headers clocks
  exact ⟨keeps, s, s', packets, received, pictures, begun, written, octets, accepted, shown,
    headers, clocks⟩

end

end Footage.TransportStream
