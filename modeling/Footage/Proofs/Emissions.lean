import Footage.Export.TransportStream.Writer
import Footage.Proofs.Sinks
import Footage.Proofs.TransportPackets

/-!
# What a transport stream writer emits

The writer goes through access units one by one and mixes what is to be sent with the sending. Here
the two are apart: from the access units alone follows which of them are due and what elementary
packet each becomes. A writer that takes them sends just that, and on a reliable sink it takes
them.

* `due`, `elementaryPackets`: what a stream is to hold, told of all units at once.
* `Muxer.emissions`: the same as the writer finds it, unit by unit.
  `Muxer.elementaryPackets_dueOf`: the two agree.
* `Muxer.forM_write_accepted`: what the writer sends. `Muxer.forM_write_reliable`: when it sends.
-/

namespace Footage.TransportStream

/-! ## Emissions -/

/-- What a writer makes of an access unit that it does not leave out. -/
structure Emission where
  isKeyframe : Bool
  /-- The tables are repeated in front of it. -/
  repeatsTables : Bool
  shown : Nat
  decoded : Nat
  /-- The program clock, if it is told. -/
  clock : Option Nat
  /-- The NAL units as a byte stream. -/
  stream : Bytes
deriving DecidableEq, Repr

def tablePackets (codec : Codec) : List Packet :=
  [tablePacket .programAssociation associationTable,
    tablePacket .programMap (mapTable (streamType codec))]

namespace Emission

/-- The octets that a receiver of the video flow is to get. -/
def elementaryPacket (e : Emission) : Bytes := pictureHeader e.shown e.decoded ++ e.stream

def packets (codec : Codec) (e : Emission) : List Packet :=
  (if e.repeatsTables then tablePackets codec else []) ++
    videoPackets (pictureFields e.isKeyframe e.clock) e.elementaryPacket

end Emission

/-- The packets that are sent for emissions, without their numbers. -/
def packetsOf (codec : Codec) (emissions : List Emission) : List Packet :=
  emissions.flatMap (·.packets codec)

theorem packetsOf_singleton (codec : Codec) (e : Emission) :
    packetsOf codec [e] = e.packets codec := List.flatMap_singleton _ e

theorem packetsOf_append (codec : Codec) (front back : List Emission) :
    packetsOf codec (front ++ back) = packetsOf codec front ++ packetsOf codec back :=
  List.flatMap_append

/-! ## What a stream is to hold -/

def setsIn (codec : Codec) (unit : AccessUnit) : List Bytes :=
  (payloads unit).filter fun payload => roleOf codec payload = .parameterSet

/-- The access unit holds a NAL unit of a picture that can be decoded on its own. -/
def showsKeyframe (codec : Codec) (unit : AccessUnit) : Bool :=
  (content codec unit).any fun payload => roleOf codec payload = .keyframe

def showsPicture (codec : Codec) (unit : AccessUnit) : Bool :=
  (content codec unit).any fun payload => (roleOf codec payload).isPicture

/-- An access unit, and the parameter sets known once it has come. -/
structure Seen where
  unit : AccessUnit
  sets : List Bytes
deriving DecidableEq, Repr

namespace Seen

def time (s : Seen) : Nat := s.unit.pts.ticks

/-- The NAL units as a byte stream: the delimiter, the parameter sets if it is a keyframe, the
rest. -/
def stream (codec : Codec) (s : Seen) : Bytes :=
  byteStream <|
    delimiter codec :: (if showsKeyframe codec s.unit then s.sets else []) ++ content codec s.unit

/-- The elementary packet of a unit decoded at `dts`. All times are counted from `origin`. -/
def elementaryPacket (codec : Codec) (origin : Nat) (s : Seen) (dts : Nat) : Bytes :=
  pictureHeader (max s.time dts - origin) (dts - origin) ++ s.stream codec

end Seen

/-- Access units with the parameter sets known once each has come. -/
def seen (codec : Codec) (known : List Bytes) : List AccessUnit → List Seen
  | [] => []
  | unit :: rest =>
    let known := (setsIn codec unit).foldl (fun known set => remember codec set known) known
    ⟨unit, known⟩ :: seen codec known rest

/-- The units that are due to be emitted: those with a picture, from the first keyframe on. -/
def due (codec : Codec) (isStarted : Bool) (units : List Seen) : List Seen :=
  let pictures := units.filter fun s => showsPicture codec s.unit
  if isStarted then pictures else pictures.dropWhile fun s => !showsKeyframe codec s.unit

/-- The elementary packets of units, the first of them decoded after `last`. Unless there is an
origin already, its decode time becomes the origin. -/
def elementaryPackets (codec : Codec) (last origin : Option Nat) (units : List Seen) : List Bytes :=
  let times := decodeTimes last (units.map Seen.time)
  let origin := origin.getD (times.headD 0)
  units.zipWith (Seen.elementaryPacket codec origin) times

theorem due_cons (codec : Codec) (isStarted : Bool) (s : Seen) (rest : List Seen) :
    due codec isStarted (s :: rest) =
      if showsPicture codec s.unit && (isStarted || showsKeyframe codec s.unit) then
        s :: due codec true rest
      else due codec isStarted rest := by
  cases picture : showsPicture codec s.unit with
  | false => simp [due, picture]
  | true =>
    cases isStarted with
    | true => simp [due, picture]
    | false => cases keyframe : showsKeyframe codec s.unit <;> simp [due, picture, keyframe]

theorem elementaryPackets_cons (codec : Codec) (last origin : Option Nat) (s : Seen)
    (rest : List Seen) :
    elementaryPackets codec last origin (s :: rest) =
      s.elementaryPacket codec (origin.getD (decodeTime last s.time)) (decodeTime last s.time) ::
        elementaryPackets codec (some (decodeTime last s.time))
          (some (origin.getD (decodeTime last s.time))) rest := by
  rw [elementaryPackets, List.map_cons, decodeTimes, List.headD_cons, List.zipWith_cons_cons]
  rfl

/-! ## One unit after another -/

namespace Muxer

def emission (m : Muxer) (time : Nat) (isKeyframe : Bool) (units : List Bytes) : Emission :=
  let dts := decodeTime m.lastDecodeTime time
  let origin := m.origin.getD dts
  { isKeyframe
    repeatsTables := isKeyframe && 0 < m.unitsWritten
    shown := max time dts - origin
    decoded := dts - origin
    clock := if isKeyframe || m.unitsWritten = 0 then some (dts - origin) else none
    stream := m.picture isKeyframe units }

def timed (m : Muxer) (time : Nat) : Muxer :=
  let dts := decodeTime m.lastDecodeTime time
  { m with lastDecodeTime := some dts, origin := some (m.origin.getD dts) }

def counting (m : Muxer) : Muxer := { m with unitsWritten := m.unitsWritten + 1 }

def emits (m : Muxer) (unit : AccessUnit) : Bool :=
  showsPicture m.codec unit && (m.isStarted || showsKeyframe m.codec unit)

/-- What the writer knows when it has looked at the NAL units of an access unit. -/
def opened (m : Muxer) (unit : AccessUnit) : Muxer :=
  { m.learn (setsIn m.codec unit) with isStarted := m.isStarted || m.emits unit }

/-- What becomes of an access unit, if it is not left out. -/
def emission? (m : Muxer) (unit : AccessUnit) : Option Emission :=
  if m.emits unit then
    some <| (m.opened unit).emission unit.pts.ticks (showsKeyframe m.codec unit)
      (content m.codec unit)
  else none

/-- What the writer knows behind an access unit. -/
def noting (m : Muxer) (unit : AccessUnit) : Muxer :=
  if m.emits unit then
    { ((m.opened unit).timed unit.pts.ticks).counting with
      counters := m.counters.after (packetsOf m.codec (m.emission? unit).toList) }
  else m.opened unit

def emissions (m : Muxer) : List AccessUnit → List Emission
  | [] => []
  | unit :: rest => (m.emission? unit).toList ++ (m.noting unit).emissions rest

@[simp] theorem codec_noting (m : Muxer) (unit : AccessUnit) : (m.noting unit).codec = m.codec := by
  unfold noting
  split <;> rfl

theorem lastDecodeTime_noting (m : Muxer) (unit : AccessUnit) :
    (m.noting unit).lastDecodeTime =
      if m.emits unit then some (decodeTime m.lastDecodeTime unit.pts.ticks)
      else m.lastDecodeTime := by
  unfold noting
  split <;> rfl

theorem origin_noting (m : Muxer) (unit : AccessUnit) :
    (m.noting unit).origin =
      if m.emits unit then some (m.origin.getD (decodeTime m.lastDecodeTime unit.pts.ticks))
      else m.origin := by
  unfold noting
  split <;> rfl

theorem counters_noting (m : Muxer) (unit : AccessUnit) :
    (m.noting unit).counters = m.counters.after (packetsOf m.codec (m.emission? unit).toList) := by
  unfold noting emission?
  split <;> rfl

def dueOf (m : Muxer) (units : List AccessUnit) : List Seen :=
  due m.codec m.isStarted (seen m.codec m.parameterSets units)

theorem dueOf_cons (m : Muxer) (unit : AccessUnit) (rest : List AccessUnit) :
    m.dueOf (unit :: rest) =
      if m.emits unit then ⟨unit, (m.opened unit).parameterSets⟩ :: (m.noting unit).dueOf rest
      else (m.noting unit).dueOf rest := by
  rw [dueOf, seen, due_cons]
  show (if m.emits unit then _ else _) = _
  cases emits : m.emits unit with
  | false => simp [dueOf, noting, opened, emits, learn]
  | true => simp [dueOf, noting, opened, emits, learn, timed, counting]

/-- What is emitted are the units that are due. -/
theorem elementaryPackets_dueOf (m : Muxer) (units : List AccessUnit) :
    (m.emissions units).map Emission.elementaryPacket =
      elementaryPackets m.codec m.lastDecodeTime m.origin (m.dueOf units) := by
  induction units generalizing m with
  | nil => cases started : m.isStarted <;> simp [emissions, elementaryPackets, dueOf, due, seen]
  | cons unit rest ih =>
    rw [emissions, dueOf_cons, List.map_append, ih, codec_noting, lastDecodeTime_noting,
      origin_noting, emission?]
    cases emits : m.emits unit with
    | false => rfl
    | true =>
      rw [if_pos rfl, if_pos rfl, if_pos rfl, if_pos rfl, elementaryPackets_cons]
      rfl

/-! ## Sending -/

variable {σ : Type} {sink : ByteSink σ} {held : σ → Bytes}

/-- From the first state to the second, the packets are sent under the next numbers. -/
structure Sends (held : σ → Bytes) (packets : List Packet) (s s' : Muxer × σ) : Prop where
  muxer : s'.1 = { s.1 with counters := s.1.counters.after packets }
  octets : held s'.2 = held s.2 ++ (encodeAll (numbered s.1.counters packets)).flatten

theorem sends_nil (s : Muxer × σ) : Sends held [] s s := ⟨rfl, (List.append_nil _).symm⟩

theorem Sends.trans {front back : List Packet} {s s' s'' : Muxer × σ}
    (first : Sends held front s s') (second : Sends held back s' s'') :
    Sends held (front ++ back) s s'' := by
  constructor
  · rw [second.muxer, first.muxer]
    simp [Counters.after]
  · rw [second.octets, first.octets, first.muxer, numbered_append]
    simp [encodeAll]

theorem Sends.counting {packets : List Packet} {m m' : Muxer} {out out' : σ}
    (sent : Sends held packets (m, out) (m', out')) :
    Sends held packets (m.counting, out) (m'.counting, out') := by
  refine ⟨?_, sent.octets⟩
  have same : m' = { m with counters := m.counters.after packets } := sent.muxer
  rw [same]
  rfl

theorem send_accepted (keeps : sink.KeepsAccepted held) {packet : Packet} {s s' : Muxer × σ}
    (done : send sink packet s = (.ok (), s')) : Sends held [packet] s s' := by
  obtain ⟨m, out⟩ := s
  have written : send sink packet (m, out) =
      ((sink.write (packet.encode (m.counters.get packet.flow)) out).1,
        ({ m with counters := m.counters.bump packet.flow },
          (sink.write (packet.encode (m.counters.get packet.flow)) out).2)) := by
    simp [send]
  rw [written] at done
  rcases taken : sink.write (packet.encode (m.counters.get packet.flow)) out with ⟨result, out'⟩
  rw [taken] at done
  cases done
  exact ⟨rfl, by simpa [numbered, encodeAll] using keeps.write _ _ _ taken⟩

theorem forM_send_accepted (keeps : sink.KeepsAccepted held) {packets : List Packet}
    {s s' : Muxer × σ} (done : forM packets (send sink) s = (.ok (), s')) :
    Sends held packets s s' := by
  induction packets generalizing s with
  | nil =>
    cases done
    exact sends_nil _
  | cons packet packets ih =>
    rw [List.forM_cons] at done
    obtain ⟨_, _, first, later⟩ := Effect.of_bind_ok done
    exact (send_accepted keeps first).trans (ih later)

theorem sendTables_accepted (keeps : sink.KeepsAccepted held) {s s' : Muxer × σ}
    (done : sendTables sink s = (.ok (), s')) : Sends held (tablePackets s.1.codec) s s' := by
  simp only [sendTables, Effect.bind_apply, Effect.get_apply] at done
  obtain ⟨_, _, first, second⟩ := Effect.of_bind_ok (Effect.of_rename_ok done)
  exact (send_accepted keeps first).trans (send_accepted keeps second)

theorem send_reliable (reliable : sink.IsReliable held) (packet : Packet) (s : Muxer × σ) :
    ∃ s', send sink packet s = (.ok (), s') := by
  obtain ⟨out', done, -⟩ := reliable.write (packet.encode (s.1.counters.get packet.flow)) s.2
  exact ⟨({ s.1 with counters := s.1.counters.bump packet.flow }, out'), by simp [send, done]⟩

theorem sendTables_reliable (reliable : sink.IsReliable held) (s : Muxer × σ) :
    ∃ s', sendTables sink s = (.ok (), s') := by
  obtain ⟨s', first⟩ := send_reliable reliable (tablePacket .programAssociation associationTable) s
  obtain ⟨s'', second⟩ :=
    send_reliable reliable (tablePacket .programMap (mapTable (streamType s.1.codec))) s'
  exact ⟨s'', by simp [sendTables, first, second]⟩

/-- What is done for a picture once its decode time is counted. -/
theorem sendPicture_apply (sink : ByteSink σ) {m : Muxer} (out : σ) {time : Nat}
    (counted : FitsIn 64 (decodeTime m.lastDecodeTime time)) (isKeyframe : Bool)
    (units : List Bytes) :
    let e := m.emission time isKeyframe units
    let video := videoPackets (pictureFields e.isKeyframe e.clock) e.elementaryPacket
    sendPicture sink time isKeyframe units (m, out) =
      (do
        if e.repeatsTables then (sendTables sink).rename WriterError.reported
        (forM video (send sink)).rename fun error =>
          WriterError.reported ((Report.ofIo error).within "writing PES packet")
        modify fun s : Muxer × σ => (s.1.counting, s.2)) (m.timed time, out) := by
  have inTime : countedDecodeTime m.lastDecodeTime time =
      .ok (decodeTime m.lastDecodeTime time) := if_pos counted
  simp only [sendPicture, Effect.bind_apply, Effect.get_apply, Effect.modify_apply,
    Effect.lift_apply, inTime, mapError_ok]
  rfl

/-- A picture that is sent has a decode time that could be counted. -/
theorem counted_of_sendPicture {m : Muxer} {out : σ} {time : Nat} {isKeyframe : Bool}
    {units : List Bytes} {s' : Muxer × σ}
    (done : sendPicture sink time isKeyframe units (m, out) = (.ok (), s')) :
    FitsIn 64 (decodeTime m.lastDecodeTime time) := by
  by_contra late
  have failed : countedDecodeTime m.lastDecodeTime time = .error .addition := if_neg late
  simp only [sendPicture, Effect.bind_apply, Effect.get_apply, Effect.lift_apply, failed,
    mapError_error] at done
  cases done

theorem sendPicture_accepted (keeps : sink.KeepsAccepted held) {m : Muxer} {out : σ} {time : Nat}
    {isKeyframe : Bool} {units : List Bytes} {s' : Muxer × σ}
    (done : sendPicture sink time isKeyframe units (m, out) = (.ok (), s')) :
    Sends held ((m.emission time isKeyframe units).packets m.codec)
      ((m.timed time).counting, out) s' := by
  rw [sendPicture_apply sink out (counted_of_sendPicture done)] at done
  -- from here on it does not matter what the emission is
  generalize m.emission time isKeyframe units = e at done ⊢
  rw [Emission.packets]
  cases repeats : e.repeatsTables with
  | false =>
    simp only [repeats, Bool.false_eq_true, if_false] at done
    obtain ⟨_, _, video, last⟩ := Effect.of_bind_ok done
    cases last
    exact (forM_send_accepted keeps (Effect.of_rename_ok video)).counting
  | true =>
    simp only [repeats, if_true] at done
    obtain ⟨_, _, tables, behind⟩ := Effect.of_bind_ok done
    obtain ⟨_, _, video, last⟩ := Effect.of_bind_ok behind
    cases last
    have sent := sendTables_accepted keeps (Effect.of_rename_ok tables)
    exact (sent.trans (forM_send_accepted keeps (Effect.of_rename_ok video))).counting

/-- A picture is sent, if its decode time can be counted. -/
theorem sendPicture_reliable (reliable : sink.IsReliable held) {m : Muxer} (out : σ) {time : Nat}
    (counted : FitsIn 64 (decodeTime m.lastDecodeTime time)) (isKeyframe : Bool)
    (units : List Bytes) :
    ∃ s', sendPicture sink time isKeyframe units (m, out) = (.ok (), s') := by
  rw [sendPicture_apply sink out counted]
  generalize m.emission time isKeyframe units = e
  have video := Effect.exists_forM_ok (send_reliable reliable)
    (videoPackets (pictureFields e.isKeyframe e.clock) e.elementaryPacket)
  cases e.repeatsTables with
  | false =>
    obtain ⟨s', done⟩ := video (m.timed time, out)
    exact ⟨(s'.1.counting, s'.2), by simp [done]⟩
  | true =>
    obtain ⟨s, tables⟩ := sendTables_reliable reliable (m.timed time, out)
    obtain ⟨s', done⟩ := video s
    exact ⟨(s'.1.counting, s'.2), by simp [tables, done]⟩

/-- An access unit is looked at, and its picture is sent unless it is left out. -/
theorem write_apply (sink : ByteSink σ) (unit : AccessUnit) (m : Muxer) (out : σ) :
    write sink unit (m, out) =
      if m.emits unit then
        sendPicture sink unit.pts.ticks (showsKeyframe m.codec unit) (content m.codec unit)
          (m.opened unit, out)
      else (.ok (), (m.opened unit, out)) := by
  have same : (showsPicture m.codec unit &&
      ((m.learn (setsIn m.codec unit)).isStarted || showsKeyframe m.codec unit)) = m.emits unit :=
    rfl
  have begun : write sink unit (m, out) =
      (do
        if m.emits unit then
          modify fun s : Muxer × σ => ({ s.1 with isStarted := true }, s.2)
          sendPicture sink unit.pts.ticks (showsKeyframe m.codec unit) (content m.codec unit))
        (m.learn (setsIn m.codec unit), out) := by
    simp only [write, Effect.bind_apply, Effect.get_apply, Effect.modify_apply]
    rfl
  rw [begun, opened]
  cases m.emits unit with
  | false => simp [learn]
  | true => simp

/-- What the writer knows behind an access unit that it takes, and what is sent for it. -/
theorem write_accepted (keeps : sink.KeepsAccepted held) {m : Muxer} {out : σ} {unit : AccessUnit}
    {s' : Muxer × σ} (done : write sink unit (m, out) = (.ok (), s')) :
    s'.1 = m.noting unit ∧ held s'.2 = held out ++
      (encodeAll (numbered m.counters (packetsOf m.codec (m.emission? unit).toList))).flatten := by
  rw [write_apply] at done
  rw [noting, emission?]
  cases emits : m.emits unit with
  | false =>
    rw [emits] at done
    cases done
    exact ⟨rfl, (List.append_nil _).symm⟩
  | true =>
    rw [emits, if_pos rfl] at done
    have sent := sendPicture_accepted keeps done
    rw [if_pos rfl, if_pos rfl, Option.toList_some, packetsOf_singleton]
    exact ⟨sent.muxer, sent.octets⟩

/-- What is sent for access units that the writer takes one after another. -/
theorem forM_write_accepted (keeps : sink.KeepsAccepted held) {units : List AccessUnit} {m : Muxer}
    {out : σ} {s' : Muxer × σ} (done : forM units (write sink) (m, out) = (.ok (), s')) :
    held s'.2 = held out ++
      (encodeAll (numbered m.counters (packetsOf m.codec (m.emissions units)))).flatten := by
  induction units generalizing m out with
  | nil =>
    cases done
    exact (List.append_nil _).symm
  | cons unit rest ih =>
    rw [List.forM_cons] at done
    obtain ⟨_, ⟨m', out'⟩, first, others⟩ := Effect.of_bind_ok done
    obtain ⟨rfl, octets⟩ : m' = _ ∧ held out' = _ := write_accepted keeps first
    rw [ih others, octets, counters_noting, codec_noting, emissions, packetsOf_append,
      numbered_append]
    simp [encodeAll]

/-- An access unit that is not left out needs a decode time. -/
theorem write_reliable (reliable : sink.IsReliable held) (m : Muxer) (out : σ) (unit : AccessUnit)
    (counted : m.emits unit = true → FitsIn 64 (decodeTime m.lastDecodeTime unit.pts.ticks)) :
    ∃ out', write sink unit (m, out) = (.ok (), (m.noting unit, out')) := by
  obtain ⟨⟨m', out'⟩, done⟩ : ∃ s', write sink unit (m, out) = (.ok (), s') := by
    rw [write_apply]
    cases emits : m.emits unit with
    | false => exact ⟨_, rfl⟩
    | true => exact sendPicture_reliable reliable (m := m.opened unit) out (counted emits) _ _
  obtain rfl : m' = _ := (write_accepted reliable.keepsAccepted done).1
  exact ⟨out', done⟩

theorem forM_write_reliable (reliable : sink.IsReliable held) {units : List AccessUnit} {m : Muxer}
    (out : σ)
    (counted : ∀ dts ∈ decodeTimes m.lastDecodeTime ((m.dueOf units).map Seen.time),
      FitsIn 64 dts) :
    ∃ s', forM units (write sink) (m, out) = (.ok (), s') := by
  induction units generalizing m out with
  | nil => exact ⟨_, rfl⟩
  | cons unit rest ih =>
    rw [dueOf_cons] at counted
    obtain ⟨out₁, first⟩ := write_reliable reliable m out unit <| by
      intro emits
      rw [if_pos emits] at counted
      exact counted _ List.mem_cons_self
    obtain ⟨s', others⟩ := ih (m := m.noting unit) out₁ <| by
      -- what comes later is decoded after this unit, or after the last one if it is left out
      intro dts later
      rw [lastDecodeTime_noting] at later
      cases emits : m.emits unit with
      | false =>
        rw [emits] at counted later
        exact counted dts later
      | true =>
        rw [emits] at counted later
        exact counted dts (List.mem_cons_of_mem _ later)
    exact ⟨s', by simp [first, others]⟩

end Muxer

end Footage.TransportStream
