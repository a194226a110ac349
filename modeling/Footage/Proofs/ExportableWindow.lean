import Footage.ParameterSet.H264
import Footage.Proofs.ExportCalls
import Footage.Proofs.HistoryAnchor

/-!
# History that was taken can be exported

A ring looks for parameter sets in the packets without picture before a keyframe, newest first.
An export looks for them in all packets up to its first keyframe. History starts behind the last
picture before its anchor, so both look through the same packets.

* `IsAnchoredAt`: a window is its anchor, the packets without picture before it, and what comes
  after it. `isAnchoredAt_of_extract`: history that was taken is.
* `IsAnchoredAt.exportStart_cases`: an export finds the anchor and all parameter sets.
* `IsAnchoredAt.exportTo_cases`: from there on it is a row of calls of the writer.
* `window_exportable`: all of it together.
-/

namespace Footage

/-! ## Windows with an anchor -/

/-- The packets of a window are those without picture that lead to the anchor, the anchor, and
others. All are of one codec, and every parameter set of it comes with the anchor. -/
structure IsAnchoredAt (window : PacketBuffer) (codec : Codec) (a : Anchor)
    (later : List Packet) : Prop where
  packets : window.packets = a.lead.reverse ++ a.packet :: later
  usable : a.isUsable = true
  oneCodec : ∀ p ∈ window.packets, p.codec = codec

theorem Anchor.of_choose {packets : List Packet} {minimum : Duration} {mode : ExtractMode}
    {a : Anchor} (chosen : choose packets minimum mode = .ok a) :
    a.isUsable = true ∧ anchorAt packets a.older.length = some a := by
  have atIndex : ∃ i, IsUsable packets i ∧ anchorAt packets i = some a := by
    unfold choose at chosen
    split at chosen
    · cases chosen
    · next newest last =>
      have found := find_take_reverse minimum last none (Nat.le_refl _)
      rw [List.take_length] at found
      generalize find minimum newest none packets.reverse = best at found chosen
      cases best with
      | none =>
        simp only at chosen
        split at chosen <;> cases chosen
      | some b =>
        obtain rfl : b = a := by
          simp only at chosen
          split at chosen
          · cases chosen
          · exact Except.ok.inj chosen
        generalize same : some b = best at found
        cases found with
        | @covering i _ usable => exact ⟨i, usable, rfl⟩
        | @oldest i _ usable => exact ⟨i, usable, rfl⟩
        | nothing => cases same
  obtain ⟨i, usable, here⟩ := atIndex
  refine ⟨(isUsable_iff_of_anchorAt here).mpr usable, ?_⟩
  obtain ⟨p, stored, rfl⟩ := Option.map_eq_some_iff.mp here
  have inside := (List.getElem?_eq_some_iff.mp stored).1
  rw [List.length_reverse, List.length_take, Nat.min_eq_left (Nat.le_of_lt inside)]
  exact here

theorem drop_start_of_anchorAt {packets : List Packet} {i : Nat} {a : Anchor}
    (here : anchorAt packets i = some a) :
    packets.drop a.start = a.lead.reverse ++ a.packet :: packets.drop (i + 1) := by
  rw [start_of_anchorAt here, lead_of_anchorAt here, List.reverse_reverse]
  have start := leadStart_le packets i
  obtain ⟨p, stored, rfl⟩ := Option.map_eq_some_iff.mp here
  obtain ⟨inside, rfl⟩ := List.getElem?_eq_some_iff.mp stored
  calc packets.drop (leadStart packets i)
      = (packets.take i ++ packets.drop i).drop (leadStart packets i) := by
        rw [List.take_append_drop]
    _ = (packets.take i).drop (leadStart packets i) ++ packets.drop i := by
        rw [List.drop_append_of_le_length]
        rw [List.length_take]
        omega
    _ = _ := by rw [List.drop_eq_getElem_cons inside]

theorem isAnchoredAt_of_extract {ring later : RingBuffer} {method : ExtractMethod}
    {minimum : Duration} {mode : ExtractMode} {window : PacketBuffer} {codec : Codec}
    (oneCodec : ∀ p ∈ ring.packets, p.codec = codec)
    (taken : ring.extract method minimum mode = (.ok window, later)) :
    ∃ a, Anchor.choose ring.packets minimum mode = .ok a ∧
      anchorAt ring.packets a.older.length = some a ∧
      IsAnchoredAt window codec a (ring.packets.drop (a.older.length + 1)) := by
  obtain ⟨a, chosen, start⟩ := RingBuffer.extract_eq_ok taken
  obtain ⟨usable, here⟩ := Anchor.of_choose chosen
  refine ⟨a, chosen, here, start.trans (drop_start_of_anchorAt here), usable, fun p held => ?_⟩
  exact oneCodec p (List.mem_of_mem_drop (start ▸ held))

namespace IsAnchoredAt

variable {window : PacketBuffer} {codec : Codec} {a : Anchor} {later : List Packet}

theorem hasKeyframe (h : IsAnchoredAt window codec a later) : a.packet.hasKeyframe = true := by
  have usable := h.usable
  rw [Anchor.isUsable, Bool.and_eq_true] at usable
  exact usable.1

theorem codec_anchor (h : IsAnchoredAt window codec a later) : a.packet.codec = codec :=
  h.oneCodec _ (by simp [h.packets])

/-- The codec of a window is that of its anchor, also if other packets lead to it. -/
theorem codec_eq (h : IsAnchoredAt window codec a later) : window.codec = codec := by
  rcases first : window.packets with _ | ⟨p, rest⟩
  · simp [h.packets] at first
  · rw [PacketBuffer.codec, first]
    exact h.oneCodec p (first ▸ List.mem_cons_self)

theorem firstKeyframe (h : IsAnchoredAt window codec a later) :
    window.firstKeyframe? = some a.lead.length := by
  -- the packets that lead to the anchor show no picture, let alone a keyframe
  have none : a.lead.reverse.findIdx? (·.hasRole .keyframe) = none := by
    rw [List.findIdx?_eq_none_iff]
    intro p held
    have noPicture := List.all_eq_true.mp List.all_takeWhile p (List.mem_reverse.mp held)
    simp only [Packet.hasPicture, Bool.not_or, Bool.and_eq_true, Bool.not_eq_true'] at noPicture
    exact noPicture.1
  have found : (a.packet :: later).findIdx? (·.hasRole .keyframe) = some 0 := by
    rw [List.findIdx?_cons]
    exact if_pos h.hasKeyframe
  rw [PacketBuffer.firstKeyframe?, PacketBuffer.firstWithRole?, h.packets, List.findIdx?_append,
    none, found]
  simp

theorem head_eq (h : IsAnchoredAt window codec a later) :
    window.packets.take (a.lead.length + 1) = a.lead.reverse ++ [a.packet] := by
  have lead : a.lead.reverse.take (a.lead.length + 1) = a.lead.reverse :=
    List.take_of_length_le (by simp)
  rw [h.packets, List.take_append, lead, List.length_reverse, Nat.add_sub_cancel_left]
  rfl

theorem exists_set (h : IsAnchoredAt window codec a later) {type : UInt8}
    (needed : type ∈ codec.parameterSetTypes) :
    ∃ p ∈ a.packet :: a.lead, (p.firstOfType? type).isSome := by
  have usable := h.usable
  simp only [Anchor.isUsable, Anchor.hasParameterSets, Bool.and_eq_true, List.all_eq_true,
    List.any_eq_true, h.codec_anchor] at usable
  obtain ⟨p, held, has⟩ := usable.2 type needed
  refine ⟨p, held, ?_⟩
  rw [Packet.firstOfType?, List.find?_isSome]
  rwa [Packet.hasType, List.any_eq_true] at has

theorem latestOfType?_isSome (h : IsAnchoredAt window codec a later) {type : UInt8}
    (needed : type ∈ codec.parameterSetTypes) :
    (PacketBuffer.latestOfType? (window.packets.take (a.lead.length + 1)) type).isSome := by
  obtain ⟨p, held, has⟩ := h.exists_set needed
  rw [PacketBuffer.latestOfType?, h.head_eq, List.reverse_append, List.reverse_reverse,
    List.findSome?_isSome_iff]
  exact ⟨p, held, has⟩

theorem firstOfType?_isSome (h : IsAnchoredAt window codec a later) {type : UInt8}
    (needed : type ∈ codec.parameterSetTypes) : (window.firstOfType? type).isSome := by
  obtain ⟨p, held, has⟩ := h.exists_set needed
  rw [PacketBuffer.firstOfType?, List.findSome?_isSome_iff]
  refine ⟨p, ?_, has⟩
  rw [h.packets]
  rcases List.mem_cons.mp held with rfl | inLead
  · simp
  · exact List.mem_append_left _ (List.mem_reverse.mpr inLead)

/-- The codec of a packet with a keyframe is known, and it has a sequence parameter set. -/
theorem exists_spsType (h : IsAnchoredAt window codec a later) :
    ∃ type, codec.spsType? = some type ∧ type ∈ codec.parameterSetTypes := by
  cases same : codec with
  | h264 => exact ⟨H264.sps, rfl, List.mem_cons_self⟩
  | h265 => exact ⟨H265.sps, rfl, List.mem_cons_of_mem _ List.mem_cons_self⟩
  | unknown =>
    -- no NAL unit of an unknown codec counts as a keyframe
    have keyframe := h.hasKeyframe
    rw [Packet.hasKeyframe, Packet.hasRole, h.codec_anchor, same, List.any_eq_true] at keyframe
    obtain ⟨unit, _, role⟩ := keyframe
    rw [NalUnit.role] at role
    split at role <;> simp [Codec.role] at role

end IsAnchoredAt

/-! ## Reading the picture size -/

/-- The failure of reading a sequence parameter set that one of the packets carries. -/
def IsSpsFault [H264.SizeReader] (window : PacketBuffer) (error : PacketError) : Prop :=
  ∃ p ∈ window.packets, ∃ sps ∈ p.units, p.codec.spsType? = some (sps.type p.codec) ∧
    ∃ cause, p.codec.pictureSize sps.toRaw.payload = .error cause ∧ error = .bitstream cause

theorem isSpsFault_of_found [H264.SizeReader] {window : PacketBuffer} {codec : Codec} {type : UInt8}
    {sps : NalUnit}
    {cause : BitstreamError} (oneCodec : ∀ p ∈ window.packets, p.codec = codec)
    (isSps : codec.spsType? = some type)
    (found : ∃ p ∈ window.packets, p.firstOfType? type = some sps)
    (refused : codec.pictureSize sps.toRaw.payload = .error cause) :
    IsSpsFault window (.bitstream cause) := by
  obtain ⟨p, held, first⟩ := found
  have same := oneCodec p held
  have unit : sps.type p.codec = type := by simpa using List.find?_some first
  refine ⟨p, held, sps, List.mem_of_find?_eq_some first, ?_, cause, ?_, rfl⟩
  · rw [unit, same, isSps]
  · rw [same, refused]

namespace IsAnchoredAt

variable {window : PacketBuffer} {codec : Codec} {a : Anchor} {later : List Packet}

theorem isSpsFault_of_pictureSize [H264.SizeReader] (h : IsAnchoredAt window codec a later)
    {error : PacketError}
    (failed : window.pictureSize = .error error) : IsSpsFault window error := by
  obtain ⟨type, isSps, needed⟩ := h.exists_spsType
  obtain ⟨sps, found⟩ := Option.isSome_iff_exists.mp (h.firstOfType?_isSome needed)
  simp only [PacketBuffer.pictureSize, h.codec_eq, isSps, found] at failed
  cases refused : codec.pictureSize sps.toRaw.payload with
  | ok size =>
    rw [refused] at failed
    cases failed
  | error cause =>
    rw [refused] at failed
    cases failed
    exact isSpsFault_of_found h.oneCodec isSps (List.exists_of_findSome?_eq_some found) refused

end IsAnchoredAt

/-! ## Where an export starts -/

namespace IsAnchoredAt

variable {window : PacketBuffer} {codec : Codec} {a : Anchor} {later : List Packet}

/-- All that an export needs comes with the anchor, so only its sequence parameter set can be at
fault. -/
theorem isSpsFault_of_isUnready [H264.SizeReader] (h : IsAnchoredAt window codec a later)
    {error : PacketError}
    (unready : window.IsUnready error) : IsSpsFault window error := by
  cases unready with
  | empty unknown =>
    obtain ⟨type, isSps, _⟩ := h.exists_spsType
    rw [← h.codec_eq, unknown] at isSps
    cases isSps
  | noKeyframe _ none =>
    have anchor := none a.packet (by simp [h.packets])
    rw [h.hasKeyframe] at anchor
    cases anchor
  | @set first p before after type _ keyframe parts _ fault =>
    obtain rfl : first = a.lead.length := Option.some.inj
      ((PacketBuffer.firstKeyframe?_eq_some_iff.mpr ⟨p, keyframe⟩).symm.trans h.firstKeyframe)
    have needed : type ∈ codec.parameterSetTypes := by
      rw [← h.codec_eq, parts]
      exact List.mem_append_right before List.mem_cons_self
    cases fault with
    | missing none =>
      have some := h.latestOfType?_isSome needed
      rw [PacketBuffer.latestOfType?_eq_none_iff.mpr none] at some
      cases some
    | unreadable isSps inForce refused =>
      rw [h.codec_eq] at isSps refused
      obtain ⟨front, p, back, whole, first, _⟩ := inForce
      refine isSpsFault_of_found h.oneCodec isSps ⟨p, ?_, ?_⟩ refused
      · refine List.mem_of_mem_take (i := a.lead.length + 1) ?_
        rw [whole]
        exact List.mem_append_right front List.mem_cons_self
      · exact Packet.firstOfType?_eq_some_iff.mpr first

/-- An export starts at the anchor, unless its sequence parameter set cannot be read. -/
theorem exportStart_cases [H264.SizeReader] (h : IsAnchoredAt window codec a later) :
    (∃ parameters : StreamParameters, parameters.codec = codec ∧
      window.exportStart = .ok (a.lead.length, parameters)) ∨
    ∃ error, IsSpsFault window error ∧ window.exportStart = .error error := by
  rcases window.exportStart_outcome with
    ⟨error, unready, failed⟩ | ⟨first, parameters, start, keyframe, same, -, -⟩
  · exact .inr ⟨error, h.isSpsFault_of_isUnready unready, failed⟩
  · obtain rfl : first = a.lead.length := Option.some.inj
      ((PacketBuffer.firstKeyframe?_eq_some_iff.mpr keyframe).symm.trans h.firstKeyframe)
    exact .inl ⟨parameters, same.trans h.codec_eq, start⟩

end IsAnchoredAt

/-! ## How an export fails -/

/-- The failure of one of the writer's calls, which leaves the state `s'` behind. -/
def IsWriterFault {σ : Type} (writer : ContainerWriter σ) (error : PacketError) (s' : σ) : Prop :=
  ∃ call s fault, writer.perform call s = (.error fault, s') ∧ error = fault.inExport

namespace ContainerWriter

variable {σ : Type} {writer : ContainerWriter σ}

theorem isWriterFault_of_performAll {calls : List WriterCall} {s s' : σ} {fault : WriterError}
    (failed : writer.performAll calls s = (.error fault, s')) :
    IsWriterFault writer fault.inExport s' := by
  obtain ⟨result, made, s₁, makes, plain, -⟩ := writer.makes_logging calls [] s
  rw [failed] at plain
  cases plain
  cases makes with
  | upTo _ _ fails => exact ⟨_, _, fault, fails, rfl⟩

/-- Calls that all succeeded stand in the log, newest first. -/
theorem log_performAll {calls log log' : List WriterCall} {s s' : σ}
    (done : writer.logging.performAll calls (log, s) = (.ok (), (log', s'))) :
    log' = calls.reverse ++ log := by
  obtain ⟨result, made, s₁, makes, -, logged⟩ := writer.makes_logging calls log s
  rw [done] at logged
  cases logged
  cases makes with
  | all => rfl

end ContainerWriter

/-! ## Windows of history -/

/-- An export of a window makes the calls of its packets from the anchor on, unless it does not
start because a sequence parameter set cannot be read. -/
theorem IsAnchoredAt.exportTo_cases [H264.SizeReader] {window : PacketBuffer} {codec : Codec}
    {a : Anchor}
    {later : List Packet} (h : IsAnchoredAt window codec a later) {units : List AccessUnit}
    (framed : (a.packet :: later).mapM (PacketBuffer.accessUnit a.packet.pts) = .ok units) :
    (∃ parameters, ∀ (σ : Type) (writer : ContainerWriter σ), window.exportTo writer =
      (writer.performAll (exportCalls parameters units)).rename WriterError.inExport) ∨
    ∃ error, IsSpsFault window error ∧
      ∀ (σ : Type) (writer : ContainerWriter σ) s,
        window.exportTo writer s = (.error error, s) := by
  have fromAnchor : window.packets.drop a.lead.length = a.packet :: later := by
    rw [h.packets, ← List.length_reverse, List.drop_left]
  rcases h.exportStart_cases with ⟨parameters, _, start⟩ | ⟨error, fault, refused⟩
  · refine .inl ⟨parameters, fun σ writer => ?_⟩
    rw [← fromAnchor] at framed
    exact PacketBuffer.exportTo_of_start start (by rw [fromAnchor]; rfl) framed writer
  · refine .inr ⟨error, fault, fun σ writer s => ?_⟩
    rw [PacketBuffer.exportTo, refused]
    rfl

/-- History that was taken out of a ring of one codec can be exported: its picture size can only
fail to be read, and an export can only fail like that, before the writer is called at all, or in
one of the writer's calls. The first keyframe of the history is the anchor that was chosen, and a
writer that accepts an export got just the packets from the anchor on, each as the access unit of
its NAL units. -/
theorem window_exportable [H264.SizeReader] {ring later : RingBuffer} {method : ExtractMethod}
    {minimum : Duration} {mode : ExtractMode} {window : PacketBuffer} {codec : Codec}
    (oneCodec : ∀ p ∈ ring.packets, p.codec = codec)
    (taken : ring.extract method minimum mode = (.ok window, later)) :
    (∀ error, window.pictureSize = .error error → IsSpsFault window error) ∧
    (∀ (σ : Type) (writer : ContainerWriter σ) s error s',
      window.exportTo writer s = (.error error, s') →
        IsSpsFault window error ∧ s' = s ∨ IsWriterFault writer error s') ∧
    ∃ a, Anchor.choose ring.packets minimum mode = .ok a ∧
      ring.packets[a.older.length]? = some a.packet ∧
      (∃ first, window.firstKeyframe? = some first ∧
        window.packets.drop first = ring.packets.drop a.older.length) ∧
      ∃ units, (ring.packets.drop a.older.length).mapM
          (PacketBuffer.accessUnit a.packet.pts) = .ok units ∧
        ∀ (σ : Type) (writer : ContainerWriter σ) s log s',
          window.exportTo writer.logging ([], s) = (.ok (), (log, s')) →
            ∃ parameters, log.reverse = exportCalls parameters units := by
  obtain ⟨a, chosen, here, anchored⟩ := isAnchoredAt_of_extract oneCodec taken
  obtain ⟨p, stored, same⟩ := Option.map_eq_some_iff.mp here
  obtain rfl : p = a.packet := congrArg Anchor.packet same
  have fromAnchor : ring.packets.drop a.older.length =
      a.packet :: ring.packets.drop (a.older.length + 1) := by
    obtain ⟨inside, this⟩ := List.getElem?_eq_some_iff.mp stored
    rw [List.drop_eq_getElem_cons inside, this]
  have first : window.packets.drop a.lead.length = ring.packets.drop a.older.length := by
    rw [fromAnchor, anchored.packets, ← List.length_reverse, List.drop_left]
  obtain ⟨units, framed⟩ := PacketBuffer.exists_accessUnits a.packet.pts
    (ring.packets.drop a.older.length)
  have exports := anchored.exportTo_cases (fromAnchor ▸ framed)
  refine ⟨fun _ => anchored.isSpsFault_of_pictureSize, fun σ writer s error s' failed => ?_,
    a, chosen, stored, ⟨a.lead.length, anchored.firstKeyframe, first⟩, units, framed,
    fun σ writer s log s' made => ?_⟩
  · rcases exports with ⟨parameters, calls⟩ | ⟨refusal, fault, refused⟩
    · rw [calls, Effect.rename_apply] at failed
      rcases all : writer.performAll (exportCalls parameters units) s with ⟨fault | _, t⟩
      · rw [all] at failed
        cases failed
        exact .inr (ContainerWriter.isWriterFault_of_performAll all)
      · rw [all] at failed
        cases failed
    · rw [refused] at failed
      cases failed
      exact .inl ⟨fault, rfl⟩
  · rcases exports with ⟨parameters, calls⟩ | ⟨refusal, _, refused⟩
    · rw [calls, Effect.rename_apply] at made
      rcases all : writer.logging.performAll (exportCalls parameters units) ([], s) with
        ⟨fault | _, log', t⟩
      · rw [all] at made
        cases made
      · rw [all] at made
        cases made
        refine ⟨parameters, ?_⟩
        rw [ContainerWriter.log_performAll all, List.append_nil, List.reverse_reverse]
    · rw [refused] at made
      cases made

/-- A picture that needs earlier ones, parameter sets on their own, a keyframe without any, and
one more picture. -/
def ledRing : RingBuffer :=
  let packet (units : List Bytes) : Packet := .ofTransport .h264 units .zero .epoch false
  let sps : Bytes := [0x67, 0x64, 0x00, 0x28, 0xAC, 0xDA, 0x01, 0xE0, 0x08, 0x9F, 0x95]
  [[[0x41]], [sps, [0x68]], [[0x65]], [[0x41]]].foldl
    (fun ring units => (ring.keep (packet units)).2) (.empty 64)

def acceptingWriter : ContainerWriter Unit where
  start _ := return
  write _ := return
  finish := return

theorem window_exportable_ledRing :
    (∀ p ∈ ledRing.packets, p.codec = .h264) ∧
    ledRing.extract .shared .zero .strict = (.ok ⟨ledRing.packets.drop 1⟩, ledRing) ∧
    (PacketBuffer.mk (ledRing.packets.drop 1)).pictureSize = .ok ⟨1920, 1080⟩ ∧
    ∃ log parameters units,
      (PacketBuffer.mk (ledRing.packets.drop 1)).exportTo acceptingWriter.logging ([], ()) =
        (.ok (), (log, ())) ∧
      (ledRing.packets.drop 2).mapM (PacketBuffer.accessUnit .zero) = .ok units ∧
      log.reverse = exportCalls parameters units := by
  have oneCodec : ∀ p ∈ ledRing.packets, p.codec = .h264 := by decide
  have taken : ledRing.extract .shared .zero .strict =
      (.ok ⟨ledRing.packets.drop 1⟩, ledRing) := rfl
  have sized : (PacketBuffer.mk (ledRing.packets.drop 1)).pictureSize = .ok ⟨1920, 1080⟩ := rfl
  obtain ⟨log, made⟩ : ∃ log, (PacketBuffer.mk (ledRing.packets.drop 1)).exportTo
      acceptingWriter.logging ([], ()) = (.ok (), (log, ())) := ⟨_, rfl⟩
  obtain ⟨_, _, a, chosen, _, _, units, framed, calls⟩ := window_exportable oneCodec taken
  cases chosen
  obtain ⟨parameters, same⟩ := calls Unit acceptingWriter () log () made
  exact ⟨oneCodec, taken, sized, log, parameters, units, made, framed, same⟩

end Footage
