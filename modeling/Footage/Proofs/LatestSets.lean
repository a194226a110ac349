import Footage.Proofs.Emissions
import Footage.Proofs.ExportCalls

/-!
# The parameter sets that hold

An export hands the parameter sets of its start to the writer, and the writer notes those that it
comes across, also in access units that it leaves out. It keeps one set for each type and puts a
later one in its place. This file says that what it keeps are the latest sets, told of all sets that
were known at some time.

* `AreLatest`: what the latest sets are. `AreLatest.remember`: noting a set keeps to it.
* `exportStart_eq_ok`: what an export starts with.
* `Packet.IsRaw`: packets of raw NAL units. What the writer sees of them is told of their bodies,
  which it sees escaped (`payloads_accessUnitOf`).
-/

namespace Footage

open AnnexB

namespace TransportStream

variable {codec : Codec}

/-! ## The latest set of each type -/

/-- The latest of some payloads that is of the given type. -/
def latest? (codec : Codec) (known : List Bytes) (type : UInt8) : Option Bytes :=
  known.reverse.find? fun payload => typeOf? codec payload = some type

/-- One payload for each type, in order: the latest that is known. -/
def AreLatest (codec : Codec) (types : List UInt8) (known sets : List Bytes) : Prop :=
  List.Forall₂ (fun type set => latest? codec known type = some set) types sets

variable {types : List UInt8} {known sets : List Bytes} {set : Bytes} {type : UInt8}

theorem latest?_concat_self (known : List Bytes) (typed : typeOf? codec set = some type) :
    latest? codec (known ++ [set]) type = some set := by
  unfold latest?
  rw [List.reverse_append, List.reverse_singleton, List.singleton_append, List.find?_cons, typed]
  simp

theorem latest?_concat_of_ne (known : List Bytes) {other : UInt8}
    (typed : typeOf? codec set = some other) (apart : other ≠ type) :
    latest? codec (known ++ [set]) type = latest? codec known type := by
  unfold latest?
  rw [List.reverse_append, List.reverse_singleton, List.singleton_append, List.find?_cons, typed]
  simp [apart]

theorem typeOf?_of_latest? (latest : latest? codec known type = some set) :
    typeOf? codec set = some type := by
  simpa using List.find?_some latest

namespace AreLatest

/-- Payloads of other types do not matter. -/
theorem concat (h : AreLatest codec types known sets) (typed : typeOf? codec set = some type)
    (other : type ∉ types) : AreLatest codec types (known ++ [set]) sets := by
  induction h with
  | nil => exact .nil
  | cons latest _ ih =>
    rw [List.mem_cons, not_or] at other
    exact .cons ((latest?_concat_of_ne known typed other.1).trans latest) (ih other.2)

/-- A set of a type that had none goes behind all others. -/
theorem remember_fresh (h : AreLatest codec types known sets)
    (typed : typeOf? codec set = some type) (fresh : type ∉ types) :
    AreLatest codec (types ++ [type]) (known ++ [set]) (remember codec set sets) := by
  induction h with
  | nil => exact .cons (latest?_concat_self known typed) .nil
  | cons latest _ ih =>
    rw [List.mem_cons, not_or] at fresh
    rw [remember, typeOf?_of_latest? latest, typed,
      if_neg (fun same => fresh.1 (Option.some.inj same).symm)]
    exact .cons ((latest?_concat_of_ne known typed fresh.1).trans latest) (ih fresh.2)

/-- A set of a type that had one takes its place. -/
theorem remember (h : AreLatest codec types known sets) (once : types.Nodup)
    (typed : typeOf? codec set = some type) (among : type ∈ types) :
    AreLatest codec types (known ++ [set]) (remember codec set sets) := by
  induction h with
  | nil => cases among
  | @cons first earlier _ _ latest rest ih =>
    obtain ⟨single, others⟩ := List.nodup_cons.mp once
    rw [TransportStream.remember, typeOf?_of_latest? latest, typed]
    by_cases same : type = first
    · subst same
      rw [if_pos rfl]
      exact .cons (latest?_concat_self known typed) (concat rest typed single)
    · rw [if_neg (fun alike => same (Option.some.inj alike).symm)]
      exact .cons ((latest?_concat_of_ne known typed same).trans latest)
        (ih others ((List.mem_cons.mp among).resolve_left same))

theorem foldl_remember (h : AreLatest codec types known sets) (once : types.Nodup)
    {later : List Bytes}
    (typed : ∀ set ∈ later, ∃ type ∈ types, typeOf? codec set = some type) :
    AreLatest codec types (known ++ later)
      (later.foldl (fun sets set => TransportStream.remember codec set sets) sets) := by
  induction later generalizing known sets with
  | nil => rwa [List.append_nil]
  | cons set later ih =>
    obtain ⟨type, among, one⟩ := typed set List.mem_cons_self
    have next := ih (h.remember once one among) fun set behind =>
      typed set (List.mem_cons_of_mem _ behind)
    rwa [List.append_assoc, List.singleton_append] at next

/-- Sets of different types are kept as they come. -/
theorem foldl_fresh (h : AreLatest codec types known sets) {types' : List UInt8}
    {later : List Bytes} (once : (types ++ types').Nodup)
    (typed : List.Forall₂ (fun type set => typeOf? codec set = some type) types' later) :
    AreLatest codec (types ++ types') (known ++ later)
      (later.foldl (fun sets set => TransportStream.remember codec set sets) sets) := by
  induction typed generalizing types known sets with
  | nil => rwa [List.append_nil, List.append_nil]
  | @cons type set types' later one _ ih =>
    have fresh : type ∉ types := fun earlier =>
      (List.nodup_append.mp once).2.2 type earlier type List.mem_cons_self rfl
    rw [List.append_cons] at once
    have next := ih (h.remember_fresh one fresh) once
    rwa [List.append_assoc, List.singleton_append, List.append_assoc, List.singleton_append]
      at next

theorem ne_nil (h : AreLatest codec types known sets) : ∀ set ∈ sets, set ≠ [] := by
  induction h with
  | nil => exact nofun
  | cons latest _ ih =>
    refine List.forall_mem_cons.mpr ⟨?_, ih⟩
    rintro rfl
    cases typeOf?_of_latest? latest

end AreLatest

theorem nodup_parameterSetTypes (codec : Codec) : codec.parameterSetTypes.Nodup := by
  cases codec <;> decide

/-! ## What the writer sees of raw units -/

theorem role_eq_parameterSet_iff {type : UInt8} :
    codec.role type = .parameterSet ↔ type ∈ codec.parameterSetTypes := by
  cases codec with
  | unknown => simp [Codec.role, Codec.parameterSetTypes]
  | h264 =>
    simp only [Codec.role, Codec.parameterSetTypes, List.mem_cons, List.not_mem_nil, or_false]
    split_ifs with set <;> simp [set]
  | h265 =>
    simp only [Codec.role, Codec.parameterSetTypes, List.mem_cons, List.not_mem_nil, or_false]
    split_ifs with set <;> simp [set]

/-- A payload is a parameter set just if it is of one of the types that a decoder needs. -/
theorem roleOf_eq_parameterSet_iff {payload : Bytes} :
    roleOf codec payload = .parameterSet ↔
      ∃ type ∈ codec.parameterSetTypes, typeOf? codec payload = some type := by
  unfold roleOf
  cases typeOf? codec payload with
  | none => simp
  | some type => simpa using role_eq_parameterSet_iff

/-- A delimiter is for nothing in particular. -/
theorem roleOf_delimiter {payload : Bytes} (same : typeOf? codec payload = codec.delimiterType?) :
    roleOf codec payload = .other := by
  unfold roleOf
  rw [same]
  cases codec <;> decide

theorem roleOf_body (unit : NalUnit) : roleOf codec unit.body = unit.role codec := by
  unfold roleOf typeOf? NalUnit.role
  cases unit.body <;> rfl

theorem typeOf?_escape (raw : Bytes) : typeOf? codec (escape raw) = typeOf? codec raw := by
  unfold typeOf?
  rw [head?_escape]

theorem roleOf_escape (raw : Bytes) : roleOf codec (escape raw) = roleOf codec raw := by
  unfold roleOf
  rw [typeOf?_escape]

/-- Pictures are found among the payloads that are neither parameter sets nor delimiters. -/
theorem any_content (unit : AccessUnit) (pick : NalRole → Bool) (noOther : pick .other = false)
    (noSet : pick .parameterSet = false) :
    ((content codec unit).any fun payload => pick (roleOf codec payload)) =
      unit.units.any fun nal => pick (nal.role codec) := by
  unfold content payloads
  rw [List.any_filter, List.any_filter, List.any_map]
  congr 1
  funext nal
  rw [Function.comp_apply, ← roleOf_body]
  cases picked : pick (roleOf codec nal.body) with
  | false => simp
  | true =>
    have some : nal.body ≠ [] := by
      intro empty
      rw [empty] at picked
      exact absurd (picked.symm.trans noOther) (by decide)
    have differ : typeOf? codec nal.body ≠ codec.delimiterType? := by
      intro same
      rw [roleOf_delimiter same, noOther] at picked
      cases picked
    have noParameters : roleOf codec nal.body ≠ .parameterSet := by
      intro same
      rw [same, noSet] at picked
      cases picked
    simp [some, differ, noParameters]

/-- Sets are noted alike whether they are escaped or not. -/
theorem remember_map_escape (set : Bytes) (sets : List Bytes) :
    remember codec (escape set) (sets.map escape) = (remember codec set sets).map escape := by
  induction sets with
  | nil => rfl
  | cons earlier rest ih =>
    rw [List.map_cons, remember, remember, typeOf?_escape, typeOf?_escape, ih]
    split <;> rfl

theorem foldl_remember_map_escape (later sets : List Bytes) :
    (later.map escape).foldl (fun sets set => remember codec set sets) (sets.map escape) =
      (later.foldl (fun sets set => remember codec set sets) sets).map escape := by
  induction later generalizing sets with
  | nil => rfl
  | cons set later ih =>
    rw [List.map_cons, List.foldl_cons, List.foldl_cons, remember_map_escape, ih]

end TransportStream

open TransportStream

namespace Packet

def IsRaw (p : Packet) : Prop := ∀ unit ∈ p.units, unit.isAnnexB = false

/-- The payloads of the NAL units, without start codes and without empty ones. -/
def bodies (p : Packet) : List Bytes := nonempty (p.units.map (·.body))

/-- The parameter sets among them. -/
def setBodies (p : Packet) : List Bytes :=
  p.bodies.filter fun body => roleOf p.codec body = .parameterSet

/-- Those that are neither parameter sets nor delimiters. -/
def otherBodies (p : Packet) : List Bytes :=
  p.bodies.filter fun body =>
    roleOf p.codec body ≠ .parameterSet && typeOf? p.codec body ≠ p.codec.delimiterType?

variable {p : Packet} (base : Duration)

theorem payloads_accessUnitOf (raw : p.IsRaw) :
    payloads (PacketBuffer.accessUnitOf base p) = p.bodies.map escape := by
  have escaped : (p.units.map (·.framedUnit)).map (·.body) = (p.units.map (·.body)).map escape := by
    rw [List.map_map, List.map_map]
    refine List.map_congr_left fun unit among => ?_
    rw [Function.comp_apply, NalUnit.body_framedUnit, NalUnit.escapedBody, raw unit among]
    rfl
  rw [bodies, ← nonempty_map_escape, ← escaped]
  rfl

theorem setsIn_accessUnitOf (raw : p.IsRaw) :
    setsIn p.codec (PacketBuffer.accessUnitOf base p) = p.setBodies.map escape := by
  rw [setsIn, payloads_accessUnitOf base raw, List.filter_map, setBodies]
  congr 2
  funext body
  rw [Function.comp_apply, roleOf_escape]

theorem content_accessUnitOf (raw : p.IsRaw) :
    content p.codec (PacketBuffer.accessUnitOf base p) = p.otherBodies.map escape := by
  rw [content, payloads_accessUnitOf base raw, List.filter_map, otherBodies]
  congr 2
  funext body
  rw [Function.comp_apply, roleOf_escape, typeOf?_escape]

/-- Pictures are found by the headers alone, so framing a unit does not matter. -/
theorem any_content_accessUnitOf (pick : NalRole → Bool) (noOther : pick .other = false)
    (noSet : pick .parameterSet = false) :
    ((content p.codec (PacketBuffer.accessUnitOf base p)).any fun payload =>
        pick (roleOf p.codec payload)) =
      p.units.any fun unit => pick (unit.role p.codec) := by
  rw [any_content _ pick noOther noSet, PacketBuffer.accessUnitOf, List.any_map]
  congr 1
  funext unit
  rw [Function.comp_apply, NalUnit.role_congr p.codec unit.head?_body_framedUnit]

theorem showsKeyframe_accessUnitOf :
    showsKeyframe p.codec (PacketBuffer.accessUnitOf base p) = p.hasKeyframe :=
  any_content_accessUnitOf base (fun role => role = .keyframe) rfl rfl

theorem showsPicture_accessUnitOf :
    showsPicture p.codec (PacketBuffer.accessUnitOf base p) = p.hasPicture := by
  have either : p.hasPicture = p.units.any fun unit => (unit.role p.codec).isPicture := by
    rw [hasPicture, hasRole, hasRole, Bool.eq_iff_iff]
    simp only [Bool.or_eq_true, List.any_eq_true, ← exists_or, ← and_or_left]
    refine exists_congr fun unit => and_congr_right fun _ => ?_
    cases unit.role p.codec <;> decide
  rw [either]
  exact any_content_accessUnitOf base NalRole.isPicture rfl rfl

end Packet

/-! ## What an export starts with -/

namespace PacketBuffer

variable {codec : Codec} {head : List Packet}

/-- A NAL unit of a type that a decoder needs is not empty. -/
theorem typeOf?_body {unit : NalUnit} {type : UInt8} (needed : type ∈ codec.parameterSetTypes)
    (same : unit.type codec = type) : typeOf? codec unit.body = some type := by
  unfold NalUnit.type at same
  unfold typeOf?
  cases body : unit.body with
  | nil =>
    rw [body] at same
    subst same
    cases codec <;> exact absurd needed (by decide)
  | cons header rest =>
    rw [body] at same
    exact congrArg some same

theorem typeOf?_of_latestOfType? (oneCodec : ∀ p ∈ head, p.codec = codec) {type : UInt8}
    (needed : type ∈ codec.parameterSetTypes) {unit : NalUnit}
    (found : latestOfType? head type = some unit) :
    typeOf? codec unit.framedUnit.body = some type ∧ ∃ p ∈ head, unit ∈ p.units := by
  obtain ⟨p, held, first⟩ := List.exists_of_findSome?_eq_some found
  rw [List.mem_reverse] at held
  have same : unit.type codec = type := by
    have := List.find?_some first
    rw [oneCodec p held] at this
    exact of_decide_eq_true this
  refine ⟨?_, p, held, List.mem_of_find?_eq_some first⟩
  rw [← typeOf?_body needed same]
  unfold typeOf?
  rw [NalUnit.head?_body_framedUnit]

/-- An export starts at the first keyframe, with a parameter set for each type. -/
theorem exportStart_eq_ok [H264.SizeReader] {buffer : PacketBuffer} {first : Nat}
    {parameters : StreamParameters}
    (oneCodec : ∀ p ∈ buffer.packets, p.codec = buffer.codec)
    (start : buffer.exportStart = .ok (first, parameters)) :
    buffer.firstKeyframe? = some first ∧ parameters.codec = buffer.codec ∧
      List.Forall₂ (fun type set => typeOf? buffer.codec set = some type ∧
          ∃ p ∈ buffer.packets, ∃ unit ∈ p.units, set = unit.framedUnit.body)
        buffer.codec.parameterSetTypes parameters.parameterSets := by
  rcases buffer.exportStart_outcome with
    ⟨error, -, failed⟩ | ⟨index, found, start', keyframe, codec, sets, -⟩
  · rw [failed] at start
    cases start
  · cases start'.symm.trans start
    have inHead : ∀ p ∈ buffer.packets.take (first + 1), p.codec = buffer.codec :=
      fun p held => oneCodec p (List.mem_of_mem_take held)
    refine ⟨firstKeyframe?_eq_some_iff.mpr keyframe, codec, ?_⟩
    refine ((List.forall₂_and_left _ _).mpr ⟨fun _ => id, sets⟩).imp ?_
    rintro type set ⟨needed, unit, inForce, bare⟩
    obtain ⟨typed, p, held, inside⟩ :=
      typeOf?_of_latestOfType? inHead needed (latestOfType?_eq_some_iff.mpr inForce)
    rw [bare.eq_body]
    exact ⟨typed, p, List.mem_of_mem_take held, unit, inside, rfl⟩

/-- Sets of raw packets were escaped for the writer. -/
theorem rawSets_of_typed {packets : List Packet} (raw : ∀ p ∈ packets, p.IsRaw)
    {types : List UInt8} {sets : List Bytes}
    (typed : List.Forall₂ (fun type set => typeOf? codec set = some type ∧
      ∃ p ∈ packets, ∃ unit ∈ p.units, set = unit.framedUnit.body) types sets) :
    sets = (sets.map unescape).map escape ∧
      List.Forall₂ (fun type body => typeOf? codec body = some type) types
        (sets.map unescape) := by
  induction typed with
  | nil => exact ⟨rfl, .nil⟩
  | cons one _ ih =>
    obtain ⟨same, p, held, unit, inside, rfl⟩ := one
    have escaped : unit.framedUnit.body = escape unit.body := by
      rw [NalUnit.body_framedUnit, NalUnit.escapedBody, raw p held unit inside]
      rfl
    rw [escaped, typeOf?_escape] at same
    rw [escaped, List.map_cons, List.map_cons, unescape_escape, ← ih.1]
    exact ⟨rfl, .cons same ih.2⟩

end PacketBuffer

end Footage
