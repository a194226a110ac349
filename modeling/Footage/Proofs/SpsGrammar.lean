import Footage.ParameterSet.H265
import Footage.Proofs.BitGrammar
import Footage.Proofs.Effects

/-!
# The grammar of H.265 sequence parameter sets

The picture size stands in the front of a set, behind fields whose lengths depend on what came
before. Here that front is told as a grammar, with the picture size in exact arithmetic, and the
reader is shown to accept just what the grammar allows.

* `IsGolomb`, `IsProfileTierLevel`, `IsWindow`, `Sps.IsFront`: the grammar. `Sps.Shows`: the size.
* `Sps.reads_read`: the reader takes the fronts, and fails only as parameter sets fail.
* `Sps.dimensions_eq_ok_iff`: cropping in words of 32 bits is cropping in exact arithmetic.
* `pictureSize_grammar`: which octet strings have which picture size.
-/

namespace Footage.H265

open BitReader

/-! ## The grammar -/

/-- An Exp-Golomb code: zeros, at most 31 of them, a one, and as many bits as there were zeros. -/
def IsGolomb (value : Nat) (code : List Bool) : Prop :=
  ∃ suffix : List Bool, suffix.length ≤ 31 ∧
    code = List.replicate suffix.length false ++ true :: suffix ∧
    value = wordLimit suffix.length - 1 + natOfBits suffix

/-- For each sub-layer whether its profile and whether its level is told. -/
def presenceFlags (present : List (Bool × Bool)) : List Bool :=
  present.flatMap fun (profile, level) => [profile, level]

def subLayerBits (present : Bool × Bool) : Nat :=
  (if present.1 then 88 else 0) + (if present.2 then 8 else 0)

/-- Profile and level: of the stream, then which of the sub-layers have their own, then these. -/
def IsProfileTierLevel (subLayers : Nat) (code : List Bool) : Prop :=
  ∃ general reserved blocks : List Bool, ∃ present : List (Bool × Bool),
    code = general ++ presenceFlags present ++ reserved ++ blocks ∧
    general.length = 96 ∧ present.length = subLayers ∧
    reserved.length = (if 0 < subLayers then 2 * (8 - subLayers) else 0) ∧
    blocks.length = total (present.map subLayerBits)

namespace Sps

/-- The conformance window: a flag, and if it is set the four offsets. -/
def IsWindow (sps : Sps) (code : List Bool) : Prop :=
  (code = [false] ∧
    sps.cropLeft = 0 ∧ sps.cropRight = 0 ∧ sps.cropTop = 0 ∧ sps.cropBottom = 0) ∨
  ∃ left right top bottom, code = true :: (left ++ right ++ top ++ bottom) ∧
    IsGolomb sps.cropLeft left ∧ IsGolomb sps.cropRight right ∧ IsGolomb sps.cropTop top ∧
    IsGolomb sps.cropBottom bottom

/-- The bits that a set begins with, up to its conformance window. -/
def IsFront (sps : Sps) (code : List Bool) : Prop :=
  ∃ header subLayers nesting profile setId chroma planes width height window : List Bool,
    ∃ id : Nat,
    code = header ++ subLayers ++ nesting ++ profile ++ setId ++ chroma ++ planes ++ width ++
      height ++ window ∧
    header.length = 16 + 4 ∧ subLayers.length = 3 ∧ natOfBits subLayers ≤ 6 ∧
    nesting.length = 1 ∧ IsProfileTierLevel (natOfBits subLayers) profile ∧ IsGolomb id setId ∧
    IsGolomb sps.chromaFormat chroma ∧ sps.chromaFormat ≤ 3 ∧
    (if sps.chromaFormat = 3 then planes = [sps.separatePlanes]
      else planes = [] ∧ sps.separatePlanes = false) ∧
    IsGolomb sps.width width ∧ IsGolomb sps.height height ∧ sps.IsWindow window

/-- Luma samples for each chroma sample, across and down, by the chroma array type: without chroma,
4:2:0, 4:2:2, 4:4:4. Planes that are coded apart are of the type without chroma. -/
def samplesPerChroma (sps : Sps) : Nat × Nat :=
  match if sps.separatePlanes then 0 else sps.chromaFormat with
  | 0 => (1, 1)
  | 1 => (2, 2)
  | 2 => (2, 1)
  | _ => (1, 1)

/-- The picture size in exact arithmetic: the window leaves something in both directions. -/
def Shows (sps : Sps) (size : Dimensions) : Prop :=
  (size.width : Int) = sps.width - sps.samplesPerChroma.1 * (sps.cropLeft + sps.cropRight) ∧
    0 < size.width ∧
  (size.height : Int) = sps.height - sps.samplesPerChroma.2 * (sps.cropTop + sps.cropBottom) ∧
    0 < size.height

end Sps

/-- A set ends too early, or says what is not allowed. -/
def IsRefusal (error : BitstreamError) : Prop :=
  (∃ field, error = .truncated field) ∨ ∃ detail, error = .malformedParameterSet detail

theorem isRefusal_truncated (field : String) : IsRefusal (.truncated field) := .inl ⟨field, rfl⟩

theorem isRefusal_fault (fault : SpsFault) : IsRefusal fault.error := .inr ⟨fault.message, rfl⟩

/-! ## Fields -/

/-- A value is below the largest number of 32 bits, and so is all that it is computed from. -/
theorem IsGolomb.fits {value : Nat} {code : List Bool} (golomb : IsGolomb value code) :
    FitsIn 32 (value + 1) := by
  obtain ⟨suffix, short, -, rfl⟩ := golomb
  have below := natOfBits_lt suffix
  have half : wordLimit suffix.length ≤ wordLimit 31 := Nat.pow_le_pow_right (by decide) short
  have double : wordLimit 32 = wordLimit 31 + wordLimit 31 := rfl
  unfold FitsIn
  omega

theorem reads_flag (field : String) : Reads (flag field) IsRefusal fun b code => code = [b] :=
  reads_bit (isRefusal_truncated field)

theorem reads_skip (field : String) (count : Nat) :
    Reads (skip field count) IsRefusal fun _ code => code.length = count :=
  BitReader.reads_skip (isRefusal_truncated field) count

/-- Bits are some zeros, and behind them nothing or a one. -/
theorem exists_zeros (input : List Bool) : ∃ count,
    input = List.replicate count false ∨
      ∃ rest, input = List.replicate count false ++ true :: rest := by
  induction input with
  | nil => exact ⟨0, .inl rfl⟩
  | cons b input ih =>
    cases b with
    | true => exact ⟨0, .inr ⟨input, rfl⟩⟩
    | false =>
      obtain ⟨count, rfl | ⟨rest, rfl⟩⟩ := ih
      · exact ⟨count + 1, .inl rfl⟩
      · exact ⟨count + 1, .inr ⟨rest, rfl⟩⟩

theorem golomb_zeros (field : String) (count : Nat) :
    golomb field (List.replicate count false) =
      .error (if 31 < count then (SpsFault.golombTooLong field).error else .truncated field) := by
  have zeros : (List.replicate count false).takeWhile (!·) = List.replicate count false := by simp
  have none : (List.replicate count false).drop count = [] := by simp
  simp only [golomb, zeros, List.length_replicate, none]
  split <;> rfl

theorem golomb_one (field : String) (count : Nat) (rest : List Bool) :
    golomb field (List.replicate count false ++ true :: rest) =
      if 31 < count then .error (SpsFault.golombTooLong field).error
      else (expGolomb count <$> BitReader.unsigned (.truncated field) count) rest := by
  have zeros : (List.replicate count false ++ true :: rest).takeWhile (!·) =
      List.replicate count false := by simp
  have behind : (List.replicate count false ++ true :: rest).drop count = true :: rest :=
    List.drop_left' List.length_replicate
  simp only [golomb, zeros, List.length_replicate, behind]

theorem reads_golomb (field : String) : Reads (golomb field) IsRefusal IsGolomb := by
  have suffix := fun count => (reads_unsigned (isRefusal_truncated field) count).map
    (expGolomb count)
  constructor
  · intro input value rest
    constructor
    · intro done
      obtain ⟨count, rfl | ⟨behind, rfl⟩⟩ := exists_zeros input
      · rw [golomb_zeros] at done
        cases done
      · rw [golomb_one] at done
        split at done
        next => cases done
        next short =>
          obtain ⟨code, ⟨_, ⟨rfl, rfl⟩, rfl⟩, rfl⟩ := ((suffix _).takes _ _ _).mp done
          exact ⟨_, ⟨code, by omega, rfl, rfl⟩, by simp⟩
    · rintro ⟨_, ⟨code, short, rfl, rfl⟩, rfl⟩
      rw [List.append_assoc, List.cons_append, golomb_one, if_neg (by omega)]
      exact ((suffix code.length).takes _ _ _).mpr ⟨code, ⟨_, ⟨rfl, rfl⟩, rfl⟩, rfl⟩
  · intro input error failed
    obtain ⟨count, rfl | ⟨behind, rfl⟩⟩ := exists_zeros input
    · rw [golomb_zeros] at failed
      cases failed
      split
      · exact isRefusal_fault _
      · exact isRefusal_truncated field
    · rw [golomb_one] at failed
      split at failed
      next =>
        cases failed
        exact isRefusal_fault _
      next => exact (suffix _).refuses _ _ failed

/-! ## Profile and level -/

/-- The profile and the level of each sub-layer are passed over, as far as they are told. -/
theorem reads_subLayers (present : List (Bool × Bool)) :
    Reads (present.forM fun (profile, level) => do
        if profile then skip "sub_layer_profile" 88
        if level then skip "sub_layer_level_idc" 8) IsRefusal
      fun _ code => code.length = total (present.map subLayerBits) := by
  induction present with
  | nil =>
    refine (Reads.pure ()).congr fun _ code => ?_
    rw [List.map_nil, total, List.length_eq_zero_iff]
    exact and_iff_right rfl
  | cons first others ih =>
    obtain ⟨profile, level⟩ := first
    have levels : Reads (if level then skip "sub_layer_level_idc" 8 else pure ()) IsRefusal
        fun _ code => code.length = if level then 8 else 0 :=
      Reads.skipOnlyIf (reads_skip _ 8)
    have one := Reads.skipIf profile (reads_skip "sub_layer_profile" 88)
      (fun _ => if level then skip "sub_layer_level_idc" 8 else pure ()) levels
    refine (one.bind fun _ _ _ => ih).congr fun _ code => ?_
    rw [List.map_cons, total, ← exists_lengths_iff]
    simp only [exists_lengths_iff, exists_const]
    rfl

theorem reads_presence :
    Reads (do
        let profile ← flag "sub_layer_profile_present_flag"
        let level ← flag "sub_layer_level_present_flag"
        return (profile, level)) IsRefusal
      fun present code => code = [present.1, present.2] := by
  refine ((reads_flag _).bind fun profile _ _ => (reads_flag _).bind fun level _ _ =>
    Reads.pure (profile, level)).congr fun present code => ?_
  constructor
  · rintro ⟨_, _, _, rfl, ⟨_, _, _, rfl, ⟨rfl, rfl⟩, rfl⟩, rfl⟩
    rfl
  · rintro rfl
    exact ⟨_, _, _, rfl, ⟨_, _, _, rfl, ⟨rfl, rfl⟩, rfl⟩, rfl⟩

theorem forall₂_presence {present : List (Bool × Bool)} {codes : List (List Bool)} :
    List.Forall₂ (fun p code => code = [p.1, p.2]) present codes ↔
      codes = present.map fun p => [p.1, p.2] := by
  constructor
  · intro each
    induction each with
    | nil => rfl
    | cons one _ ih => rw [one, ih, List.map_cons]
  · rintro rfl
    exact List.forall₂_map_right_iff.mpr (List.forall₂_same.mpr fun _ _ => rfl)

theorem reads_skipProfileTierLevel (subLayers : Nat) :
    Reads (skipProfileTierLevel subLayers) IsRefusal
      fun _ code => IsProfileTierLevel subLayers code := by
  have presence := reads_mapM_range reads_presence subLayers
  refine ((reads_skip "general_profile_tier_level" 96).bind fun _ _ _ => presence.bind
    fun present _ _ => Reads.skipIf _ (reads_skip "reserved_zero_2bits" (2 * (8 - subLayers)))
      (fun _ => present.forM _) (reads_subLayers present)).congr fun _ code => ?_
  constructor
  · rintro ⟨_, general, _, told, ⟨present, _, _, ⟨count, codes, each, rfl⟩,
      ⟨reserved, blocks, none, all, rfl⟩, rfl⟩, rfl⟩
    obtain rfl := forall₂_presence.mp each
    refine ⟨general, reserved, blocks, present, ?_, told, count, none, all⟩
    simp [presenceFlags, List.flatMap_def]
  · rintro ⟨general, reserved, blocks, present, rfl, told, count, none, all⟩
    refine ⟨(), general, _, told, ⟨present, _, _, ⟨count, _, forall₂_presence.mpr rfl, rfl⟩,
      ⟨reserved, blocks, none, all, rfl⟩, rfl⟩, ?_⟩
    simp [presenceFlags, List.flatMap_def]

/-! ## The set -/

theorem reads_onlyIf_flag (condition : Bool) (field : String) :
    Reads (BitReader.onlyIf condition (flag field)) IsRefusal fun answer code =>
      if condition then ∃ b, answer = some b ∧ code = [b] else answer = none ∧ code = [] := by
  cases condition with
  | false => exact Reads.pure none
  | true =>
    refine ((reads_flag field).map some).congr fun answer code => ?_
    constructor
    · rintro ⟨b, rfl, rfl⟩
      exact ⟨b, rfl, rfl⟩
    · rintro ⟨b, rfl, rfl⟩
      exact ⟨b, rfl, rfl⟩

/-- The window of a set whose other fields are known. -/
theorem Sps.reads_window (chromaFormat : Nat) (separatePlanes : Bool) (width height : Nat) :
    let plain : Sps := ⟨chromaFormat, separatePlanes, width, height, 0, 0, 0, 0⟩
    Reads (do
        if ← flag "conformance_window_flag" then
          let left ← golomb "conf_win_left_offset"
          let right ← golomb "conf_win_right_offset"
          let top ← golomb "conf_win_top_offset"
          let bottom ← golomb "conf_win_bottom_offset"
          return { plain with
            cropLeft := left, cropRight := right, cropTop := top, cropBottom := bottom }
        return plain) IsRefusal
      fun sps code => sps.IsWindow code ∧ sps.chromaFormat = chromaFormat ∧
        sps.separatePlanes = separatePlanes ∧ sps.width = width ∧ sps.height = height := by
  intro plain
  have offsets := (reads_golomb "conf_win_left_offset").bind fun left _ _ =>
    (reads_golomb "conf_win_right_offset").bind fun right _ _ =>
    (reads_golomb "conf_win_top_offset").bind fun top _ _ =>
    (reads_golomb "conf_win_bottom_offset").bind fun bottom _ _ =>
    Reads.pure { plain with
      cropLeft := left, cropRight := right, cropTop := top, cropBottom := bottom }
  have either := fun b : Bool => Reads.ite b offsets (Reads.pure plain)
  refine ((reads_flag "conformance_window_flag").bind fun b _ _ => either b).congr
    fun sps code => ?_
  constructor
  · rintro ⟨b, _, back, rfl, chosen, rfl⟩
    cases b with
    | false =>
      obtain ⟨rfl, rfl⟩ := chosen
      exact ⟨.inl ⟨rfl, rfl, rfl, rfl, rfl⟩, rfl, rfl, rfl, rfl⟩
    | true =>
      obtain ⟨_, left, _, isLeft, ⟨_, right, _, isRight, ⟨_, top, _, isTop,
        ⟨_, bottom, _, isBottom, ⟨rfl, rfl⟩, rfl⟩, rfl⟩, rfl⟩, rfl⟩ := chosen
      exact ⟨.inr ⟨left, right, top, bottom, by simp, isLeft, isRight, isTop, isBottom⟩,
        rfl, rfl, rfl, rfl⟩
  · obtain ⟨_, _, _, _, _, _, _, _⟩ := sps
    rintro ⟨⟨rfl, rfl, rfl, rfl, rfl⟩ |
      ⟨left, right, top, bottom, rfl, isLeft, isRight, isTop, isBottom⟩, rfl, rfl, rfl, rfl⟩
    · exact ⟨false, _, [], rfl, ⟨rfl, rfl⟩, rfl⟩
    · refine ⟨true, _, left ++ right ++ top ++ bottom, rfl, ?_, rfl⟩
      exact ⟨_, left, _, isLeft, ⟨_, right, _, isRight, ⟨_, top, _, isTop,
        ⟨_, bottom, [], isBottom, ⟨rfl, rfl⟩, rfl⟩, rfl⟩, rfl⟩, by simp⟩

/-- The reader takes just the fronts of sets. -/
theorem Sps.reads_read : Reads Sps.read IsRefusal Sps.IsFront := by
  have subLayers := reads_unsigned (isRefusal_truncated "sps_max_sub_layers_minus1") 3
  have picture := fun chromaFormat : Nat =>
    (reads_onlyIf_flag (chromaFormat == 3) "separate_colour_plane_flag").bind fun separate _ _ =>
    (reads_golomb "pic_width_in_luma_samples").bind fun width _ _ =>
    (reads_golomb "pic_height_in_luma_samples").bind fun height _ _ =>
    Sps.reads_window chromaFormat (separate.getD false) width height
  have chroma := fun chromaFormat : Nat =>
    Reads.onlyUnless (3 < chromaFormat) (fun _ => isRefusal_fault (.chromaFormat chromaFormat))
      (fun _ => _) fun _ => picture chromaFormat
  have fields := fun subLayers : Nat =>
    Reads.onlyUnless (6 < subLayers) (fun _ => isRefusal_fault (.subLayers subLayers)) (fun _ => _)
      fun _ => (reads_skip "sps_temporal_id_nesting_flag" 1).bind fun _ _ _ =>
        (reads_skipProfileTierLevel subLayers).bind fun _ _ _ =>
        (reads_golomb "sps_seq_parameter_set_id").bind fun _ _ _ =>
        (reads_golomb "chroma_format_idc").bind fun chromaFormat _ _ => chroma chromaFormat
  refine ((reads_skip "nal_unit_header" 16).bind fun _ _ _ =>
    (reads_skip "sps_video_parameter_set_id" 4).bind fun _ _ _ =>
    subLayers.bind fun subLayers _ _ => fields subLayers).congr fun sps code => ?_
  constructor
  · rintro ⟨_, unit, _, unitLength, ⟨_, videoSet, _, setLength, ⟨_, layers, _, ⟨three, rfl⟩,
      ⟨few, _, nesting, _, one, ⟨_, profile, _, isProfile, ⟨id, setId, _, isId,
      ⟨_, chroma, _, isChroma, ⟨known, separate, planes, _, isPlanes, ⟨_, width, _, isWidth,
      ⟨_, height, window, isHeight, ⟨isWindow, rfl, separately, rfl, rfl⟩, rfl⟩, rfl⟩, rfl⟩, rfl⟩,
      rfl⟩, rfl⟩, rfl⟩, rfl⟩, rfl⟩, rfl⟩
    refine ⟨unit ++ videoSet, layers, nesting, profile, setId, chroma, planes, width, height,
      window, id, by simp only [List.append_assoc], ?_, three, Nat.le_of_not_lt few, one, isProfile,
      isId, isChroma, Nat.le_of_not_lt known, ?_, isWidth, isHeight, isWindow⟩
    · rw [List.length_append, unitLength, setLength]
    · by_cases full : sps.chromaFormat = 3
      · rw [if_pos (by simpa using full)] at isPlanes
        obtain ⟨b, rfl, rfl⟩ := isPlanes
        rw [if_pos full, separately]
        rfl
      · rw [if_neg (by simpa using full)] at isPlanes
        obtain ⟨rfl, rfl⟩ := isPlanes
        rw [if_neg full]
        exact ⟨rfl, separately⟩
  · rintro ⟨header, layers, nesting, profile, setId, chroma, planes, width, height, window, id, rfl,
      twenty, three, few, one, isProfile, isId, isChroma, known, isPlanes, isWidth, isHeight,
      isWindow⟩
    obtain ⟨unit, videoSet, unitLength, setLength, rfl⟩ := exists_lengths_iff.mpr twenty
    obtain ⟨separate, isPlanes, separately⟩ : ∃ separate : Option Bool,
        (if sps.chromaFormat == 3 then ∃ b, separate = some b ∧ planes = [b]
          else separate = none ∧ planes = []) ∧ sps.separatePlanes = separate.getD false := by
      by_cases full : sps.chromaFormat = 3
      · rw [if_pos full] at isPlanes
        exact ⟨some sps.separatePlanes, by simp [full, isPlanes], rfl⟩
      · rw [if_neg full] at isPlanes
        exact ⟨none, by simp [full, isPlanes.1], isPlanes.2⟩
    exact ⟨(), unit, _, unitLength, ⟨(), videoSet, _, setLength, ⟨_, layers, _, ⟨three, rfl⟩,
      ⟨Nat.not_lt_of_le few, (), nesting, _, one, ⟨(), profile, _, isProfile, ⟨id, setId, _, isId,
      ⟨_, chroma, _, isChroma, ⟨Nat.not_lt_of_le known, separate, planes, _, isPlanes,
      ⟨_, width, _, isWidth, ⟨_, height, window, isHeight, ⟨isWindow, rfl, separately, rfl, rfl⟩,
      rfl⟩, rfl⟩, rfl⟩, rfl⟩, rfl⟩, rfl⟩, rfl⟩, rfl⟩, rfl⟩, by simp only [List.append_assoc]⟩

/-! ## The picture size -/

namespace Sps

variable {sps : Sps}

/-- What is cut off is reckoned in words, but exactly. Offsets whose sum is too large for a word
would cut off more than any size there is. -/
theorem cropped_eq_ok_iff {size unit : Nat} (word : FitsIn 32 (size + 1))
    (small : unit = 1 ∨ unit = 2) (near far : Nat) (direction : String) (left : Nat) :
    cropped size near far unit direction = .ok left ↔
      (left : Int) = size - unit * (near + far) ∧ 0 < left := by
  have limit : wordLimit 32 = 4294967296 := rfl
  unfold FitsIn at word
  unfold cropped FitsIn
  constructor
  · intro done
    dsimp only at done
    split at done
    next kept =>
      cases done
      obtain rfl | rfl := small <;> omega
    next => cases done
  · rintro ⟨exact_, positive⟩
    have kept : min (near + far) (wordLimit 32 - 1) * unit < wordLimit 32 ∧
        min (near + far) (wordLimit 32 - 1) * unit < size := by
      obtain rfl | rfl := small <;> omega
    simp only [if_pos kept]
    congr 1
    obtain rfl | rfl := small <;> omega

theorem subWidth_cases : sps.subWidth = 1 ∨ sps.subWidth = 2 := by
  unfold subWidth
  split
  · exact .inr rfl
  · exact .inl rfl

theorem subHeight_cases : sps.subHeight = 1 ∨ sps.subHeight = 2 := by
  unfold subHeight
  split
  · exact .inr rfl
  · exact .inl rfl

/-- Cropping goes by the chroma array type. -/
theorem samplesPerChroma_eq : sps.samplesPerChroma = (sps.subWidth, sps.subHeight) := by
  unfold samplesPerChroma subWidth subHeight chromaArrayType
  generalize (if sps.separatePlanes then 0 else sps.chromaFormat) = type
  match type with
  | 0 | 1 | 2 => rfl
  | _ + 3 => rfl

theorem dimensions_eq_ok_iff (width : FitsIn 32 (sps.width + 1))
    (height : FitsIn 32 (sps.height + 1)) {size : Dimensions} :
    sps.dimensions = .ok size ↔ sps.Shows size := by
  unfold Shows
  rw [samplesPerChroma_eq]
  have across :=
    cropped_eq_ok_iff width sps.subWidth_cases sps.cropLeft sps.cropRight "horizontal"
  have down :=
    cropped_eq_ok_iff height sps.subHeight_cases sps.cropTop sps.cropBottom "vertical"
  constructor
  · intro done
    obtain ⟨w, first, behind⟩ := exists_of_bind_ok done
    obtain ⟨h, second, same⟩ := exists_of_bind_ok behind
    cases same
    exact ⟨((across w).mp first).1, ((across w).mp first).2, (down h).mp second⟩
  · rintro ⟨w, wPositive, h, hPositive⟩
    unfold dimensions
    rw [(across _).mpr ⟨w, wPositive⟩, (down _).mpr ⟨h, hPositive⟩]
    rfl

theorem isRefusal_of_cropped {size near far unit : Nat} {direction : String}
    {error : BitstreamError}
    (failed : cropped size near far unit direction = .error error) : IsRefusal error := by
  unfold cropped at failed
  dsimp only at failed
  split at failed
  next => cases failed
  next =>
    cases failed
    exact isRefusal_fault _

theorem isRefusal_of_dimensions {error : BitstreamError} (failed : sps.dimensions = .error error) :
    IsRefusal error := by
  unfold dimensions at failed
  rcases across : cropped sps.width sps.cropLeft sps.cropRight sps.subWidth "horizontal" with _ | w
  · rw [across] at failed
    cases failed
    exact isRefusal_of_cropped across
  · rcases down : cropped sps.height sps.cropTop sps.cropBottom sps.subHeight "vertical" with _ | h
    · rw [across, down] at failed
      cases failed
      exact isRefusal_of_cropped down
    · rw [across, down] at failed
      cases failed

theorem IsFront.fits {code : List Bool} (front : sps.IsFront code) :
    FitsIn 32 (sps.width + 1) ∧ FitsIn 32 (sps.height + 1) := by
  obtain ⟨_, _, _, _, _, _, _, _, _, _, _, _, _, _, _, _, _, _, _, _, _, width, height, _⟩ := front
  exact ⟨width.fits, height.fits⟩

end Sps

/-- What is read of an octet string, if there is a size in it. -/
theorem pictureSize_eq_ok_iff {octets : Bytes} {size : Dimensions} :
    pictureSize octets = .ok size ↔
      ∃ code sps, code <+: bitsOf octets ∧ Sps.IsFront sps code ∧ sps.Shows size := by
  constructor
  · intro done
    obtain ⟨⟨sps, rest⟩, read, shown⟩ := exists_of_bind_ok done
    obtain ⟨code, front, whole⟩ := (Sps.reads_read.takes _ _ _).mp read
    exact ⟨code, sps, ⟨rest, whole.symm⟩, front,
      (Sps.dimensions_eq_ok_iff front.fits.1 front.fits.2).mp shown⟩
  · rintro ⟨code, sps, ⟨rest, whole⟩, front, shown⟩
    have read := (Sps.reads_read.takes _ _ _).mpr ⟨code, front, whole.symm⟩
    unfold pictureSize
    rw [read]
    exact (Sps.dimensions_eq_ok_iff front.fits.1 front.fits.2).mpr shown

theorem isRefusal_of_pictureSize {octets : Bytes} {error : BitstreamError}
    (failed : pictureSize octets = .error error) : IsRefusal error := by
  unfold pictureSize at failed
  rcases read : Sps.read (bitsOf octets) with _ | ⟨sps, rest⟩
  · rw [read] at failed
    cases failed
    exact Sps.reads_read.refuses _ _ read
  · rw [read] at failed
    exact Sps.isRefusal_of_dimensions failed

/-- A picture size is found just where the bits begin with the front of a set whose window leaves
something of the picture, in exact arithmetic. All else is refused, as cut off or as malformed. What
stands behind the front does not matter: nothing is read there, and never anything behind the last
bit. No value that is read reaches the largest number of 32 bits, wherever it stands and whatever
comes of the rest, so no word is too small for what is computed. -/
theorem pictureSize_grammar (octets : Bytes) :
    (∀ size, pictureSize octets = .ok size ↔
      ∃ code sps, code <+: bitsOf octets ∧ Sps.IsFront sps code ∧ sps.Shows size) ∧
    (∀ error, pictureSize octets = .error error → IsRefusal error) ∧
    (∀ size, pictureSize octets = .ok size → ∃ code, code <+: bitsOf octets ∧
      ∀ others, code <+: bitsOf others → pictureSize others = .ok size) ∧
    (∀ sps rest, Sps.read (bitsOf octets) = .ok (sps, rest) → ∃ code, Sps.IsFront sps code ∧
      bitsOf octets = code ++ rest ∧ code.length ≤ 8 * octets.length) ∧
    (∀ field input value rest, golomb field input = .ok (value, rest) →
      rest <:+ input ∧ FitsIn 32 (value + 1)) := by
  refine ⟨fun size => pictureSize_eq_ok_iff, fun error => isRefusal_of_pictureSize, ?_, ?_, ?_⟩
  · intro size done
    obtain ⟨code, sps, within, front, shown⟩ := pictureSize_eq_ok_iff.mp done
    exact ⟨code, within, fun others same => pictureSize_eq_ok_iff.mpr
      ⟨code, sps, same, front, shown⟩⟩
  · intro sps rest read
    obtain ⟨code, front, whole⟩ := (Sps.reads_read.takes _ _ _).mp read
    refine ⟨code, front, whole, ?_⟩
    rw [← length_bitsOf, whole, List.length_append]
    exact Nat.le_add_right _ _
  · intro field input value rest read
    obtain ⟨code, isGolomb, rfl⟩ := ((reads_golomb field).takes _ _ _).mp read
    exact ⟨List.suffix_append code rest, isGolomb.fits⟩

example : pictureSize [0x42, 0x01, 0x01, 0x01, 0x60, 0, 0, 0, 0x90, 0, 0, 0, 0, 0, 0x5D, 0xA0, 0x03,
    0xC0, 0x80, 0x11, 0x07, 0xCB, 0x96] = .ok ⟨1920, 1080⟩ := by decide +kernel

end Footage.H265
