import Footage.Proofs.EmulationPrevention
import Mathlib.Data.List.Induction

/-!
# Where prevention octets stand

The writer counts zeros octet by octet. This file says without a count what it writes: the payload
is copied until two zeros stand before an octet below 4, a `03` goes in between, and from that
octet on the rest is escaped like a payload of its own (`Escapes`).

This file proves the following.
* The writer's result is the only one (`escapes_iff`).
* The search for a hint stops right at the first `03` that was put in (`FirstEscape.hint_eq`).
* A payload without such a place stays as it is, and this shows in its octets, its length and the
  hint alike (`escape_eq_self_iff`, `length_escape_eq_iff`, `escapeHint?_escape_eq_none_iff`).
* Encoding into any buffer gives just this form or nothing, and the second buffer of `encode`
  is never too small (`encode_exact`).
-/

namespace Footage.AnnexB

/-! ## Where a `03` is due -/

/-- Nowhere do two zeros stand before an octet below 4. -/
def IsEscapeFree (octets : Bytes) : Prop :=
  ∀ front b back, octets = front ++ 0 :: 0 :: b :: back → preventionByte < b

/-- The first place in `raw` where a `03` is due: before `b`, behind `front` and two zeros. -/
structure FirstEscape (raw front : Bytes) (b : UInt8) (back : Bytes) : Prop where
  parts : raw = front ++ 0 :: 0 :: b :: back
  due : b ≤ preventionByte
  free : IsEscapeFree (front ++ [0, 0])

/-- `escaped` is `raw` with a `03` in every place where one is due. Behind a `03` zeros count
anew. -/
inductive Escapes : (raw escaped : Bytes) → Prop
  | free {raw : Bytes} : IsEscapeFree raw → Escapes raw raw
  | insert {raw front back escaped : Bytes} {b : UInt8} :
      FirstEscape raw front b back → Escapes (b :: back) escaped →
      Escapes raw (front ++ 0 :: 0 :: preventionByte :: escaped)

theorem isEscapeFree_nil : IsEscapeFree [] := by
  intro front b back whole
  simp at whole

theorem IsEscapeFree.of_suffix {back octets : Bytes} (h : IsEscapeFree octets)
    (suffix : back <:+ octets) : IsEscapeFree back := by
  obtain ⟨before, rfl⟩ := suffix
  intro front b rest whole
  exact h (before ++ front) b rest (by rw [whole, List.append_assoc])

theorem IsEscapeFree.not_infix {octets : Bytes} (h : IsEscapeFree octets) :
    ¬[0, 0, 3] <:+: octets := by
  rintro ⟨front, back, rfl⟩
  exact absurd (h front 3 back (by simp)) (by decide)

/-- A `03` that is due somewhere is due somewhere first. -/
theorem exists_firstEscape {raw : Bytes} (h : ¬IsEscapeFree raw) :
    ∃ front b back, FirstEscape raw front b back := by
  -- from the end of the payload: the last octet is the only new one before which it can be due
  induction raw using List.reverseRecOn with
  | nil => exact absurd isEscapeFree_nil h
  | append_singleton init last ih =>
    by_cases free : IsEscapeFree init
    · unfold IsEscapeFree at h
      push Not at h
      obtain ⟨front, b, back, whole, due⟩ := h
      have small : b ≤ preventionByte := UInt8.not_lt.mp due
      rcases List.eq_nil_or_concat back with rfl | ⟨back, c, rfl⟩
      · have ends : init ++ [last] = (front ++ [0, 0]) ++ [b] := by rw [whole]; simp
        obtain ⟨rfl, -⟩ := List.append_inj' ends rfl
        exact ⟨front, b, [], whole, small, free⟩
      · have ends : init ++ [last] = (front ++ 0 :: 0 :: b :: back) ++ [c] := by rw [whole]; simp
        obtain ⟨rfl, -⟩ := List.append_inj' ends rfl
        exact absurd (free front b back rfl) due
    · obtain ⟨front, b, back, first⟩ := ih free
      refine ⟨front, b, back ++ [last], ?_, first.due, first.free⟩
      rw [first.parts]
      simp

/-! ## What the writer does there -/

/-- Octets in which no `03` is due are copied, and the zeros at their end count on. -/
theorem escapeAfter_append {run : Nat} {front : Bytes}
    (free : IsEscapeFree (List.replicate run 0 ++ front)) (back : Bytes) :
    escapeAfter run (front ++ back) = front ++ escapeAfter (front.foldl zeroRun run) back := by
  induction front generalizing run with
  | nil => rfl
  | cons b front ih =>
    have notDue : ¬NeedsEscape run b := by
      rintro ⟨long, small⟩
      obtain ⟨more, zeros⟩ := zeros_of_long long (b :: front)
      exact absurd (free _ _ _ zeros) (UInt8.not_lt.mpr small)
    have later := ih (free.of_suffix (zeroRun_suffix run b front))
    rw [List.cons_append, escapeAfter, if_neg notDue, later]
    rfl

/-- Where a `03` is due, what follows it is escaped as if nothing stood before. -/
theorem escapeAfter_of_needsEscape {run : Nat} {b : UInt8} (due : NeedsEscape run b)
    (back : Bytes) :
    escapeAfter run (b :: back) = preventionByte :: escape (b :: back) := by
  rw [escapeAfter, if_pos due, escape, escapeAfter_zero_cons]

theorem escape_eq_self {raw : Bytes} (free : IsEscapeFree raw) : escape raw = raw := by
  have start : IsEscapeFree (List.replicate 0 0 ++ raw) := free
  have copied := escapeAfter_append start []
  rwa [List.append_nil, escapeAfter, List.append_nil] at copied

theorem length_le_escapeAfter (run : Nat) (raw : Bytes) :
    raw.length ≤ (escapeAfter run raw).length := by
  induction raw generalizing run with
  | nil => exact Nat.le_refl 0
  | cons b rest ih =>
    rw [escapeAfter]
    split
    · have tail := ih (zeroRun 0 b)
      simp only [List.length_cons]
      omega
    · have tail := ih (zeroRun run b)
      simp only [List.length_cons]
      omega

namespace FirstEscape

variable {raw front back : Bytes} {b : UInt8}

theorem escape_eq (first : FirstEscape raw front b back) :
    escape raw = front ++ 0 :: 0 :: preventionByte :: escape (b :: back) := by
  have zeros : (front ++ [0, 0]).foldl zeroRun 0 = front.foldl zeroRun 0 + 2 := by
    simp [List.foldl_append, zeroRun]
  have due : NeedsEscape ((front ++ [0, 0]).foldl zeroRun 0) b := ⟨by omega, first.due⟩
  calc escape raw
      = escapeAfter 0 ((front ++ [0, 0]) ++ b :: back) := by rw [first.parts, escape]; simp
    _ = (front ++ [0, 0]) ++ escapeAfter ((front ++ [0, 0]).foldl zeroRun 0) (b :: back) :=
        escapeAfter_append first.free (b :: back)
    _ = (front ++ [0, 0]) ++ preventionByte :: escape (b :: back) := by
        rw [escapeAfter_of_needsEscape due]
    _ = front ++ 0 :: 0 :: preventionByte :: escape (b :: back) := by simp

theorem length_lt (first : FirstEscape raw front b back) : raw.length < (escape raw).length := by
  have tail : (b :: back).length ≤ (escape (b :: back)).length := length_le_escapeAfter 0 _
  rw [first.escape_eq, first.parts]
  simp only [List.length_append, List.length_cons] at tail ⊢
  omega

end FirstEscape

/-! ## The escaped form -/

theorem Escapes.eq_escape {raw escaped : Bytes} (h : Escapes raw escaped) :
    escaped = escape raw := by
  induction h with
  | free free => exact (escape_eq_self free).symm
  | insert first _ ih => rw [first.escape_eq, ih]

theorem escapes_escape (raw : Bytes) : Escapes raw (escape raw) := by
  by_cases free : IsEscapeFree raw
  · rw [escape_eq_self free]
    exact .free free
  · obtain ⟨front, b, back, first⟩ := exists_firstEscape free
    have shorter : (b :: back).length < raw.length := by
      rw [first.parts]
      simp only [List.length_append, List.length_cons]
      omega
    rw [first.escape_eq]
    exact .insert first (escapes_escape (b :: back))
termination_by raw.length

theorem escapes_iff {raw escaped : Bytes} : Escapes raw escaped ↔ escaped = escape raw := by
  constructor
  · exact Escapes.eq_escape
  · rintro rfl
    exact escapes_escape raw

/-! ## The search for a hint -/

theorem escapeHint?_cons {b : UInt8} {rest : Bytes} (plain : ¬[0, 0, 3] <+: b :: rest) :
    escapeHint? (b :: rest) = (escapeHint? rest).map (· + 1) := by
  rw [escapeHint?]
  split
  · next n back whole =>
    rw [whole] at plain
    exact absurd (List.prefix_append [0, 0, 3] (n :: back)) plain
  · rfl

theorem escapeHint?_eq_none {octets : Bytes} (plain : ¬[0, 0, 3] <:+: octets) :
    escapeHint? octets = none := by
  induction octets with
  | nil => rfl
  | cons b rest ih =>
    rw [escapeHint?_cons fun start => plain start.isInfix]
    rw [ih fun inside => plain (inside.trans (List.suffix_cons b rest).isInfix)]
    rfl

/-- The first `00 00 03` before an octet below 4 is the hint. -/
theorem escapeHint?_append {front back : Bytes} {n : UInt8} (small : n ≤ preventionByte)
    (plain : ¬[0, 0, 3] <:+: front ++ [0, 0]) :
    escapeHint? (front ++ 0 :: 0 :: preventionByte :: n :: back) = some front.length := by
  induction front with
  | nil =>
    rw [List.nil_append, escapeHint?]
    exact if_pos small
  | cons b front ih =>
    have unseen : ¬[0, 0, 3] <+: b :: (front ++ 0 :: 0 :: preventionByte :: n :: back) := by
      intro start
      have copied : b :: (front ++ [0, 0]) <+:
          b :: (front ++ 0 :: 0 :: preventionByte :: n :: back) :=
        ⟨preventionByte :: n :: back, by simp⟩
      have short : [0, 0, 3].length ≤ (b :: (front ++ [0, 0])).length := by simp
      exact plain (List.prefix_of_prefix_length_le start copied short).isInfix
    have later := ih fun inside =>
      plain (inside.trans (List.suffix_cons b (front ++ [0, 0])).isInfix)
    rw [List.cons_append, escapeHint?_cons unseen, later]
    rfl

/-- The hint in an escaped payload is two octets in front of the first `03` that was put in. -/
theorem FirstEscape.hint_eq {raw front back : Bytes} {b : UInt8}
    (first : FirstEscape raw front b back) : escapeHint? (escape raw) = some front.length := by
  rw [first.escape_eq, escape, escapeAfter_zero_cons]
  exact escapeHint?_append first.due first.free.not_infix

theorem escapeHint?_short (octets : Bytes) :
    escapeHint? (StartCode.short.bytes ++ octets) = (escapeHint? octets).map (· + 3) := by
  have third : ¬[0, 0, 3] <+: (1 : UInt8) :: octets := by simp
  have second : ¬[0, 0, 3] <+: (0 : UInt8) :: 1 :: octets := by simp
  have first : ¬[0, 0, 3] <+: (0 : UInt8) :: 0 :: 1 :: octets := by simp
  show escapeHint? (0 :: 0 :: 1 :: octets) = _
  rw [escapeHint?_cons first, escapeHint?_cons second, escapeHint?_cons third, Option.map_map,
    Option.map_map]
  rfl

/-! ## Payloads that stay as they are -/

theorem length_escape_eq_iff {raw : Bytes} :
    (escape raw).length = raw.length ↔ IsEscapeFree raw := by
  constructor
  · intro same
    by_contra h
    obtain ⟨front, b, back, first⟩ := exists_firstEscape h
    exact absurd same (Nat.ne_of_gt first.length_lt)
  · intro free
    rw [escape_eq_self free]

theorem escape_eq_self_iff {raw : Bytes} : escape raw = raw ↔ IsEscapeFree raw := by
  constructor
  · intro same
    exact length_escape_eq_iff.mp (congrArg List.length same)
  · exact escape_eq_self

theorem escapeHint?_escape_eq_none_iff {raw : Bytes} :
    escapeHint? (escape raw) = none ↔ IsEscapeFree raw := by
  constructor
  · intro unseen
    by_contra h
    obtain ⟨front, b, back, first⟩ := exists_firstEscape h
    rw [first.hint_eq] at unseen
    cases unseen
  · intro free
    rw [escape_eq_self free]
    exact escapeHint?_eq_none free.not_infix

/-! ## Encoding is exact -/

/-- `form` is the start code and then the payload, escaped or as it is. -/
def IsEncoded (raw : Bytes) (code : StartCode) (escaping : Bool) (form : Bytes) : Prop :=
  ∃ body, form = code.bytes ++ body ∧ if escaping then Escapes raw body else body = raw

theorem isEncoded_iff {raw form : Bytes} {code : StartCode} {escaping : Bool} :
    IsEncoded raw code escaping form ↔ form = encodedForm raw code escaping := by
  unfold IsEncoded encodedForm
  cases escaping with
  | false => simp
  | true => simp [escapes_iff]

/-- There is one encoded form. A buffer that can hold it takes it at its front, and keeps what is
behind; a smaller one gives nothing. The form is never longer than the worst length, so encoding
always gives it, whether the first buffer sufficed or the second one had to be taken. -/
theorem encode_exact (raw : Bytes) (code : StartCode) (escaping : Bool) :
    ∃ form, (∀ other, IsEncoded raw code escaping other ↔ other = form) ∧
      (∀ buffer, encodeInto raw code escaping buffer =
        if form.length ≤ buffer.length then some ⟨form, buffer.drop form.length⟩ else none) ∧
      form.length ≤ worstLength code.length raw.length ∧
      encode raw code escaping = .ok form := by
  refine ⟨encodedForm raw code escaping, fun _ => isEncoded_iff, fun buffer => ?_,
    length_encodedForm_le raw code escaping, encode_eq raw code escaping⟩
  rw [encodeInto_eq, copyInto]

/-- Of forty zeros every other one from the third on needs a `03`: too many for the first
buffer. -/
example :
    encodeInto (.zeros 40) .none true (.zeros (optimisticLength 0 40)) = none ∧
      (encode (.zeros 40) .none true).map List.length = .ok 59 := by
  decide

end Footage.AnnexB
