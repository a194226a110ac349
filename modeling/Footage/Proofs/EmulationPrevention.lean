import Footage.AnnexB.Escape

/-!
# Emulation prevention is a bijection

`escape` and `unescape` are inverse to each other between all octet strings and those in which
every two zeros are followed by something harmless. The writer counts zeros over the raw octets
and the reader over the escaped ones. Both start a run anew after an inserted octet, so their
counts agree wherever the next raw octet is taken, and each induction below runs over one string
with the same run on both sides.

This file proves the following.
* What is escaped is read back exactly, by each of the three readers
  (`unescapeAfter_escapeAfter`, `unescapedLengthAfter_eq`, `pushUnescaped_eq`).
* The escaped strings are those that satisfy `IsEscaped` (`isEscapedAfter_escapeAfter`,
  `escapeAfter_unescapeAfter`).
* Writing octet by octet into a buffer is copying the finished form (`encodeInto_eq`), and the
  second of the two buffers of `encode` always holds it (`encode_eq`).
* All of it together: `encode_bijective`.
-/

namespace Footage.AnnexB

/-! ## What escaped octets look like -/

/-- Two zeros are never followed by an octet below 3, and `00 00 03` only ever stands before an
octet below 4, so not at the end. -/
def IsEscaped (escaped : Bytes) : Prop :=
  (∀ front b back, escaped = front ++ 0 :: 0 :: b :: back → 2 < b) ∧
  (∀ front back, escaped = front ++ 0 :: 0 :: 3 :: back → ∃ n ∈ back.head?, n ≤ 3)

/-- The same, read off in one pass over octets that follow a run of `run` zeros. -/
def IsEscapedAfter : (run : Nat) → Bytes → Prop
  | _, [] => True
  | run, b :: rest =>
    (2 ≤ run → 2 < b ∧ (b = 3 → ∃ n ∈ rest.head?, n ≤ 3)) ∧ IsEscapedAfter (zeroRun run b) rest

/-- The finished form of a NAL unit: the start code and then the payload, escaped or as it is. -/
def encodedForm (raw : Bytes) (code : StartCode) (escaping : Bool) : Bytes :=
  code.bytes ++ if escaping then escape raw else raw

/-! ## Runs of zeros -/

theorem zeroRun_of_ne {run : Nat} {b : UInt8} (nonzero : b ≠ 0) : zeroRun run b = 0 := by
  rw [zeroRun, if_neg nonzero]

theorem zeroRun_zero_le (b : UInt8) : zeroRun 0 b ≤ 1 := by
  unfold zeroRun
  split <;> omega

/-- A long run of zeros ends with two of them. -/
theorem zeros_of_long {run : Nat} (long : 2 ≤ run) (rest : Bytes) :
    ∃ more, List.replicate run 0 ++ rest = List.replicate more 0 ++ 0 :: 0 :: rest := by
  obtain ⟨more, rfl⟩ := Nat.exists_eq_add_of_le' long
  exact ⟨more, by simp [List.replicate_succ']⟩

/-- The run that is counted behind an octet does stand there. -/
theorem zeroRun_suffix (run : Nat) (b : UInt8) (rest : Bytes) :
    List.replicate (zeroRun run b) 0 ++ rest <:+ List.replicate run 0 ++ b :: rest := by
  unfold zeroRun
  split
  · next zero =>
    subst zero
    refine ⟨[], ?_⟩
    rw [List.nil_append, List.replicate_succ', List.append_assoc, List.singleton_append]
  · exact (List.suffix_cons b rest).trans (List.suffix_append _ _)

/-- No `03` is due in front of the first octet. -/
theorem escapeAfter_zero_cons (b : UInt8) (rest : Bytes) :
    escapeAfter 0 (b :: rest) = b :: escapeAfter (zeroRun 0 b) rest := by
  rw [escapeAfter, if_neg fun due => by omega]

/-- The first octet is never dropped. -/
theorem unescapeAfter_zero_cons (b : UInt8) (rest : Bytes) :
    unescapeAfter 0 (b :: rest) = b :: unescapeAfter (zeroRun 0 b) rest := by
  rw [unescapeAfter, if_neg fun dropped => by omega]

/-! ## Reading back what was escaped -/

theorem unescapeAfter_escapeAfter (run : Nat) (raw : Bytes) :
    unescapeAfter run (escapeAfter run raw) = raw := by
  induction raw generalizing run with
  | nil => rfl
  | cons b rest ih =>
    rw [escapeAfter]
    split
    · next due =>
      rw [unescapeAfter, if_pos ⟨due.1, rfl⟩, unescapeAfter_zero_cons, ih]
    · next notDue =>
      have kept : ¬(2 ≤ run ∧ b = preventionByte) := fun ⟨long, same⟩ =>
        notDue ⟨long, by rw [same]; exact UInt8.le_refl _⟩
      rw [unescapeAfter, if_neg kept, ih]

theorem unescape_escape (raw : Bytes) : unescape (escape raw) = raw :=
  unescapeAfter_escapeAfter 0 raw

/-- Counting the octets that are kept agrees with building them. -/
theorem unescapedLengthAfter_eq (run size : Nat) (escaped : Bytes) :
    unescapedLengthAfter run size escaped = size + (unescapeAfter run escaped).length := by
  induction escaped generalizing run size with
  | nil => rfl
  | cons b rest ih =>
    rw [unescapedLengthAfter, unescapeAfter]
    split
    · exact ih 0 size
    · rw [ih, List.length_cons]
      omega

theorem unescapedLength_eq (escaped : Bytes) :
    unescapedLength escaped = (unescape escaped).length := by
  rw [unescapedLength, unescapedLengthAfter_eq, Nat.zero_add, unescape]

theorem pushUnescaped_eq (pushed : Bytes) (run : Nat) (escaped : Bytes) :
    pushUnescaped pushed run escaped = (unescapeAfter run escaped).reverse ++ pushed := by
  induction escaped generalizing pushed run with
  | nil => rfl
  | cons b rest ih =>
    rw [pushUnescaped, unescapeAfter]
    split
    · exact ih pushed 0
    · rw [ih, List.reverse_cons, List.append_assoc, List.singleton_append]

theorem appendUnescaped_eq (out escaped : Bytes) :
    appendUnescaped out escaped = out ++ unescape escaped := by
  rw [appendUnescaped, pushUnescaped_eq, List.reverse_append, List.reverse_reverse,
    List.reverse_reverse, unescape]

/-! ## The image of escaping -/

theorem isEscapedAfter_escapeAfter (run : Nat) (raw : Bytes) :
    IsEscapedAfter run (escapeAfter run raw) := by
  induction raw generalizing run with
  | nil => trivial
  | cons b rest ih =>
    rw [escapeAfter]
    split
    · next due =>
      refine ⟨fun _ => ⟨by decide, fun _ => ⟨b, rfl, due.2⟩⟩, ?_⟩
      rw [zeroRun_of_ne (by decide)]
      exact ⟨fun long => by omega, ih (zeroRun 0 b)⟩
    · next notDue =>
      refine ⟨fun long => ?_, ih (zeroRun run b)⟩
      have large : 3 < b := UInt8.not_le.mp fun small => notDue ⟨long, small⟩
      refine ⟨UInt8.lt_trans (by decide) large, fun same => ?_⟩
      subst same
      exact absurd large (by decide)

/-- The reader drops a `03` only before an octet that makes the writer put it back. -/
theorem escapeAfter_unescapeAfter {run : Nat} {escaped : Bytes} (h : IsEscapedAfter run escaped) :
    escapeAfter run (unescapeAfter run escaped) = escaped := by
  induction escaped generalizing run with
  | nil => rfl
  | cons b rest ih =>
    obtain ⟨harmless, tail⟩ := h
    rw [unescapeAfter]
    split
    · next dropped =>
      obtain ⟨long, same⟩ := dropped
      obtain ⟨n, next, small⟩ := (harmless long).2 same
      rw [same, zeroRun_of_ne (by decide)] at tail
      cases rest with
      | nil => cases next
      | cons m back =>
        obtain rfl : m = n := Option.some.inj next
        have back := ih tail
        rw [unescapeAfter_zero_cons, escapeAfter_zero_cons] at back
        rw [unescapeAfter_zero_cons, escapeAfter, if_pos ⟨long, small⟩, same, back]
    · next kept =>
      have notDue : ¬NeedsEscape run b := by
        rintro ⟨long, small⟩
        have large := (harmless long).1
        exact kept ⟨long, by grind [preventionByte]⟩
      rw [escapeAfter, if_neg notDue, ih tail]

/-- What stands behind octets that were read is checked with the run they end with. -/
theorem IsEscapedAfter.of_append {run : Nat} {front back : Bytes}
    (h : IsEscapedAfter run (front ++ back)) : ∃ later, IsEscapedAfter later back := by
  induction front generalizing run with
  | nil => exact ⟨run, h⟩
  | cons b front ih => exact ih h.2

theorem IsEscapedAfter.after_two_zeros {run : Nat} {b : UInt8} {back : Bytes}
    (h : IsEscapedAfter run (0 :: 0 :: b :: back)) :
    2 < b ∧ (b = 3 → ∃ n ∈ back.head?, n ≤ 3) :=
  h.2.2.1 (by simp [zeroRun])

theorem IsEscaped.of_suffix {back escaped : Bytes} (h : IsEscaped escaped)
    (suffix : back <:+ escaped) : IsEscaped back := by
  obtain ⟨before, rfl⟩ := suffix
  constructor
  · intro front b rest whole
    exact h.1 (before ++ front) b rest (by rw [whole, List.append_assoc])
  · intro front rest whole
    exact h.2 (before ++ front) rest (by rw [whole, List.append_assoc])

theorem isEscapedAfter_of_isEscaped {run : Nat} {back : Bytes}
    (h : IsEscaped (List.replicate run 0 ++ back)) : IsEscapedAfter run back := by
  induction back generalizing run with
  | nil => trivial
  | cons b rest ih =>
    constructor
    · intro long
      obtain ⟨more, zeros⟩ := zeros_of_long long (b :: rest)
      refine ⟨h.1 _ _ _ zeros, fun same => ?_⟩
      subst same
      exact h.2 _ _ zeros
    · exact ih (h.of_suffix (zeroRun_suffix run b rest))

theorem isEscaped_iff {escaped : Bytes} : IsEscaped escaped ↔ IsEscapedAfter 0 escaped := by
  constructor
  · intro h
    exact isEscapedAfter_of_isEscaped h
  · intro h
    constructor
    · rintro front b back rfl
      obtain ⟨_, later⟩ := h.of_append
      exact later.after_two_zeros.1
    · rintro front back rfl
      obtain ⟨_, later⟩ := h.of_append
      exact later.after_two_zeros.2 rfl

theorem isEscaped_escape (raw : Bytes) : IsEscaped (escape raw) :=
  isEscaped_iff.mpr (isEscapedAfter_escapeAfter 0 raw)

theorem escape_unescape {escaped : Bytes} (h : IsEscaped escaped) :
    escape (unescape escaped) = escaped :=
  escapeAfter_unescapeAfter (isEscaped_iff.mp h)

/-! ## Start codes -/

/-- No escaped payload begins like a start code. -/
theorem detect_of_isEscaped {escaped : Bytes} (h : IsEscaped escaped) :
    StartCode.detect escaped = .none := by
  unfold StartCode.detect
  split
  · exact absurd (h.1 [] 1 _ rfl) (by decide)
  · exact absurd (h.1 [] 0 _ rfl) (by decide)
  · rfl

theorem detect_encodedForm (raw : Bytes) (code : StartCode) :
    StartCode.detect (encodedForm raw code true) = code := by
  cases code with
  | none => exact detect_of_isEscaped (isEscaped_escape raw)
  | short => rfl
  | long => rfl

/-! ## Encoding into buffers -/

/-- Of the octets between two escapes at least two are zeros, so at most every other one needs a
`03`; the run brings at most two of them along. -/
theorem length_escapeAfter_le (run : Nat) (raw : Bytes) :
    2 * (escapeAfter run raw).length ≤ 3 * raw.length + min run 2 := by
  induction raw generalizing run with
  | nil => simp [escapeAfter]
  | cons b rest ih =>
    rw [escapeAfter]
    split
    · next due =>
      have tail := ih (zeroRun 0 b)
      have short := zeroRun_zero_le b
      have long := due.1
      simp only [List.length_cons]
      omega
    · have tail := ih (zeroRun run b)
      have grown : zeroRun run b ≤ run + 1 := by
        unfold zeroRun
        split <;> omega
      simp only [List.length_cons]
      omega

theorem copyInto_append (front back buffer : Bytes) :
    copyInto (front ++ back) buffer =
      (copyInto front buffer).bind fun head =>
        (copyInto back head.back).map (.after head.front) := by
  unfold copyInto
  by_cases fits : front.length ≤ buffer.length
  · rw [if_pos fits]
    simp only [Option.bind_some, List.length_append, List.length_drop]
    by_cases all : back.length ≤ buffer.length - front.length
    · rw [if_pos all, if_pos (by omega)]
      simp [Written.after, List.drop_drop]
    · rw [if_neg all, if_neg (by omega)]
      rfl
  · rw [if_neg fits, if_neg (by rw [List.length_append]; omega)]
    rfl

theorem copyInto_cons (b x : UInt8) (src buffer : Bytes) :
    copyInto (b :: src) (x :: buffer) = (copyInto src buffer).map (.after [b]) := by
  unfold copyInto
  by_cases fits : src.length ≤ buffer.length
  · rw [if_pos fits, if_pos (by simpa using fits)]
    rfl
  · rw [if_neg fits, if_neg (by simpa using fits)]
    rfl

/-- Escaping octet by octet writes what copying the escaped octets would write, and stops in the
same cases. -/
theorem escapeInto_eq (run : Nat) (raw buffer : Bytes) :
    escapeInto run raw buffer = copyInto (escapeAfter run raw) buffer := by
  induction raw generalizing run buffer with
  | nil => simp [escapeInto, escapeAfter, copyInto]
  | cons b rest ih =>
    rw [escapeInto.eq_def, escapeAfter]
    simp only
    split
    · match buffer with
      | [] => rfl
      | [x] => simp [copyInto]
      | x :: y :: buffer =>
        rw [copyInto_cons, copyInto_cons, Option.map_map, ← ih]
        rfl
    · match buffer with
      | [] => rfl
      | x :: buffer =>
        rw [copyInto_cons, ← ih]

theorem encodeInto_eq (raw : Bytes) (code : StartCode) (escaping : Bool) (buffer : Bytes) :
    encodeInto raw code escaping buffer = copyInto (encodedForm raw code escaping) buffer := by
  rw [encodeInto, encodedForm, copyInto_append, Option.bind_eq_bind]
  congr 1
  funext head
  cases escaping with
  | false =>
    cases copied : copyInto raw head.back <;> simp [copied]
  | true =>
    rw [if_pos rfl, if_pos rfl, escapeInto_eq, ← escape]
    cases copied : copyInto (escape raw) head.back <;> rfl

theorem length_encodedForm_le (raw : Bytes) (code : StartCode) (escaping : Bool) :
    (encodedForm raw code escaping).length ≤ worstLength code.length raw.length := by
  have bound := length_escapeAfter_le 0 raw
  cases escaping <;> simp [encodedForm, worstLength, escape, StartCode.length] <;> omega

/-- `encode` gives the finished form, whichever of its two buffers holds it. -/
theorem encode_eq (raw : Bytes) (code : StartCode) (escaping : Bool) :
    encode raw code escaping = .ok (encodedForm raw code escaping) := by
  have fits : (encodedForm raw code escaping).length ≤
      (Bytes.zeros (worstLength code.length raw.length)).length := by
    rw [Bytes.length_zeros]
    exact length_encodedForm_le raw code escaping
  unfold encode
  simp only [encodeInto_eq, copyInto, if_pos fits]
  split
  · next written found =>
    split at found
    · cases found
      rfl
    · cases found
  · rfl

/-! ## The bijection -/

/-- Escaping is a bijection from all octet strings to the escaped ones, and a start code in front
of the result is found again. Reading gives the payload back, whether it is built, counted or
appended; and an octet string is the escaped form of something just if no zeros in it stand
before the wrong octet, and then it is the escaped form of what reading it gives. -/
theorem encode_bijective :
    (∀ raw code, ∃ encoded, encode raw code true = .ok encoded ∧
      StartCode.detect encoded = code ∧
      unescape (encoded.drop code.length) = raw ∧
      unescapedLength (encoded.drop code.length) = raw.length ∧
      ∀ out, appendUnescaped out (encoded.drop code.length) = out ++ raw) ∧
    (∀ escaped, (∃ raw, encode raw .none true = .ok escaped) ↔ IsEscaped escaped) ∧
    ∀ escaped, IsEscaped escaped ↔ encode (unescape escaped) .none true = .ok escaped := by
  have image : ∀ raw escaped, encode raw .none true = .ok escaped ↔ escape raw = escaped := by
    intro raw escaped
    rw [encode_eq, Except.ok.injEq, encodedForm, if_pos rfl]
    rfl
  refine ⟨fun raw code => ⟨encodedForm raw code true, encode_eq raw code true,
    detect_encodedForm raw code, ?_⟩, fun escaped => ?_, fun escaped => ?_⟩
  · have body : (encodedForm raw code true).drop code.length = escape raw :=
      List.drop_left
    have back : unescape (escape raw) = raw := unescapeAfter_escapeAfter 0 raw
    rw [body, unescapedLength_eq, back]
    exact ⟨rfl, rfl, fun out => by rw [appendUnescaped_eq, back]⟩
  · constructor
    · rintro ⟨raw, encoded⟩
      exact (image raw escaped).mp encoded ▸ isEscaped_escape raw
    · intro h
      exact ⟨unescape escaped, (image _ _).mpr (escape_unescape h)⟩
  · rw [image]
    constructor
    · exact escape_unescape
    · intro same
      exact same ▸ isEscaped_escape (unescape escaped)

end Footage.AnnexB
