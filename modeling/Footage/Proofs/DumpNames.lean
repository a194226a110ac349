import Footage.Packet.Dump
import Mathlib.Data.List.TakeDrop

/-!
# Names of dump files

A dump file's name is read back as it was written, however many digits its numbers have.

* `digitsValue_padded`: zeros in front do not change a number.
* `fields?_format`: a name comes apart at its marks into the three texts that it was made of.
* `parse?_format`: numbers that fit in 64 bits are read back.
* `format_injective`: different names have different texts, whatever their numbers are.
-/

namespace Footage.DumpName

/-! ## Numbers -/

theorem isDigit_of_mem_padded {width n : Nat} {c : Char} (among : c ∈ padded width n) :
    c.isDigit = true := by
  unfold padded at among
  rcases List.mem_append.mp among with zero | digit
  · rw [List.eq_of_mem_replicate zero]
    rfl
  · exact Nat.isDigit_of_mem_toDigits (by decide) (by decide) digit

theorem padded_ne_nil (width n : Nat) : padded width n ≠ [] := by
  intro nothing
  unfold padded at nothing
  exact Nat.toDigits_ne_nil (List.append_eq_nil_iff.mp nothing).2

theorem digitsValue_padded (width n : Nat) : Decimal.digitsValue (padded width n) = n := by
  show Nat.ofDigitChars 10 (padded width n) 0 = n
  rw [padded, Nat.ofDigitChars_append, Nat.ofDigitChars_replicate_zero, Nat.mul_zero,
    Nat.ofDigitChars_ten_toDigits]

theorem padded_injective {width m n : Nat} (same : padded width m = padded width n) : m = n := by
  rw [← digitsValue_padded width m, same, digitsValue_padded]

theorem whole?_padded {width n : Nat} (fits : FitsIn 64 n) :
    Decimal.whole? (padded width n) = some n := by
  have digits : (padded width n).any (!·.isDigit) = false := by
    rw [List.any_eq_false]
    intro c among
    simp [isDigit_of_mem_padded among]
  have value := digitsValue_padded width n
  cases text : padded width n with
  | nil => exact absurd text (padded_ne_nil width n)
  | cons c rest =>
    have first : c.isDigit = true := isDigit_of_mem_padded (text ▸ List.mem_cons_self)
    rw [text] at digits value
    unfold Decimal.whole?
    split
    next plus =>
      cases plus
      cases first
    next => simp [digits, value, fits]

/-! ## Marks -/

/-- A mark that a text does not contain is found right behind it. -/
theorem span_append {mark : Char} {front : List Char} (unmarked : mark ∉ front)
    (back : List Char) : (front ++ mark :: back).span (· ≠ mark) = (front, mark :: back) := by
  have kept : ∀ c ∈ front, decide (c ≠ mark) = true := by
    intro c among
    exact decide_eq_true fun same => unmarked (same ▸ among)
  rw [List.span_eq_takeWhile_dropWhile, List.takeWhile_append_of_pos kept,
    List.dropWhile_append_of_pos kept]
  simp

theorem cut?_append {mark : Char} {front : List Char} (unmarked : mark ∉ front)
    (back : List Char) : cut? mark (front ++ mark :: back) = some (front, back) := by
  rw [cut?, span_append unmarked]

theorem dropEnding?_append (stem ending : List Char) :
    dropEnding? ending (stem ++ ending) = some stem := by
  unfold dropEnding?
  rw [if_pos (List.isSuffixOf_iff_suffix.mpr (List.suffix_append _ _))]
  simp

theorem not_mem_padded {mark : Char} (noDigit : mark.isDigit = false) (width n : Nat) :
    mark ∉ padded width n := by
  intro among
  rw [isDigit_of_mem_padded among] at noDigit
  cases noDigit

/-! ## Names -/

/-- The three numbers of a name as texts. -/
def fields? (name : List Char) : Option (List Char × List Char × List Char) := do
  let stem ← dropEnding? ".raw".toList name
  let (indices, nanos) ← cut? '.' stem
  let (packet, unit) ← cut? '-' indices
  return (packet, unit, nanos)

theorem parse?_eq (name : String) :
    parse? name = (fields? name.toList).bind fun (packet, unit, nanos) => do
      return ⟨← Decimal.whole? packet, ← Decimal.whole? unit, ← Decimal.whole? nanos⟩ := by
  unfold parse? fields?
  simp only [Option.bind_eq_bind, Option.bind_assoc]
  rfl

theorem toList_format (name : DumpName) :
    name.format.toList = padded 3 name.packet ++ '-' :: padded 3 name.unit ++
      '.' :: padded 12 name.nanos ++ ".raw".toList :=
  String.toList_ofList

theorem fields?_format (name : DumpName) :
    fields? name.format.toList =
      some (padded 3 name.packet, padded 3 name.unit, padded 12 name.nanos) := by
  have indices : '.' ∉ padded 3 name.packet ++ '-' :: padded 3 name.unit := by
    intro among
    rcases List.mem_append.mp among with packet | unit
    · exact not_mem_padded rfl _ _ packet
    · rcases List.mem_cons.mp unit with mark | unit
      · cases mark
      · exact not_mem_padded rfl _ _ unit
  rw [fields?, toList_format, dropEnding?_append]
  show (cut? '.' _).bind _ = _
  rw [cut?_append indices]
  show (cut? '-' _).bind _ = _
  rw [cut?_append (not_mem_padded rfl _ _)]
  rfl

/-- Numbers that fit in 64 bits are read back. -/
theorem parse?_format {name : DumpName} (packet : FitsIn 64 name.packet)
    (unit : FitsIn 64 name.unit) (nanos : FitsIn 64 name.nanos) :
    parse? name.format = some name := by
  rw [parse?_eq, fields?_format]
  simp only [Option.bind_some, whole?_padded packet, whole?_padded unit, whole?_padded nanos]
  rfl

/-- Different names have different texts. -/
theorem format_injective {a b : DumpName} (same : a.format = b.format) : a = b := by
  have fields := fields?_format a
  rw [same, fields?_format, Option.some.injEq, Prod.mk.injEq, Prod.mk.injEq] at fields
  obtain ⟨packet, unit, nanos⟩ := fields
  obtain ⟨packet', unit', nanos'⟩ := a
  rw [DumpName.mk.injEq]
  exact ⟨(padded_injective packet).symm, (padded_injective unit).symm,
    (padded_injective nanos).symm⟩

/-- A text ends in a point and an extension if more than the point stands in front of it. -/
theorem hasExtension_append {stem : List Char} {extension : String} (more : stem ≠ [])
    (pointless : '.' ∉ extension.toList) :
    hasExtension extension (String.ofList (stem ++ '.' :: extension.toList)) = true := by
  have backwards : (stem ++ '.' :: extension.toList).reverse =
      extension.toList.reverse ++ '.' :: stem.reverse := by simp
  have behind : '.' ∉ extension.toList.reverse := by simpa using pointless
  unfold hasExtension
  dsimp only
  rw [String.toList_ofList, backwards, span_append behind]
  simp [more]

theorem isDumpFile_format (name : DumpName) : isDumpFile name.format = true := by
  refine hasExtension_append ?_ ?_
  · intro nothing
    exact padded_ne_nil 3 name.packet (List.append_eq_nil_iff.mp
      (List.append_eq_nil_iff.mp nothing).1).1
  · decide

end Footage.DumpName
