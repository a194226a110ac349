import Footage.Export.Mp4.Writer
import Footage.Proofs.BoxReader
import Mathlib.Data.List.Chain

/-!
# Sample tables at the reader

What is known of the samples of a file stands in five tables, each a box of numbers. A reader finds
them by the kinds of the boxes around them, and takes a table only if it is as long as it says.

* `entriesAt`, `readTable`: the reader. `SampleTable`: what it learns.
* `expand_runs`: runs of equal numbers stand for the numbers.
* `total_durations`: where times rise gently, the durations tell them.
* `mem_syncNumbers`, `pairwise_syncNumbers`: the numbers of keyframes.
* `Movie.readTable_foundFile`: the reader learns what the movie box was made of.
-/

namespace Footage.Mp4

/-! ## The reader -/

namespace Found

def kind : Found → Bytes
  | mk kind _ _ => kind

def content : Found → Bytes
  | mk _ content _ => content

def children : Found → List Found
  | mk _ _ children => children

end Found

/-- The content of the box at the end of a path of kinds. -/
def contentAt : (path : List String) → List Found → Option Bytes
  | [], _ => none
  | kind :: path, boxes => do
    let box ← boxes.find? (·.kind = Bytes.ofLatin kind)
    if path = [] then some box.content else contentAt path box.children

def readWords : Bytes → Option (List Nat)
  | [] => some []
  | a :: b :: c :: d :: rest => (readWords rest).map (Bytes.toNat [a, b, c, d] :: ·)
  | _ => none

/-- The entries of `width` numbers each behind their count, and nothing else. -/
def readEntries (width : Nat) : List Nat → Option (List Nat)
  | count :: entries => if entries.length = width * count then some entries else none
  | [] => none

/-- The entries of a sample table in a file. In front of their count stand `zeros` zeros, the first
of them for the version. -/
def entriesAt (file : List Found) (kind : String) (zeros width : Nat) : Option (List Nat) := do
  let words ← readWords (← contentAt ["moov", "trak", "mdia", "minf", "stbl", kind] file)
  if words.take zeros = List.replicate zeros 0 then readEntries width (words.drop zeros) else none

/-- Numbers as runs: each value behind its count. -/
def readRuns : List Nat → Option (List Nat)
  | [] => some []
  | count :: value :: rest => (readRuns rest).map (List.replicate count value ++ ·)
  | _ => none

/-- What a reader learns of the samples of a file. -/
structure SampleTable where
  /-- How long each sample lasts. -/
  durations : List Nat
  /-- The numbers of the samples at which decoding can start. -/
  syncNumbers : List Nat
  /-- How many samples the one chunk holds. -/
  samplesInChunk : Nat
  sizes : List Nat
  /-- Where in the file the chunk starts. -/
  offset : Nat

def readTable (file : List Found) : Option SampleTable := do
  let durations ← readRuns (← entriesAt file "stts" 1 2)
  let syncNumbers ← entriesAt file "stss" 1 1
  let [1, samplesInChunk, 1] ← entriesAt file "stsc" 1 3 | none
  let sizes ← entriesAt file "stsz" 2 1
  let [offset] ← entriesAt file "stco" 1 1 | none
  return { durations, syncNumbers, samplesInChunk, sizes, offset }

/-! ## Words -/

theorem readWords_words {numbers : List Nat} (fit : ∀ n ∈ numbers, FitsIn 32 n) :
    readWords (numbers.flatMap word) = some numbers := by
  induction numbers with
  | nil => rfl
  | cons n rest ih =>
    have same : Bytes.toNat (word n) = n := by
      rw [word, Bytes.toNat_bigEndian]
      exact Nat.mod_eq_of_lt (fit n List.mem_cons_self)
    have step : readWords (word n ++ rest.flatMap word) =
        (readWords (rest.flatMap word)).map (Bytes.toNat (word n) :: ·) := rfl
    rw [List.flatMap_cons, step, same, ih fun later isIn => fit later (List.mem_cons_of_mem _ isIn)]
    rfl

def tableWords (zeros : Nat) (rows : List (List Nat)) : List Nat :=
  List.replicate zeros 0 ++ rows.length :: rows.flatten

theorem counted_eq (rows : List (List Nat)) :
    counted (rows.map (·.flatMap word)) = (rows.length :: rows.flatten).flatMap word := by
  rw [counted, List.length_map, List.flatMap_cons]
  congr 1
  induction rows with
  | nil => rfl
  | cons row rows ih => simp [ih]

theorem entriesAt_eq {file : List Found} {kind : String} {zeros width : Nat}
    {rows : List (List Nat)}
    (written : contentAt ["moov", "trak", "mdia", "minf", "stbl", kind] file =
      some ((tableWords zeros rows).flatMap word))
    (count : FitsIn 32 rows.length) (wide : ∀ row ∈ rows, row.length = width)
    (fit : ∀ row ∈ rows, ∀ n ∈ row, FitsIn 32 n) :
    entriesAt file kind zeros width = some rows.flatten := by
  have words : ∀ n ∈ tableWords zeros rows, FitsIn 32 n := by
    intro n isIn
    rw [tableWords, List.mem_append, List.mem_cons, List.mem_replicate, List.mem_flatten] at isIn
    obtain ⟨-, rfl⟩ | rfl | ⟨row, isRow, isIn⟩ := isIn
    · decide
    · exact count
    · exact fit row isRow n isIn
  have length : rows.flatten.length = width * rows.length := by
    clear written count words fit
    induction rows with
    | nil => rfl
    | cons row rows ih =>
      rw [List.flatten_cons, List.length_append, List.length_cons, Nat.mul_succ,
        wide row List.mem_cons_self, ih fun other isIn => wide other (List.mem_cons_of_mem _ isIn)]
      omega
  have zerosFirst : (tableWords zeros rows).take zeros = List.replicate zeros 0 :=
    List.take_left' List.length_replicate
  have rest : (tableWords zeros rows).drop zeros = rows.length :: rows.flatten :=
    List.drop_left' List.length_replicate
  simp only [entriesAt, written, Option.bind_eq_bind, Option.bind_some, readWords_words words,
    zerosFirst, rest, readEntries, length, if_true]

theorem versioned_counted (rows : List (List Nat)) :
    Box.versioned 0 (counted (rows.map (·.flatMap word))) = (tableWords 1 rows).flatMap word := by
  rw [counted_eq]
  rfl

theorem versioned_zero_counted (rows : List (List Nat)) :
    Box.versioned 0 (word 0 ++ counted (rows.map (·.flatMap word))) =
      (tableWords 2 rows).flatMap word := by
  rw [counted_eq]
  rfl

/-! ## Runs -/

/-- A number goes into the run in front if it is equal, else into a run of its own. -/
theorem runs_cons (value : Nat) (rest : List Nat) :
    (∃ count more, runs rest = (count, value) :: more ∧
      runs (value :: rest) = (count + 1, value) :: more) ∨
    runs (value :: rest) = (1, value) :: runs rest := by
  rw [runs]
  cases runs rest with
  | nil => exact .inr rfl
  | cons run more =>
    obtain ⟨count, next⟩ := run
    by_cases same : next = value
    · subst same
      exact .inl ⟨count, more, rfl, if_pos rfl⟩
    · exact .inr (if_neg same)

theorem expand_runs (list : List Nat) :
    (runs list).flatMap (fun run => List.replicate run.1 run.2) = list := by
  induction list with
  | nil => rfl
  | cons value rest ih =>
    obtain ⟨count, more, front, joined⟩ | apart := runs_cons value rest
    · rw [front, List.flatMap_cons] at ih
      rw [joined, List.flatMap_cons, List.replicate_succ, List.cons_append, ih]
    · rw [apart, List.flatMap_cons, ih]
      rfl

theorem length_runs_le (list : List Nat) : (runs list).length ≤ list.length := by
  induction list with
  | nil => exact Nat.le_refl 0
  | cons value rest ih =>
    obtain ⟨count, more, front, joined⟩ | apart := runs_cons value rest
    · rw [front] at ih
      rw [joined]
      exact Nat.le_succ_of_le ih
    · rw [apart]
      exact Nat.succ_le_succ ih

/-- A run counts some of the numbers, and its value is one of them. -/
theorem mem_runs {list : List Nat} :
    ∀ run ∈ runs list, run.1 ≤ list.length ∧ run.2 ∈ list := by
  induction list with
  | nil => exact fun _ isIn => absurd isIn List.not_mem_nil
  | cons value rest ih =>
    have longer : ∀ run ∈ runs rest, run.1 ≤ (value :: rest).length ∧ run.2 ∈ value :: rest :=
      fun run isIn => ⟨Nat.le_succ_of_le (ih run isIn).1, List.mem_cons_of_mem _ (ih run isIn).2⟩
    intro run isIn
    obtain ⟨count, more, front, joined⟩ | apart := runs_cons value rest
    · rw [joined] at isIn
      rw [front] at ih longer
      obtain rfl | isIn := List.mem_cons.1 isIn
      · exact ⟨Nat.succ_le_succ (ih _ List.mem_cons_self).1, List.mem_cons_self⟩
      · exact longer run (List.mem_cons_of_mem _ isIn)
    · rw [apart] at isIn
      obtain rfl | isIn := List.mem_cons.1 isIn
      · exact ⟨Nat.succ_le_succ (Nat.zero_le _), List.mem_cons_self⟩
      · exact longer run isIn

theorem readRuns_eq (list : List (Nat × Nat)) :
    readRuns (list.map fun run => [run.1, run.2]).flatten =
      some (list.flatMap fun run => List.replicate run.1 run.2) := by
  induction list with
  | nil => rfl
  | cons run rest ih =>
    rw [List.map_cons, List.flatten_cons, List.cons_append, List.cons_append, List.nil_append,
      readRuns, ih]
    rfl

/-! ## Durations and keyframes -/

/-- The gaps between the samples, and one more duration for the last. -/
theorem durations_cons (s : Sample) (rest : List Sample) :
    durations (s :: rest) =
      List.zipWith gap (s.time :: rest.map (·.time)) (rest.map (·.time)) ++
        [(List.zipWith gap (s.time :: rest.map (·.time)) (rest.map (·.time))).getLast?.getD
          defaultDuration] := rfl

theorem length_durations (samples : List Sample) : (durations samples).length = samples.length := by
  cases samples with
  | nil => rfl
  | cons s rest => simp [durations_cons]

theorem gap_fits (earlier later : Nat) : FitsIn 32 (gap earlier later) := by
  have : 0 < wordLimit 32 := by decide
  unfold gap FitsIn
  omega

theorem durations_fit (samples : List Sample) : ∀ d ∈ durations samples, FitsIn 32 d := by
  have gaps : ∀ (times later : List Nat), ∀ d ∈ List.zipWith gap times later, FitsIn 32 d := by
    intro times later d isIn
    obtain ⟨i, inside, rfl⟩ := List.mem_iff_getElem.1 isIn
    rw [List.getElem_zipWith]
    exact gap_fits _ _
  intro d isIn
  cases samples with
  | nil => exact absurd isIn List.not_mem_nil
  | cons s rest =>
    rw [durations_cons] at isIn
    obtain isGap | isLast := List.mem_append.1 isIn
    · exact gaps _ _ d isGap
    · obtain rfl := List.mem_singleton.1 isLast
      cases last :
          (List.zipWith gap (s.time :: rest.map (·.time)) (rest.map (·.time))).getLast? with
      | none => exact (by decide : FitsIn 32 defaultDuration)
      | some d => exact gaps _ _ d (List.mem_of_getLast? last)

/-- Times that rise, by less than a duration can tell. -/
def RiseGently (times : List Nat) : Prop :=
  times.IsChain fun earlier later => earlier < later ∧ FitsIn 32 (later - earlier)

theorem gap_eq {earlier later : Nat} (rises : earlier < later)
    (fits : FitsIn 32 (later - earlier)) : gap earlier later = later - earlier := by
  unfold gap
  unfold FitsIn at fits
  omega

theorem total_gaps {time : Nat} {later : List Nat} (gentle : RiseGently (time :: later)) {i t : Nat}
    (at_i : (time :: later)[i]? = some t) :
    time + total ((List.zipWith gap (time :: later) later).take i) = t := by
  induction i generalizing time later with
  | zero =>
    cases at_i
    rfl
  | succ i ih =>
    cases later with
    | nil => cases at_i
    | cons next later =>
      obtain ⟨⟨rises, fits⟩, gentle⟩ := List.isChain_cons_cons.1 gentle
      have rest := ih gentle at_i
      rw [List.zipWith_cons_cons, List.take_succ_cons, total, gap_eq rises fits]
      omega

/-- The samples before a sample last until it is shown. -/
theorem total_durations {samples : List Sample} {first s : Sample} {i : Nat}
    (gentle : RiseGently (samples.map (·.time))) (at_0 : samples[0]? = some first)
    (at_i : samples[i]? = some s) : first.time + total ((durations samples).take i) = s.time := by
  cases samples with
  | nil => cases at_0
  | cons s' rest =>
    obtain rfl : s' = first := Option.some.inj at_0
    have inside : i < (s' :: rest).length := (List.getElem?_eq_some_iff.1 at_i).1
    have timeAt : (s'.time :: rest.map (·.time))[i]? = some s.time := by
      rw [← List.map_cons, List.getElem?_map, at_i]
      rfl
    -- the last duration is made up, but it comes after the last sample was shown
    have sameTake : (durations (s' :: rest)).take i =
        (List.zipWith gap (s'.time :: rest.map (·.time)) (rest.map (·.time))).take i := by
      refine List.take_append_of_le_length ?_
      simp at inside ⊢
      omega
    rw [sameTake]
    exact total_gaps gentle timeAt

theorem mem_syncNumbers {samples : List Sample} {n : Nat} :
    n ∈ syncNumbers samples ↔
      ∃ i s, samples[i]? = some s ∧ s.isKeyframe = true ∧ n = i + 1 := by
  constructor
  · intro isIn
    obtain ⟨⟨s, i⟩, isKept, rfl⟩ := List.mem_map.1 isIn
    obtain ⟨isAt, isKeyframe⟩ := List.mem_filter.1 isKept
    exact ⟨i, s, List.mem_zipIdx_iff_getElem?.1 isAt, isKeyframe, rfl⟩
  · rintro ⟨i, s, isAt, isKeyframe, rfl⟩
    refine List.mem_map.2 ⟨(s, i), List.mem_filter.2 ⟨?_, isKeyframe⟩, rfl⟩
    exact List.mem_zipIdx_iff_getElem?.2 isAt

theorem syncNumbers_le {samples : List Sample} : ∀ n ∈ syncNumbers samples, n ≤ samples.length := by
  intro n isIn
  obtain ⟨i, s, isAt, -, rfl⟩ := mem_syncNumbers.1 isIn
  exact (List.getElem?_eq_some_iff.1 isAt).1

theorem length_syncNumbers_le (samples : List Sample) :
    (syncNumbers samples).length ≤ samples.length := by
  rw [syncNumbers, List.length_map]
  exact (List.length_filter_le _ _).trans_eq List.length_zipIdx

theorem pairwise_syncNumbers (samples : List Sample) : (syncNumbers samples).Pairwise (· < ·) := by
  have indices : (samples.zipIdx.map Prod.snd).Pairwise (· < ·) := by
    rw [List.zipIdx_map_snd]
    exact List.pairwise_lt_range'
  have kept : ((samples.zipIdx.filter (·.1.isKeyframe)).map Prod.snd).Pairwise (· < ·) :=
    indices.sublist (List.filter_sublist.map Prod.snd)
  have numbers : syncNumbers samples =
      ((samples.zipIdx.filter (·.1.isKeyframe)).map Prod.snd).map (· + 1) := by
    rw [syncNumbers, List.map_map]
    rfl
  rw [numbers]
  exact kept.map _ fun a b below => Nat.succ_lt_succ below

theorem head?_syncNumbers {s : Sample} {rest : List Sample} (isKeyframe : s.isKeyframe = true) :
    (syncNumbers (s :: rest)).head? = some 1 := by
  simp [syncNumbers, isKeyframe]

/-! ## Tables of a movie -/

def foundFile (m : Movie) (data : Bytes) : List Found :=
  Box.foundAll [fileType, .leaf "mdat" data, m.box]

theorem map_singleton_words (numbers : List Nat) :
    numbers.map word = (numbers.map fun n => [n]).map (·.flatMap word) := by
  simp

/-- The movie's samples can be told in its tables. -/
structure Movie.Fits (m : Movie) : Prop where
  count : FitsIn 32 m.samples.length
  sizes : ∀ s ∈ m.samples, FitsIn 32 s.data.length
  offset : FitsIn 32 m.offset

namespace Movie

variable {m : Movie}

theorem entriesAt_timeToSample (fits : m.Fits) (data : Bytes) :
    entriesAt (foundFile m data) "stts" 1 2 =
      some ((runs (durations m.samples)).map fun run => [run.1, run.2]).flatten := by
  have rows : (runs (durations m.samples)).map (fun run => word run.1 ++ word run.2) =
      ((runs (durations m.samples)).map fun run => [run.1, run.2]).map (·.flatMap word) := by
    simp
  have count := fits.count
  -- there are no more runs than samples, so their count has room too
  have few := length_runs_le (durations m.samples)
  rw [length_durations] at few
  refine entriesAt_eq ?_ ?_ ?_ ?_
  · rw [← versioned_counted, ← rows]
    rfl
  · rw [List.length_map]
    exact Nat.lt_of_le_of_lt few count
  · intro row isRow
    obtain ⟨run, -, rfl⟩ := List.mem_map.1 isRow
    rfl
  · intro row isRow n isIn
    obtain ⟨run, isRun, rfl⟩ := List.mem_map.1 isRow
    obtain ⟨counted, isValue⟩ := mem_runs run isRun
    rw [length_durations] at counted
    obtain rfl | isIn := List.mem_cons.1 isIn
    · exact Nat.lt_of_le_of_lt counted count
    · obtain rfl := List.mem_singleton.1 isIn
      exact durations_fit m.samples _ isValue

theorem entriesAt_numbers {file : List Found} {kind : String} {zeros : Nat} {numbers : List Nat}
    (written : contentAt ["moov", "trak", "mdia", "minf", "stbl", kind] file =
      some ((tableWords zeros (numbers.map fun n => [n])).flatMap word))
    (count : FitsIn 32 numbers.length) (fit : ∀ n ∈ numbers, FitsIn 32 n) :
    entriesAt file kind zeros 1 = some numbers := by
  have rows : (numbers.map fun n => [n]).flatten = numbers := by
    rw [← List.flatMap_def]
    exact List.flatMap_singleton' numbers
  rw [← rows]
  refine entriesAt_eq written (by rwa [List.length_map]) ?_ ?_
  · intro row isRow
    obtain ⟨n, -, rfl⟩ := List.mem_map.1 isRow
    rfl
  · intro row isRow n isIn
    obtain ⟨number, isNumber, rfl⟩ := List.mem_map.1 isRow
    obtain rfl := List.mem_singleton.1 isIn
    exact fit n isNumber

theorem entriesAt_syncSamples (fits : m.Fits) (data : Bytes) :
    entriesAt (foundFile m data) "stss" 1 1 = some (syncNumbers m.samples) := by
  refine entriesAt_numbers ?_ ?_ ?_
  · rw [← versioned_counted, ← map_singleton_words]
    rfl
  · exact Nat.lt_of_le_of_lt (length_syncNumbers_le m.samples) fits.count
  · exact fun n isIn => Nat.lt_of_le_of_lt (syncNumbers_le n isIn) fits.count

theorem entriesAt_sampleToChunk (fits : m.Fits) (data : Bytes) :
    entriesAt (foundFile m data) "stsc" 1 3 = some [1, m.samples.length, 1] := by
  have row : [word 1 ++ word m.samples.length ++ word 1] =
      [[1, m.samples.length, 1]].map (·.flatMap word) := by
    simp
  show _ = some [[1, m.samples.length, 1]].flatten
  refine entriesAt_eq ?_ (show 1 < wordLimit 32 by decide) (by simp) ?_
  · rw [← versioned_counted, ← row]
    rfl
  · intro row isRow n isIn
    obtain rfl := List.mem_singleton.1 isRow
    simp only [List.mem_cons, List.not_mem_nil, or_false] at isIn
    obtain rfl | rfl | rfl := isIn
    · decide
    · exact fits.count
    · decide

theorem entriesAt_sampleSizes (fits : m.Fits) (data : Bytes) :
    entriesAt (foundFile m data) "stsz" 2 1 = some (m.samples.map (·.data.length)) := by
  refine entriesAt_numbers ?_ ?_ ?_
  · rw [← versioned_zero_counted, ← map_singleton_words, List.map_map]
    rfl
  · rw [List.length_map]
    exact fits.count
  · intro n isIn
    obtain ⟨s, isSample, rfl⟩ := List.mem_map.1 isIn
    exact fits.sizes s isSample

theorem entriesAt_chunkOffsets (fits : m.Fits) (data : Bytes) :
    entriesAt (foundFile m data) "stco" 1 1 = some [m.offset] := by
  refine entriesAt_numbers ?_ (show 1 < wordLimit 32 by decide) ?_
  · rw [← versioned_counted, ← map_singleton_words]
    rfl
  · intro n isIn
    obtain rfl := List.mem_singleton.1 isIn
    exact fits.offset

def table (m : Movie) : SampleTable where
  durations := durations m.samples
  syncNumbers := syncNumbers m.samples
  samplesInChunk := m.samples.length
  sizes := m.samples.map (·.data.length)
  offset := m.offset

theorem readTable_foundFile (fits : m.Fits) (data : Bytes) :
    readTable (foundFile m data) = some m.table := by
  simp only [readTable, entriesAt_timeToSample fits, entriesAt_syncSamples fits,
    entriesAt_sampleToChunk fits, entriesAt_sampleSizes fits, entriesAt_chunkOffsets fits,
    Option.bind_eq_bind, Option.bind_some, readRuns_eq, expand_runs]
  rfl

end Movie

end Footage.Mp4
