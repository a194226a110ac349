import Footage.Proofs.DumpNames
import Footage.Proofs.Effects
import Mathlib.Data.List.Nodup
import Mathlib.Data.List.Perm.Basic

/-!
# A dump is read back

Writing a dump into a directory and reading the directory again gives the packets back that have
NAL units, with raw payloads. Everything follows from the units with their names in the order of the
buffer (`dumpedUnits`): their names go up by packet and place, so no two are the same, and sorting
brings any listing of them back into this order.

* `dumpInto_eq`: what the directory holds after the dump.
* `ofDump_dumped`: what is read from any listing of it.
* `dump_roundTrip`: both together.
-/

namespace Footage

/-! ## Writing -/

namespace Directory

def allInReach (_ : String) : Except IoError Unit := .ok ()

/-- Files are taken away one by one. -/
theorem forM_erase (names : List String) (dir : Directory) :
    (names.forM fun name => do
        liftM (allInReach name)
        modify (·.erase (· = name)) : Effect Directory IoError Unit) dir =
      (.ok (), dir.filter fun file => !names.contains file.1) := by
  induction names generalizing dir with
  | nil =>
    have all : dir.filter (fun file => !List.contains [] file.1) = dir :=
      List.filter_eq_self.mpr fun _ _ => rfl
    rw [all]
    rfl
  | cons name names ih =>
    show (names.forM _ : Effect Directory IoError Unit) (dir.erase (· = name)) = _
    rw [ih]
    simp [erase, List.filter_filter, Bool.and_comm]

/-- Files are written one by one behind those that stay. -/
theorem foldlM_insert (files : Directory) (written : Nat) (dir : Directory)
    (distinct : ((dir ++ files).map (·.1)).Nodup) :
    (files.foldlM (fun written (name, content) => do
        liftM (allInReach name)
        modify (·.insert name content)
        return written + 1) written : Effect Directory IoError Nat) dir =
      (.ok (written + files.length), dir ++ files) := by
  induction files generalizing written dir with
  | nil => simp [List.foldlM]
  | cons file files ih =>
    obtain ⟨name, content⟩ := file
    show (files.foldlM _ (written + 1) : Effect Directory IoError Nat) (dir.insert name content) = _
    have new : dir.erase (· = name) = dir := by
      refine List.filter_eq_self.mpr fun file among => ?_
      have apart := (List.nodup_append.mp (List.map_append ▸ distinct)).2.2 file.1
        (List.mem_map_of_mem among) name (List.mem_map_of_mem List.mem_cons_self)
      simpa using apart
    have behind : dir.insert name content ++ files = dir ++ (name, content) :: files := by
      rw [insert, new, List.append_assoc, List.singleton_append]
    rw [ih _ _ (behind ▸ distinct), behind, List.length_cons, Nat.add_assoc, Nat.add_comm 1]

end Directory

/-! ## The files of a dump -/

/-- The first name tells an earlier packet, or an earlier place in the same packet. -/
def DumpName.Precedes (a b : DumpName) : Prop :=
  a.packet < b.packet ∨ a.packet = b.packet ∧ a.unit < b.unit

/-- The raw payloads of NAL units of one packet, each with what the name of its file tells. The
first unit has the place `place`. -/
def dumpedFrom (packet nanos place : Nat) : List NalUnit → List (DumpName × Bytes)
  | [] => []
  | unit :: rest =>
    (⟨packet, place, nanos⟩, unit.toRaw.payload) :: dumpedFrom packet nanos (place + 1) rest

def dumpedUnits (first : Nat) : List Packet → List (DumpName × Bytes)
  | [] => []
  | p :: rest =>
    dumpedFrom first (p.pts.nanos % wordLimit 64) 0 p.units ++ dumpedUnits (first + 1) rest

theorem dumpedFrom_eq (packet nanos place : Nat) (units : List NalUnit) :
    dumpedFrom packet nanos place units = (units.zipIdx place).map fun (unit, index) =>
      (⟨packet, index, nanos⟩, unit.toRaw.payload) := by
  induction units generalizing place with
  | nil => rfl
  | cons unit rest ih => rw [dumpedFrom, ih, List.zipIdx_cons, List.map_cons]

theorem map_dumpedUnits (first : Nat) (packets : List Packet) :
    ((dumpedUnits first packets).map fun (name, content) => (name.format, content)) =
      (packets.zipIdx first).flatMap fun (p, packet) => p.units.zipIdx.map fun (unit, index) =>
        ((DumpName.mk packet index (p.pts.nanos % wordLimit 64)).format, unit.toRaw.payload) := by
  induction packets generalizing first with
  | nil => rfl
  | cons p rest ih =>
    rw [List.zipIdx_cons, List.flatMap_cons, dumpedUnits, List.map_append, ih, dumpedFrom_eq,
      List.map_map]
    rfl

theorem PacketBuffer.dumpFiles_eq (buffer : PacketBuffer) :
    buffer.dumpFiles = (dumpedUnits 0 buffer.packets).map fun (name, content) =>
      (name.format, content) :=
  (map_dumpedUnits 0 buffer.packets).symm

theorem mem_dumpedFrom {packet nanos place : Nat} {units : List NalUnit} {file : DumpName × Bytes}
    (among : file ∈ dumpedFrom packet nanos place units) :
    file.1.packet = packet ∧ file.1.nanos = nanos ∧ place ≤ file.1.unit ∧
      file.1.unit < place + units.length := by
  induction units generalizing place with
  | nil => cases among
  | cons unit rest ih =>
    rw [List.length_cons]
    rcases List.mem_cons.mp among with rfl | later
    · exact ⟨rfl, rfl, Nat.le_refl _, Nat.lt_add_of_pos_right (Nat.succ_pos _)⟩
    · obtain ⟨same, time, behind, within⟩ := ih later
      exact ⟨same, time, by omega, by omega⟩

theorem mem_dumpedUnits {first : Nat} {packets : List Packet} {file : DumpName × Bytes}
    (among : file ∈ dumpedUnits first packets) :
    first ≤ file.1.packet ∧ file.1.packet < first + packets.length ∧
      FitsIn 64 file.1.nanos ∧ ∃ p ∈ packets, file.1.unit < p.units.length := by
  induction packets generalizing first with
  | nil => cases among
  | cons p rest ih =>
    rw [List.length_cons]
    rcases List.mem_append.mp among with here | later
    · obtain ⟨same, time, _, within⟩ := mem_dumpedFrom here
      refine ⟨by omega, by omega, ?_, p, List.mem_cons_self, by omega⟩
      rw [time]
      exact Nat.mod_lt _ (by decide)
    · obtain ⟨behind, within, time, q, one, place⟩ := ih later
      exact ⟨by omega, by omega, time, q, List.mem_cons_of_mem _ one, place⟩

theorem pairwise_dumpedFrom (packet nanos place : Nat) (units : List NalUnit) :
    (dumpedFrom packet nanos place units).Pairwise (·.1.Precedes ·.1) := by
  induction units generalizing place with
  | nil => exact .nil
  | cons unit rest ih =>
    refine .cons (fun file later => .inr ?_) (ih (place + 1))
    obtain ⟨same, _, behind, _⟩ := mem_dumpedFrom later
    exact ⟨same.symm, behind⟩

/-- The names go up. -/
theorem pairwise_dumpedUnits (first : Nat) (packets : List Packet) :
    (dumpedUnits first packets).Pairwise (·.1.Precedes ·.1) := by
  induction packets generalizing first with
  | nil => exact .nil
  | cons p rest ih =>
    refine List.pairwise_append.mpr ⟨pairwise_dumpedFrom .., ih (first + 1), ?_⟩
    intro file here other later
    obtain ⟨same, _⟩ := mem_dumpedFrom here
    obtain ⟨behind, _⟩ := mem_dumpedUnits later
    exact .inl (by omega)

theorem DumpName.Precedes.ne {a b : DumpName} (h : a.Precedes b) : a ≠ b := by
  rintro rfl
  unfold Precedes at h
  omega

theorem nodup_dumpFiles (buffer : PacketBuffer) : (buffer.dumpFiles.map (·.1)).Nodup := by
  rw [buffer.dumpFiles_eq, List.map_map]
  refine List.Pairwise.map _ (fun a b precedes same => ?_)
    (pairwise_dumpedUnits 0 buffer.packets)
  exact precedes.ne (DumpName.format_injective same)

theorem isDumpFile_of_mem {buffer : PacketBuffer} {file : String × Bytes}
    (among : file ∈ buffer.dumpFiles) : isDumpFile file.1 = true := by
  rw [buffer.dumpFiles_eq] at among
  obtain ⟨unit, _, rfl⟩ := List.mem_map.mp among
  exact unit.1.isDumpFile_format

theorem contents_dumpedFrom (packet nanos place : Nat) (units : List NalUnit) :
    (dumpedFrom packet nanos place units).map (·.2) = units.map (·.toRaw.payload) := by
  induction units generalizing place with
  | nil => rfl
  | cons unit rest ih => rw [dumpedFrom, List.map_cons, ih, List.map_cons]

theorem contents_dumpedUnits (first : Nat) (packets : List Packet) :
    (dumpedUnits first packets).map (·.2) =
      (packets.flatMap (·.units)).map (·.toRaw.payload) := by
  induction packets generalizing first with
  | nil => rfl
  | cons p rest ih =>
    rw [dumpedUnits, List.map_append, contents_dumpedFrom, ih, List.flatMap_cons, List.map_append]

theorem contents_dumpFiles (buffer : PacketBuffer) :
    buffer.dumpFiles.map (·.2) = (buffer.packets.flatMap (·.units)).map (·.toRaw.payload) := by
  rw [buffer.dumpFiles_eq, List.map_map]
  exact contents_dumpedUnits 0 buffer.packets

theorem length_dumpFiles (buffer : PacketBuffer) :
    buffer.dumpFiles.length = (buffer.packets.flatMap (·.units)).length := by
  simpa using congrArg List.length (contents_dumpFiles buffer)

/-! ## After the dump -/

/-- No name is there twice. -/
theorem nodup_replaced (buffer : PacketBuffer) {dir : Directory}
    (isMap : (dir.map (·.1)).Nodup) :
    ((dir.filter (!isDumpFile ·.1) ++ buffer.dumpFiles).map (·.1)).Nodup := by
  rw [List.map_append]
  refine List.nodup_append.mpr ⟨isMap.sublist (List.filter_sublist.map _),
    nodup_dumpFiles buffer, ?_⟩
  intro name other again dumped same
  obtain ⟨file, kept, rfl⟩ := List.mem_map.mp other
  obtain ⟨file', among, rfl⟩ := List.mem_map.mp dumped
  have isDump := isDumpFile_of_mem among
  rw [← same] at isDump
  simp [isDump] at kept

/-- A dump takes the place of the dump files that were there, and leaves the others alone. -/
theorem dumpInto_eq (buffer : PacketBuffer) {dir : Directory} {listed : List String}
    (all : listed.Perm (dir.map (·.1))) (isMap : (dir.map (·.1)).Nodup) :
    buffer.dumpInto Directory.allInReach listed dir =
      (.ok buffer.dumpFiles.length, dir.filter (!isDumpFile ·.1) ++ buffer.dumpFiles) := by
  have others : dir.filter (fun file => !(listed.filter isDumpFile).contains file.1) =
      dir.filter (!isDumpFile ·.1) := by
    refine List.filter_congr fun file among => ?_
    have seen : file.1 ∈ listed := all.mem_iff.mpr (List.mem_map_of_mem among)
    simp [seen]
  rw [PacketBuffer.dumpInto, Effect.bind_apply, Directory.forM_erase, others]
  refine (Directory.foldlM_insert buffer.dumpFiles 0 _ (nodup_replaced buffer isMap)).trans ?_
  rw [Nat.zero_add]

/-! ## Reading -/

section Sorting

variable {α : Type}

theorem dumpOrder_trans (a b c : DumpName × α) (first : PacketBuffer.dumpOrder a b = true)
    (second : PacketBuffer.dumpOrder b c = true) : PacketBuffer.dumpOrder a c = true := by
  simp only [PacketBuffer.dumpOrder, Bool.or_eq_true, Bool.and_eq_true, decide_eq_true_eq]
    at first second ⊢
  omega

theorem dumpOrder_total (a b : DumpName × α) :
    (PacketBuffer.dumpOrder a b || PacketBuffer.dumpOrder b a) = true := by
  simp only [PacketBuffer.dumpOrder, Bool.or_eq_true, Bool.and_eq_true, decide_eq_true_eq]
  omega

/-- Sorting brings files whose names go up back into their order. -/
theorem mergeSort_dumpOrder {files shuffled : List (DumpName × α)} (perm : shuffled.Perm files)
    (sorted : files.Pairwise (·.1.Precedes ·.1)) :
    shuffled.mergeSort PacketBuffer.dumpOrder = files := by
  have ordered : files.Pairwise fun a b => PacketBuffer.dumpOrder a b = true := by
    refine sorted.imp fun {a b} precedes => ?_
    unfold DumpName.Precedes at precedes
    simp only [PacketBuffer.dumpOrder, Bool.or_eq_true, Bool.and_eq_true, decide_eq_true_eq]
    omega
  refine List.Perm.eq_of_pairwise ?_
    (List.pairwise_mergeSort dumpOrder_trans dumpOrder_total shuffled) ordered
    ((List.mergeSort_perm ..).trans perm)
  -- files of one place are the same file, since the names of all files go up
  intro a b one other up down
  have samePlace : (a.1.packet, a.1.unit) = (b.1.packet, b.1.unit) := by
    simp only [PacketBuffer.dumpOrder, Bool.or_eq_true, Bool.and_eq_true, decide_eq_true_eq]
      at up down
    rw [Prod.mk.injEq]
    omega
  have distinct : (files.map fun file => (file.1.packet, file.1.unit)).Nodup := by
    refine List.Pairwise.map _ (fun a b precedes same => ?_) sorted
    rw [Prod.mk.injEq] at same
    unfold DumpName.Precedes at precedes
    omega
  exact List.inj_on_of_nodup_map distinct
    (perm.mem_iff.mp ((List.mergeSort_perm ..).mem_iff.mp one)) other samePlace

end Sorting

/-- A listing whose files are those of a dump, in some order, is one of the units with the names
that were given to them. -/
theorem exists_perm_of_map {α β : Type} {f : α → β} {list : List α} {shuffled : List β}
    (perm : shuffled.Perm (list.map f)) :
    ∃ before : List α, before.Perm list ∧ shuffled = before.map f := by
  have related : List.Forall₂ (fun b a => b = f a) (list.map f) list := by
    rw [List.forall₂_map_left_iff]
    exact List.forall₂_same.mpr fun _ _ => rfl
  obtain ⟨before, same, perm⟩ := List.perm_comp_forall₂ perm related
  refine ⟨before, perm, ?_⟩
  rw [← List.forall₂_eq_eq_eq, List.forall₂_map_right_iff]
  exact same

/-- No list is longer than memory can be. -/
def PacketBuffer.FitsMemory (buffer : PacketBuffer) : Prop :=
  FitsIn 63 buffer.packets.length ∧ ∀ p ∈ buffer.packets, FitsIn 63 p.units.length

theorem receiveIdOf_of_fits {index : Nat} (fits : FitsIn 63 index) :
    PacketBuffer.receiveIdOf index = index := by
  unfold PacketBuffer.receiveIdOf
  have limit : 2 * wordLimit 63 = wordLimit 64 := by decide
  exact Int.bmod_eq_of_le (by omega) (by omega)

/-- What is read of one packet, if it has NAL units. -/
def Packet.reloaded (p : Packet) (codec : Codec) (index : Nat) : Packet :=
  let pts : Duration := ⟨p.pts.nanos % wordLimit 64⟩
  { receiveId := index, codec, units := p.units.map (·.toRaw), pts, wall := .sinceEpoch pts }

/-- What is read of some packets: those that have NAL units, with their indices. -/
def reloadedFrom (codec : Codec) (first : Nat) (packets : List Packet) : List (Nat × Packet) :=
  ((packets.zipIdx first).filter fun (p, _) => !p.units.isEmpty).map fun (p, index) =>
    (index, p.reloaded codec index)

/-- What is read of a dump of the buffer. -/
def PacketBuffer.reloaded (buffer : PacketBuffer) (codec : Codec) : PacketBuffer :=
  ⟨(reloadedFrom codec 0 buffer.packets).map (·.2)⟩

theorem head?_packetsOfFiles (codec : Codec) (files : List (DumpName × Bytes)) :
    (PacketBuffer.packetsOfFiles codec files).head?.map (·.1) =
      files.head?.map (·.1.packet) := by
  cases files with
  | nil => rfl
  | cons file rest =>
    obtain ⟨name, content⟩ := file
    rw [PacketBuffer.packetsOfFiles]
    split
    · split
      next same => simp [same]
      next => rfl
    · rfl

theorem NalUnit.ofRaw_toRaw (unit : NalUnit) : ofRaw unit.toRaw.payload = unit.toRaw := rfl

/-- The files of one packet are put together again, if the next file is of another packet. -/
theorem packetsOfFiles_dumpedFrom {codec : Codec} {packet nanos place : Nat}
    {units : List NalUnit} {rest : List (DumpName × Bytes)}
    (apart : ∀ file ∈ rest.head?, file.1.packet ≠ packet) :
    PacketBuffer.packetsOfFiles codec (dumpedFrom packet nanos place units ++ rest) =
      (if units.isEmpty then [] else [(packet,
        { receiveId := PacketBuffer.receiveIdOf packet, codec, units := units.map (·.toRaw),
          pts := ⟨nanos⟩, wall := .sinceEpoch ⟨nanos⟩ })]) ++
        PacketBuffer.packetsOfFiles codec rest := by
  induction units generalizing place with
  | nil => rfl
  | cons unit units ih =>
    rw [dumpedFrom, List.cons_append, PacketBuffer.packetsOfFiles, ih]
    cases units with
    | nil =>
      -- the last file of this packet does not join the packet behind it
      rw [List.isEmpty_nil, if_pos rfl, List.nil_append]
      have behind := head?_packetsOfFiles codec rest
      cases read : PacketBuffer.packetsOfFiles codec rest with
      | nil => rfl
      | cons next more =>
        obtain ⟨index, p⟩ := next
        cases rest with
        | nil => cases read
        | cons file files =>
          have other : index ≠ packet := by
            have same : index = file.1.packet := by simpa [read] using behind
            exact same ▸ apart file rfl
          simp [other, NalUnit.ofRaw_toRaw]
    | cons next units => simp [NalUnit.ofRaw_toRaw]

/-- Files in order are put together to the packets they are of. A packet without NAL units has no
file, and only its index is missing. -/
theorem packetsOfFiles_dumpedUnits (codec : Codec) {first : Nat} {packets : List Packet}
    (fits : FitsIn 63 (first + packets.length)) :
    PacketBuffer.packetsOfFiles codec (dumpedUnits first packets) =
      reloadedFrom codec first packets := by
  induction packets generalizing first with
  | nil => rfl
  | cons p rest ih =>
    rw [List.length_cons] at fits
    have apart : ∀ file ∈ (dumpedUnits (first + 1) rest).head?, file.1.packet ≠ first := by
      intro file next
      have behind := (mem_dumpedUnits (List.mem_of_mem_head? next)).1
      omega
    rw [dumpedUnits, packetsOfFiles_dumpedFrom apart, ih (by omega),
      receiveIdOf_of_fits (by omega), reloadedFrom, reloadedFrom, List.zipIdx_cons]
    cases units : p.units <;> simp [units, Packet.reloaded]

variable {path : String → String} {codec : Codec}

/-- Dump files of any content are told by their names. -/
theorem dumpEntries_of_names {α : Type} {listing : List (String × α)}
    {files : List (DumpName × α)}
    (named : listing.filter (isDumpFile ·.1) =
      files.map fun (name, content) => (name.format, content))
    (fits : ∀ file ∈ files,
      FitsIn 64 file.1.packet ∧ FitsIn 64 file.1.unit ∧ FitsIn 64 file.1.nanos) :
    PacketBuffer.dumpEntries path listing = .ok files := by
  rw [PacketBuffer.dumpEntries, named]
  refine mapM_map_ok fun file among => ?_
  obtain ⟨packet, unit, nanos⟩ := fits file among
  simp only [DumpName.parse?_format packet unit nanos]

theorem fitsIn_of_mem {buffer : PacketBuffer} (fits : buffer.FitsMemory)
    {file : DumpName × Bytes} (among : file ∈ dumpedUnits 0 buffer.packets) :
    FitsIn 64 file.1.packet ∧ FitsIn 64 file.1.unit ∧ FitsIn 64 file.1.nanos := by
  obtain ⟨_, packet, nanos, p, one, unit⟩ := mem_dumpedUnits among
  have limit : wordLimit 63 < wordLimit 64 := by decide
  have few := fits.1
  have small := fits.2 p one
  exact ⟨by omega, by omega, nanos⟩

/-- Whatever else a directory holds, and in whichever order it lists its files, the packets of the
dump are read. -/
theorem ofDump_dumped {buffer : PacketBuffer} (fits : buffer.FitsMemory)
    {listing : List (String × Except IoError Bytes)}
    (all : (listing.filter (isDumpFile ·.1)).Perm
      (buffer.dumpFiles.map fun (name, content) => (name, .ok content))) :
    PacketBuffer.ofDump path codec listing = .ok (buffer.reloaded codec) := by
  let readable (file : DumpName × Bytes) : DumpName × Except IoError Bytes :=
    (file.1, .ok file.2)
  have shuffled : (listing.filter (isDumpFile ·.1)).Perm
      ((dumpedUnits 0 buffer.packets).map fun (name, content) => (name.format, .ok content)) := by
    rw [buffer.dumpFiles_eq, List.map_map] at all
    exact all
  obtain ⟨before, perm, named⟩ := exists_perm_of_map shuffled
  have entries : PacketBuffer.dumpEntries path listing = .ok (before.map readable) := by
    refine dumpEntries_of_names (by rw [named, List.map_map]; rfl) fun file among => ?_
    obtain ⟨unit, one, rfl⟩ := List.mem_map.mp among
    exact fitsIn_of_mem fits (perm.mem_iff.mp one)
  have sorted : (before.map readable).mergeSort PacketBuffer.dumpOrder =
      (dumpedUnits 0 buffer.packets).map readable :=
    mergeSort_dumpOrder (perm.map readable)
      ((pairwise_dumpedUnits 0 buffer.packets).map _ fun _ _ precedes => precedes)
  have contents : ((dumpedUnits 0 buffer.packets).map readable).mapM (fun file =>
      (file.2.mapError PacketError.io).map fun content => (file.1, content)) =
      .ok (dumpedUnits 0 buffer.packets) :=
    mapM_map_ok fun _ _ => rfl
  rw [PacketBuffer.ofDump, entries, ok_bind, sorted]
  refine (congrArg (· >>= _) contents).trans ?_
  rw [ok_bind, packetsOfFiles_dumpedUnits codec (by simpa using fits.1)]
  rfl

/-! ## The round trip -/

theorem filter_replaced (buffer : PacketBuffer) (dir : Directory) :
    (dir.filter (!isDumpFile ·.1) ++ buffer.dumpFiles).filter (isDumpFile ·.1) =
      buffer.dumpFiles := by
  rw [List.filter_append, List.filter_eq_self.mpr fun _ => isDumpFile_of_mem]
  simp [List.filter_filter]

theorem filter_not_replaced (buffer : PacketBuffer) (dir : Directory) :
    (dir.filter (!isDumpFile ·.1) ++ buffer.dumpFiles).filter (!isDumpFile ·.1) =
      dir.filter (!isDumpFile ·.1) := by
  have none : buffer.dumpFiles.filter (!isDumpFile ·.1) = [] := by
    refine List.filter_eq_nil_iff.mpr fun file among => ?_
    simp [isDumpFile_of_mem among]
  rw [List.filter_append, none]
  simp [List.filter_filter]

theorem ofDump_replaced {buffer : PacketBuffer} (fits : buffer.FitsMemory) {dir : Directory}
    {listing : List (String × Except IoError Bytes)}
    (any : listing.Perm ((dir.filter (!isDumpFile ·.1) ++ buffer.dumpFiles).map
      fun (name, content) => (name, .ok content))) :
    PacketBuffer.ofDump path codec listing = .ok (buffer.reloaded codec) := by
  have kept := any.filter (isDumpFile ·.1)
  rw [List.filter_map] at kept
  refine ofDump_dumped fits ?_
  rwa [← filter_replaced buffer dir]

/-- A dump replaces the dump files that were in a directory by one per NAL unit, with its raw
payload as content, and leaves other files alone. In whichever order the directory is listed then,
the packets with NAL units are read back from it in their order. -/
theorem dump_roundTrip (buffer : PacketBuffer) {dir : Directory} {listed : List String}
    (isMap : (dir.map (·.1)).Nodup) (all : listed.Perm (dir.map (·.1))) :
    ∃ after, buffer.dumpInto Directory.allInReach listed dir =
        (.ok (buffer.packets.flatMap (·.units)).length, after) ∧
      (after.map (·.1)).Nodup ∧
      (after.filter (isDumpFile ·.1)).map (·.2) =
        (buffer.packets.flatMap (·.units)).map (·.toRaw.payload) ∧
      after.filter (!isDumpFile ·.1) = dir.filter (!isDumpFile ·.1) ∧
      (buffer.FitsMemory → ∀ path codec listing,
        listing.Perm (after.map fun (name, content) => (name, .ok content)) →
        PacketBuffer.ofDump path codec listing = .ok (buffer.reloaded codec)) := by
  refine ⟨_, ?_, nodup_replaced buffer isMap, ?_, filter_not_replaced buffer dir, ?_⟩
  · rw [dumpInto_eq buffer all isMap, length_dumpFiles]
  · rw [filter_replaced, contents_dumpFiles]
  · intro fits path codec listing any
    exact ofDump_replaced fits any

/-- Two packets with NAL units, raw and escaped, and one without any between them. -/
def gappedBuffer : PacketBuffer where
  packets := [
    { codec := .h264, units := [.ofRaw [0x67, 0, 0, 1], .ofAnnexB [0, 0, 1, 0x65, 0, 0, 3, 1]],
      pts := .zero, wall := .epoch },
    { codec := .h264, units := [], pts := .ofMillis 40, wall := .epoch },
    { codec := .h264, units := [.ofRaw [0x41]], pts := .ofMillis 80, wall := .epoch }]

/-- A directory with a file of an earlier dump. -/
def usedDirectory : Directory := [("notes.txt", [1]), ("007-000.000000000000.raw", [9])]

theorem dump_roundTrip_gappedBuffer :
    (usedDirectory.map (·.1)).Nodup ∧
    (usedDirectory.map (·.1)).reverse.Perm (usedDirectory.map (·.1)) ∧
    gappedBuffer.FitsMemory ∧
    ∃ after, gappedBuffer.dumpInto Directory.allInReach (usedDirectory.map (·.1)).reverse
        usedDirectory = (.ok 3, after) ∧
      after.filter (!isDumpFile ·.1) = [("notes.txt", [1])] ∧
      ∀ path codec listing,
        listing.Perm (after.map fun (name, content) => (name, .ok content)) →
        PacketBuffer.ofDump path codec listing = .ok ⟨[
          { receiveId := 0, codec, units := [.ofRaw [0x67, 0, 0, 1], .ofRaw [0x65, 0, 0, 1]],
            pts := .zero, wall := .epoch },
          { receiveId := 2, codec, units := [.ofRaw [0x41]],
            pts := .ofMillis 80, wall := .sinceEpoch (.ofMillis 80) }]⟩ := by
  have isMap : (usedDirectory.map (·.1)).Nodup := by decide
  have all : (usedDirectory.map (·.1)).reverse.Perm (usedDirectory.map (·.1)) :=
    List.reverse_perm _
  have fits : gappedBuffer.FitsMemory := by
    unfold PacketBuffer.FitsMemory
    decide
  obtain ⟨after, dumped, -, -, others, back⟩ := dump_roundTrip gappedBuffer isMap all
  refine ⟨isMap, all, fits, after, dumped, others.trans (by decide), ?_⟩
  intro path codec listing any
  rw [back fits path codec listing any]
  rfl

end Footage
