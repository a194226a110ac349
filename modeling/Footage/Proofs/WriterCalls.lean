import Footage.Export.Container
import Footage.Proofs.Effects
import Footage.Proofs.Framing

/-!
# The calls of a container writer

A container writer is called with the parameters of a stream, each access unit, and the end. Each
call may fail, and then it is the last one.

* `exportCalls`: the calls of an export.
* `ContainerWriter.Makes`: what comes of a row of calls. `makes_logging`: the log of a writer holds
  the calls that were made.
* `exportTo_of_start`: an export that can start is a row of calls.
-/

namespace Footage

def exportCalls (parameters : StreamParameters) (units : List AccessUnit) : List WriterCall :=
  .start parameters :: (units.map .write ++ [.finish])

namespace ContainerWriter

variable {σ : Type}

def performAll (writer : ContainerWriter σ) (calls : List WriterCall) :
    Effect σ WriterError Unit :=
  calls.forM writer.perform

theorem performAll_cons (writer : ContainerWriter σ) (call : WriterCall)
    (calls : List WriterCall) :
    writer.performAll (call :: calls) = writer.perform call >>= fun _ => writer.performAll calls :=
  rfl

theorem performAll_concat (writer : ContainerWriter σ) (calls : List WriterCall)
    (last : WriterCall) :
    writer.performAll (calls ++ [last]) =
      writer.performAll calls >>= fun _ => writer.perform last := by
  have alone : writer.performAll [last] = writer.perform last := bind_pure_unit
  rw [← alone]
  exact List.forM_append

theorem performAll_write (writer : ContainerWriter σ) (units : List AccessUnit) :
    writer.performAll (units.map .write) = forM units writer.write :=
  List.forM_map

/-- An export succeeds just if its calls do, one after another. -/
theorem performAll_exportCalls_iff {writer : ContainerWriter σ} {parameters : StreamParameters}
    {units : List AccessUnit} {s s' : σ} :
    writer.performAll (exportCalls parameters units) s = (.ok (), s') ↔
      ∃ s₁ s₂, writer.start parameters s = (.ok (), s₁) ∧
        forM units writer.write s₁ = (.ok (), s₂) ∧ writer.finish s₂ = (.ok (), s') := by
  rw [exportCalls, performAll_cons, performAll_concat, performAll_write]
  constructor
  · intro made
    obtain ⟨_, s₁, begun, behind⟩ := Effect.of_bind_ok made
    obtain ⟨_, s₂, written, finished⟩ := Effect.of_bind_ok behind
    exact ⟨s₁, s₂, begun, written, finished⟩
  · rintro ⟨s₁, s₂, begun, written, finished⟩
    simp only [Effect.bind_apply, perform, begun, written, finished]

theorem perform_logging (writer : ContainerWriter σ) (call : WriterCall) (log : List WriterCall)
    (s : σ) : writer.logging.perform call (log, s) =
      ((writer.perform call s).1, (call :: log, (writer.perform call s).2)) := by
  cases call <;> simp [perform, logging, logged]

/-! ## Which calls are made -/

/-- What comes of calls that are made one after another from the state `s` on: the result, the calls
that were made, and the state that they leave behind. If a call fails, it is the last one. -/
inductive Makes (writer : ContainerWriter σ) (calls : List WriterCall) (s : σ) :
    Except WriterError Unit → List WriterCall → σ → Prop
  | all {s' : σ} : writer.performAll calls s = (.ok (), s') → Makes writer calls s (.ok ()) calls s'
  | upTo {before after : List WriterCall} {failing : WriterCall} {fault : WriterError} {s₁ s' : σ} :
      calls = before ++ failing :: after → writer.performAll before s = (.ok (), s₁) →
      writer.perform failing s₁ = (.error fault, s') →
      Makes writer calls s (.error fault) (before ++ [failing]) s'

theorem Makes.cons {writer : ContainerWriter σ} {call : WriterCall}
    {calls made : List WriterCall} {s s₁ s' : σ}
    {result : Except WriterError Unit} (first : writer.perform call s = (.ok (), s₁))
    (h : Makes writer calls s₁ result made s') :
    Makes writer (call :: calls) s result (call :: made) s' := by
  have behind (later : List WriterCall) :
      writer.performAll (call :: later) s = writer.performAll later s₁ := by
    rw [performAll_cons, Effect.bind_apply, first]
  cases h with
  | all done => exact .all ((behind calls).trans done)
  | upTo parts before failed =>
    exact .upTo (congrArg (call :: ·) parts) ((behind _).trans before) failed

/-- The calls made are the beginning of those that were to be made. -/
theorem Makes.made_prefix {writer : ContainerWriter σ} {calls made : List WriterCall} {s s' : σ}
    {result : Except WriterError Unit} (h : Makes writer calls s result made s') :
    made <+: calls := by
  cases h with
  | all => exact List.prefix_rfl
  | upTo parts => exact ⟨_, by rw [parts, List.append_assoc, List.singleton_append]⟩

/-- A log does not change what comes of the calls, and holds those that were made. -/
theorem makes_logging (writer : ContainerWriter σ) (calls log : List WriterCall) (s : σ) :
    ∃ result made s', Makes writer calls s result made s' ∧
      writer.performAll calls s = (result, s') ∧
      writer.logging.performAll calls (log, s) = (result, (made.reverse ++ log, s')) := by
  induction calls generalizing log s with
  | nil => exact ⟨.ok (), [], s, .all rfl, rfl, rfl⟩
  | cons call calls ih =>
    rw [performAll_cons, performAll_cons, Effect.bind_apply, Effect.bind_apply, perform_logging]
    rcases first : writer.perform call s with ⟨fault | _, s₁⟩
    · have stops : Makes writer (call :: calls) s (.error fault) ([] ++ [call]) s₁ :=
        .upTo rfl rfl first
      exact ⟨.error fault, [call], s₁, stops, rfl, rfl⟩
    · obtain ⟨result, made, s', makes, plain, logged⟩ := ih (call :: log) s₁
      refine ⟨result, call :: made, s', makes.cons first, plain, ?_⟩
      show writer.logging.performAll calls (call :: log, s₁) = _
      rw [logged, List.reverse_cons, List.append_assoc, List.singleton_append]

end ContainerWriter

/-! ## The calls of an export -/

namespace PacketBuffer

variable {σ : Type}

def accessUnitOf (base : Duration) (p : Packet) : AccessUnit :=
  ⟨p.pts.minus base, p.units.map (·.framedUnit), p.hasKeyframe⟩

theorem mapM_accessUnit (base : Duration) (packets : List Packet) :
    packets.mapM (accessUnit base) = .ok (packets.map (accessUnitOf base)) := by
  refine mapM_ok fun p _ => ?_
  rw [accessUnit, NalUnit.mapM_toAnnexB_eq]
  rfl

theorem exists_accessUnits (base : Duration) (packets : List Packet) :
    ∃ units, packets.mapM (accessUnit base) = .ok units :=
  ⟨_, mapM_accessUnit base packets⟩

/-- Handing packets to a writer is writing their access units. -/
theorem forM_accessUnit (writer : ContainerWriter σ) {base : Duration} {packets : List Packet}
    {units : List AccessUnit} (framed : packets.mapM (accessUnit base) = .ok units) :
    (packets.forM fun p => do
      let unit ← accessUnit base p
      (writer.write unit).rename WriterError.inExport : Effect σ PacketError Unit) =
    (writer.performAll (units.map .write)).rename WriterError.inExport := by
  induction packets generalizing units with
  | nil =>
    cases framed
    rfl
  | cons p packets ih =>
    rw [List.mapM_cons] at framed
    obtain ⟨unit, first, behind⟩ := exists_of_bind_ok framed
    obtain ⟨others, rest, same⟩ := exists_of_bind_ok behind
    cases same
    rw [List.map_cons, ContainerWriter.performAll_cons, Effect.rename_bind, ← ih rest]
    simp only [List.forM_eq_forM, List.forM_cons, first]
    rfl

/-- An export that can start makes the calls of its access units, and fails as they do. -/
theorem exportTo_of_start [H264.SizeReader] {buffer : PacketBuffer} {first : Nat}
    {parameters : StreamParameters}
    (start : buffer.exportStart = .ok (first, parameters)) {base : Duration}
    (origin : ((buffer.packets.drop first).head?.map (·.pts)).getD .zero = base)
    {units : List AccessUnit}
    (framed : (buffer.packets.drop first).mapM (accessUnit base) = .ok units)
    (writer : ContainerWriter σ) :
    buffer.exportTo writer =
      (writer.performAll (exportCalls parameters units)).rename WriterError.inExport := by
  subst origin
  rw [exportCalls, ContainerWriter.performAll_cons, ContainerWriter.performAll_concat]
  simp only [Effect.rename_bind, ← forM_accessUnit writer framed]
  rw [exportTo, start]
  rfl

end PacketBuffer

end Footage
