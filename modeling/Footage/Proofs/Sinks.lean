import Footage.CommandLine.Run
import Footage.Proofs.Effects

/-!
# Reliable sinks

A writer can promise something about its output only if its sink keeps what it takes, and that it
gets to its end only if the sink takes all that it is given. `collector`, into which every export is
written before it goes to a file, does both.
-/

namespace Footage

/-- A sink that keeps what it takes. `held` is what it holds. It may refuse octets, and what it
holds then is left open. -/
structure ByteSink.KeepsAccepted {σ : Type} (sink : ByteSink σ) (held : σ → Bytes) : Prop where
  write : ∀ octets s s', sink.write octets s = (.ok (), s') → held s' = held s ++ octets
  flush : ∀ s s', sink.flush s = (.ok (), s') → held s' = held s

/-- A sink that takes all that it is given and keeps it. -/
structure ByteSink.IsReliable {σ : Type} (sink : ByteSink σ) (held : σ → Bytes) : Prop where
  write : ∀ octets s, ∃ s', sink.write octets s = (.ok (), s') ∧ held s' = held s ++ octets
  flush : ∀ s, ∃ s', sink.flush s = (.ok (), s') ∧ held s' = held s

theorem ByteSink.IsReliable.keepsAccepted {σ : Type} {sink : ByteSink σ} {held : σ → Bytes}
    (reliable : sink.IsReliable held) : sink.KeepsAccepted held := by
  constructor
  · intro octets s s' done
    obtain ⟨_, same, kept⟩ := reliable.write octets s
    rw [done] at same
    cases same
    exact kept
  · intro s s' done
    obtain ⟨_, same, kept⟩ := reliable.flush s
    rw [done] at same
    cases same
    exact kept

theorem CommandLine.collector_isReliable :
    collector.IsReliable fun newestFirst => newestFirst.reverse.flatten := by
  constructor
  · exact fun octets s => ⟨octets :: s, rfl, by simp⟩
  · exact fun s => ⟨s, rfl, rfl⟩

end Footage
