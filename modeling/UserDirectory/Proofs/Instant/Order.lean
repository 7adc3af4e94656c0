import Mathlib.Order.Defs.PartialOrder
import UserDirectory.Proofs.Instant.Reading

/-!
# Proofs.Instant.Order — earlier and later instants

Instants are ordered by their seconds, then by their nanoseconds, so that a leap second comes after
the second that it repeats and before the next.  `cutNanos_mono`: cutting to milliseconds keeps the
order.  `readBack_le_readBack`: so does reading back, unless the first is in a leap second that ends
no minute.
-/

namespace UserDirectory.Instant

instance : PartialOrder Instant where
  le a b := a.seconds < b.seconds ∨ a.seconds = b.seconds ∧ a.nanos ≤ b.nanos
  le_refl a := .inr ⟨rfl, Nat.le_refl a.nanos⟩
  le_trans a b c hab hbc := by
    omega
  le_antisymm a b hab hba := by
    obtain ⟨s, n, hs, hn⟩ := a
    obtain ⟨s', n', hs', hn'⟩ := b
    obtain rfl : s = s' := by
      dsimp only at hab hba
      omega
    obtain rfl : n = n' := by
      dsimp only at hab hba
      omega
    rfl

theorem le_iff {a b : Instant} :
    a ≤ b ↔ a.seconds < b.seconds ∨ a.seconds = b.seconds ∧ a.nanos ≤ b.nanos := Iff.rfl

instance (a b : Instant) : Decidable (a ≤ b) := decidable_of_iff' _ le_iff

theorem lt_iff {a b : Instant} :
    a < b ↔ a.seconds < b.seconds ∨ a.seconds = b.seconds ∧ a.nanos < b.nanos := by
  rw [lt_iff_le_not_ge, le_iff, le_iff]
  omega

theorem not_le_iff {a b : Instant} : ¬ a ≤ b ↔ b < a := by
  rw [le_iff, lt_iff]
  omega

/-- Of two instants that differ one is earlier. -/
theorem lt_or_eq_or_gt (a b : Instant) : a < b ∨ a = b ∨ b < a := by
  rw [lt_iff, lt_iff]
  by_cases heq : a.seconds = b.seconds ∧ a.nanos = b.nanos
  · exact .inr (.inl (le_antisymm (le_iff.mpr (by omega)) (le_iff.mpr (by omega))))
  · omega

/-- **Cutting keeps the order.** -/
theorem cutNanos_mono {a b : Instant} (h : a ≤ b) : a.cutNanos ≤ b.cutNanos := by
  rw [le_iff] at h ⊢
  rcases h with hlt | ⟨heq, hle⟩
  · exact .inl hlt
  · refine .inr ⟨heq, ?_⟩
    show a.nanos - a.nanos % 1000000 ≤ b.nanos - b.nanos % 1000000
    omega

/-- The instant that a text names is not earlier than the one that it is the text of. -/
theorem le_named (t : Instant) : t ≤ t.named := by
  by_cases h : t.LeapAtMinuteEnd
  · rw [named_eq h]
  · rw [le_iff, seconds_named h]
    omega

/-- **Reading back keeps the order** behind an instant whose leap second ends a minute. -/
theorem readBack_le_readBack {a b : Instant} (h : a ≤ b) (ha : a.LeapAtMinuteEnd) :
    a.readBack ≤ b.readBack := by
  rw [readBack_eq ha]
  exact cutNanos_mono (le_trans h b.le_named)

end UserDirectory.Instant
