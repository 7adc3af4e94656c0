import UserDirectory.Proofs.Instant.Truncation
import UserDirectory.Proofs.User.Invariant

/-!
# Proofs.User.Order — which instant of an account comes first

* `make_in_order`: an account that is made from two instants in order has them in order, unless
  `Instant.Divided` holds of the two; and stored and found again it has even then.
* `divided_reversed`: there are accounts that `Instant.Divided` turns round.
-/

namespace UserDirectory.User

open Instant (Divided)

/-- **The instants of an account** that is made from two instants in order are in order, except
where both lie in one millisecond and only the second has a count of nanoseconds.  A document keeps
no more than milliseconds, so an account that was stored is found with its instants in order even
then, provided that the first is in no leap second that ends no minute, which a text names later. -/
theorem make_in_order {a b : Instant} (h : a ≤ b) :
    (a.truncate ≤ b.truncate ↔ ¬ Divided a b) ∧
      ∀ (id : Uuid) (details : Details), details.Complete →
        ∃ u, make id details a b = .ok u ∧
          (u.createdAt ≤ u.updatedAt ↔ ¬ Divided a b) ∧
          ∀ s : Store, s.get? id = none →
            ∃ v, Store.find id (Store.create u s).2 = .ok (some v) ∧
              (a.LeapAtMinuteEnd → v.createdAt ≤ v.updatedAt) := by
  have horder := Instant.truncate_le_truncate_iff h
  refine ⟨horder, ?_⟩
  intro id details hcomplete
  have hcheck : details.check = .ok () := Details.check_eq_ok_iff.mpr hcomplete
  let u : User := ⟨id, details, a.truncate, b.truncate⟩
  refine ⟨u, make_eq_ok.mpr ⟨hcheck, rfl⟩, horder, ?_⟩
  intro s hnew
  have hfound : Store.find id (Store.create u s).2 = .ok (some u.cut) := find_create hcheck hnew
  refine ⟨u.cut, hfound, ?_⟩
  intro hleap
  show a.truncate.readBack ≤ b.truncate.readBack
  rw [a.readBack_truncate, b.readBack_truncate]
  exact Instant.readBack_le_readBack h hleap

/-- The last nanosecond of the millisecond before the divided one, and the first instant that has a
count: the cut leaves the one and takes the other to the start of its millisecond. -/
theorem make_in_order_apart :
    let details : Details := ⟨"A", "B", "C", "D", "e@example.com", "F"⟩
    let id : Uuid := ⟨7, by decide⟩
    let a : Instant := ⟨-9223372037, 144999999, by decide, by decide⟩
    let b : Instant := ⟨-9223372037, 145224192, by decide, by decide⟩
    a ≤ b ∧ details.Complete ∧ (Keyed.empty : Store).get? id = none ∧ a.truncate ≤ b.truncate ∧
      ∃ u, make id details a b = .ok u ∧ u.createdAt ≤ u.updatedAt ∧
        ∃ v, Store.find id (Store.create u Keyed.empty).2 = .ok (some v) ∧
          v.createdAt ≤ v.updatedAt := by
  intro details id a b
  have hab : a ≤ b := by decide
  have hcomplete : details.Complete := Details.check_eq_ok_iff.mp (by decide)
  have hapart : ¬ Divided a b := by
    intro hd
    have hbehind := Instant.lt_iff.mp hd.behindStart
    exact absurd hbehind (by decide)
  obtain ⟨horder, hmake⟩ := make_in_order hab
  have hleap : a.LeapAtMinuteEnd := .inl (by decide)
  obtain ⟨u, hu, hinstants, hstored⟩ := hmake id details hcomplete
  obtain ⟨v, hfound, hfoundOrder⟩ := hstored Keyed.empty rfl
  exact ⟨hab, hcomplete, rfl, horder.mpr hapart, u, hu, hinstants.mpr hapart, v, hfound,
    hfoundOrder hleap⟩

/-- The last instant before those that have a count, and the first of these, a nanosecond later:
an account made from them has changed before it was created. -/
theorem divided_reversed :
    let details : Details := ⟨"A", "B", "C", "D", "e@example.com", "F"⟩
    let id : Uuid := ⟨0x3fa85f6457174562b3fc2c963f66afa6, by decide⟩
    let a : Instant := ⟨-9223372037, 145224191, by decide, by decide⟩
    let b : Instant := ⟨-9223372037, 145224192, by decide, by decide⟩
    a ≤ b ∧ ¬ a.truncate ≤ b.truncate ∧
      ∃ u, make id details a b = .ok u ∧ ¬ u.createdAt ≤ u.updatedAt := by
  intro details id a b
  have hcut : ¬ a.truncate ≤ b.truncate := by decide
  have hcheck : details.check = .ok () := by decide
  exact ⟨by decide, hcut, ⟨id, details, a.truncate, b.truncate⟩, make_eq_ok.mpr ⟨hcheck, rfl⟩, hcut⟩

end UserDirectory.User
