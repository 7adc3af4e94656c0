import UserDirectory.Proofs.Keyed
import UserDirectory.Proofs.User.Codec
import UserDirectory.Store

/-!
# Proofs.User.Invariant — what holds of every account, however it was obtained

* `Details.Complete`: no text is empty and the e-mail is a mailbox; `check_eq_ok_iff`: this is what
  the rules ask for.
* `Instant.IsCut`: a whole number of milliseconds, or an instant too far from 1970 to be cut.
* `obtained_iff_invariant`: the accounts that are obtained are the complete ones with cut instants.
  One of them is found again as it was stored iff its instants are whole milliseconds and in no leap
  second that ends no minute.
* `halfMillisecond_obtained`: far from 1970 there are accounts whose instants are not.
-/

namespace UserDirectory

/-! ## Details -/

/-- Six texts that are not empty, and among them a mailbox. -/
structure Details.Complete (d : Details) : Prop where
  firstName : d.firstName ≠ ""
  lastName : d.lastName ≠ ""
  nickname : d.nickname ≠ ""
  password : d.password ≠ ""
  email : d.email ≠ ""
  mailbox : Mailbox.isValid d.email = true
  country : d.country ≠ ""

/-- **The rules ask for complete details**, no less and no more. -/
theorem Details.check_eq_ok_iff {d : Details} : d.check = .ok () ↔ d.Complete := by
  have hempty : ∀ {s : String}, s.isEmpty = true ↔ s = "" := by simp
  constructor
  · intro h
    unfold check fault? at h
    -- One case for each rule; the rule of the case is broken in all of them but the last.
    split_ifs at h with h1 h2 h3 h4 h5 h6 h7
    simp only [hempty] at h1 h2 h3 h4 h5 h7
    exact ⟨h1, h2, h3, h4, h5, by simpa using h6, h7⟩
  · intro h
    have hfault : d.fault? = none := by
      simp [fault?, hempty, h.firstName, h.lastName, h.nickname, h.password, h.email, h.mailbox,
        h.country]
    simp only [check, hfault]

/-! ## Instants -/

/-- A whole number of milliseconds, unless the instant is too far from 1970 to be counted in
nanoseconds. -/
def Instant.IsCut (t : Instant) : Prop := t.hasNanoCount = true → t.IsWhole

/-- Nothing is left to cut of the instants that are cut. -/
theorem Instant.truncate_eq_self_iff {t : Instant} : t.truncate = t ↔ t.IsCut := by
  unfold truncate IsCut
  by_cases hcount : t.hasNanoCount = true
  · simp [hcount, cutNanos_eq_self_iff]
  · simp [hcount]

/-! ## Accounts -/

namespace User

theorem cut_eq_self_iff {u : User} :
    u.cut = u ↔ u.createdAt.IsWhole ∧ u.updatedAt.IsWhole ∧ u.LeapsAtMinuteEnd := by
  constructor
  · intro h
    obtain ⟨hc, hcleap⟩ := Instant.readBack_eq_self_iff.mp (congrArg User.createdAt h)
    obtain ⟨ht, htleap⟩ := Instant.readBack_eq_self_iff.mp (congrArg User.updatedAt h)
    exact ⟨hc, ht, hcleap, htleap⟩
  · rintro ⟨hc, ht, hleap⟩
    exact cut_eq hc ht hleap

/-- An account that was stored is found with the instants that its texts name. -/
theorem find_create {u : User} (h : u.details.check = .ok ()) {s : Store}
    (hnew : s.get? u.id = none) :
    Store.find u.id (Store.create u s).2 = .ok (some u.cut) := by
  have hstored : (Store.create u s).2 = s.insert u.id u.document := by
    unfold Store.create
    rw [Keyed.contains_eq_false.mpr hnew]
    rfl
  have hget : (s.insert u.id u.document).get? u.id = some u.document := by
    rw [Keyed.get?_insert, if_pos rfl]
  rw [hstored, Store.find_of_get? hget, Store.decode_of_ok (ofDocument_document h)]
  rfl

/-- **The invariant of accounts**: the accounts that are obtained are those with complete details
and with instants that are whole milliseconds or too far from 1970 to be cut; and an account that
is stored compares equal to the one that is found again iff both of its instants are whole and
neither is in a leap second that ends no minute. -/
theorem obtained_iff_invariant (u : User) :
    (Obtained u ↔ u.details.Complete ∧ u.createdAt.IsCut ∧ u.updatedAt.IsCut) ∧
      ∀ s : Store, s.get? u.id = none → Obtained u →
        (Store.find u.id (Store.create u s).2 = .ok (some u) ↔
          u.createdAt.IsWhole ∧ u.updatedAt.IsWhole ∧ u.LeapsAtMinuteEnd) := by
  constructor
  · rw [obtained_iff, Details.check_eq_ok_iff, Instant.truncate_eq_self_iff,
      Instant.truncate_eq_self_iff]
  · intro s hnew h
    rw [find_create h.valid hnew, Except.ok.injEq, Option.some.injEq]
    exact cut_eq_self_iff

/-- A document of the year 3000 with half a millisecond in its instants describes an account, and
neither is the half cut off nor is the account found again as it was stored. -/
theorem halfMillisecond_obtained :
    let half : Json := .string "3000-01-01T00:00:00.0005Z"
    let d : Document := .ofList [("id", .string "3fa85f64-5717-4562-b3fc-2c963f66afa6"),
      ("first_name", .string "A"), ("last_name", .string "B"), ("nickname", .string "C"),
      ("password", .string "D"), ("email", .string "e@example.com"), ("country", .string "F"),
      ("created_at", half), ("updated_at", half)]
    ∃ u, ofDocument d = .ok u ∧ ¬ u.createdAt.IsWhole ∧ ¬ u.updatedAt.IsWhole ∧
      Store.find u.id (Store.create u .empty).2 ≠ .ok (some u) := by
  intro half d
  let t : Instant := ⟨32503680000, 500000, by decide, by decide⟩
  let id : Uuid := ⟨0x3fa85f6457174562b3fc2c963f66afa6, by decide⟩
  let u : User := ⟨id, ⟨"A", "B", "C", "D", "e@example.com", "F"⟩, t, t⟩
  have hu : ofDocument d = .ok u := by decide +kernel
  have ht : ¬ t.IsWhole := by
    show ¬ 500000 % 1000000 = 0
    omega
  refine ⟨u, hu, ht, ht, ?_⟩
  have hvalid : u.details.check = .ok () := Obtained.valid (.document hu)
  rw [find_create hvalid rfl, Ne, Except.ok.injEq, Option.some.injEq, cut_eq_self_iff]
  exact fun h => ht h.1

end User
end UserDirectory
