import UserDirectory.Proofs.User.Document

/-!
# Proofs.User.Codec — accounts to documents and back

* `Obtained u`: `u` was made from its parts or read from a document, a value or a text.
* `obtained_iff`: those are the accounts with valid details and instants cut as far as
  `Instant.truncate` cuts.
* `User.cut`: the account with the instants that its texts name, which is what a document keeps.
* `decode_encode`: the document of an obtained account decodes to the account cut, and decoding
  and encoding once more changes nothing.
* `decode_encode_within_minute`: a leap second that ends no minute is not kept.
-/

namespace UserDirectory.User

/-! ## How accounts come about -/

/-- An account comes from its parts, or from a document, a value or a text that describes it. -/
inductive Obtained : User → Prop
  | made {id details createdAt updatedAt u} : make id details createdAt updatedAt = .ok u →
    Obtained u
  | document {d u} : ofDocument d = .ok u → Obtained u
  | value {v u} : ofJson v = .ok u → Obtained u
  | text {t u} : ofText t = .ok u → Obtained u

/-- Whatever a draft is filled from, its account is made from its parts. -/
theorem Draft.exists_make {draft : Draft} {u : User} (h : draft.user = .ok u) :
    ∃ id details c t, make id details c t = .ok u := by
  unfold Draft.user at h
  split at h
  · next id c t _ _ _ => exact ⟨id, _, c, t, Steps.mapError_eq_ok.mp h⟩
  · cases h
  · cases h
  · cases h

/-- **Every account is made from parts**, whichever way it was obtained. -/
theorem Obtained.exists_make {u : User} (h : Obtained u) :
    ∃ id details c t, make id details c t = .ok u := by
  cases h with
  | made h => exact ⟨_, _, _, _, h⟩
  | document h =>
    obtain ⟨draft, -, hu⟩ := Steps.bind_eq_ok.mp h
    exact draft.exists_make hu
  | value h =>
    obtain ⟨draft, -, hu⟩ := Steps.bind_eq_ok.mp h
    exact draft.exists_make hu
  | text h =>
    obtain ⟨⟨draft, rest⟩, -, h⟩ := Steps.bind_eq_ok.mp h
    obtain ⟨v, hv, h⟩ := Steps.bind_eq_ok.mp h
    obtain ⟨-, -, hu⟩ := Steps.bind_eq_ok.mp h
    rw [Steps.pure_eq_ok, Except.ok.injEq] at hu
    rw [← hu]
    exact draft.exists_make hv

/-- **What is obtained**: the accounts with valid details of whose instants nothing is left to
cut. -/
theorem obtained_iff {u : User} :
    Obtained u ↔ u.details.check = .ok () ∧ u.createdAt.truncate = u.createdAt ∧
      u.updatedAt.truncate = u.updatedAt := by
  constructor
  · intro h
    obtain ⟨id, details, c, t, hmake⟩ := h.exists_make
    obtain ⟨hcheck, rfl⟩ := make_eq_ok.mp hmake
    exact ⟨hcheck, c.truncate_truncate, t.truncate_truncate⟩
  · rintro ⟨hcheck, hc, ht⟩
    have hmake : make u.id u.details u.createdAt u.updatedAt = .ok u := by
      rw [make_eq_ok, hc, ht]
      exact ⟨hcheck, rfl⟩
    exact .made hmake

theorem Obtained.valid {u : User} (h : Obtained u) : u.details.check = .ok () :=
  (obtained_iff.mp h).1

/-! ## What a document keeps -/

/-- The account with its instants as their texts name them, in whole milliseconds. -/
def cut (u : User) : User := ⟨u.id, u.details, u.createdAt.readBack, u.updatedAt.readBack⟩

/-- Neither of the instants is in a leap second that ends no minute. -/
def LeapsAtMinuteEnd (u : User) : Prop :=
  u.createdAt.LeapAtMinuteEnd ∧ u.updatedAt.LeapAtMinuteEnd

theorem LeapsAtMinuteEnd.cut_eq {u : User} (h : u.LeapsAtMinuteEnd) :
    u.cut = ⟨u.id, u.details, u.createdAt.cutNanos, u.updatedAt.cutNanos⟩ := by
  unfold cut
  rw [Instant.readBack_eq h.1, Instant.readBack_eq h.2]

theorem cut_eq {u : User} (hc : u.createdAt.IsWhole) (ht : u.updatedAt.IsWhole)
    (h : u.LeapsAtMinuteEnd) : u.cut = u := by
  rw [h.cut_eq, hc.cutNanos_eq, ht.cutNanos_eq]

theorem members_cut (u : User) : u.cut.members = u.members := by
  unfold members cut timeMember
  rw [Instant.text_readBack, Instant.text_readBack]

theorem document_cut (u : User) : u.cut.document = u.document :=
  congrArg Keyed.ofList u.members_cut

/-- What a time member holds was cut from what was read, so it is in no leap second within a
minute. -/
theorem HoldsTime.leapAtMinuteEnd {d : Document} {name : String} {t : Instant}
    (h : HoldsTime d name t) : t.LeapAtMinuteEnd := by
  obtain ⟨s, r, -, hr, rfl⟩ := h
  have hread : r.LeapAtMinuteEnd := Instant.leapAtMinuteEnd_of_read hr
  unfold Instant.truncate
  split
  · exact Instant.leapAtMinuteEnd_cutNanos.mpr hread
  · exact hread

theorem leapsAtMinuteEnd_of_ofDocument {d : Document} {u : User} (h : ofDocument d = .ok u) :
    u.LeapsAtMinuteEnd := by
  have hd : Describes d u := ofDocument_eq_ok.mp h
  exact ⟨hd.createdAt.leapAtMinuteEnd, hd.updatedAt.leapAtMinuteEnd⟩

/-- **Decoding undoes encoding**: the document of an account decodes, to an account that has the
same document again.  It is the account with its instants cut to milliseconds, and the account
itself if it has no parts of milliseconds, for every account whose leap seconds end a minute; those
that were decoded are such.  In any case it is the account with the instants that its texts name. -/
theorem decode_encode {u : User} (h : Obtained u) :
    ofDocument u.document = .ok u.cut ∧
    (u.LeapsAtMinuteEnd →
      ofDocument u.document = .ok ⟨u.id, u.details, u.createdAt.cutNanos, u.updatedAt.cutNanos⟩) ∧
    (u.LeapsAtMinuteEnd → u.createdAt.IsWhole → u.updatedAt.IsWhole →
      ofDocument u.document = .ok u) ∧
    (∀ d, ofDocument d = .ok u → u.LeapsAtMinuteEnd) ∧
    ∃ v, ofDocument u.document = .ok v ∧ v.document = u.document := by
  have hcut : ofDocument u.document = .ok u.cut := ofDocument_document h.valid
  refine ⟨hcut, ?_, ?_, fun d => leapsAtMinuteEnd_of_ofDocument, u.cut, hcut, u.document_cut⟩
  · intro hleap
    rw [hcut, hleap.cut_eq]
  · intro hleap hc ht
    rw [hcut, cut_eq hc ht hleap]

/-- The first and the last instant there are, the last in a leap second: neither is a whole number
of milliseconds, and both are too far from 1970 for `Instant.truncate` to cut them. -/
theorem decode_encode_far_leap :
    let details : Details := ⟨"Zoë", "\"", "\\", "\n", "Z <\"@\"@[::1]>", "¿"⟩
    let first : Instant := ⟨firstSecond, 1, by decide, by decide⟩
    let last : Instant := ⟨lastSecond, 1999999999, by decide, by decide⟩
    let u : User := ⟨⟨7, by decide⟩, details, first, last⟩
    u.Obtained ∧ u.LeapsAtMinuteEnd ∧ u.cut ≠ u ∧
      ofDocument u.document = .ok ⟨u.id, u.details, first.cutNanos, last.cutNanos⟩ ∧
      ∃ v, ofDocument u.document = .ok v ∧ v.document = u.document := by
  intro details first last u
  have hcheck : details.check = .ok () := by decide
  have hfirst : first.truncate = first := by decide
  have hlast : last.truncate = last := by decide
  have hu : u.Obtained := obtained_iff.mpr ⟨hcheck, hfirst, hlast⟩
  have hleap : u.LeapsAtMinuteEnd := ⟨.inl (by decide), .inr (by decide)⟩
  have hcut : u.cut ≠ u := by decide
  obtain ⟨-, hwhole, -, -, hagain⟩ := decode_encode hu
  exact ⟨hu, hleap, hcut, hwhole hleap, hagain⟩

/-- An account of whole milliseconds that was created in a leap second within a minute: its document
decodes to one that was created in the second behind. -/
theorem decode_encode_within_minute :
    let details : Details := ⟨"A", "B", "C", "D", "e@example.com", "F"⟩
    let leap : Instant := ⟨30, 1500000000, by decide, by decide⟩
    let behind : Instant := ⟨31, 500000000, by decide, by decide⟩
    let id : Uuid := ⟨0x3fa85f6457174562b3fc2c963f66afa6, by decide⟩
    let u : User := ⟨id, details, leap, leap⟩
    make id details leap leap = .ok u ∧ u.createdAt.IsWhole ∧ u.updatedAt.IsWhole ∧
      u.createdAt.cutNanos = u.createdAt ∧ u.updatedAt.cutNanos = u.updatedAt ∧
      ofDocument u.document = .ok ⟨id, details, behind, behind⟩ ∧
      (⟨id, details, behind, behind⟩ : User) ≠ u := by
  intro details leap behind id u
  have hmake : make id details leap leap = .ok u := by decide
  have hwhole : leap.IsWhole := by
    show 1500000000 % 1000000 = 0
    omega
  have hbehind : u.cut = ⟨id, details, behind, behind⟩ := by decide
  have hdocument : ofDocument u.document = .ok u.cut := ofDocument_document (by decide)
  exact ⟨hmake, hwhole, hwhole, hwhole.cutNanos_eq, hwhole.cutNanos_eq, hbehind ▸ hdocument,
    by decide⟩

end UserDirectory.User
