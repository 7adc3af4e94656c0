import UserDirectory.Proofs.Text.Digit

/-!
# Proofs.Text.Order — texts of one width compare as what they write

* `lt_of_fields`: of two texts with a first part of one length, the first parts decide, and only if
  these are the same what follows them does.
* `lt_of_natOfDigits_lt`: of two rows of as many digits, the one that writes less is the smaller
  text; `fourDigits_lt`, `threeDigits_lt`, `twoDigits_lt` for numbers of a fixed width.
-/

namespace UserDirectory.Text

/-! ## Parts of one length -/

theorem append_lt_append {p q : List Char} (hlen : p.length = q.length) (h : p < q)
    (r s : List Char) : p ++ r < q ++ s := by
  induction p generalizing q with
  | nil =>
    cases q with
    | nil => exact absurd h (List.not_lt_nil _)
    | cons y q => simp at hlen
  | cons x p ih =>
    cases q with
    | nil => simp at hlen
    | cons y q =>
      rw [List.cons_append, List.cons_append, List.cons_lt_cons_iff]
      rcases List.cons_lt_cons_iff.mp h with hxy | ⟨rfl, hpq⟩
      · exact .inl hxy
      · exact .inr ⟨rfl, ih (by simpa using hlen) hpq⟩

/-- The first parts decide if they differ. -/
theorem lt_of_fields {p q r s : List Char} (hlen : p.length = q.length)
    (h : p < q ∨ p = q ∧ r < s) : p ++ r < q ++ s := by
  rcases h with h | ⟨rfl, h⟩
  · exact append_lt_append hlen h r s
  · exact List.append_left_lt h

/-- The same with a mark behind the first parts. -/
theorem lt_of_marked {p q r s : List Char} (m : Char) (hlen : p.length = q.length)
    (h : p < q ∨ p = q ∧ r < s) : p ++ m :: r < q ++ m :: s := by
  refine lt_of_fields hlen (h.imp_right ?_)
  rintro ⟨hpq, hrs⟩
  exact ⟨hpq, List.cons_lt_cons_iff.mpr (.inr ⟨rfl, hrs⟩)⟩

/-! ## Digits -/

theorem digitValue_le {c : Char} (h : c.isDigit = true) : digitValue c ≤ 9 := by
  have hc := toNat_of_isDigit h
  unfold digitValue
  omega

theorem lt_of_digitValue_lt {c d : Char} (h : digitValue c < digitValue d) : c < d := by
  have htoNat : c.toNat < d.toNat := by
    unfold digitValue at h
    omega
  exact htoNat

theorem eq_of_digitValue_eq {c d : Char} (hc : c.isDigit = true) (hd : d.isDigit = true)
    (h : digitValue c = digitValue d) : c = d := by
  have h1 := toNat_of_isDigit hc
  have h2 := toNat_of_isDigit hd
  have htoNat : c.toNat = d.toNat := by
    unfold digitValue at h
    omega
  exact Char.toNat_inj.mp htoNat

/-- Digits cannot make up for a smaller number in front of them. -/
theorem foldl_digits_lt {ds es : List Char} (hlen : ds.length = es.length)
    (hds : ∀ c ∈ ds, c.isDigit = true) {m n : Nat} (h : m < n) :
    ds.foldl (fun n c => 10 * n + digitValue c) m <
      es.foldl (fun n c => 10 * n + digitValue c) n := by
  induction ds generalizing es m n with
  | nil =>
    cases es with
    | nil => exact h
    | cons d es => simp at hlen
  | cons c ds ih =>
    cases es with
    | nil => simp at hlen
    | cons d es =>
      have hc := digitValue_le (hds c List.mem_cons_self)
      have hstep : 10 * m + digitValue c < 10 * n + digitValue d := by omega
      have hlen' : ds.length = es.length := by simpa using hlen
      rw [List.foldl_cons, List.foldl_cons]
      exact ih hlen' (fun x hx => hds x (List.mem_cons_of_mem c hx)) hstep

theorem lt_of_foldl_digits_lt {ds es : List Char} (hlen : ds.length = es.length)
    (hds : ∀ c ∈ ds, c.isDigit = true) (hes : ∀ c ∈ es, c.isDigit = true) {n : Nat}
    (h : ds.foldl (fun n c => 10 * n + digitValue c) n <
      es.foldl (fun n c => 10 * n + digitValue c) n) : ds < es := by
  induction ds generalizing es n with
  | nil =>
    cases es with
    | nil => simp at h
    | cons d es => simp at hlen
  | cons c ds ih =>
    cases es with
    | nil => simp at hlen
    | cons d es =>
      have hlen' : ds.length = es.length := by simpa using hlen
      have hds' : ∀ x ∈ ds, x.isDigit = true := fun x hx => hds x (List.mem_cons_of_mem c hx)
      have hes' : ∀ x ∈ es, x.isDigit = true := fun x hx => hes x (List.mem_cons_of_mem d hx)
      rw [List.cons_lt_cons_iff]
      rcases Nat.lt_trichotomy (digitValue c) (digitValue d) with hlt | heq | hgt
      · exact .inl (lt_of_digitValue_lt hlt)
      · obtain rfl := eq_of_digitValue_eq (hds c List.mem_cons_self) (hes d List.mem_cons_self) heq
        exact .inr ⟨rfl, ih hlen' hds' hes' h⟩
      · have hstep : 10 * n + digitValue d < 10 * n + digitValue c := by omega
        have hback := foldl_digits_lt hlen'.symm hes' hstep
        rw [List.foldl_cons, List.foldl_cons] at h
        omega

/-- **Digits compare as the numbers that they write**, if there are as many of them. -/
theorem lt_of_natOfDigits_lt {ds es : List Char} (hlen : ds.length = es.length)
    (hds : ∀ c ∈ ds, c.isDigit = true) (hes : ∀ c ∈ es, c.isDigit = true)
    (h : natOfDigits ds < natOfDigits es) : ds < es :=
  lt_of_foldl_digits_lt hlen hds hes h

theorem twoDigits_lt {m n : Nat} (h : m < n) (hn : n < 100) : twoDigits m < twoDigits n := by
  refine lt_of_natOfDigits_lt rfl (isDigit_twoDigits m) (isDigit_twoDigits n) ?_
  rw [natOfDigits_twoDigits, natOfDigits_twoDigits]
  omega

theorem threeDigits_lt {m n : Nat} (h : m < n) (hn : n < 1000) :
    threeDigits m < threeDigits n := by
  refine lt_of_natOfDigits_lt rfl (isDigit_threeDigits m) (isDigit_threeDigits n) ?_
  rw [natOfDigits_threeDigits, natOfDigits_threeDigits]
  omega

theorem fourDigits_lt {m n : Nat} (h : m < n) (hn : n < 10000) : fourDigits m < fourDigits n := by
  refine lt_of_natOfDigits_lt rfl (isDigit_fourDigits m) (isDigit_fourDigits n) ?_
  rw [natOfDigits_fourDigits, natOfDigits_fourDigits]
  omega

end UserDirectory.Text
