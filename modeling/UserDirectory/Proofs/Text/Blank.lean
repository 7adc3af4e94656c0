import Mathlib.Data.List.TakeWhile
import Mathlib.Tactic.Common
import UserDirectory.Text.Unicode

/-!
# Proofs.Text.Blank — a text without the blanks at its ends

* `Core t s`: `t` is `s` between blanks, and `s` itself neither starts nor ends with one.
* `core_iff`: every text has exactly one core, which is what `trim` gives.
-/

namespace UserDirectory.Text

/-- The text `t` is `s` with blanks around it, and `s` has none at its ends. -/
structure Core (t s : List Char) : Prop where
  around : ∃ before after, t = before ++ (s ++ after) ∧ (∀ c ∈ before, isBlank c = true) ∧
    ∀ c ∈ after, isBlank c = true
  start : ∀ c ∈ s.head?, isBlank c = false
  stop : ∀ c ∈ s.getLast?, isBlank c = false

theorem head?_trimStart (t : List Char) : ∀ c ∈ (trimStart t).head?, isBlank c = false := by
  intro c hc
  have hnot := List.head?_dropWhile_not isBlank t
  unfold trimStart at hc
  rw [Option.mem_def.mp hc] at hnot
  exact hnot

/-- A text is its leading blanks and the rest. -/
theorem exists_leading (t : List Char) :
    ∃ before, t = before ++ trimStart t ∧ ∀ c ∈ before, isBlank c = true :=
  ⟨t.takeWhile isBlank, (List.takeWhile_append_dropWhile).symm, fun _ hc => List.mem_takeWhile_imp hc⟩

theorem trimStart_append {b s : List Char} (hb : ∀ c ∈ b, isBlank c = true)
    (hs : ∀ c ∈ s.head?, isBlank c = false) : trimStart (b ++ s) = s := by
  unfold trimStart
  rw [List.dropWhile_append_of_pos hb]
  cases s with
  | nil => rfl
  | cons c r => exact trimStart_cons_of_not_isBlank (hs c rfl) r

theorem core_trim (t : List Char) : Core t (trim t) := by
  obtain ⟨before, hbefore, hblank⟩ := exists_leading t
  obtain ⟨after, hafter, hblank'⟩ := exists_leading (trimStart t).reverse
  have hrest : trimStart t = trim t ++ after.reverse := by
    have h := congrArg List.reverse hafter
    rw [List.reverse_reverse, List.reverse_append] at h
    exact h
  refine ⟨⟨before, after.reverse, ?_, hblank, ?_⟩, ?_, ?_⟩
  · rw [← hrest]
    exact hbefore
  · intro c hc
    exact hblank' c (List.mem_reverse.mp hc)
  · -- The trimmed text starts as the text without its leading blanks does.
    intro c hc
    refine head?_trimStart t c ?_
    rw [hrest]
    cases htrim : trim t with
    | nil => rw [htrim] at hc; cases hc
    | cons d r => rw [htrim] at hc; exact hc
  · intro c hc
    refine head?_trimStart (trimStart t).reverse c ?_
    unfold trim at hc
    rw [List.getLast?_reverse] at hc
    exact hc

/-- **Trimming**: every text has exactly one core. -/
theorem core_iff {t s : List Char} : Core t s ↔ s = trim t := by
  refine ⟨?_, fun h => h ▸ core_trim t⟩
  rintro ⟨⟨before, after, rfl, hbefore, hafter⟩, hstart, hstop⟩
  have hreverse : ∀ c ∈ after.reverse, isBlank c = true :=
    fun c hc => hafter c (List.mem_reverse.mp hc)
  have hend : ∀ c ∈ s.reverse.head?, isBlank c = false := by
    rw [List.head?_reverse]
    exact hstop
  have hstripped : trimStart (before ++ (s ++ after)) = s ++ after ∨
      s = [] ∧ trimStart (before ++ (s ++ after)) = [] := by
    cases s with
    | nil =>
      refine .inr ⟨rfl, ?_⟩
      unfold trimStart
      rw [List.dropWhile_eq_nil_iff]
      intro c hc
      rcases List.mem_append.mp hc with h | h
      · exact hbefore c h
      · exact hafter c h
    | cons d r => exact .inl (trimStart_append hbefore hstart)
  unfold trim
  rcases hstripped with h | ⟨rfl, h⟩
  · rw [h, List.reverse_append, trimStart_append hreverse hend, List.reverse_reverse]
  · rw [h]
    rfl

end UserDirectory.Text
