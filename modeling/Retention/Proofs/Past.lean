import Mathlib.Data.List.Induction

/-! # Memories

Acts give values, depending on what was done before, and some of them are resets. A memory keeps the
first value since the last reset: it is empty if and only if there has been none.
-/

namespace Retention

variable {α β : Type} {reset : α → Prop} {value : List α → α → Option β} {kept : List α → Option β}
  {past before : List α} {x : α} {b : β}

/-- Since the last reset there has been no value: wherever there was one, a reset followed. -/
def NoneSince (reset : α → Prop) (value : List α → α → Option β) (past : List α) : Prop :=
  ∀ before x behind, past = before ++ x :: behind → value before x ≠ none → ∃ r ∈ behind, reset r

/-- The first value since the last reset was given behind these acts. -/
def FirstSince (reset : α → Prop) (value : List α → α → Option β) (past before : List α) (b : β) : Prop :=
  ∃ x behind, past = before ++ x :: behind ∧ NoneSince reset value before ∧ value before x = some b ∧
    ∀ r ∈ behind, ¬ reset r

/-- What is kept after acts is the first value since the last reset. -/
structure IsMemory (reset : α → Prop) (value : List α → α → Option β) (kept : List α → Option β) : Prop where
  nil : kept [] = none
  of_reset : ∀ past x, reset x → kept (past ++ [x]) = none
  of_not_reset : ∀ past x, ¬ reset x → kept (past ++ [x]) = (kept past).or (value past x)
  value_of_reset : ∀ past x, reset x → value past x = none

namespace NoneSince

theorem of_concat (h : NoneSince reset value (past ++ [x])) (hx : ¬ reset x) : NoneSince reset value past := by
  intro before y behind hsplit hy
  obtain ⟨r, hr, hreset⟩ := h before y (behind ++ [x]) (by rw [hsplit, List.append_assoc, List.cons_append]) hy
  rcases List.mem_append.mp hr with hr | hr
  · exact ⟨r, hr, hreset⟩
  · exact absurd (List.mem_singleton.mp hr ▸ hreset) hx

theorem value_eq_none (h : NoneSince reset value (past ++ [x])) : value past x = none := by
  by_contra hx
  obtain ⟨r, hr, -⟩ := h past x [] rfl hx
  cases hr

theorem concat (hx : value past x = none) (h : reset x ∨ NoneSince reset value past) :
    NoneSince reset value (past ++ [x]) := by
  intro before y behind hsplit hy
  rcases List.eq_nil_or_concat behind with rfl | ⟨behind, z, rfl⟩
  · obtain ⟨rfl, hxy⟩ := List.append_inj' hsplit rfl
    rw [← List.singleton_inj.mp hxy] at hy
    exact absurd hx hy
  · rw [List.concat_eq_append, ← List.cons_append, ← List.append_assoc] at hsplit
    obtain ⟨hpast, hxz⟩ := List.append_inj' hsplit rfl
    rw [List.concat_eq_append, ← List.singleton_inj.mp hxz]
    rcases h with hreset | hnone
    · exact ⟨x, List.mem_append_right _ (List.mem_singleton_self x), hreset⟩
    · obtain ⟨r, hr, hreset⟩ := hnone before y behind hpast hy
      exact ⟨r, List.mem_append_left _ hr, hreset⟩

end NoneSince

namespace IsMemory

theorem eq_none_of_noneSince (h : IsMemory reset value kept) (hnone : NoneSince reset value past) : kept past = none := by
  induction past using List.reverseRecOn with
  | nil => exact h.nil
  | append_singleton past x ih =>
    by_cases hx : reset x
    · exact h.of_reset past x hx
    · rw [h.of_not_reset past x hx, ih (hnone.of_concat hx), hnone.value_eq_none, Option.none_or]

theorem eq_some_of_firstSince (h : IsMemory reset value kept) (hfirst : FirstSince reset value past before b) :
    kept past = some b := by
  obtain ⟨x, behind, rfl, hnone, hb, hquiet⟩ := hfirst
  induction behind using List.reverseRecOn with
  | nil =>
    have hx : ¬ reset x := fun hx => by cases (h.value_of_reset before x hx).symm.trans hb
    rw [h.of_not_reset before x hx, h.eq_none_of_noneSince hnone, Option.none_or, hb]
  | append_singleton behind y ih =>
    have hkept := ih fun r hr => hquiet r (List.mem_append_left _ hr)
    have hy : ¬ reset y := hquiet y (List.mem_append_right _ (List.mem_singleton_self y))
    rw [← List.cons_append, ← List.append_assoc, h.of_not_reset _ y hy, hkept, Option.some_or]

theorem noneSince_or_firstSince (h : IsMemory reset value kept) (past : List α) :
    NoneSince reset value past ∨ ∃ before b, FirstSince reset value past before b := by
  induction past using List.reverseRecOn with
  | nil => exact .inl fun before x behind hsplit => absurd hsplit (by simp)
  | append_singleton past x ih =>
    by_cases hx : reset x
    · exact .inl (.concat (h.value_of_reset past x hx) (.inl hx))
    rcases ih with hnone | ⟨before, b, y, behind, hsplit, hnone, hb, hquiet⟩
    · cases hvalue : value past x with
      | none => exact .inl (.concat hvalue (.inr hnone))
      | some b => exact .inr ⟨past, b, x, [], rfl, hnone, hvalue, fun r hr => nomatch hr⟩
    · refine .inr ⟨before, b, y, behind ++ [x], by rw [hsplit, List.append_assoc, List.cons_append], hnone, hb, ?_⟩
      rintro r hr
      rcases List.mem_append.mp hr with hr | hr
      · exact hquiet r hr
      · exact List.mem_singleton.mp hr ▸ hx

end IsMemory
end Retention
