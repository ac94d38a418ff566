import Retention.Database.Url

/-! # The driver in a URL

Only the scheme of a URL is touched when its driver is named: what follows stays as it is, whatever
marks it holds. A URL that names its driver is left alone, so naming it twice is naming it once.
-/

namespace Retention.Database

open Text

variable {url rest : String}

/-- The scheme of the URL leaves the driver open, and this is what follows it. -/
def LeavesDriverOpen (url rest : String) : Prop :=
  url = "postgresql://" ++ rest ∨ url = "postgres://" ++ rest

theorem startsWith_toList_iff {front : String} :
    startsWith front.toList url.toList = true ↔ ∃ rest, url = front ++ rest := by
  rw [startsWith_iff]
  constructor
  · rintro ⟨cs, hcs⟩
    exact ⟨String.ofList cs, String.toList_inj.mp (by rw [hcs, String.toList_append, String.toList_ofList])⟩
  · rintro ⟨rest, rfl⟩
    exact ⟨rest.toList, String.toList_append⟩

theorem startsWith_long_iff : startsWith longScheme url.toList = true ↔ ∃ rest, url = "postgresql://" ++ rest :=
  startsWith_toList_iff

theorem startsWith_short_iff : startsWith shortScheme url.toList = true ↔ ∃ rest, url = "postgres://" ++ rest :=
  startsWith_toList_iff

theorem toList_long (rest : String) : ("postgresql://" ++ rest).toList = longScheme ++ rest.toList := by
  unfold longScheme
  exact String.toList_append

theorem toList_short (rest : String) : ("postgres://" ++ rest).toList = shortScheme ++ rest.toList := by
  unfold shortScheme
  exact String.toList_append

theorem toList_driver (rest : String) : ("postgresql+psycopg://" ++ rest).toList = driverScheme ++ rest.toList := by
  unfold driverScheme
  exact String.toList_append

theorem ofList_driver (rest : String) : String.ofList (driverScheme ++ rest.toList) = "postgresql+psycopg://" ++ rest := by
  rw [← toList_driver, String.ofList_toList]

theorem schemeOf_long (cs : List Char) : schemeOf (longScheme ++ cs) = "postgresql".toList := by
  have hscheme : longScheme ++ cs = "postgresql".toList ++ ':' :: ("//".toList ++ cs) := rfl
  rw [schemeOf, hscheme]
  exact congrArg (Option.elim · _ Prod.fst) (cutPart?_append (by decide) cs)

theorem withDriver_long (rest : String) : withDriver ("postgresql://" ++ rest) = "postgresql+psycopg://" ++ rest := by
  have hstart : startsWith longScheme ("postgresql://" ++ rest).toList = true := startsWith_long_iff.mpr ⟨rest, rfl⟩
  have hplus : ("postgresql".toList.contains '+') = false := by decide
  simp only [withDriver, hstart]
  rw [toList_long, schemeOf_long, hplus, replaceFirst_front, ofList_driver]
  rfl

theorem withDriver_short (rest : String) : withDriver ("postgres://" ++ rest) = "postgresql+psycopg://" ++ rest := by
  have hlong : startsWith longScheme (shortScheme ++ rest.toList) = false := rfl
  have hstart : startsWith shortScheme (shortScheme ++ rest.toList) = true := startsWith_iff.mpr ⟨_, rfl⟩
  simp only [withDriver, toList_short, hlong, hstart]
  rw [replaceFirst_front, ofList_driver]
  rfl

theorem withDriver_other (h : ∀ rest, ¬ LeavesDriverOpen url rest) : withDriver url = url := by
  have hlong : startsWith longScheme url.toList = false :=
    Bool.eq_false_iff.mpr fun hstart => (startsWith_long_iff.mp hstart).elim fun rest hrest => h rest (.inl hrest)
  have hshort : startsWith shortScheme url.toList = false :=
    Bool.eq_false_iff.mpr fun hstart => (startsWith_short_iff.mp hstart).elim fun rest hrest => h rest (.inr hrest)
  simp only [withDriver, hlong, hshort]
  rfl

theorem withDriver_of_leavesDriverOpen (h : LeavesDriverOpen url rest) :
    withDriver url = "postgresql+psycopg://" ++ rest := by
  rcases h with rfl | rfl
  · exact withDriver_long rest
  · exact withDriver_short rest

theorem not_leavesDriverOpen_driver {rest rest' : String} :
    ¬ LeavesDriverOpen ("postgresql+psycopg://" ++ rest) rest' := by
  have hlong : startsWith longScheme (driverScheme ++ rest.toList) = false := rfl
  have hshort : startsWith shortScheme (driverScheme ++ rest.toList) = false := rfl
  rw [← toList_driver, Bool.eq_false_iff, ne_eq, startsWith_long_iff] at hlong
  rw [← toList_driver, Bool.eq_false_iff, ne_eq, startsWith_short_iff] at hshort
  rintro (h | h)
  · exact hlong ⟨rest', h⟩
  · exact hshort ⟨rest', h⟩

theorem not_leavesDriverOpen_withDriver (url : String) : ¬ LeavesDriverOpen (withDriver url) rest := by
  by_cases h : ∃ rest', LeavesDriverOpen url rest'
  · obtain ⟨rest', h⟩ := h
    rw [withDriver_of_leavesDriverOpen h]
    exact not_leavesDriverOpen_driver
  · rw [withDriver_other (not_exists.mp h)]
    exact not_exists.mp h rest

/-- The driver is named in the place of a scheme that leaves it open, and nothing else changes, now or later. -/
theorem withDriver_exact (url : String) :
    (∀ rest, url = "postgresql://" ++ rest ∨ url = "postgres://" ++ rest →
        withDriver url = "postgresql+psycopg://" ++ rest) ∧
      ((∀ rest, url ≠ "postgresql://" ++ rest ∧ url ≠ "postgres://" ++ rest) → withDriver url = url) ∧
      (∀ rest, withDriver url ≠ "postgresql://" ++ rest ∧ withDriver url ≠ "postgres://" ++ rest) ∧
      withDriver (withDriver url) = withDriver url := by
  have hopen : ∀ rest, ¬ LeavesDriverOpen (withDriver url) rest := fun rest => not_leavesDriverOpen_withDriver url
  refine ⟨fun rest h => withDriver_of_leavesDriverOpen h, fun h => ?_, fun rest => ?_, withDriver_other hopen⟩
  · exact withDriver_other fun rest => not_or.mpr (h rest)
  · exact not_or.mp (hopen rest)

theorem withDriver_marked :
    withDriver "postgresql://u:a+postgresql://b@h/d?x=postgres://" =
      "postgresql+psycopg://u:a+postgresql://b@h/d?x=postgres://" :=
  (withDriver_exact _).1 "u:a+postgresql://b@h/d?x=postgres://" (.inl rfl)

end Retention.Database
