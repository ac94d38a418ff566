import Mathlib.Data.String.Basic
import Retention.Database.Store

/-! # The order of stored moments

A stored text has fields of fixed width, the most significant first, so texts are ordered as the
wall clocks that they show. What has expired at a cutoff has therefore expired at every later one.
-/

namespace Retention.Text

theorem digitChar_lt_iff {m n : Nat} (hm : m < 10) (hn : n < 10) :
    digitChar m < digitChar n ↔ m < n := by
  have h : ∀ m n : Fin 10, digitChar m < digitChar n ↔ m < n := by decide
  exact h ⟨m, hm⟩ ⟨n, hn⟩

theorem digitChar_inj {m n : Nat} (hm : m < 10) (hn : n < 10) :
    digitChar m = digitChar n ↔ m = n := by
  have h : ∀ m n : Fin 10, digitChar m = digitChar n ↔ m = n := by decide
  simpa using h ⟨m, hm⟩ ⟨n, hn⟩

theorem padded_append_lt_iff {width m n : Nat} (hm : m < 10 ^ width) (hn : n < 10 ^ width)
    (r r' : List Char) :
    padded width m ++ r < padded width n ++ r' ↔ m < n ∨ m = n ∧ r < r' := by
  induction width generalizing m n r r' with
  | zero => simp_all [padded]
  | succ width ih =>
    rw [Nat.pow_succ] at hm hn
    have hm' : m / 10 < 10 ^ width := by omega
    have hn' : n / 10 < 10 ^ width := by omega
    have hlt := digitChar_lt_iff (Nat.mod_lt m (by decide)) (Nat.mod_lt n (by decide))
    have heq := digitChar_inj (Nat.mod_lt m (by decide)) (Nat.mod_lt n (by decide))
    rw [padded, padded, List.append_assoc, List.append_assoc, ih hm' hn', List.singleton_append,
      List.singleton_append, List.cons_lt_cons_iff, hlt, heq]
    by_cases h : r < r' <;> simp only [h, and_true, and_false, or_false] <;> omega

theorem padded_lt_iff {width m n : Nat} (hm : m < 10 ^ width) (hn : n < 10 ^ width) :
    padded width m < padded width n ↔ m < n := by
  have h := padded_append_lt_iff hm hn [] []
  rw [List.append_nil, List.append_nil] at h
  simpa using h

end Retention.Text

namespace Retention.Calendar

open Text

namespace Moment

/-- What the wall clock shows, the most significant part first. -/
def wallClock (m : Moment) : List Nat :=
  [m.date.year, m.date.month, m.date.day, m.time.hour, m.time.minute, m.time.second, m.time.microsecond]

/-- Stored texts are ordered as wall clocks. -/
theorem storedText_lt_iff (m n : Moment) :
    m.storedText < n.storedText ↔ m.wallClock < n.wallClock := by
  have year (d : Date) : d.year < 10 ^ 4 := Nat.lt_succ_of_le d.year_mem.2
  have month (d : Date) : d.month < 10 ^ 2 := d.month_mem.2.trans_lt (by decide)
  have day (d : Date) : d.day < 10 ^ 2 := (d.day_mem.2.trans (daysInMonth_le _ _)).trans_lt (by decide)
  have hour (t : TimeOfDay) : (t.hour : Nat) < 10 ^ 2 := t.hour.isLt.trans (by decide)
  have minute (t : TimeOfDay) : (t.minute : Nat) < 10 ^ 2 := t.minute.isLt.trans (by decide)
  have second (t : TimeOfDay) : (t.second : Nat) < 10 ^ 2 := t.second.isLt.trans (by decide)
  have microsecond (t : TimeOfDay) : (t.microsecond : Nat) < 10 ^ 6 := t.microsecond.isLt
  rw [String.lt_iff_toList_lt]
  simp only [storedText, String.toList_ofList, Date.chars, TimeOfDay.seconds, TimeOfDay.micros, wallClock,
    List.append_assoc, List.cons_append, List.cons_lt_cons_iff, lt_self_iff_false, false_or, true_and,
    padded_append_lt_iff (year _) (year _), padded_append_lt_iff (month _) (month _),
    padded_append_lt_iff (day _) (day _), padded_append_lt_iff (hour _) (hour _),
    padded_append_lt_iff (minute _) (minute _), padded_append_lt_iff (second _) (second _),
    padded_lt_iff (microsecond _) (microsecond _), and_false, or_false]

end Moment
end Retention.Calendar

namespace Retention.Database

open Calendar

theorem Compose.isExpired_of_le {cutoff₁ cutoff₂ : Moment}
    (hle : cutoff₁.wallClock ≤ cutoff₂.wallClock) (p : Compose)
    (h : p.isExpired cutoff₁ = true) : p.isExpired cutoff₂ = true := by
  have htext : cutoff₁.storedText ≤ cutoff₂.storedText := by
    rw [← not_lt, Moment.storedText_lt_iff]
    exact not_lt.mpr hle
  obtain ⟨t, ht, hlt⟩ := (Option.any_eq_true _ _).mp h
  exact (Option.any_eq_true _ _).mpr ⟨t, ht, decide_eq_true ((of_decide_eq_true hlt).trans_le htext)⟩

end Retention.Database
