import Retention.Proofs.Calendar.Landing

/-! # The order of cutoffs

Days are clamped to the end of a month, so moments of one month may share the date of their cutoff,
and then their times of day decide. Otherwise cutoffs are ordered as their moments. To move back twice
leads no later than to move back at once, and as far unless the month between is too short.
-/

namespace Retention.Calendar

namespace Date

variable {d d' e e' : Date} {n : Int}

/-- Year, month and day, the most significant part first. -/
def parts (d : Date) : List Nat :=
  [d.year, d.month, d.day]

def SameMonth (d d' : Date) : Prop :=
  d.year = d'.year ∧ d.month = d'.month

def IsLast (d : Date) : Prop :=
  d.day = daysInMonth d.year d.month

theorem eq_iff_parts : d = d' ↔ d.parts = d'.parts := by
  obtain ⟨year, month, day, _, _, _⟩ := d
  obtain ⟨year', month', day', _, _, _⟩ := d'
  simp [parts]

theorem sameMonth_iff : d.SameMonth d' ↔ d.index = d'.index := by
  have hm := d.month_mem
  have hm' := d'.month_mem
  unfold SameMonth index monthIndex
  omega

theorem SameMonth.daysInMonth_eq (h : d.SameMonth d') :
    daysInMonth d.year d.month = daysInMonth d'.year d'.month := by
  rw [h.1, h.2]

theorem SameMonth.eq_iff (h : d.SameMonth d') : d = d' ↔ d.day = d'.day := by
  simp [eq_iff_parts, parts, h.1, h.2]

theorem parts_lt_iff : d.parts < d'.parts ↔ d.index < d'.index ∨ d.SameMonth d' ∧ d.day < d'.day := by
  rw [index_lt_iff]
  simp only [parts, SameMonth, List.cons_lt_cons_iff, List.not_lt_nil, and_false, or_false]
  tauto

theorem parts_le_iff : d.parts ≤ d'.parts ↔ d.index < d'.index ∨ d.SameMonth d' ∧ d.day ≤ d'.day := by
  rw [← not_lt, parts_lt_iff, sameMonth_iff, sameMonth_iff]
  omega

theorem yearAt_index (d : Date) : yearAt d.index = d.year := by
  have hm := d.month_mem
  rw [yearAt_eq, index, monthIndex]
  omega

theorem SameMonth.minusMonths (h : d.SameMonth d') (he : d.minusMonths n = .ok e) (he' : d'.minusMonths n = .ok e') :
    e.SameMonth e' := by
  rw [sameMonth_iff] at h ⊢
  rw [(minusMonths_ok he).1, (minusMonths_ok he').1, h]

/-- Moving back keeps the order of dates. -/
theorem parts_minusMonths_le (h : d.parts ≤ d'.parts) (he : d.minusMonths n = .ok e) (he' : d'.minusMonths n = .ok e') :
    e.parts ≤ e'.parts := by
  rw [parts_le_iff] at h ⊢
  obtain ⟨hindex, hday⟩ := minusMonths_ok he
  obtain ⟨hindex', hday'⟩ := minusMonths_ok he'
  rcases h with hlt | ⟨hmonth, hle⟩
  · left
    omega
  · have hmonth' := hmonth.minusMonths he he'
    refine .inr ⟨hmonth', ?_⟩
    rw [hday, hday', hmonth'.daysInMonth_eq]
    omega

/-- Two dates with one cutoff are clamped to the last day of a month, the later one at least. -/
theorem clamped_of_minusMonths (hlt : d.parts < d'.parts) (he : d.minusMonths n = .ok e)
    (he' : d'.minusMonths n = .ok e) : d.SameMonth d' ∧ e.IsLast ∧ e.day < d'.day := by
  obtain ⟨hindex, hday⟩ := minusMonths_ok he
  obtain ⟨hindex', hday'⟩ := minusMonths_ok he'
  rcases parts_lt_iff.mp hlt with hearlier | ⟨hmonth, hless⟩
  · omega
  · refine ⟨hmonth, ?_, ?_⟩
    · unfold IsLast
      omega
    · omega

/-- Two moves in a row reach the month of the single move, on a day that the month between may have clamped. -/
theorem minusMonths_add {a b : Int} (he : d.minusMonths a = .ok e) (he' : e.minusMonths b = .ok e') :
    ∃ f, d.minusMonths (a + b) = .ok f ∧ e'.SameMonth f ∧ e'.day = min f.day (daysInMonth e.year e.month) := by
  obtain ⟨hindex, hday⟩ := minusMonths_ok he
  obtain ⟨hindex', hday'⟩ := minusMonths_ok he'
  have hsum : d.index - (a + b) = e'.index := by omega
  have hyear := e'.year_mem
  unfold minYear maxYear at hyear
  obtain ⟨f, hf, -⟩ := minusMonths_of_mem (d := d) (n := a + b) (by rw [hsum, yearAt_index]; omega)
  obtain ⟨hfindex, hfday⟩ := minusMonths_ok hf
  have hmonth : e'.SameMonth f := sameMonth_iff.mpr (by omega)
  refine ⟨f, hf, hmonth, ?_⟩
  rw [hday', hday, hfday, hmonth.daysInMonth_eq]
  omega

end Date

def TimeOfDay.parts (t : TimeOfDay) : List Nat :=
  [t.hour, t.minute, t.second, t.microsecond]

theorem Moment.wallClock_lt_iff {m n : Moment} :
    m.wallClock < n.wallClock ↔ m.date.parts < n.date.parts ∨ m.date = n.date ∧ m.time.parts < n.time.parts := by
  rw [Date.eq_iff_parts]
  simp only [wallClock, Date.parts, TimeOfDay.parts, List.cons_lt_cons_iff, List.not_lt_nil, and_false, or_false,
    List.cons.injEq, and_true]
  tauto

theorem Moment.wallClock_le_iff {m n : Moment} :
    m.wallClock ≤ n.wallClock ↔ m.date.parts < n.date.parts ∨ m.date = n.date ∧ m.time.parts ≤ n.time.parts := by
  rw [← not_lt, wallClock_lt_iff, ← not_lt, Date.eq_iff_parts, Date.eq_iff_parts]
  rcases lt_trichotomy m.date.parts n.date.parts with h | h | h
  · simp [h, h.not_gt, h.ne']
  · simp [h]
  · simp [h, h.not_gt, h.ne']

theorem Moment.date_le_of_wallClock_le {m n : Moment} (h : m.wallClock ≤ n.wallClock) : m.date.parts ≤ n.date.parts := by
  rcases wallClock_le_iff.mp h with hlt | ⟨heq, -⟩
  · exact hlt.le
  · exact (Date.eq_iff_parts.mp heq).le

/-- The earlier of two moments has the later cutoff: both stand in one month, both cutoffs fall on the last day of
one month, the later day was clamped to it, and the earlier moment has the later time of day. -/
structure Overtakes (n₁ n₂ c₁ c₂ : Moment) : Prop where
  dates : n₁.date ≠ n₂.date
  month : n₁.date.SameMonth n₂.date
  cutoffMonth : c₁.date.SameMonth c₂.date
  last₁ : c₁.date.IsLast
  last₂ : c₂.date.IsLast
  clamped : c₂.date.day < n₂.date.day
  later : n₂.time.parts < n₁.time.parts

theorem overtakes_iff {n₁ n₂ c₁ c₂ : Moment} {m : Int} (hle : n₁.wallClock ≤ n₂.wallClock)
    (h₁ : cutoff n₁ (.int m) = .ok c₁) (h₂ : cutoff n₂ (.int m) = .ok c₂) :
    c₂.wallClock < c₁.wallClock ↔ Overtakes n₁ n₂ c₁ c₂ := by
  obtain ⟨d₁, hd₁, rfl⟩ := cutoff_int_ok h₁
  obtain ⟨d₂, hd₂, rfl⟩ := cutoff_int_ok h₂
  rw [Moment.wallClock_lt_iff]
  constructor
  · rintro (hdates | ⟨rfl, hlater⟩)
    · have hkept := Date.parts_minusMonths_le (Moment.date_le_of_wallClock_le hle) hd₁ hd₂
      exact absurd hkept (not_le.mpr hdates)
    · rcases Moment.wallClock_le_iff.mp hle with hdates | ⟨-, htimes⟩
      · obtain ⟨hmonth, hlast, hclamped⟩ := Date.clamped_of_minusMonths hdates hd₁ hd₂
        exact ⟨fun h => hdates.ne (Date.eq_iff_parts.mp h), hmonth, ⟨rfl, rfl⟩, hlast, hlast, hclamped, hlater⟩
      · exact absurd htimes (not_le.mpr hlater)
  · intro h
    have hday : d₁.day = d₂.day := h.last₁.trans (h.cutoffMonth.daysInMonth_eq.trans h.last₂.symm)
    exact .inr ⟨(h.cutoffMonth.eq_iff.mpr hday).symm, h.later⟩

/-- Cutoffs of one window keep the order of dates, and that of moments unless the earlier overtakes. Two windows in
a row lead no later than their sum, and equally far if and only if the day that the sum keeps is one of the month
between. -/
theorem cutoff_ordered :
    (∀ {n₁ n₂ c₁ c₂ : Moment} {m : Int}, n₁.offset = n₂.offset → n₁.wallClock ≤ n₂.wallClock →
      cutoff n₁ (.int m) = .ok c₁ → cutoff n₂ (.int m) = .ok c₂ →
      c₁.offset = c₂.offset ∧ c₁.date.parts ≤ c₂.date.parts ∧
        (c₂.wallClock < c₁.wallClock ↔ Overtakes n₁ n₂ c₁ c₂)) ∧
    ∀ {n c d : Moment} {a b : Int}, cutoff n (.int a) = .ok c → cutoff c (.int b) = .ok d →
      ∃ e, cutoff n (.int (a + b)) = .ok e ∧ d.offset = e.offset ∧ d.wallClock ≤ e.wallClock ∧
        (d = e ↔ min n.date.day (daysInMonth e.date.year e.date.month) ≤
          daysInMonth c.date.year c.date.month) := by
  constructor
  · intro n₁ n₂ c₁ c₂ m hoffset hle h₁ h₂
    have hovertakes := overtakes_iff hle h₁ h₂
    obtain ⟨d₁, hd₁, rfl⟩ := cutoff_int_ok h₁
    obtain ⟨d₂, hd₂, rfl⟩ := cutoff_int_ok h₂
    exact ⟨hoffset, Date.parts_minusMonths_le (Moment.date_le_of_wallClock_le hle) hd₁ hd₂, hovertakes⟩
  · intro n c d a b hc hd
    obtain ⟨dc, hdc, rfl⟩ := cutoff_int_ok hc
    obtain ⟨dd, hdd, rfl⟩ := cutoff_int_ok hd
    obtain ⟨f, hf, hmonth, hday⟩ := Date.minusMonths_add hdc hdd
    refine ⟨{ n with date := f }, ?_, rfl, ?_, ?_⟩
    · rw [cutoff_int, Moment.minusMonths, hf]
      rfl
    · rw [Moment.wallClock_le_iff]
      rcases (hday ▸ Nat.min_le_left _ _ : dd.day ≤ f.day).lt_or_eq with hlt | heq
      · exact .inl (Date.parts_lt_iff.mpr (.inr ⟨hmonth, hlt⟩))
      · exact .inr ⟨hmonth.eq_iff.mpr heq, le_rfl⟩
    · rw [← (Date.minusMonths_ok hf).2, Moment.mk.injEq, hmonth.eq_iff, hday]
      simp

def in2024 (month day : Nat) (hour : Fin 24) (hmonth : 1 ≤ month ∧ month ≤ 12)
    (hday : 1 ≤ day ∧ day ≤ daysInMonth 2024 month) : Moment :=
  ⟨⟨2024, month, day, by decide, hmonth, hday⟩, ⟨hour, ⟨0, by decide⟩, ⟨0, by decide⟩, ⟨0, by decide⟩⟩, none⟩

/-- Noon on the thirtieth of March overtakes the morning after, and from the last of May two single months lead to
another day than two months at once. -/
theorem cutoff_ordered_leap :
    let noon := in2024 3 30 12 (by decide) (by decide)
    let morning := in2024 3 31 6 (by decide) (by decide)
    let lastOfMay := in2024 5 31 0 (by decide) (by decide)
    let lastOfApril := in2024 4 30 0 (by decide) (by decide)
    let inMarch := in2024 3 30 0 (by decide) (by decide)
    Overtakes noon morning (in2024 2 29 12 (by decide) (by decide)) (in2024 2 29 6 (by decide) (by decide)) ∧
      cutoff lastOfMay (.int 1) = .ok lastOfApril ∧ cutoff lastOfApril (.int 1) = .ok inMarch ∧
      ∃ e, cutoff lastOfMay (.int (1 + 1)) = .ok e ∧ inMarch.wallClock ≤ e.wallClock ∧ inMarch ≠ e := by
  intro noon morning lastOfMay lastOfApril inMarch
  have hnoon : cutoff noon (.int 1) = .ok (in2024 2 29 12 (by decide) (by decide)) := by decide +kernel
  have hmorning : cutoff morning (.int 1) = .ok (in2024 2 29 6 (by decide) (by decide)) := by decide +kernel
  have hmay : cutoff lastOfMay (.int 1) = .ok lastOfApril := by decide +kernel
  have hapril : cutoff lastOfApril (.int 1) = .ok inMarch := by decide +kernel
  obtain ⟨-, -, hovertakes⟩ := cutoff_ordered.1 (show noon.offset = morning.offset from rfl) (by decide) hnoon hmorning
  obtain ⟨e, he, -, hle, heq⟩ := cutoff_ordered.2 hmay hapril
  have hsum : cutoff lastOfMay (.int (1 + 1)) = .ok (in2024 3 31 0 (by decide) (by decide)) := by decide +kernel
  obtain rfl := Except.ok.inj (he.symm.trans hsum)
  exact ⟨hovertakes.mp (by decide), hmay, hapril, _, he, hle, fun h => absurd (heq.mp h) (by decide)⟩

end Retention.Calendar
