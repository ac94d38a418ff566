import Mathlib.Data.List.Forall2
import Retention.Proofs.Number.Truncation
import Retention.Proofs.Text.Numeral
import Retention.Run.TableStat

/-! # Counters however they are delivered

An integer may come as itself, as a text of it, in bytes, or as a number with a fraction that is cut off. A row has
statistics if and only if its counters deliver integers, and these are the same in whatever form they come.
Statistics that were written to a record can be read back from its values.
-/

namespace Retention

open Text

namespace Value

variable {v : Value} {n : Int}

/-- The value is one of the forms in which the integer comes. -/
inductive Delivers : Value → Int → Prop
  | bool (b : Bool) : Delivers (.bool b) (if b then 1 else 0)
  | int (n : Int) : Delivers (.int n) n
  | float {x q} (worth : x.worth? = some q) : Delivers (.float x) (truncated q)
  | decimal {d q} (worth : d.worth? = some q) : Delivers (.decimal d) (truncated q)
  | text {s n} (text : Numeral.IsTextOf isBlank digit? s.toList n) : Delivers (.text s) n
  | bytes {bs n} (text : Numeral.IsTextOf isAsciiBlank asciiDigit? (bs.map fun b => Char.ofNat b.toNat) n) :
      Delivers (.bytes bs) n

theorem toWhole_float_eq_ok_iff {x : Binary64} : toWhole (.float x) = .ok n ↔ x.truncate? = some n := by
  rcases x with _ | _ | _ <;> simp [toWhole, Binary64.truncate?]

theorem toWhole_decimal_eq_ok_iff {d : Decimal} : toWhole (.decimal d) = .ok n ↔ d.truncate? = some n := by
  rcases d with _ | _ | _ <;> simp [toWhole, Decimal.truncate?]

/-- A value has a whole number if and only if it is one of the forms in which the number comes. -/
theorem toWhole_eq_ok_iff : v.toWhole = .ok n ↔ Delivers v n := by
  constructor
  · intro h
    cases v with
    | bool b =>
      obtain rfl := Except.ok.inj h
      exact .bool b
    | int m =>
      obtain rfl := Except.ok.inj h
      exact .int m
    | float x =>
      rw [toWhole_float_eq_ok_iff, Binary64.truncate?_eq] at h
      obtain ⟨q, hq, rfl⟩ := Option.map_eq_some_iff.mp h
      exact .float hq
    | decimal d =>
      rw [toWhole_decimal_eq_ok_iff, Decimal.truncate?_eq] at h
      obtain ⟨q, hq, rfl⟩ := Option.map_eq_some_iff.mp h
      exact .decimal hq
    | text s => exact .text ((Numeral.read_eq_ok_iff Numeral.isAlphabet_text).mp (mapError_eq_ok_iff.mp h))
    | bytes bs => exact .bytes ((Numeral.read_eq_ok_iff Numeral.isAlphabet_bytes).mp (mapError_eq_ok_iff.mp h))
    | _ => cases h
  · intro h
    cases h with
    | bool b => rfl
    | int n => rfl
    | float worth => rw [toWhole_float_eq_ok_iff, Binary64.truncate?_eq, worth, Option.map_some]
    | decimal worth => rw [toWhole_decimal_eq_ok_iff, Decimal.truncate?_eq, worth, Option.map_some]
    | text text => exact mapError_eq_ok_iff.mpr ((Numeral.read_eq_ok_iff Numeral.isAlphabet_text).mpr text)
    | bytes text => exact mapError_eq_ok_iff.mpr ((Numeral.read_eq_ok_iff Numeral.isAlphabet_bytes).mpr text)

end Value

namespace Run.TableStat

variable {s : TableStat} {cols cols' : List Value}

def values (s : TableStat) : List Value :=
  [s.tableName, s.tableSize, .int s.tuplesInserted, .int s.tuplesUpdated, .int s.tuplesDeleted, .int s.tuplesLive,
    .int s.tuplesDead, .int s.vacuumCount, .int s.autovacuumCount, .int s.analyzeCount, .int s.autoanalyzeCount,
    s.lastVacuum, s.lastAutovacuum, s.lastAnalyze, s.lastAutoanalyze]

def counterColumns (cols : List Value) : List Value :=
  (cols.drop 2).take 9

/-- The same columns, but for the forms in which the integers of the counters come. -/
structure Redelivers (cols cols' : List Value) : Prop where
  front : cols'.take 2 = cols.take 2
  counters : List.Forall₂ (fun v v' => ∃ n, v = .int n ∧ v'.Delivers n) (counterColumns cols) (counterColumns cols')
  back : cols'.drop 11 = cols.drop 11

theorem Redelivers.length_eq (h : Redelivers cols cols') (hcols : cols.length = 15) : cols'.length = 15 := by
  have hcounters := List.Forall₂.length_eq h.counters
  have hback := congrArg List.length h.back
  simp only [counterColumns, List.length_take, List.length_drop] at hcounters hback
  omega

theorem counter_bind_eq_ok_iff {α : Type} {x : Except Unwhole Int} {f : Int → Except BadStatRow α} {a : α} :
    (x.mapError BadStatRow.counter >>= f) = .ok a ↔ ∃ n, x = .ok n ∧ f n = .ok a := by
  cases x <;> simp [bind, Except.bind]

/-- Columns have statistics if and only if they are those of the statistics, in whatever form the counters come. -/
theorem ofColumns_eq_ok_iff : ofColumns cols = .ok s ↔ Redelivers s.values cols := by
  constructor
  · intro h
    unfold ofColumns at h
    split at h
    · simp only [counter_bind_eq_ok_iff, Value.toWhole_eq_ok_iff, pure, Except.pure, Except.ok.injEq] at h
      obtain ⟨_, h₁, _, h₂, _, h₃, _, h₄, _, h₅, _, h₆, _, h₇, _, h₈, _, h₉, rfl⟩ := h
      refine ⟨rfl, ?_, rfl⟩
      simp [values, counterColumns, h₁, h₂, h₃, h₄, h₅, h₆, h₇, h₈, h₉]
    · cases h
  · intro h
    have hcols : cols.length = 15 := h.length_eq rfl
    match cols, hcols with
    | [_, _, _, _, _, _, _, _, _, _, _, _, _, _, _], _ =>
      obtain ⟨hfront, hcounters, hback⟩ := h
      simp only [values, counterColumns, List.take, List.drop, List.cons.injEq, and_true] at hfront hcounters hback
      simp only [List.forall₂_cons, List.forall₂_same, Value.int.injEq, exists_eq_left'] at hcounters
      obtain ⟨rfl, rfl⟩ := hfront
      obtain ⟨rfl, rfl, rfl, rfl⟩ := hback
      obtain ⟨h₁, h₂, h₃, h₄, h₅, h₆, h₇, h₈, h₉, -⟩ := hcounters
      simp only [ofColumns, counter_bind_eq_ok_iff, Value.toWhole_eq_ok_iff]
      exact ⟨_, h₁, _, h₂, _, h₃, _, h₄, _, h₅, _, h₆, _, h₇, _, h₈, _, h₉, rfl⟩

theorem Redelivers.integers (h : Redelivers cols cols') : ∀ v ∈ counterColumns cols, ∃ n, v = .int n := by
  have hboth : List.Forall₂ (fun v v' => (∃ n, v = .int n) ∧ ∃ n, v'.Delivers n) (counterColumns cols)
      (counterColumns cols') :=
    List.Forall₂.imp (fun _ _ ⟨n, hv, hv'⟩ => ⟨⟨n, hv⟩, n, hv'⟩) h.counters
  exact ((List.forall₂_and_left _ _).mp hboth).1

theorem exists_values (hcols : cols.length = 15) (h : ∀ v ∈ counterColumns cols, ∃ n, v = .int n) :
    ∃ s : TableStat, s.values = cols := by
  match cols, hcols with
  | [name, size, _, _, _, _, _, _, _, _, _, vacuum, autovacuum, analyze, autoanalyze], _ =>
    simp only [counterColumns, List.drop, List.take, List.forall_mem_cons] at h
    obtain ⟨⟨n₁, rfl⟩, ⟨n₂, rfl⟩, ⟨n₃, rfl⟩, ⟨n₄, rfl⟩, ⟨n₅, rfl⟩, ⟨n₆, rfl⟩, ⟨n₇, rfl⟩, ⟨n₈, rfl⟩, ⟨n₉, rfl⟩, -⟩ := h
    exact ⟨⟨name, size, n₁, n₂, n₃, n₄, n₅, n₆, n₇, n₈, n₉, vacuum, autovacuum, analyze, autoanalyze⟩, rfl⟩

theorem logged_logged (v : Value) : logged (logged v) = logged v := by
  cases v <;> rfl

def rendered (s : TableStat) : TableStat :=
  { s with
    tableName := logged s.tableName
    tableSize := logged s.tableSize
    lastVacuum := logged s.lastVacuum
    lastAutovacuum := logged s.lastAutovacuum
    lastAnalyze := logged s.lastAnalyze
    lastAutoanalyze := logged s.lastAutoanalyze }

theorem fields_rendered (s : TableStat) : s.rendered.fields = s.fields := by
  simp only [fields, rendered, logged_logged]

theorem ofRow_eq_ok_iff {row : Value} :
    ofRow row = .ok s ↔ ∃ cols, columns row = .ok cols ∧ Redelivers s.values cols := by
  rw [ofRow]
  cases hcols : columns row with
  | error reason => simp [bind, Except.bind]
  | ok cols => simp [bind, Except.bind, ofColumns_eq_ok_iff]

theorem redelivers_values (s : TableStat) : Redelivers s.values s.values :=
  ofColumns_eq_ok_iff.mp rfl

/-- Of a row with integers as counters the statistics have every column as it is, and in whatever form its integers
come they are the same. What they are in a record has itself statistics, which are the same in a record. -/
theorem ofRow_isFaithful :
    (∀ {row row' : Value} {cols cols' : List Value}, columns row = .ok cols → columns row' = .ok cols' →
      cols.length = 15 → Redelivers cols cols' → ∃ s, ofRow row = .ok s ∧ ofRow row' = .ok s ∧ s.values = cols) ∧
    ∀ s : TableStat, ∃ s', ofRow (.list (s.fields.map Prod.snd)) = .ok s' ∧ s'.values = s.fields.map Prod.snd ∧
      s'.fields = s.fields := by
  constructor
  · intro row row' cols cols' hrow hrow' hcols h
    obtain ⟨s, rfl⟩ := exists_values hcols h.integers
    exact ⟨s, ofRow_eq_ok_iff.mpr ⟨_, hrow, redelivers_values s⟩, ofRow_eq_ok_iff.mpr ⟨_, hrow', h⟩, rfl⟩
  · intro s
    exact ⟨s.rendered, ofRow_eq_ok_iff.mpr ⟨_, rfl, redelivers_values s.rendered⟩, rfl, fields_rendered s⟩

def plainColumns : List Value :=
  ["composes", "16 kB", .int 10, .int (-12), .int 3, .int 7, .int (-2), .int 1000, .int 0, .int 1, .int 5, .null, .null,
    .null, .null]

/-- The same columns with other forms of the integers: texts with a sign, a low line, zeros in front and digits of two
scripts, bytes, and numbers with a fraction. -/
def spelledColumns : List Value :=
  ["composes", "16 kB", "\n +001_0\t", "\u00a0-\u0661_\u0662", .decimal (.finite false 399 (-2)), .int 7,
    .float (.ofBits 0xC004000000000000), .bytes [0x20, 0x31, 0x5F, 0x30, 0x30, 0x30, 0x0A],
    .float (.ofBits 0xBFE0000000000000), "\u0967", .decimal (.finite false 5 0), .null, .null, .null, .null]

theorem ofRow_spelled :
    plainColumns.length = 15 ∧ Redelivers plainColumns spelledColumns ∧
      ∃ s, ofRow (.list plainColumns) = .ok s ∧ ofRow (.list spelledColumns) = .ok s ∧ s.values = plainColumns := by
  have deliver {v : Value} {n : Int} (h : v.toWhole = .ok n) : ∃ m, Value.int n = .int m ∧ v.Delivers m :=
    ⟨n, rfl, Value.toWhole_eq_ok_iff.mp h⟩
  have hcounters : List.Forall₂ (fun v v' => ∃ n, v = .int n ∧ v'.Delivers n) (counterColumns plainColumns)
      (counterColumns spelledColumns) := by
    simp only [counterColumns, plainColumns, spelledColumns, List.drop, List.take, List.forall₂_cons]
    refine ⟨deliver ?_, deliver ?_, deliver ?_, deliver ?_, deliver ?_, deliver ?_, deliver ?_, deliver ?_, deliver ?_,
      .nil⟩ <;> decide +kernel
  have h : Redelivers plainColumns spelledColumns := ⟨rfl, hcounters, rfl⟩
  exact ⟨rfl, h, ofRow_isFaithful.1 rfl rfl rfl h⟩

end Run.TableStat
end Retention
