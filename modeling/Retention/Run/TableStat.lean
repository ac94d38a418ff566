import Retention.Log.Record
import Retention.Value.Literal
import Retention.Value.Whole

/-! # Table statistics

One row of the statistics query, in the order of its columns. The nine counters are whole numbers however they are
delivered; the other columns are kept as they are.
-/

namespace Retention.Run

structure TableStat where
  tableName : Value
  tableSize : Value
  tuplesInserted : Int
  tuplesUpdated : Int
  tuplesDeleted : Int
  tuplesLive : Int
  tuplesDead : Int
  vacuumCount : Int
  autovacuumCount : Int
  analyzeCount : Int
  autoanalyzeCount : Int
  lastVacuum : Value
  lastAutovacuum : Value
  lastAnalyze : Value
  lastAutoanalyze : Value
  deriving Repr

inductive BadStatRow where
  | noLength (typeName : String)
  | columns (found : Nat)
  | counter (reason : Unwhole)
  deriving DecidableEq, Repr

def BadStatRow.toMishap : BadStatRow → Mishap
  | .noLength typeName => ⟨.type, "object of type '" ++ typeName ++ "' has no len()"⟩
  | .columns found => ⟨.value, "expected 15 columns, got " ++ toString found⟩
  | .counter reason => reason.toMishap

/-- The columns of a row: the items of a list, the characters of a text, bytes as numbers, the keys of a map. -/
def columns (row : Value) : Except BadStatRow (List Value) :=
  match row with
  | .list items => .ok items
  | .text s => .ok (s.toList.map fun c => .text (String.singleton c))
  | .bytes bs => .ok (bs.map fun b => .int b.toNat)
  | .map entries => .ok (entries.map fun e => .text e.1)
  | v => .error (.noLength v.typeName)

namespace TableStat

/-- Counters are read in the order of the columns. -/
def ofColumns : List Value → Except BadStatRow TableStat
  | [name, size, inserted, updated, deleted, live, dead, vacuums, autovacuums, analyzes, autoanalyzes, vacuum, autovacuum,
      analyze, autoanalyze] => do
    let counter (v : Value) := v.toWhole.mapError BadStatRow.counter
    return {
      tableName := name
      tableSize := size
      tuplesInserted := ← counter inserted
      tuplesUpdated := ← counter updated
      tuplesDeleted := ← counter deleted
      tuplesLive := ← counter live
      tuplesDead := ← counter dead
      vacuumCount := ← counter vacuums
      autovacuumCount := ← counter autovacuums
      analyzeCount := ← counter analyzes
      autoanalyzeCount := ← counter autoanalyzes
      lastVacuum := vacuum
      lastAutovacuum := autovacuum
      lastAnalyze := analyze
      lastAutoanalyze := autoanalyze }
  | items => .error (.columns items.length)

def ofRow (row : Value) : Except BadStatRow TableStat := do
  ofColumns (← columns row)

def logged : Value → Value
  | .moment m => .text m.toText
  | v => v

def fields (s : TableStat) : Log.Fields :=
  [("table_name", logged s.tableName),
    ("table_size", logged s.tableSize),
    ("tuples_inserted", .int s.tuplesInserted),
    ("tuples_updated", .int s.tuplesUpdated),
    ("tuples_deleted", .int s.tuplesDeleted),
    ("tuples_live", .int s.tuplesLive),
    ("tuples_dead", .int s.tuplesDead),
    ("vacuum_count", .int s.vacuumCount),
    ("autovacuum_count", .int s.autovacuumCount),
    ("analyze_count", .int s.analyzeCount),
    ("autoanalyze_count", .int s.autoanalyzeCount),
    ("last_vacuum", logged s.lastVacuum),
    ("last_autovacuum", logged s.lastAutovacuum),
    ("last_analyze", logged s.lastAnalyze),
    ("last_autoanalyze", logged s.lastAutoanalyze)]

def record (s : TableStat) : Log.Record :=
  .info "stats.table" s.fields

end TableStat
end Retention.Run
