import Retention.Calendar.Iso
import Retention.Database.Connection

/-! # The store

Two tables, either of which may be missing: composes with the texts of their creation times, and clones that refer to
composes. With the foreign key on, no clone may refer to a compose that does not exist. Missing texts never match.
-/

namespace Retention.Database

open Calendar

structure Compose where
  jobId : Option String
  createdAt : Option String
  deriving DecidableEq, Repr

/-- The compose that a row of the table of clones refers to. -/
abbrev Clone := Option String

/-- The tables of a store; nothing stands for a missing table. -/
structure Store where
  composes : Option (List Compose)
  clones : Option (List Clone)
  foreignKey : Bool
  deriving DecidableEq, Repr

inductive Row where
  | compose (compose : Compose)
  | clone (clone : Clone)
  deriving DecidableEq, Repr

/-- Created before the cutoff, by the order of the stored texts. -/
def Compose.isExpired (cutoff : Moment) (c : Compose) : Bool :=
  c.createdAt.any fun t => decide (t < cutoff.storedText)

def expiredIds (cutoff : Moment) (composes : List Compose) : List String :=
  (composes.filter (Compose.isExpired cutoff)).filterMap Compose.jobId

def refersTo (ids : List String) (clone : Clone) : Bool :=
  clone.any ids.contains

def noSuchTable (name : String) : DriverError :=
  ⟨.operational, some "sqlite3.OperationalError", "no such table: " ++ name⟩

def foreignKeyFailed : DriverError :=
  ⟨.integrity, some "sqlite3.IntegrityError", "FOREIGN KEY constraint failed"⟩

def readOnlyStore : DriverError :=
  ⟨.operational, some "sqlite3.OperationalError", "attempt to write a readonly database"⟩

namespace Store

def deleteClones (cutoff : Moment) (s : Store) : Except DriverError Reply × Store :=
  match s.clones, s.composes with
  | none, _ => (.error (noSuchTable "clones"), s)
  | _, none => (.error (noSuchTable "composes"), s)
  | some clones, some composes =>
    let expired := refersTo (expiredIds cutoff composes)
    (.ok (.counting (clones.countP expired)), { s with clones := some (clones.filter (!expired ·)) })

def cloneList (s : Store) : List Clone :=
  s.clones.getD []

def composeList (s : Store) : List Compose :=
  s.composes.getD []

/-- Expired composes go together, or stay if a clone refers to one of them. -/
def deleteComposes (cutoff : Moment) (s : Store) : Except DriverError Reply × Store :=
  match s.composes with
  | none => (.error (noSuchTable "composes"), s)
  | some composes =>
    if s.foreignKey && s.cloneList.any (refersTo (expiredIds cutoff composes)) then
      (.error foreignKeyFailed, s)
    else
      let expired := Compose.isExpired cutoff
      (.ok (.counting (composes.countP expired)), { s with composes := some (composes.filter (!expired ·)) })

def countClones (cutoff : Moment) (s : Store) : Except DriverError Reply :=
  match s.clones, s.composes with
  | none, _ => .error (noSuchTable "clones")
  | _, none => .error (noSuchTable "composes")
  | some clones, some composes => .ok (.holding (clones.countP (refersTo (expiredIds cutoff composes))))

def countComposes (cutoff : Moment) (s : Store) : Except DriverError Reply :=
  match s.composes with
  | none => .error (noSuchTable "composes")
  | some composes => .ok (.holding (composes.countP (Compose.isExpired cutoff)))

/-- The store keeps no statistics. -/
def execute (st : Statement) (s : Store) : Except DriverError Reply × Store :=
  match st with
  | .deleteClones cutoff => s.deleteClones cutoff
  | .deleteComposes cutoff => s.deleteComposes cutoff
  | .countClones cutoff => (s.countClones cutoff, s)
  | .countComposes cutoff => (s.countComposes cutoff, s)
  | .stats => (.error (noSuchTable "pg_stat_user_tables"), s)
  | .vacuumAnalyze | .vacuum | .analyze => (.ok .empty, s)

def missing? (st : Statement) (s : Store) : Option String :=
  match st with
  | .deleteClones _ | .countClones _ =>
    if s.clones.isNone then some "clones" else if s.composes.isNone then some "composes" else none
  | .deleteComposes _ | .countComposes _ => if s.composes.isNone then some "composes" else none
  | .stats => some "pg_stat_user_tables"
  | .vacuumAnalyze | .vacuum | .analyze => none

/-- A store that may only be read refuses to be written, once the tables are found. -/
def executeReadOnly (st : Statement) (s : Store) : Except DriverError Reply :=
  if st.writes then .error (((s.missing? st).map noSuchTable).getD readOnlyStore) else (s.execute st).1

inductive BadRow where
  | noTable (name : String)
  | duplicate
  | noParent
  deriving DecidableEq, Repr

def BadRow.toMishap : BadRow → Mishap
  | .noTable name => ⟨.operational, "no such table: " ++ name⟩
  | .duplicate => ⟨.integrity, "UNIQUE constraint failed: composes.job_id"⟩
  | .noParent => ⟨.integrity, "FOREIGN KEY constraint failed"⟩

def hasCompose (s : Store) (id : String) : Bool :=
  s.composeList.any (·.jobId == some id)

/-- Inserts one row, which commits on its own. -/
def insert (s : Store) : Row → Except BadRow Store
  | .compose c =>
    match s.composes with
    | none => .error (.noTable "composes")
    | some composes =>
      if c.jobId.any s.hasCompose then .error .duplicate
      else .ok { s with composes := some (composes ++ [c]) }
  | .clone c =>
    match s.clones with
    | none => .error (.noTable "clones")
    | some clones =>
      if s.foreignKey && s.composes.isNone then .error (.noTable "main.composes")
      else if s.foreignKey && c.any (!s.hasCompose ·) then .error .noParent
      else .ok { s with clones := some (clones ++ [c]) }

/-- Inserts rows in order up to the first that fails; the rows before it stay. -/
def insertAll (s : Store) : List Row → Except BadRow Unit × Store
  | [] => (.ok (), s)
  | row :: rest =>
    match s.insert row with
    | .ok s => s.insertAll rest
    | .error e => (.error e, s)

/-- Drops a table without looking at references. -/
def drop (s : Store) (table : String) : Store :=
  if table = "composes" then { s with composes := none }
  else if table = "clones" then { s with clones := none }
  else s

def bare : Store := ⟨none, none, false⟩

def optionLe : Option String → Option String → Bool
  | none, _ => true
  | some _, none => false
  | some a, some b => decide (a ≤ b)

def composeLe (a b : Compose) : Bool :=
  if a.jobId = b.jobId then optionLe a.createdAt b.createdAt else optionLe a.jobId b.jobId

def sortedComposes (s : Store) : Option (List Compose) :=
  s.composes.map (·.mergeSort composeLe)

def sortedClones (s : Store) : Option (List Clone) :=
  s.clones.map (·.mergeSort optionLe)

theorem execute_of_not_writes {st : Statement} (h : st.writes = false) (s : Store) : (s.execute st).2 = s := by
  cases st <;> simp_all [Statement.writes, execute]

end Store
end Retention.Database
