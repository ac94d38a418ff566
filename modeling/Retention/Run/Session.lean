import Retention.Database.Connection
import Retention.Run.TableStat

/-! # Sessions

A session is the world of a connection, the journal of what was done, the stage of the run and its tally so far. A job
changes a session and ends with a result or a fault; what it did before a fault stays done.
-/

namespace Retention.Run

open Calendar Database

inductive Stage where
  | init
  | statsBefore
  | dryRunReport
  | deleteLoop
  | statsAfter
  | done
  | aborted
  deriving DecidableEq, Repr

def Stage.word : Stage → String
  | .init => "init"
  | .statsBefore => "stats_before"
  | .dryRunReport => "dry_run_report"
  | .deleteLoop => "delete_loop"
  | .statsAfter => "stats_after"
  | .done => "done"
  | .aborted => "aborted"

/-- What a run has counted so far. Expired rows are counted by dry runs only. -/
structure Tally where
  iterations : Nat
  clonesDeleted : Quantity
  composesDeleted : Quantity
  expiredClones : Option Int
  expiredComposes : Option Int
  statsBefore : List TableStat
  statsAfter : List TableStat
  deriving Repr

def Tally.zero : Tally := ⟨0, 0, 0, none, none, [], []⟩

inductive Step where
  | url (url : Text.Loose)
  | create
  | connect
  | isolation (level : String)
  | options
  | body
  | close
  | dispose
  deriving DecidableEq, Repr

inductive Event where
  | clockRead
  | connected (url : Text.Loose)
  | released
  | stepped (step : Step)
  | executed (statement : Statement)
  | answered
  | closed
  | logged (record : Log.Record)
  deriving Repr

/-- A world with the journal, the stage and the tally of a run. -/
structure Session (σ : Type) where
  world : σ
  journal : List Event
  stage : Stage
  tally : Tally

/-- A change of a session with a result or a fault. -/
def Job (σ α : Type) : Type :=
  Session σ → Except Fault α × Session σ

variable {σ α β : Type}

namespace Session

def start (world : σ) : Session σ := ⟨world, [], .init, .zero⟩

def note (s : Session σ) (e : Event) : Session σ :=
  { s with journal := s.journal ++ [e] }

def log (s : Session σ) (r : Log.Record) : Session σ :=
  s.note (.logged r)

def enter (s : Session σ) (stage : Stage) : Session σ :=
  { s with stage }.log (.debug "maintenance.state" [("state", .text stage.word)])

end Session

namespace Job

def done (a : α) : Job σ α := fun s => (.ok a, s)

def andThen (x : Job σ α) (f : α → Job σ β) : Job σ β := fun s =>
  match x s with
  | (.ok a, s) => f a s
  | (.error e, s) => (.error e, s)

instance : Monad (Job σ) where
  pure := done
  bind := andThen

def fail (e : Fault) : Job σ α := fun s => (.error e, s)

def failIf : Option Fault → Job σ Unit
  | some e => fail e
  | none => done ()

def change (f : Session σ → Session σ) : Job σ Unit := fun s => (.ok (), f s)

def note (e : Event) : Job σ Unit := change (·.note e)

def log (r : Log.Record) : Job σ Unit := change (·.log r)

def logUnless (refusals : Log.Refusals) (r : Log.Record) : Job σ Unit :=
  match refusals r with
  | some m => fail (.outside (.mishap m))
  | none => log r

def enter (stage : Stage) : Job σ Unit := change (·.enter stage)

def count (f : Tally → Tally) : Job σ Unit := change fun s => { s with tally := f s.tally }

/-- Changes the tally, unless that meets a mishap. -/
def recount (f : Tally → Except Mishap Tally) : Job σ Unit := fun s =>
  match f s.tally with
  | .ok tally => (.ok (), { s with tally })
  | .error m => (.error (.outside (.mishap m)), s)

/-- The result or the fault of a job. -/
def attempt (x : Job σ α) : Job σ (Except Fault α) := fun s =>
  let r := x s
  (.ok r.1, r.2)

def mapFault (f : Fault → Fault) (x : Job σ α) : Job σ α := fun s =>
  let r := x s
  (r.1.mapError f, r.2)

/-- Cleans up after a job in any case. A fault of the clean-up replaces one of the job. -/
def always (x : Job σ α) (cleanup : Job σ Unit) : Job σ α := fun s =>
  let r := x s
  match cleanup r.2 with
  | (.ok (), s) => (r.1, s)
  | (.error e, s) => (.error e, s)

def ofExcept (x : Except Mishap α) : Job σ α :=
  match x with
  | .ok a => done a
  | .error m => fail (.outside (.mishap m))

def execute (conn : Connection σ) (st : Statement) : Job σ Reply := fun s =>
  let answer := conn.execute st s.world
  let s := { s.note (.executed st) with world := answer.2 }
  match answer.1 with
  | .ok reply => (.ok reply, s.note .answered)
  | .error e => (.error e, s)

def close (reply : Reply) : Job σ Unit := do
  note .closed
  failIf reply.closeFault

theorem bind_eq_ok_iff {x : Job σ α} {f : α → Job σ β} {s s' : Session σ} {b : β} :
    (x >>= f) s = (.ok b, s') ↔ ∃ a t, x s = (.ok a, t) ∧ f a t = (.ok b, s') := by
  show andThen x f s = _ ↔ _
  unfold andThen
  split
  · rename_i a t h
    rw [h]
    exact ⟨fun hf => ⟨a, t, rfl, hf⟩, fun ⟨_, _, hx, hf⟩ => by cases hx; exact hf⟩
  · rename_i e t h
    simp [h]

theorem bind_of_ok {x : Job σ α} {f : α → Job σ β} {s t : Session σ} {a : α} (h : x s = (.ok a, t)) :
    (x >>= f) s = f a t := by
  show andThen x f s = _
  simp [andThen, h]

theorem bind_of_error {x : Job σ α} {f : α → Job σ β} {s t : Session σ} {e : Fault} (h : x s = (.error e, t)) :
    (x >>= f) s = (.error e, t) := by
  show andThen x f s = _
  simp [andThen, h]

/-- The job never raises the budget of the world. -/
def Frugal (conn : Connection σ) (x : Job σ α) : Prop :=
  ∀ s, conn.budget (x s).2.world ≤ conn.budget s.world

variable {conn : Connection σ}

theorem Frugal.bind {x : Job σ α} {f : α → Job σ β} (hx : Frugal conn x) (hf : ∀ a, Frugal conn (f a)) :
    Frugal conn (x >>= f) := by
  intro s
  have h := hx s
  rcases hr : x s with ⟨_ | a, t⟩
  · rw [bind_of_error hr]
    simpa [hr] using h
  · rw [bind_of_ok hr]
    rw [hr] at h
    exact Nat.le_trans (hf a t) h

theorem Frugal.done (a : α) : Frugal conn (done a : Job σ α) := fun _ => Nat.le_refl _

theorem Frugal.fail (e : Fault) : Frugal conn (fail e : Job σ α) := fun _ => Nat.le_refl _

theorem Frugal.change {f : Session σ → Session σ} (h : ∀ s, (f s).world = s.world) : Frugal conn (change f) :=
  fun s => by simp [Job.change, h]

theorem Frugal.mapFault {x : Job σ α} (f : Fault → Fault) (h : Frugal conn x) : Frugal conn (x.mapFault f) :=
  fun s => h s

theorem Frugal.ofExcept (x : Except Mishap α) : Frugal conn (ofExcept x : Job σ α) := by
  cases x
  · exact .fail _
  · exact .done _

theorem world_recount (f : Tally → Except Mishap Tally) (s : Session σ) : (recount f s).2.world = s.world := by
  unfold recount
  split <;> rfl

theorem world_execute (st : Statement) (s : Session σ) :
    (execute conn st s).2.world = (conn.execute st s.world).2 := by
  unfold execute
  cases h : (conn.execute st s.world).1 <;> simp [h, Session.note]

theorem Frugal.execute (st : Statement) : Frugal conn (execute conn st) := by
  intro s
  rw [world_execute]
  exact conn.budget_le st s.world

theorem execute_of_ok {st : Statement} {s t : Session σ} {r : Reply} (h : execute conn st s = (.ok r, t)) :
    (conn.execute st s.world).1 = .ok r ∧ t.world = (conn.execute st s.world).2 := by
  have hw := congrArg (fun p => p.2.world) h
  simp only [world_execute] at hw
  refine ⟨?_, hw.symm⟩
  unfold execute at h
  cases hr : (conn.execute st s.world).1 <;> simp_all

end Job
end Retention.Run
