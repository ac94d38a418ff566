import Retention.Proofs.Run.Trail

/-! # Deeds

What a job does from a session on, as far as a run can be told from it: the statements that it
executes, the records that it logs but for those that merely report, its end, the stage and the sums
that it leaves. Nothing but the start of a run reads the clock. Deeds are put together as jobs are.
-/

namespace Retention.Log.Record

def isNamed (name : String) (r : Record) : Bool :=
  match r.event with
  | .text s => s == name
  | _ => false

theorem isNamed_iff {name : String} {r : Record} : r.isNamed name = true ↔ r.event = .text name := by
  unfold isNamed
  split <;> simp_all

end Retention.Log.Record

namespace Retention.Run

open Calendar Database Job

variable {σ α β : Type} {conn : Connection σ}

section Views

/-- The records that report on tables and are not part of the course of a run. -/
def reportNames : List String :=
  ["stats.table", "stats.error", "dry_run.count_error", "dry_run.expired"]

def IsReport (r : Log.Record) : Prop :=
  reportNames.any r.isNamed = true

instance (r : Log.Record) : Decidable (IsReport r) :=
  inferInstanceAs (Decidable (_ = true))

/-- The records of a journal, without reports. -/
def course (journal : List Event) : List Log.Record :=
  (logged journal).filter (¬ IsReport ·)

def Event.isClockRead : Event → Bool
  | .clockRead => true
  | _ => false

def clockReads (journal : List Event) : Nat :=
  journal.countP Event.isClockRead

theorem course_append (es es' : List Event) : course (es ++ es') = course es ++ course es' := by
  simp [course, logged_append]

def named (name : String) (records : List Log.Record) : List Log.Record :=
  records.filter (·.isNamed name)

@[simp] theorem named_nil (name : String) : named name [] = [] := rfl

theorem named_cons (name : String) (r : Log.Record) (recs : List Log.Record) :
    named name (r :: recs) = if r.isNamed name = true then r :: named name recs else named name recs :=
  List.filter_cons

theorem named_append (name : String) (recs recs' : List Log.Record) :
    named name (recs ++ recs') = named name recs ++ named name recs' :=
  List.filter_append ..

theorem named_course {name : String} (hname : name ∉ reportNames) (es : List Event) :
    named name (course es) = named name (logged es) := by
  rw [named, named, course, List.filter_filter]
  apply List.filter_congr
  intro r _
  cases hr : r.isNamed name with
  | false => rfl
  | true =>
    have hreport : ¬ IsReport r := by
      intro h
      obtain ⟨n, hn, hrn⟩ := List.any_eq_true.mp h
      have hevent := (Log.Record.isNamed_iff.mp hrn).symm.trans (Log.Record.isNamed_iff.mp hr)
      exact hname (Value.text.inj hevent ▸ hn)
    simp [hreport]

/-- The events tell of these statements and records, and the clock was not read. -/
structure Tells (es : List Event) (sts : List Statement) (recs : List Log.Record) : Prop where
  executed : Run.executed es = sts
  course : Run.course es = recs
  clock : clockReads es = 0

namespace Tells

variable {es es' : List Event} {sts sts' : List Statement} {recs recs' : List Log.Record} {r : Log.Record}

theorem nil : Tells [] [] [] :=
  ⟨rfl, rfl, rfl⟩

theorem append (h : Tells es sts recs) (h' : Tells es' sts' recs') :
    Tells (es ++ es') (sts ++ sts') (recs ++ recs') where
  executed := by rw [executed_append, h.executed, h'.executed]
  course := by rw [course_append, h.course, h'.course]
  clock := by rw [clockReads, List.countP_append, ← clockReads, ← clockReads, h.clock, h'.clock]

theorem logged (h : ¬ IsReport r) : Tells [.logged r] [] [r] :=
  ⟨rfl, by simp [Run.course, Run.logged, Event.record?, h], rfl⟩

theorem report (h : IsReport r) : Tells [.logged r] [] [] :=
  ⟨rfl, by simp [Run.course, Run.logged, Event.record?, h], rfl⟩

end Tells
end Views

section Does

/-- What a run has come to so far, in whole numbers. -/
structure Sums where
  iterations : Nat
  clones : Nat
  composes : Nat

def Sums.zero : Sums := ⟨0, 0, 0⟩

structure Tally.HasSums (t : Tally) (k : Sums) : Prop where
  iterations : t.iterations = k.iterations
  clones : t.clonesDeleted = .whole k.clones
  composes : t.composesDeleted = .whole k.composes

structure Session.IsAt (s : Session σ) (stage : Stage) (k : Sums) : Prop where
  stage : s.stage = stage
  sums : s.tally.HasSums k

/-- From the session on, the job executes the statements, logs the records among others that only
report, ends so, and leaves the stage and the sums. -/
structure Job.Does (conn : Connection σ) (x : Job σ α) (s : Session σ) (sts : List Statement)
    (recs : List Log.Record) (r : Except Fault α) (stage : Stage) (k : Sums) : Prop where
  result : (x s).1 = r
  world : (x s).2.world = conn.after s.world sts
  isAt : (x s).2.IsAt stage k
  journal : ∃ es, (x s).2.journal = s.journal ++ es ∧ Tells es sts recs

namespace Job.Does

variable {x : Job σ α} {f : α → Job σ β} {s : Session σ} {st : Statement} {sts sts' : List Statement}
  {recs recs' : List Log.Record} {r : Except Fault β} {stage stage' : Stage} {k k' : Sums} {a : α} {e : Fault}

theorem leads {r : Except Fault α} (h : Does conn x s sts recs r stage k) : s.Leads conn (x s).2 := by
  obtain ⟨es, hj, ht⟩ := h.journal
  exact ⟨es, hj, by rw [ht.executed, h.world]⟩

theorem congr {r : Except Fault α} {y : Job σ α} (h : Does conn x s sts recs r stage k) (hy : y s = x s) :
    Does conn y s sts recs r stage k := by
  obtain ⟨hr, hw, hs, hj⟩ := h
  rw [← hy] at hr hw hs hj
  exact ⟨hr, hw, hs, hj⟩

/-- A job that goes on from where another has led does what both do. -/
theorem after {r' : Except Fault α} {y z : Job σ β} (hx : Does conn x s sts recs r' stage k)
    (hy : Does conn y (x s).2 sts' recs' r stage' k') (hz : z s = y (x s).2) :
    Does conn z s (sts ++ sts') (recs ++ recs') r stage' k' := by
  obtain ⟨es, hj, ht⟩ := hx.journal
  obtain ⟨es', hj', ht'⟩ := hy.journal
  constructor
  · rw [hz, hy.result]
  · rw [hz, hy.world, hx.world, Connection.after_append]
  · rw [hz]
    exact hy.isAt
  · exact ⟨es ++ es', by rw [hz, hj', hj, List.append_assoc], ht.append ht'⟩

theorem bind (hx : Does conn x s sts recs (.ok a) stage k) (hf : Does conn (f a) (x s).2 sts' recs' r stage' k') :
    Does conn (x >>= f) s (sts ++ sts') (recs ++ recs') r stage' k' :=
  hx.after hf (bind_of_ok (Prod.ext hx.result rfl))

theorem bind_quiet (hx : Does conn x s sts recs (.ok a) stage k)
    (hf : Does conn (f a) (x s).2 [] recs' r stage' k') :
    Does conn (x >>= f) s sts (recs ++ recs') r stage' k' := by
  have h := hx.bind hf
  rwa [List.append_nil] at h

theorem bind_error (hx : Does conn x s sts recs (.error e) stage k) :
    Does conn (x >>= f) s sts recs (.error e) stage k := by
  have hr : (x >>= f) s = (.error e, (x s).2) := bind_of_error (Prod.ext hx.result rfl)
  constructor
  · rw [hr]
  · rw [hr, hx.world]
  · rw [hr]
    exact hx.isAt
  · rw [hr]
    exact hx.journal

theorem mapFault {r : Except Fault α} (g : Fault → Fault) (hx : Does conn x s sts recs r stage k) :
    Does conn (x.mapFault g) s sts recs (r.mapError g) stage k :=
  ⟨congrArg (Except.mapError g) hx.result, hx.world, hx.isAt, hx.journal⟩

/-- A record that reports takes the place of what a job ends with. -/
theorem instead {r' : Except Fault α} {z : Job σ β} {rec : Log.Record} (hx : Does conn x s sts recs r' stage k)
    (hz : z s = (r, (x s).2.log rec)) (hrec : IsReport rec) : Does conn z s sts recs r stage k := by
  have hy : Does conn (fun t => (r, t.log rec)) (x s).2 [] [] r stage k :=
    ⟨rfl, rfl, ⟨hx.isAt.stage, hx.isAt.sums⟩, [.logged rec], rfl, .report hrec⟩
  have h := hx.after hy hz
  rwa [List.append_nil, List.append_nil] at h

theorem always {r : Except Fault α} {cleanup : Job σ Unit} (hx : Does conn x s sts recs r stage k)
    (hc : Does conn cleanup (x s).2 [] [] (.ok ()) stage k) : Does conn (x.always cleanup) s sts recs r stage k := by
  have hy : Does conn (fun t => (r, (cleanup t).2)) (x s).2 [] [] r stage k := ⟨rfl, hc.world, hc.isAt, hc.journal⟩
  have hr : x.always cleanup s = (r, (cleanup (x s).2).2) := by
    rw [Job.always, show cleanup (x s).2 = (.ok (), (cleanup (x s).2).2) from Prod.ext hc.result rfl, ← hx.result]
  have h := hx.after hy hr
  rwa [List.append_nil, List.append_nil] at h

section Primitive

variable (hs : s.IsAt stage k)
include hs

theorem done (a : α) : Does conn (Job.done a) s [] [] (.ok a) stage k :=
  ⟨rfl, rfl, hs, [], (List.append_nil _).symm, .nil⟩

theorem fail (e : Fault) : Does conn (Job.fail e : Job σ α) s [] [] (.error e) stage k :=
  ⟨rfl, rfl, hs, [], (List.append_nil _).symm, .nil⟩

theorem note {ev : Event} (hev : Tells [ev] [] recs) : Does conn (Job.note ev) s [] recs (.ok ()) stage k :=
  ⟨rfl, rfl, ⟨hs.stage, hs.sums⟩, [ev], rfl, hev⟩

theorem log {rec : Log.Record} (hrec : ¬ IsReport rec) : Does conn (Job.log rec) s [] [rec] (.ok ()) stage k :=
  note hs (.logged hrec)

theorem count (g : Tally → Tally) (hg : (g s.tally).HasSums k') :
    Does conn (Job.count g) s [] [] (.ok ()) stage k' :=
  ⟨rfl, rfl, ⟨hs.stage, hg⟩, [], (List.append_nil _).symm, .nil⟩

theorem recount {g : Tally → Except Mishap Tally} {t : Tally} (hg : g s.tally = .ok t) (ht : t.HasSums k') :
    Does conn (Job.recount g) s [] [] (.ok ()) stage k' := by
  have hr : Job.recount g s = (.ok (), { s with tally := t }) := by simp [Job.recount, hg]
  exact ⟨by rw [hr], by rw [hr]; rfl, by rw [hr]; exact ⟨hs.stage, ht⟩, [], by simp [hr], .nil⟩

theorem execute_ok {reply : Reply} (h : (conn.execute st s.world).1 = .ok reply) :
    Does conn (Job.execute conn st) s [st] [] (.ok reply) stage k := by
  have hr : Job.execute conn st s =
      (.ok reply, { s.note (.executed st) with world := (conn.execute st s.world).2 }.note .answered) := by
    simp [Job.execute, h]
  constructor
  · rw [hr]
  · rw [hr]
    rfl
  · rw [hr]
    exact ⟨hs.stage, hs.sums⟩
  · exact ⟨[.executed st, .answered], by simp [hr, Session.note], rfl, rfl, rfl⟩

theorem execute_error (h : (conn.execute st s.world).1 = .error e) :
    Does conn (Job.execute conn st) s [st] [] (.error e) stage k := by
  have hr : Job.execute conn st s =
      (.error e, { s.note (.executed st) with world := (conn.execute st s.world).2 }) := by
    simp [Job.execute, h]
  constructor
  · rw [hr]
  · rw [hr]
    rfl
  · rw [hr]
    exact ⟨hs.stage, hs.sums⟩
  · exact ⟨[.executed st], by simp [hr, Session.note], rfl, rfl, rfl⟩

end Primitive
end Job.Does
end Does

section Parts

variable {s t u : Session σ} {st : Statement} {sts sts' : List Statement} {recs recs' : List Log.Record}
  {stage stage' : Stage} {k k' : Sums}

theorem leads_bind (x : Job σ α) {f : α → Job σ β} (hf : ∀ a t, Keeps (Session.Leads conn t) (f a)) :
    (x s).2.Leads conn ((x >>= f) s).2 := by
  rcases hx : x s with ⟨e | a, t⟩
  · rw [bind_of_error hx]
    exact .refl t
  · rw [bind_of_ok hx]
    exact (hf a t).apply (.refl t)

theorem Session.Plain.first {x : Job σ α} {f : α → Job σ β} (h : s.Plain conn ((x >>= f) s).2)
    (hx : Keeps (Session.Leads conn s) x) (hf : ∀ a t, Keeps (Session.Leads conn t) (f a)) : s.Plain conn (x s).2 :=
  (h.split (hx.apply (.refl s)) (leads_bind x hf)).1

theorem Session.Plain.rest {x : Job σ α} {f : α → Job σ β} {a : α} {recs : List Log.Record}
    (h : s.Plain conn ((x >>= f) s).2) (hx : Does conn x s sts recs (.ok a) stage k)
    (hf : ∀ a t, Keeps (Session.Leads conn t) (f a)) : (x s).2.Plain conn (f a (x s).2).2 := by
  have hr : (x >>= f) s = f a (x s).2 := bind_of_ok (Prod.ext hx.result rfl)
  rw [hr] at h
  exact (h.split hx.leads ((hf a _).apply (.refl _))).2

theorem Session.Plain.answer (h : s.Plain conn u) (hu : (Job.execute conn st s).2.Leads conn u) :
    IsPlain st (conn.execute st s.world).1 := by
  have h := (h.split ((enduring_leads.execute st).apply (.refl s)) hu).1
  cases hr : (conn.execute st s.world).1 with
  | error f =>
    have hs : PlainTo conn s.world [st] := h [.executed st] (by simp [Job.execute, hr, Session.note])
    exact hr ▸ hs.1
  | ok reply =>
    have hs : PlainTo conn s.world [st] := h [.executed st, .answered] (by simp [Job.execute, hr, Session.note])
    exact hr ▸ hs.1

/-- From the session on, the job does this much and then, from the later session on, what the rest of
it does; answers to the rest are plain. -/
structure Job.Reaches (conn : Connection σ) (x : Job σ β) (s : Session σ) (rest : Job σ β) (t : Session σ)
    (sts : List Statement) (recs : List Log.Record) (stage : Stage) (k : Sums) : Prop where
  world : t.world = conn.after s.world sts
  isAt : t.IsAt stage k
  plain : t.Plain conn (rest t).2
  does : ∀ {sts' recs' r stage' k'}, Does conn rest t sts' recs' r stage' k' →
    Does conn x s (sts ++ sts') (recs ++ recs') r stage' k'

theorem Session.Plain.reaches {x : Job σ α} {f : α → Job σ β} {a : α} (h : s.Plain conn ((x >>= f) s).2)
    (hx : Does conn x s sts recs (.ok a) stage k) (hf : ∀ a t, Keeps (Session.Leads conn t) (f a)) :
    Reaches conn (x >>= f) s (f a) (x s).2 sts recs stage k :=
  ⟨hx.world, hx.isAt, h.rest hx hf, hx.bind⟩

theorem Job.Reaches.trans {x y z : Job σ β} (hx : Reaches conn x s y t sts recs stage k)
    (hy : Reaches conn y t z u sts' recs' stage' k') :
    Reaches conn x s z u (sts ++ sts') (recs ++ recs') stage' k' where
  world := by rw [hy.world, hx.world, Connection.after_append]
  isAt := hy.isAt
  plain := hy.plain
  does hz := by
    rw [List.append_assoc, List.append_assoc]
    exact hx.does (hy.does hz)

end Parts
end Retention.Run
