import Retention.Run.Journal
import Retention.Run.Maintenance
import Retention.Run.Opening

/-! # Triples

A triple says where a job leads from an assertion on sessions: its results and its faults have
assertions of their own. There is one rule for each way in which jobs are put together, and one for
each job that a run is made of. An assertion is steady if it does not look at stages and at events
that execute nothing; jobs that only record keep every steady assertion.
-/

namespace Retention.Run

open Calendar Database

variable {σ α β : Type}

namespace Job

/-- The end of a job: a result with one assertion, or a fault with another. -/
def Ends (Q : α → Session σ → Prop) (E : Fault → Session σ → Prop) : Except Fault α × Session σ → Prop
  | (.ok a, t) => Q a t
  | (.error e, t) => E e t

/-- From where `P` holds, results come with `Q` and faults with `E`. -/
def Triple (P : Session σ → Prop) (x : Job σ α) (Q : α → Session σ → Prop)
    (E : Fault → Session σ → Prop) : Prop :=
  ∀ s, P s → Ends Q E (x s)

def Keeps (P : Session σ → Prop) (x : Job σ α) : Prop :=
  Triple P x (fun _ => P) (fun _ => P)

variable {P P' : Session σ → Prop} {Q Q' : α → Session σ → Prop} {E E' : Fault → Session σ → Prop}
  {R : β → Session σ → Prop} {x : Job σ α}

theorem Ends.mono {r : Except Fault α × Session σ} (h : Ends Q E r) (hQ : ∀ a t, Q a t → Q' a t)
    (hE : ∀ e t, E e t → E' e t) : Ends Q' E' r := by
  obtain ⟨_ | a, t⟩ := r
  · exact hE _ _ h
  · exact hQ _ _ h

theorem Ends.snd {r : Except Fault α × Session σ} (h : Ends (fun _ => P) (fun _ => P) r) : P r.2 := by
  obtain ⟨_ | a, t⟩ := r
  · exact h
  · exact h

namespace Triple

theorem conseq (h : Triple P x Q E) (hP : ∀ s, P' s → P s) (hQ : ∀ a t, Q a t → Q' a t)
    (hE : ∀ e t, E e t → E' e t) :
    Triple P' x Q' E' :=
  fun s hs => (h s (hP s hs)).mono hQ hE

theorem assume {p : Prop} (h : p → Triple P x Q E) : Triple (fun s => p ∧ P s) x Q E :=
  fun s hs => h hs.1 s hs.2

theorem done {a : α} (h : ∀ s, P s → Q a s) : Triple P (Job.done a) Q E :=
  h

theorem fail {e : Fault} (h : ∀ s, P s → E e s) : Triple P (Job.fail e : Job σ α) Q E :=
  h

theorem bind {f : α → Job σ β} (hx : Triple P x Q E) (hf : ∀ a, Triple (Q a) (f a) R E) :
    Triple P (x >>= f) R E := by
  intro s hs
  have h := hx s hs
  rcases hr : x s with ⟨_ | a, t⟩
  · rw [hr] at h
    rw [bind_of_error hr]
    exact h
  · rw [hr] at h
    rw [bind_of_ok hr]
    exact hf a t h

theorem change {f : Session σ → Session σ} {Q : Unit → Session σ → Prop} (h : ∀ s, P s → Q () (f s)) :
    Triple P (Job.change f) Q E :=
  h

theorem mapFault {f : Fault → Fault} (h : Triple P x Q fun e => E (f e)) :
    Triple P (x.mapFault f) Q E := by
  intro s hs
  have h := h s hs
  unfold Job.mapFault
  rcases hr : x s with ⟨_ | a, t⟩ <;> rw [hr] at h <;> exact h

theorem failIf {fault : Option Fault} {Q : Unit → Session σ → Prop} (hok : fault = none → ∀ s, P s → Q () s)
    (herr : ∀ e, fault = some e → ∀ s, P s → E e s) : Triple P (Job.failIf fault) Q E := by
  cases fault with
  | none => exact hok rfl
  | some e => exact herr e rfl

theorem ofExcept {r : Except Mishap α} (hok : ∀ a, r = .ok a → ∀ s, P s → Q a s)
    (herr : ∀ m, r = .error m → ∀ s, P s → E (.outside (.mishap m)) s) : Triple P (Job.ofExcept r) Q E := by
  cases r with
  | ok a => exact hok a rfl
  | error m => exact herr m rfl

/-- The clean-up starts from either end of the job, and its own fault replaces that end. -/
theorem always {cleanup : Job σ Unit} {M : α → Session σ → Prop} {F : Fault → Session σ → Prop}
    (hx : Triple P x M F)
    (hok : ∀ a, Triple (M a) cleanup (fun _ => Q a) E) (herr : ∀ e, Triple (F e) cleanup (fun _ => E e) E) :
    Triple P (x.always cleanup) Q E := by
  intro s hs
  have h := hx s hs
  unfold Job.always
  rcases hr : x s with ⟨_ | a, t⟩
  · rw [hr] at h
    have hc := herr _ t h
    rcases hu : cleanup t with ⟨_ | _, u⟩ <;> simpa [hr, hu, Ends] using hc
  · rw [hr] at h
    have hc := hok a t h
    rcases hu : cleanup t with ⟨_ | _, u⟩ <;> simpa [hr, hu, Ends] using hc

theorem execute {conn : Connection σ} {st : Statement} {Q : Reply → Session σ → Prop}
    (hok : ∀ s r w, P s → conn.execute st s.world = (.ok r, w) →
      Q r ({ s.note (.executed st) with world := w }.note .answered))
    (herr : ∀ s e w, P s → conn.execute st s.world = (.error e, w) →
      E e { s.note (.executed st) with world := w }) :
    Triple P (Job.execute conn st) Q E := by
  intro s hs
  unfold Job.execute
  rcases hr : conn.execute st s.world with ⟨e | r, w⟩
  · exact herr s e w hs hr
  · exact hok s r w hs hr

theorem recount {f : Tally → Except Mishap Tally} {Q : Unit → Session σ → Prop}
    (hok : ∀ s tally, P s → f s.tally = .ok tally → Q () { s with tally })
    (herr : ∀ s m, P s → f s.tally = .error m → E (.outside (.mishap m)) s) : Triple P (Job.recount f) Q E := by
  intro s hs
  unfold Job.recount
  split
  · rename_i tally h
    exact hok s tally hs h
  · rename_i m h
    exact herr s m hs h

end Triple

theorem Keeps.bind {f : α → Job σ β} (hx : Keeps P x) (hf : ∀ a, Keeps P (f a)) :
    Keeps P (x >>= f) :=
  Triple.bind hx hf

theorem Keeps.mapFault {f : Fault → Fault} (h : Keeps P x) : Keeps P (x.mapFault f) :=
  Triple.mapFault h

theorem Keeps.always {cleanup : Job σ Unit} (hx : Keeps P x) (hc : Keeps P cleanup) :
    Keeps P (x.always cleanup) :=
  Triple.always hx (fun _ => hc) fun _ => hc

theorem Keeps.failIf (fault : Option Fault) : Keeps P (Job.failIf fault) :=
  Triple.failIf (fun _ _ hs => hs) fun _ _ _ hs => hs

theorem Keeps.ofExcept (r : Except Mishap α) : Keeps P (Job.ofExcept r) :=
  Triple.ofExcept (fun _ _ _ hs => hs) fun _ _ _ hs => hs

end Job

/-- The assertion looks neither at stages nor at events that execute nothing. -/
structure Steady (P : Session σ → Prop) : Prop where
  note : ∀ {s e}, e.statement? = none → P s → P (s.note e)
  stage : ∀ {s} stage, P s → P { s with stage }

namespace Steady

variable {P : Session σ → Prop} {E : Fault → Session σ → Prop}

theorem log {s : Session σ} (hP : Steady P) (r : Log.Record) (h : P s) : P (s.log r) :=
  hP.note rfl h

theorem enter {s : Session σ} (hP : Steady P) (stage : Stage) (h : P s) : P (s.enter stage) :=
  hP.log _ (hP.stage stage h)

theorem and_left {p : Prop} (hP : Steady P) : Steady fun s => p ∧ P s :=
  ⟨fun he h => ⟨h.1, hP.note he h.2⟩, fun stage h => ⟨h.1, hP.stage stage h.2⟩⟩

theorem exists_left {ι : Type} {Q : ι → Session σ → Prop} (hQ : ∀ i, Steady (Q i)) : Steady fun s => ∃ i, Q i s :=
  ⟨fun he ⟨i, h⟩ => ⟨i, (hQ i).note he h⟩, fun stage ⟨i, h⟩ => ⟨i, (hQ i).stage stage h⟩⟩

theorem triple_note {e : Event} (hP : Steady P) (he : e.statement? = none) :
    Job.Triple P (Job.note e) (fun _ => P) E :=
  fun _ hs => hP.note he hs

theorem triple_log (hP : Steady P) (r : Log.Record) : Job.Triple P (Job.log r) (fun _ => P) E :=
  fun _ hs => hP.log r hs

theorem triple_enter (hP : Steady P) (stage : Stage) :
    Job.Triple P (Job.enter stage) (fun _ => P) E :=
  fun _ hs => hP.enter stage hs

theorem triple_execute {P : Session σ → Prop} {conn : Connection σ} {st : Statement} {Q : Reply → Session σ → Prop}
    (hQ : ∀ r, Steady (Q r))
    (hok : ∀ s r, P s → (conn.execute st s.world).1 = .ok r →
      Q r { s.note (.executed st) with world := (conn.execute st s.world).2 })
    (herr : ∀ s e, P s → (conn.execute st s.world).1 = .error e →
      E e { s.note (.executed st) with world := (conn.execute st s.world).2 }) :
    Job.Triple P (Job.execute conn st) Q E := by
  apply Job.Triple.execute
  · intro s r w hs hr
    obtain rfl : (conn.execute st s.world).2 = w := congrArg Prod.snd hr
    exact (hQ r).note rfl (hok s r hs (congrArg Prod.fst hr))
  · intro s e w hs hr
    obtain rfl : (conn.execute st s.world).2 = w := congrArg Prod.snd hr
    exact herr s e hs (congrArg Prod.fst hr)

theorem triple_step {st : Step} {fault : Option Fault} (hP : Steady P)
    (h : ∀ e, fault = some e → ∀ s, P s → E (st.leaving e) s) :
    Job.Triple P (step st fault) (fun _ => P) E := by
  have hleaving : ∀ f, fault.map st.leaving = some f → ∀ s, P s → E f s := by
    intro f hf
    obtain ⟨e, he, rfl⟩ := Option.map_eq_some_iff.mp hf
    exact h e he
  exact .bind (hP.triple_note rfl) fun _ => .failIf (fun _ _ hs => hs) hleaving

theorem keeps_step (hP : Steady P) (st : Step) (fault : Option Fault) :
    Job.Keeps P (step st fault) :=
  hP.triple_step fun _ _ _ hs => hs

theorem keeps_close (hP : Steady P) (reply : Reply) : Job.Keeps P (Job.close reply) :=
  .bind (hP.triple_note rfl) fun _ => .failIf _

end Steady
end Retention.Run
