import Retention.Proofs.Run.Escape

/-! # The life of a connection

Whatever fails while a connection is opened, used and left, the steps around its body are taken in one order, each at
most once: the connection is closed if it was made, and the engine disposed of if there was one. What leaves is the
fault of the last step that failed, as it is, but for driver errors of making the engine or the connection, which turn
into an error of the job, and for the end of an iteration, which leaves the body only.
-/

namespace Retention.Run

open Job

variable {σ : Type}

def Step.rank : Step → Nat
  | .url _ => 0
  | .create => 1
  | .connect => 2
  | .isolation _ => 3
  | .options => 4
  | .body => 5
  | .close => 6
  | .dispose => 7

/-- What stands before a driver error of the step in the error of the job that it turns into. -/
def Step.wrapping? : Step → Option String
  | .create => some "Invalid database URL: "
  | .connect => some "Error connecting to database: "
  | .options | .body | .close | .dispose | .url _ | .isolation _ => none

def IsStop (f : Fault) : Prop :=
  ∃ text, f = .outside (.mishap ⟨.stop, text⟩)

def StepFaults.fault? (faults : StepFaults) (body : Option Fault) : Step → Option Fault
  | .create => faults.create
  | .connect => faults.connect
  | .options => faults.options
  | .body => body
  | .close => faults.close
  | .dispose => faults.dispose
  | .url _ | .isolation _ => .none

/-- What the fault of a step is when it leaves. -/
inductive Leaves (st : Step) : Fault → Fault → Prop
  | wrapped {e text} (guarded : st.wrapping? = some text) :
      Leaves st (.outside (.driver e)) (.job ⟨.connection, text ++ e.message, some (.driver e)⟩)
  | stopped {f} (outer : st ≠ .body) (stop : IsStop f) :
      Leaves st f (.outside (.mishap ⟨.runtime, "generator raised StopIteration"⟩))
  | raw {f} (unguarded : st.wrapping? = none ∨ ¬ IsDriverFault f) (goesOn : st = .body ∨ ¬ IsStop f) : Leaves st f f

section Leaving

variable {st : Step} {f : Fault}

theorem Step.leaving_of_not_isStop (h : ¬ IsStop f) : st.leaving f = f := by
  unfold Step.leaving
  split
  · exact absurd ⟨_, rfl⟩ h
  · rfl

theorem Step.leaving_body (f : Fault) : Step.body.leaving f = f := by
  unfold Step.leaving
  split <;> rfl

theorem Step.isDriverFault_of_leaving (h : IsDriverFault (st.leaving f)) : IsDriverFault f := by
  obtain ⟨d, hd⟩ := h
  unfold Step.leaving at hd
  split at hd
  · split_ifs at hd <;> cases hd
  · exact ⟨d, hd⟩

theorem wrapDriver_of_not_isDriverFault {kind : JobErrorKind} {text : String} (h : ¬ IsDriverFault f) :
    wrapDriver kind text f = f := by
  unfold wrapDriver
  split
  · exact absurd ⟨_, rfl⟩ h
  · rfl

theorem Leaves.unwrapped (h : st.wrapping? = none ∨ ¬ IsDriverFault f) : Leaves st f (st.leaving f) := by
  by_cases hbody : st = .body
  · subst hbody
    rw [Step.leaving_body]
    exact .raw h (.inl rfl)
  · by_cases hstop : IsStop f
    · obtain ⟨text, rfl⟩ := hstop
      rw [Step.leaving, if_neg hbody]
      exact .stopped hbody ⟨text, rfl⟩
    · rw [Step.leaving_of_not_isStop hstop]
      exact .raw h (.inr hstop)

theorem Leaves.guarded {text : String} (h : st.wrapping? = some text) (f : Fault) :
    Leaves st f (wrapDriver .connection text (st.leaving f)) := by
  by_cases hdriver : IsDriverFault f
  · obtain ⟨d, rfl⟩ := hdriver
    exact .wrapped h
  · rw [wrapDriver_of_not_isDriverFault fun hleft => hdriver (Step.isDriverFault_of_leaving hleft)]
    exact .unwrapped (.inr hdriver)

end Leaving

/-- The end that steps come to: none of them fails, or the fault of the last one that fails leaves. -/
inductive EndsBy (fault? : Step → Option Fault) : List Step → Except Fault Unit → Prop
  | returns {sts} (quiet : ∀ st ∈ sts, fault? st = none) : EndsBy fault? sts (.ok ())
  | raises {before st after f f'} (fault : fault? st = some f) (quiet : ∀ st' ∈ after, fault? st' = none)
      (leaves : Leaves st f f') : EndsBy fault? (before ++ st :: after) (.error f')

section Ends

variable {fault? : Step → Option Fault} {sts sts' : List Step} {st : Step} {f f' : Fault} {r : Except Fault Unit}

theorem EndsBy.alone (fault : fault? st = some f) (leaves : Leaves st f f') : EndsBy fault? [st] (.error f') := by
  rw [← List.nil_append [st]]
  exact .raises fault (by simp) leaves

theorem EndsBy.append_quiet (h : EndsBy fault? sts r) (hquiet : ∀ st ∈ sts', fault? st = none) :
    EndsBy fault? (sts ++ sts') r := by
  cases h with
  | returns quiet => exact .returns fun st hst => (List.mem_append.mp hst).elim (quiet st) (hquiet st)
  | raises fault quiet leaves =>
    rw [List.append_assoc, List.cons_append]
    exact .raises fault (fun st hst => (List.mem_append.mp hst).elim (quiet st) (hquiet st)) leaves

theorem EndsBy.quiet_append (h : EndsBy fault? sts' r) (hquiet : ∀ st ∈ sts, fault? st = none) :
    EndsBy fault? (sts ++ sts') r := by
  cases h with
  | returns quiet => exact .returns fun st hst => (List.mem_append.mp hst).elim (hquiet st) (quiet st)
  | raises fault quiet leaves =>
    rw [← List.append_assoc]
    exact .raises fault quiet leaves

theorem EndsBy.eq_ok_iff (h : EndsBy fault? sts r) : r = .ok () ↔ ∀ st ∈ sts, fault? st = none := by
  cases h with
  | returns quiet => exact ⟨fun _ => quiet, fun _ => rfl⟩
  | @raises before st after f f' fault quiet leaves =>
    refine ⟨fun hr => (nomatch hr), fun hall => ?_⟩
    have hst : fault? st = none := hall st (by simp)
    cases fault.symm.trans hst

end Ends

/-- From every session the job takes just these steps and ends by them. -/
structure Job.Takes (fault? : Step → Option Fault) (x : Job σ Unit) (sts : List Step) : Prop where
  session : ∀ s, (x s).2 = { s with journal := s.journal ++ sts.map .stepped }
  ends : ∀ s, EndsBy fault? sts (x s).1

namespace Job.Takes

variable {fault? : Step → Option Fault} {x y : Job σ Unit} {sts sts' : List Step} {st : Step} {f : Fault}

theorem note (h : fault? st = none) : Takes fault? (Job.note (.stepped st) : Job σ Unit) [st] :=
  ⟨fun _ => rfl, fun _ => .returns fun _ hst' => List.mem_singleton.mp hst' ▸ h⟩

theorem step (h : st.wrapping? = none) : Takes fault? (step st (fault? st) : Job σ Unit) [st] := by
  cases hf : fault? st with
  | none => exact ⟨fun _ => rfl, fun _ => .returns fun _ hst' => List.mem_singleton.mp hst' ▸ hf⟩
  | some f => exact ⟨fun _ => rfl, fun _ => .alone hf (.unwrapped (.inl h))⟩

theorem guarded {text : String} (h : st.wrapping? = some text) :
    Takes fault? ((Run.step st (fault? st) : Job σ Unit).mapFault (wrapDriver .connection text)) [st] := by
  cases hf : fault? st with
  | none => exact ⟨fun _ => rfl, fun _ => .returns fun _ hst' => List.mem_singleton.mp hst' ▸ hf⟩
  | some f => exact ⟨fun _ => rfl, fun _ => .alone hf (.guarded h f)⟩

theorem result_of_quiet (hx : Takes fault? x sts) (hquiet : ∀ st ∈ sts, fault? st = none) (s : Session σ) :
    x s = (.ok (), { s with journal := s.journal ++ sts.map .stepped }) :=
  Prod.ext ((hx.ends s).eq_ok_iff.mpr hquiet) (hx.session s)

theorem bind (hx : Takes fault? x sts) (hquiet : ∀ st ∈ sts, fault? st = none) (hy : Takes fault? y sts') :
    Takes fault? (x >>= fun _ => y) (sts ++ sts') := by
  have hr : ∀ s, (x >>= fun _ => y) s = y { s with journal := s.journal ++ sts.map .stepped } := fun s =>
    bind_of_ok (hx.result_of_quiet hquiet s)
  constructor
  · intro s
    rw [hr, hy.session, List.map_append, List.append_assoc]
  · intro s
    rw [hr]
    exact (hy.ends _).quiet_append hquiet

theorem bind_error (hx : Takes fault? x sts) (hst : st ∈ sts) (hf : fault? st = some f) (g : Unit → Job σ Unit) :
    Takes fault? (x >>= g) sts := by
  have hr : ∀ s, (x >>= g) s = x s := by
    intro s
    have hne : (x s).1 ≠ .ok () := fun hok => nomatch hf.symm.trans ((hx.ends s).eq_ok_iff.mp hok st hst)
    rcases hxs : x s with ⟨e | _, t⟩
    · rw [bind_of_error hxs]
    · rw [hxs] at hne
      exact absurd rfl hne
  exact ⟨fun s => by rw [hr, hx.session], fun s => by rw [hr]; exact hx.ends s⟩

theorem always (hx : Takes fault? x sts) (h : st.wrapping? = none) :
    Takes fault? (x.always (Run.step st (fault? st))) (sts ++ [st]) := by
  constructor
  · intro s
    rw [always_step, hx.session]
    simp [Session.note]
  · intro s
    rw [always_step]
    cases hf : fault? st with
    | none => exact (hx.ends s).append_quiet fun st' hst' => List.mem_singleton.mp hst' ▸ hf
    | some f => exact .raises hf (List.forall_mem_nil _) (.unwrapped (.inl h))

end Job.Takes

/-- The steps around a body, by the first one that keeps the body from being reached. -/
inductive Taken (fault? : Step → Option Fault) (url : Text.Loose) : List Step → Prop
  | uncreated {f} (create : fault? .create = some f) : Taken fault? url [.url url, .create]
  | unconnected {f} (create : fault? .create = none) (connect : fault? .connect = some f) :
      Taken fault? url [.url url, .create, .connect, .dispose]
  | unset {f} (create : fault? .create = none) (connect : fault? .connect = none) (options : fault? .options = some f) :
      Taken fault? url [.url url, .create, .connect, .isolation isolation, .options, .close, .dispose]
  | entered (create : fault? .create = none) (connect : fault? .connect = none) (options : fault? .options = none) :
      Taken fault? url [.url url, .create, .connect, .isolation isolation, .options, .body, .close, .dispose]

theorem openConnection_taken (faults : StepFaults) (body : Option Fault) (url : Text.Loose) :
    ∃ sts, Taken (faults.fault? body) url sts ∧
      Takes (faults.fault? body) (openConnection faults url (step .body body) : Job σ Unit) sts := by
  let fault? := faults.fault? body
  have hurl : Takes fault? (Job.note (.stepped (.url url)) : Job σ Unit) [.url url] := .note rfl
  have hcreate : Takes fault? ((step .create faults.create : Job σ Unit).mapFault
      (wrapDriver .connection "Invalid database URL: ")) [.create] := .guarded rfl
  have hconnect : Takes fault? ((step .connect faults.connect : Job σ Unit).mapFault
      (wrapDriver .connection "Error connecting to database: ")) [.connect] := .guarded rfl
  have hisolation : Takes fault? (Job.note (.stepped (.isolation isolation)) : Job σ Unit) [.isolation isolation] :=
    .note rfl
  have hoptions : Takes fault? (step .options faults.options : Job σ Unit) [.options] := .step rfl
  have hbody : Takes fault? (step .body body : Job σ Unit) [.body] := .step rfl
  have hleft : ∀ {x : Job σ Unit} {sts}, Takes fault? x sts →
      Takes fault? (x.always (step .dispose faults.dispose)) (sts ++ [.dispose]) := fun hx => hx.always rfl
  have hclosed : ∀ {x : Job σ Unit} {sts}, Takes fault? x sts →
      Takes fault? (x.always (step .close faults.close)) (sts ++ [.close]) := fun hx => hx.always rfl
  have hquiet : ∀ {st : Step}, fault? st = none → ∀ st' ∈ [st], fault? st' = none := fun h st' hst' =>
    List.mem_singleton.mp hst' ▸ h
  rw [openConnection_eq]
  cases hc : fault? .create with
  | some f => exact ⟨_, .uncreated hc, hurl.bind (hquiet rfl) (hcreate.bind_error (.head _) hc _)⟩
  | none =>
    have hengine : ∀ {x : Job σ Unit} {sts}, Takes fault? x sts → Takes fault? (do
        Job.note (.stepped (.url url))
        (step .create faults.create).mapFault (wrapDriver .connection "Invalid database URL: ")
        x.always (step .dispose faults.dispose)) (.url url :: .create :: (sts ++ [.dispose])) := fun hx =>
      hurl.bind (hquiet rfl) (hcreate.bind (hquiet hc) (hleft hx))
    cases hn : fault? .connect with
    | some f => exact ⟨_, .unconnected hc hn, hengine (hconnect.bind_error (.head _) hn _)⟩
    | none =>
      have hopened : ∀ {sts}, Takes fault? (connected faults.options (step .body body) : Job σ Unit) sts →
          Takes fault? (opened faults.connect faults.options faults.close (step .body body) : Job σ Unit)
            (.connect :: (sts ++ [.close])) := fun hx => hconnect.bind (hquiet hn) (hclosed hx)
      cases ho : fault? .options with
      | some f =>
        have hconnected := hisolation.bind (hquiet rfl) (hoptions.bind_error (.head _) ho fun _ => step .body body)
        exact ⟨_, .unset hc hn ho, hengine (hopened hconnected)⟩
      | none =>
        have hconnected := hisolation.bind (hquiet rfl) (hoptions.bind (hquiet ho) hbody)
        exact ⟨_, .entered hc hn ho, hengine (hopened hconnected)⟩

/-- The life of a connection, by the steps that were taken and the end that they came to: in order and each at most once,
the body if the connection is set up, the closing if it was made, the disposal if there is an engine. -/
structure Lifecycle (fault? : Step → Option Fault) (sts : List Step) (r : Except Fault Unit) : Prop where
  order : sts.Pairwise fun a b => a.rank < b.rank
  create : .create ∈ sts
  connect : .connect ∈ sts ↔ fault? .create = none
  options : .options ∈ sts ↔ fault? .create = none ∧ fault? .connect = none
  body : .body ∈ sts ↔ fault? .create = none ∧ fault? .connect = none ∧ fault? .options = none
  close : .close ∈ sts ↔ fault? .create = none ∧ fault? .connect = none
  dispose : .dispose ∈ sts ↔ fault? .create = none
  last : .dispose ∈ sts → sts.getLast? = some .dispose
  returns : r = .ok () ↔ ∀ st ∈ sts, fault? st = none
  ends : EndsBy fault? sts r

theorem Taken.lifecycle {fault? : Step → Option Fault} {url : Text.Loose} {sts : List Step} {r : Except Fault Unit}
    (h : Taken fault? url sts) (hr : EndsBy fault? sts r) : Lifecycle fault? sts r := by
  cases h with
  | uncreated create => constructor <;> simp [Step.rank, create, hr, hr.eq_ok_iff]
  | unconnected create connect => constructor <;> simp [Step.rank, create, connect, hr, hr.eq_ok_iff]
  | unset create connect options => constructor <;> simp [Step.rank, create, connect, options, hr, hr.eq_ok_iff]
  | entered create connect options => constructor <;> simp [Step.rank, create, connect, options, hr, hr.eq_ok_iff]

/-- Whatever fails, a connection is opened, used and left by the steps of its life, and nothing else is done. -/
theorem openConnection_lifecycle (faults : StepFaults) (body : Option Fault) (url : Text.Loose) (s : Session σ) :
    let r := openConnection faults url (step .body body) s
    ∃ sts, r.2 = { s with journal := s.journal ++ sts.map .stepped } ∧ Lifecycle (faults.fault? body) sts r.1 := by
  obtain ⟨sts, htaken, htakes⟩ := openConnection_taken (σ := σ) faults body url
  exact ⟨sts, htakes.session s, htaken.lifecycle (htakes.ends s)⟩

/-- The end of an iteration does not leave as it is, and a refused connection is not what leaves if the disposal fails. -/
theorem openConnection_replaced :
    let stop : Fault := .outside (.mishap ⟨.stop, ""⟩)
    let refusal : Fault := .outside (.driver ⟨.operational, none, "refused"⟩)
    let leak : Fault := .outside (.mishap ⟨.runtime, "leak"⟩)
    let ending (faults : StepFaults) := (openConnection faults "sqlite://" (step .body none) (Session.start ())).1
    ending { StepFaults.none with create := some stop } =
        .error (.outside (.mishap ⟨.runtime, "generator raised StopIteration"⟩)) ∧
      ending { StepFaults.none with connect := some refusal, dispose := some leak } = .error leak :=
  ⟨rfl, rfl⟩

end Retention.Run
