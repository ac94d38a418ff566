import Retention.Run.Session

/-! # Pairs of jobs

Two jobs over worlds of their own agree if they lead from related sessions to the same end, and to related sessions again.
There is one rule for each way in which jobs are put together.
-/

namespace Retention.Run.Job

open Database

variable {σ σ' α β : Type} {R : Session σ → Session σ' → Prop}

/-- Two jobs have come to the same end, in related sessions. -/
def Together (R : Session σ → Session σ' → Prop) (p : Except Fault α × Session σ) (p' : Except Fault α × Session σ') :
    Prop :=
  p.1 = p'.1 ∧ R p.2 p'.2

/-- From related sessions the jobs come to the same end in related sessions. -/
def Agree (R : Session σ → Session σ' → Prop) (x : Job σ α) (x' : Job σ' α) : Prop :=
  ∀ s s', R s s' → Together R (x s) (x' s')

variable {x : Job σ α} {x' : Job σ' α} {f : α → Job σ β} {f' : α → Job σ' β} {s : Session σ} {s' : Session σ'}

theorem Together.bind (h : Together R (x s) (x' s'))
    (hf : ∀ a t t', x s = (.ok a, t) → x' s' = (.ok a, t') → R t t' → Together R (f a t) (f' a t')) :
    Together R ((x >>= f) s) ((x' >>= f') s') := by
  obtain ⟨hend, hR⟩ := h
  rcases hr : x s with ⟨e | a, t⟩ <;> rcases hr' : x' s' with ⟨e' | a', t'⟩ <;> rw [hr, hr'] at hend hR
  · rw [bind_of_error hr, bind_of_error hr']
    exact ⟨congrArg Except.error (Except.error.inj hend), hR⟩
  · cases hend
  · cases hend
  · obtain rfl := Except.ok.inj hend
    rw [bind_of_ok hr, bind_of_ok hr']
    exact hf a t t' hr hr' hR

namespace Agree

theorem out {t : Session σ} {r : Except Fault α} (hx : Agree R x x') (h : R s s') (hr : x s = (r, t)) :
    ∃ t', x' s' = (r, t') ∧ R t t' := by
  obtain ⟨hend, hR⟩ := hx s s' h
  rw [hr] at hend hR
  exact ⟨(x' s').2, Prod.ext hend.symm rfl, hR⟩

theorem bind (hx : Agree R x x') (hf : ∀ a, Agree R (f a) (f' a)) : Agree R (x >>= f) (x' >>= f') :=
  fun s s' h => (hx s s' h).bind fun a t t' _ _ ht => hf a t t' ht

theorem done (a : α) : Agree R (Job.done a) (Job.done a) :=
  fun _ _ h => ⟨rfl, h⟩

theorem fail (e : Fault) : Agree R (Job.fail e : Job σ α) (Job.fail e) :=
  fun _ _ h => ⟨rfl, h⟩

theorem change {f : Session σ → Session σ} {f' : Session σ' → Session σ'} (h : ∀ s s', R s s' → R (f s) (f' s')) :
    Agree R (Job.change f) (Job.change f') :=
  fun s s' hs => ⟨rfl, h s s' hs⟩

theorem ofExcept (r : Except Mishap α) : Agree R (Job.ofExcept r) (Job.ofExcept r) := by
  cases r with
  | ok a => exact .done a
  | error m => exact .fail _

theorem mapFault (g : Fault → Fault) (hx : Agree R x x') : Agree R (x.mapFault g) (x'.mapFault g) := by
  intro s s' h
  obtain ⟨hend, hR⟩ := hx s s' h
  exact ⟨congrArg (Except.mapError g) hend, hR⟩

theorem failIf (fault : Option Fault) : Agree R (Job.failIf fault) (Job.failIf fault) := by
  cases fault with
  | none => exact .done ()
  | some e => exact .fail e

theorem always {c : Job σ Unit} {c' : Job σ' Unit} (hx : Agree R x x') (hc : Agree R c c') :
    Agree R (x.always c) (x'.always c') := by
  intro s s' h
  obtain ⟨hend, hR⟩ := hx s s' h
  unfold Job.always
  rcases hr : c (x s).2 with ⟨e | _, t⟩
  · obtain ⟨t', hr', ht⟩ := hc.out hR hr
    simp only [hr, hr']
    exact ⟨rfl, ht⟩
  · obtain ⟨t', hr', ht⟩ := hc.out hR hr
    simp only [hr, hr']
    exact ⟨hend, ht⟩

end Agree

end Retention.Run.Job
