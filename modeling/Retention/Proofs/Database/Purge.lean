import Retention.Proofs.Database.References

/-! # Purges

A purge takes the expired composes of a store and their clones, clones first. It may stop in
between, and what a purge at an earlier cutoff has left undone, in whichever phase it stopped, a
purge at a later cutoff makes up for. After a purge, one at an earlier cutoff has nothing to do, so
two of them, in whichever order, come to the one at the later cutoff.
-/

namespace Retention.Database

open Calendar

namespace Store

def HasTables (s : Store) : Prop :=
  s.composes.isSome ∧ s.clones.isSome

instance (s : Store) : Decidable s.HasTables :=
  inferInstanceAs (Decidable (s.composes.isSome ∧ s.clones.isSome))

/-- The clone is one of an expired compose. -/
def isDue (s : Store) (cutoff : Moment) (c : Clone) : Bool :=
  refersTo (expiredIds cutoff s.composeList) c

def disown (cutoff : Moment) (s : Store) : Store :=
  { s with clones := s.clones.map (·.filter (!s.isDue cutoff ·)) }

/-- The store without expired composes and their clones. -/
def purge (cutoff : Moment) (s : Store) : Store :=
  { s.disown cutoff with composes := s.composes.map (·.filter (!Compose.isExpired cutoff ·)) }

def clonesDue (cutoff : Moment) (s : Store) : Nat :=
  s.cloneList.countP (s.isDue cutoff)

def composesDue (cutoff : Moment) (s : Store) : Nat :=
  s.composeList.countP (Compose.isExpired cutoff)

variable {s : Store} {cutoff cutoff₁ cutoff₂ : Moment} {c : Clone}

theorem HasTables.disown (h : s.HasTables) : (s.disown cutoff).HasTables := by
  simpa [HasTables, Store.disown] using h

theorem HasTables.purge (h : s.HasTables) : (s.purge cutoff).HasTables := by
  simpa [HasTables, Store.purge, Store.disown] using h

theorem isDue_iff :
    s.isDue cutoff c = true ↔
      ∃ id, c = some id ∧ ∃ p ∈ s.composeList, p.jobId = some id ∧ p.isExpired cutoff = true :=
  refersTo_expiredIds_iff

theorem clones_disown : (s.disown cutoff).clones = s.clones.map (·.filter (!s.isDue cutoff ·)) := rfl

theorem clones_purge : (s.purge cutoff).clones = s.clones.map (·.filter (!s.isDue cutoff ·)) := rfl

theorem composes_purge : (s.purge cutoff).composes = s.composes.map (·.filter (!Compose.isExpired cutoff ·)) := rfl

theorem purge_congr {s' : Store} (hcl : (s.disown cutoff).clones = (s'.disown cutoff).clones)
    (hco : (s.purge cutoff).composes = (s'.purge cutoff).composes) (hk : s.foreignKey = s'.foreignKey) :
    s.purge cutoff = s'.purge cutoff := by
  rw [purge, purge, Store.mk.injEq]
  exact ⟨hco, hcl, hk⟩

@[simp] theorem cloneList_disown :
    (s.disown cutoff).cloneList = s.cloneList.filter (!s.isDue cutoff ·) := by
  cases h : s.clones <;> simp [disown, cloneList, h]

@[simp] theorem cloneList_purge :
    (s.purge cutoff).cloneList = s.cloneList.filter (!s.isDue cutoff ·) :=
  cloneList_disown

@[simp] theorem composeList_purge :
    (s.purge cutoff).composeList = s.composeList.filter (!Compose.isExpired cutoff ·) := by
  cases h : s.composes <;> simp [purge, composeList, h]

@[simp] theorem isDue_disown : (s.disown cutoff₁).isDue cutoff₂ = s.isDue cutoff₂ := rfl

theorem execute_deleteClones (h : s.HasTables) :
    s.execute (.deleteClones cutoff) = (.ok (.counting (s.clonesDue cutoff)), s.disown cutoff) := by
  obtain ⟨composes, hco⟩ := Option.isSome_iff_exists.mp h.1
  obtain ⟨clones, hcl⟩ := Option.isSome_iff_exists.mp h.2
  have hdue : s.isDue cutoff = refersTo (expiredIds cutoff composes) := by
    funext c
    simp [isDue, composeList, hco]
  simp only [execute, deleteClones, hco, hcl, clonesDue, disown, cloneList, hdue,
    Option.getD_some, Option.map_some]

/-- Once the clones of expired composes are gone, the foreign key does not stand in the way. -/
theorem execute_deleteComposes (h : s.HasTables) :
    (s.disown cutoff).execute (.deleteComposes cutoff) =
      (.ok (.counting (s.composesDue cutoff)), s.purge cutoff) := by
  obtain ⟨composes, hco⟩ := Option.isSome_iff_exists.mp h.1
  have hd : (s.disown cutoff).composes = some composes := hco
  have hfree : (s.disown cutoff).cloneList.any (refersTo (expiredIds cutoff composes)) = false := by
    have hdue : s.isDue cutoff = refersTo (expiredIds cutoff composes) := by
      funext c
      simp [isDue, composeList, hco]
    simp [← hdue]
  simp only [execute, deleteComposes, hd, hfree, Bool.and_false, Bool.false_eq_true, if_false,
    composesDue, composeList, hco, Option.getD_some, purge, Option.map_some]

theorem isDue_purge (h : s.isDue cutoff₁ c = false) :
    (s.purge cutoff₁).isDue cutoff₂ c = s.isDue cutoff₂ c := by
  rw [Bool.eq_iff_iff, isDue_iff, isDue_iff, composeList_purge]
  constructor
  · rintro ⟨id, rfl, p, hp, hj, he⟩
    exact ⟨id, rfl, p, (List.mem_filter.mp hp).1, hj, he⟩
  · rintro ⟨id, rfl, p, hp, hj, he⟩
    refine ⟨id, rfl, p, List.mem_filter.mpr ⟨hp, ?_⟩, hj, he⟩
    cases hx : p.isExpired cutoff₁ with
    | false => rfl
    | true =>
      have := isDue_iff.mpr ⟨id, rfl, p, hp, hj, hx⟩
      simp [h] at this

end Store

/-- How far a purge has come. -/
inductive Phase where
  | untouched
  | disowned
  | purged

namespace Phase

def store (cutoff : Moment) (s : Store) : Phase → Store
  | untouched => s
  | disowned => s.disown cutoff
  | purged => s.purge cutoff

def clones (cutoff : Moment) (s : Store) : Phase → Nat
  | untouched => 0
  | disowned | purged => s.clonesDue cutoff

def composes (cutoff : Moment) (s : Store) : Phase → Nat
  | untouched | disowned => 0
  | purged => s.composesDue cutoff

end Phase

theorem Store.HasTables.phase {s : Store} {cutoff : Moment} {phase : Phase} (h : s.HasTables) :
    (phase.store cutoff s).HasTables := by
  cases phase with
  | untouched => exact h
  | disowned => exact h.disown
  | purged => exact h.purge

section Later

section Lists

variable {α : Type} {p q : α → Bool} (hpq : ∀ a, p a = true → q a = true) (l : List α)

include hpq

theorem filter_not_filter_not : (l.filter (!p ·)).filter (!q ·) = l.filter (!q ·) := by
  rw [List.filter_filter]
  apply List.filter_congr
  intro a _
  cases hp : p a with
  | false => simp
  | true => simp [hpq a hp]

theorem countP_add_countP_filter_not : l.countP p + (l.filter (!p ·)).countP q = l.countP q := by
  have hsplit := List.countP_eq_countP_filter_add l q p
  have hp : (l.filter p).countP q = l.countP p := by
    rw [List.countP_filter]
    apply List.countP_congr
    intro a _
    simpa using hpq a
  omega

end Lists

variable {s : Store} {cutoff₁ cutoff₂ : Moment}
  (hle : ∀ p : Compose, p.isExpired cutoff₁ = true → p.isExpired cutoff₂ = true)

include hle

theorem Store.isDue_of_isDue (c : Clone) (h : s.isDue cutoff₁ c = true) :
    s.isDue cutoff₂ c = true := by
  obtain ⟨id, rfl, p, hp, hj, he⟩ := isDue_iff.mp h
  exact isDue_iff.mpr ⟨id, rfl, p, hp, hj, hle p he⟩

theorem Store.clones_disown_disown :
    ((s.disown cutoff₁).disown cutoff₂).clones = (s.disown cutoff₂).clones := by
  rw [clones_disown, clones_disown, Option.map_map, isDue_disown, clones_disown]
  congr 1
  funext clones
  exact filter_not_filter_not (isDue_of_isDue hle) clones

theorem Store.clones_disown_purge :
    ((s.purge cutoff₁).disown cutoff₂).clones = (s.disown cutoff₂).clones := by
  rw [← clones_disown_disown (s := s) hle, clones_disown, clones_purge, clones_disown,
    clones_disown, Option.map_map, Option.map_map]
  congr 1
  funext clones
  apply List.filter_congr
  intro c hc
  have hdue : s.isDue cutoff₁ c = false := by simpa using (List.mem_filter.mp hc).2
  rw [isDue_purge hdue, isDue_disown]

/-- Wherever a purge stops, a later one makes up for it. -/
theorem Phase.purge_store (phase : Phase) :
    (phase.store cutoff₁ s).purge cutoff₂ = s.purge cutoff₂ := by
  cases phase with
  | untouched => rfl
  | disowned => exact Store.purge_congr (Store.clones_disown_disown hle) rfl rfl
  | purged =>
    have hco : ((s.purge cutoff₁).purge cutoff₂).composes = (s.purge cutoff₂).composes := by
      rw [Store.composes_purge, Store.composes_purge, Option.map_map, Store.composes_purge]
      congr 1
      funext composes
      exact filter_not_filter_not hle composes
    exact Store.purge_congr (Store.clones_disown_purge hle) hco rfl

theorem Phase.clones_add_clonesDue (phase : Phase) :
    phase.clones cutoff₁ s + (phase.store cutoff₁ s).clonesDue cutoff₂ = s.clonesDue cutoff₂ := by
  have hsum := countP_add_countP_filter_not (Store.isDue_of_isDue (s := s) hle) s.cloneList
  cases phase with
  | untouched => exact Nat.zero_add _
  | disowned => rwa [Phase.store, Store.clonesDue, Store.cloneList_disown]
  | purged =>
    have hkept : (s.purge cutoff₁).clonesDue cutoff₂ =
        (s.cloneList.filter (!s.isDue cutoff₁ ·)).countP (s.isDue cutoff₂) := by
      rw [Store.clonesDue, Store.cloneList_purge]
      apply List.countP_congr
      intro c hc
      have hdue : s.isDue cutoff₁ c = false := by simpa using (List.mem_filter.mp hc).2
      rw [Store.isDue_purge hdue]
    rwa [Phase.store, hkept]

theorem Phase.composes_add_composesDue (phase : Phase) :
    phase.composes cutoff₁ s + (phase.store cutoff₁ s).composesDue cutoff₂ = s.composesDue cutoff₂ := by
  have hsum := countP_add_countP_filter_not hle s.composeList
  cases phase with
  | untouched | disowned => exact Nat.zero_add _
  | purged => rwa [Phase.store, Store.composesDue, Store.composeList_purge]

end Later

section Again

variable {cutoff : Moment}

theorem Store.disown_purge (s : Store) : (s.purge cutoff).disown cutoff = s.purge cutoff := by
  have hcl : ((s.purge cutoff).disown cutoff).clones = (s.disown cutoff).clones :=
    clones_disown_purge fun _ h => h
  rw [disown, Store.mk.injEq]
  exact ⟨rfl, hcl, rfl⟩

theorem Store.purge_purge (s : Store) : (s.purge cutoff).purge cutoff = s.purge cutoff :=
  Phase.purge_store (fun _ h => h) .purged

theorem Store.clonesDue_purge (s : Store) : (s.purge cutoff).clonesDue cutoff = 0 := by
  have hsum : s.clonesDue cutoff + (s.purge cutoff).clonesDue cutoff = s.clonesDue cutoff :=
    Phase.clones_add_clonesDue (fun _ h => h) .purged
  omega

theorem Store.composesDue_purge (s : Store) : (s.purge cutoff).composesDue cutoff = 0 := by
  have hsum : s.composesDue cutoff + (s.purge cutoff).composesDue cutoff = s.composesDue cutoff :=
    Phase.composes_add_composesDue (fun _ h => h) .purged
  omega

theorem Phase.of_purge (phase : Phase) (s : Store) :
    phase.store cutoff (s.purge cutoff) = s.purge cutoff ∧ phase.clones cutoff (s.purge cutoff) = 0 ∧
      phase.composes cutoff (s.purge cutoff) = 0 := by
  cases phase with
  | untouched => exact ⟨rfl, rfl, rfl⟩
  | disowned => exact ⟨s.disown_purge, s.clonesDue_purge, rfl⟩
  | purged => exact ⟨s.purge_purge, s.clonesDue_purge, s.composesDue_purge⟩

theorem Store.purge_eq_self {s : Store} (hcl : s.clonesDue cutoff = 0) (hco : s.composesDue cutoff = 0) :
    s.purge cutoff = s := by
  obtain ⟨composes, clones, foreignKey⟩ := s
  rw [clonesDue, List.countP_eq_zero] at hcl
  rw [composesDue, List.countP_eq_zero] at hco
  simp only [purge, disown, Store.mk.injEq, and_true]
  constructor
  · cases composes with
    | none => rfl
    | some l => exact congrArg some (List.filter_eq_self.mpr fun p hp => by simpa using hco p hp)
  · cases clones with
    | none => rfl
    | some l => exact congrArg some (List.filter_eq_self.mpr fun c hc => by simpa using hcl c hc)

end Again

section Earlier

variable {s : Store} {cutoff₁ cutoff₂ : Moment}
  (hle : ∀ p : Compose, p.isExpired cutoff₂ = true → p.isExpired cutoff₁ = true)

include hle

theorem Store.clonesDue_purge_of_le : (s.purge cutoff₁).clonesDue cutoff₂ = 0 := by
  have hsum : (s.purge cutoff₁).clonesDue cutoff₂ + ((s.purge cutoff₁).purge cutoff₂).clonesDue cutoff₁ =
      (s.purge cutoff₁).clonesDue cutoff₁ := Phase.clones_add_clonesDue hle .purged
  rw [s.clonesDue_purge] at hsum
  omega

theorem Store.composesDue_purge_of_le : (s.purge cutoff₁).composesDue cutoff₂ = 0 := by
  have hsum : (s.purge cutoff₁).composesDue cutoff₂ + ((s.purge cutoff₁).purge cutoff₂).composesDue cutoff₁ =
      (s.purge cutoff₁).composesDue cutoff₁ := Phase.composes_add_composesDue hle .purged
  rw [s.composesDue_purge] at hsum
  omega

theorem Store.purge_purge_of_le : (s.purge cutoff₁).purge cutoff₂ = s.purge cutoff₁ :=
  purge_eq_self (clonesDue_purge_of_le hle) (composesDue_purge_of_le hle)

end Earlier

section Latest

variable {s : Store} {cutoff₁ cutoff₂ cutoff : Moment}
  (hle₁ : ∀ p : Compose, p.isExpired cutoff₁ = true → p.isExpired cutoff = true)
  (hle₂ : ∀ p : Compose, p.isExpired cutoff₂ = true → p.isExpired cutoff = true)
  (hge : (∀ p : Compose, p.isExpired cutoff = true → p.isExpired cutoff₁ = true) ∨
    ∀ p : Compose, p.isExpired cutoff = true → p.isExpired cutoff₂ = true)

include hle₁ hle₂ hge

/-- Two purges, in whichever order, come to the one at the later cutoff. -/
theorem Store.purge_purge_eq : (s.purge cutoff₁).purge cutoff₂ = s.purge cutoff := by
  have hboth : ((s.purge cutoff₁).purge cutoff₂).purge cutoff = s.purge cutoff :=
    (Phase.purge_store hle₂ .purged).trans (Phase.purge_store hle₁ .purged)
  -- One of the two purges has left nothing for the third, so that can be dropped.
  rcases hge with hge | hge
  · rw [purge_purge_of_le fun p h => hge p (hle₂ p h), purge_purge_of_le hge] at hboth
    rw [purge_purge_of_le fun p h => hge p (hle₂ p h), hboth]
  · rwa [purge_purge_of_le hge] at hboth

theorem Store.clonesDue_add_clonesDue : s.clonesDue cutoff₁ + (s.purge cutoff₁).clonesDue cutoff₂ = s.clonesDue cutoff := by
  have hfirst : s.clonesDue cutoff₁ + (s.purge cutoff₁).clonesDue cutoff = s.clonesDue cutoff :=
    Phase.clones_add_clonesDue hle₁ .purged
  have hsecond : (s.purge cutoff₁).clonesDue cutoff₂ + ((s.purge cutoff₁).purge cutoff₂).clonesDue cutoff =
      (s.purge cutoff₁).clonesDue cutoff := Phase.clones_add_clonesDue hle₂ .purged
  rw [purge_purge_eq hle₁ hle₂ hge, s.clonesDue_purge] at hsecond
  omega

theorem Store.composesDue_add_composesDue :
    s.composesDue cutoff₁ + (s.purge cutoff₁).composesDue cutoff₂ = s.composesDue cutoff := by
  have hfirst : s.composesDue cutoff₁ + (s.purge cutoff₁).composesDue cutoff = s.composesDue cutoff :=
    Phase.composes_add_composesDue hle₁ .purged
  have hsecond : (s.purge cutoff₁).composesDue cutoff₂ + ((s.purge cutoff₁).purge cutoff₂).composesDue cutoff =
      (s.purge cutoff₁).composesDue cutoff := Phase.composes_add_composesDue hle₂ .purged
  rw [purge_purge_eq hle₁ hle₂ hge, s.composesDue_purge] at hsecond
  omega

end Latest
end Retention.Database
