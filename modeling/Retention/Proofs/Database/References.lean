import Mathlib.Data.List.Pairwise
import Retention.Database.Store

/-! # References

A clone refers to the compose of its name. In a sound store names are unique and every clone refers
to a compose, and neither insertions nor deletions change that: an insertion without a parent is
refused, and so is a deletion that would leave a clone behind.
-/

namespace Retention.Database

open Calendar

variable {cutoff : Moment} {composes : List Compose} {s s' : Store} {c : Clone} {p q : Compose} {r : Reply}

theorem refersTo_expiredIds_iff :
    refersTo (expiredIds cutoff composes) c = true ↔
      ∃ id, c = some id ∧ ∃ p ∈ composes, p.jobId = some id ∧ p.isExpired cutoff = true := by
  cases c with
  | none => simp [refersTo]
  | some id =>
    simp only [refersTo, expiredIds, Option.any_some, List.contains_iff_mem, List.mem_filterMap,
      List.mem_filter]
    constructor
    · rintro ⟨p, ⟨hp, he⟩, hj⟩
      exact ⟨id, rfl, p, hp, hj, he⟩
    · rintro ⟨_, hid, p, hp, hj, he⟩
      obtain rfl := Option.some.inj hid
      exact ⟨p, ⟨hp, he⟩, hj⟩

namespace Store

def parent? (s : Store) (c : Clone) : Option Compose :=
  c.bind fun id => s.composeList.find? (·.jobId == some id)

/-- No two composes have the same name. -/
def HasUniqueIds (s : Store) : Prop :=
  (s.composeList.filterMap Compose.jobId).Nodup

instance (s : Store) : Decidable s.HasUniqueIds :=
  inferInstanceAs (Decidable (s.composeList.filterMap Compose.jobId).Nodup)

/-- The foreign key is on, names are unique, and every clone refers to a compose. -/
structure Sound (s : Store) : Prop where
  foreignKey : s.foreignKey = true
  unique : s.HasUniqueIds
  anchored : ∀ c ∈ s.cloneList, (s.parent? c).isSome

instance (s : Store) : Decidable s.Sound :=
  decidable_of_iff (s.foreignKey = true ∧ s.HasUniqueIds ∧ ∀ c ∈ s.cloneList, (s.parent? c).isSome)
    ⟨fun h => ⟨h.1, h.2.1, h.2.2⟩, fun h => ⟨h.foreignKey, h.unique, h.anchored⟩⟩

theorem mem_of_parent? (h : s.parent? c = some p) : p ∈ s.composeList ∧ p.jobId = c ∧ c.isSome := by
  cases c with
  | none => simp [parent?] at h
  | some id =>
    have hj := List.find?_some h
    exact ⟨List.mem_of_find?_eq_some h, by simpa using hj, rfl⟩

theorem parent?_isSome_iff :
    (s.parent? c).isSome = true ↔ ∃ id, c = some id ∧ ∃ p ∈ s.composeList, p.jobId = some id := by
  cases c <;> simp [parent?]

theorem HasUniqueIds.eq_of_jobId (hu : s.HasUniqueIds) (hp : p ∈ s.composeList)
    (hq : q ∈ s.composeList) {id : String}
    (hpj : p.jobId = some id) (hqj : q.jobId = some id) : p = q := by
  by_contra hne
  have hw := List.pairwise_filterMap.mp hu
  have : Std.Symm fun a b : Compose => ∀ x, a.jobId = some x → ∀ y, b.jobId = some y → x ≠ y :=
    ⟨fun a b h x hx y hy => (h y hy x hx).symm⟩
  exact hw.forall hp hq hne id hpj id hqj rfl

theorem HasUniqueIds.parent?_eq (hu : s.HasUniqueIds) (hp : p ∈ s.composeList) {id : String}
    (hj : p.jobId = some id) : s.parent? (some id) = some p := by
  have hsome : (s.parent? (some id)).isSome :=
    parent?_isSome_iff.mpr ⟨id, rfl, p, hp, hj⟩
  obtain ⟨q, hq⟩ := Option.isSome_iff_exists.mp hsome
  obtain ⟨hqm, hqj, -⟩ := mem_of_parent? hq
  rw [hq, hu.eq_of_jobId hp hqm hj hqj]

/-- A clone is one of an expired compose exactly if the compose that it refers to has expired. -/
theorem HasUniqueIds.refersTo_eq (hu : s.HasUniqueIds) (c : Clone) :
    refersTo (expiredIds cutoff s.composeList) c = (s.parent? c).any (Compose.isExpired cutoff) := by
  rw [Bool.eq_iff_iff, refersTo_expiredIds_iff, Option.any_eq_true]
  constructor
  · rintro ⟨id, rfl, p, hp, hj, he⟩
    exact ⟨p, hu.parent?_eq hp hj, he⟩
  · rintro ⟨p, hp, he⟩
    obtain ⟨hm, hj, hs⟩ := mem_of_parent? hp
    obtain ⟨id, rfl⟩ := Option.isSome_iff_exists.mp hs
    exact ⟨id, rfl, p, hm, hj, he⟩

theorem deleteClones_ok (h : s.deleteClones cutoff = (.ok r, s')) :
    r = .counting (s.cloneList.countP (refersTo (expiredIds cutoff s.composeList))) ∧
      s'.cloneList = s.cloneList.filter (!refersTo (expiredIds cutoff s.composeList) ·) ∧
      s'.composes = s.composes ∧ s'.foreignKey = s.foreignKey := by
  unfold deleteClones at h
  split at h
  · simp at h
  · simp at h
  · rename_i clones composes hcl hco
    simp only [Prod.mk.injEq, Except.ok.injEq] at h
    obtain ⟨rfl, rfl⟩ := h
    simp [cloneList, composeList, hcl, hco]

theorem deleteComposes_ok (h : s.deleteComposes cutoff = (.ok r, s')) :
    r = .counting (s.composeList.countP (Compose.isExpired cutoff)) ∧
      s'.composeList = s.composeList.filter (!Compose.isExpired cutoff ·) ∧
      s'.clones = s.clones ∧ s'.foreignKey = s.foreignKey ∧
      (s.foreignKey = true → ∀ c ∈ s.cloneList, refersTo (expiredIds cutoff s.composeList) c = false) := by
  unfold deleteComposes at h
  split at h
  · simp at h
  · rename_i composes hco
    split at h
    · simp at h
    · rename_i hf
      simp only [Prod.mk.injEq, Except.ok.injEq] at h
      obtain ⟨rfl, rfl⟩ := h
      simp only [Bool.and_eq_true, List.any_eq_true, not_and, not_exists, Bool.not_eq_true] at hf
      simp only [composeList, hco, Option.getD_some, cloneList, true_and]
      exact fun hk c hc => hf hk c hc

theorem execute_error {st : Statement} {e : DriverError} (h : (s.execute st).1 = .error e) :
    (s.execute st).2 = s := by
  cases st <;> simp only [execute] at h ⊢
  · unfold deleteClones at h ⊢
    split <;> simp_all
  · unfold deleteComposes at h ⊢
    split
    · rfl
    · split <;> simp_all

theorem clones_execute {st : Statement} (hst : ∀ cutoff, st ≠ .deleteClones cutoff) :
    (s.execute st).2.clones = s.clones := by
  cases st with
  | deleteClones cutoff => exact absurd rfl (hst cutoff)
  | deleteComposes cutoff =>
    simp only [execute, deleteComposes]
    split
    · rfl
    · split <;> rfl
  | _ => rfl

theorem composes_execute {st : Statement} (hst : ∀ cutoff, st ≠ .deleteComposes cutoff) :
    (s.execute st).2.composes = s.composes := by
  cases st with
  | deleteClones cutoff =>
    simp only [execute, deleteClones]
    split <;> rfl
  | deleteComposes cutoff => exact absurd rfl (hst cutoff)
  | _ => rfl

theorem HasUniqueIds.of_sublist (hu : s.HasUniqueIds) (h : s'.composeList.Sublist s.composeList) :
    s'.HasUniqueIds :=
  hu.sublist (h.filterMap _)

theorem hasCompose_iff {id : String} :
    s.hasCompose id = true ↔ ∃ p ∈ s.composeList, p.jobId = some id := by
  simp [hasCompose]

theorem insert_compose_ok (h : s.insert (.compose p) = .ok s') :
    s'.composeList = s.composeList ++ [p] ∧ s'.clones = s.clones ∧ s'.foreignKey = s.foreignKey ∧
      ∀ id, p.jobId = some id → ∀ q ∈ s.composeList, q.jobId ≠ some id := by
  simp only [Store.insert] at h
  split at h
  · simp at h
  · rename_i composes hco
    split at h
    · simp at h
    · rename_i hnew
      obtain rfl := Except.ok.inj h
      refine ⟨by simp [composeList, hco], rfl, rfl, fun id hj q hq hqj => ?_⟩
      have htaken : s.hasCompose id = true := hasCompose_iff.mpr ⟨q, hq, hqj⟩
      simp [hj, htaken] at hnew

theorem insert_clone_ok (h : s.insert (.clone c) = .ok s') :
    s'.cloneList = s.cloneList ++ [c] ∧ s'.composes = s.composes ∧ s'.foreignKey = s.foreignKey ∧
      (s.foreignKey = true → ∀ id, c = some id → ∃ p ∈ s.composeList, p.jobId = some id) := by
  simp only [Store.insert] at h
  split at h
  · simp at h
  · rename_i clones hcl
    split at h
    · simp at h
    · split at h
      · simp at h
      · rename_i hparent
        obtain rfl := Except.ok.inj h
        refine ⟨by simp [cloneList, hcl], rfl, rfl, ?_⟩
        rintro hk id rfl
        rw [← hasCompose_iff]
        simpa [hk] using hparent

theorem HasUniqueIds.append (hu : s.HasUniqueIds) (hco : s'.composeList = s.composeList ++ [p])
    (hnew : ∀ id, p.jobId = some id → ∀ q ∈ s.composeList, q.jobId ≠ some id) : s'.HasUniqueIds := by
  rw [HasUniqueIds] at hu ⊢
  rw [hco, List.filterMap_append]
  cases hj : p.jobId with
  | none => simpa [hj] using hu
  | some id =>
    have hfresh : ∀ x ∈ s.composeList.filterMap Compose.jobId, x ≠ id := by
      rintro x hx rfl
      obtain ⟨q, hq, hqj⟩ := List.mem_filterMap.mp hx
      exact hnew x hj q hq hqj
    have hone : [p].filterMap Compose.jobId = [id] := by simp [hj]
    rw [hone, List.nodup_append]
    exact ⟨hu, by simp, fun x hx y hy => List.mem_singleton.mp hy ▸ hfresh x hx⟩

/-- The engine refuses a name that is taken, and a clone without a parent. -/
theorem Sound.insert (hs : s.Sound) {row : Row} (hrow : row ≠ .clone none) (h : s.insert row = .ok s') :
    s'.Sound := by
  cases row with
  | compose p =>
    obtain ⟨hco, hcl, hk, hnew⟩ := insert_compose_ok h
    refine ⟨hk.trans hs.foreignKey, hs.unique.append hco hnew, fun c hc => ?_⟩
    rw [cloneList, hcl, ← cloneList] at hc
    obtain ⟨id, rfl, q, hq, hj⟩ := parent?_isSome_iff.mp (hs.anchored c hc)
    exact parent?_isSome_iff.mpr ⟨id, rfl, q, hco ▸ List.mem_append_left _ hq, hj⟩
  | clone x =>
    obtain ⟨hcl, hco, hk, hparent⟩ := insert_clone_ok h
    have hl : s'.composeList = s.composeList := by rw [composeList, composeList, hco]
    refine ⟨hk.trans hs.foreignKey, by rw [HasUniqueIds, hl]; exact hs.unique, fun c hc => ?_⟩
    rw [parent?_isSome_iff, hl, ← parent?_isSome_iff]
    rw [hcl] at hc
    rcases List.mem_append.mp hc with hc | hc
    · exact hs.anchored c hc
    · obtain rfl := List.mem_singleton.mp hc
      obtain ⟨id, rfl⟩ := Option.ne_none_iff_exists'.mp fun hnone => hrow (congrArg Row.clone hnone)
      exact parent?_isSome_iff.mpr ⟨id, rfl, hparent hs.foreignKey id rfl⟩

theorem Sound.insertAll (hs : s.Sound) {rows : List Row} (hrows : .clone none ∉ rows) :
    (s.insertAll rows).2.Sound := by
  induction rows generalizing s with
  | nil => exact hs
  | cons row rest ih =>
    simp only [List.mem_cons, not_or] at hrows
    simp only [Store.insertAll]
    split
    · rename_i s' h
      exact ih (hs.insert (Ne.symm hrows.1) h) hrows.2
    · exact hs

theorem Sound.execute (hs : s.Sound) (st : Statement) : (s.execute st).2.Sound := by
  rcases hx : s.execute st with ⟨e | r, s'⟩
  · have hsame : (s.execute st).2 = s := execute_error (by rw [hx])
    rw [hx] at hsame
    exact hsame ▸ hs
  · cases st with
    | deleteClones cutoff =>
      obtain ⟨-, hcl, hco, hk⟩ := deleteClones_ok hx
      have hl : s'.composeList = s.composeList := by rw [composeList, composeList, hco]
      refine ⟨hk.trans hs.foreignKey, by rw [HasUniqueIds, hl]; exact hs.unique, fun c hc => ?_⟩
      rw [hcl] at hc
      have := hs.anchored c ((List.mem_filter.mp hc).1)
      rwa [parent?_isSome_iff, hl, ← parent?_isSome_iff]
    | deleteComposes cutoff =>
      obtain ⟨-, hco, hcl, hk, hfree⟩ := deleteComposes_ok hx
      refine ⟨hk.trans hs.foreignKey, hs.unique.of_sublist (hco ▸ List.filter_sublist), fun c hc => ?_⟩
      rw [cloneList, hcl, ← cloneList] at hc
      obtain ⟨id, rfl, p, hp, hj⟩ := parent?_isSome_iff.mp (hs.anchored c hc)
      -- The parent stays, for otherwise the clone would refer to an expired name.
      have hkept : p.isExpired cutoff = false := by
        by_contra he
        have := hfree hs.foreignKey (some id) hc
        rw [← Bool.not_eq_true, refersTo_expiredIds_iff] at this
        exact this ⟨id, rfl, p, hp, hj, by simpa using he⟩
      exact parent?_isSome_iff.mpr ⟨id, rfl, p, by simp [hco, hp, hkept], hj⟩
    | _ => simp_all [Store.execute]

end Store
end Retention.Database
