import Retention.Proofs.Past
import Retention.Settings.Cache

/-! # The cache of settings

Whatever is done, the cache holds the settings of the environment as it was when they were first
asked for with success since the cache was cleared. Until then, and without the cache, it is the
present environment that counts.
-/

namespace Retention.Settings

variable {env : Environment} {past before : List CacheAct} {s : Settings Text.Loose}

section Acts

def CacheAct.edit (env : Environment) : CacheAct → Environment
  | .set name value => env.set name value
  | .unset name => env.unset name
  | _ => env

def edited (env : Environment) (acts : List CacheAct) : Environment :=
  acts.foldl CacheAct.edit env

/-- The cache as acts leave it, which start with an empty one. -/
def cached (env : Environment) (acts : List CacheAct) : Cached :=
  (Cached.start env).after acts

/-- The settings that an act is given by way of the cache. -/
def served? (env : Environment) (past : List CacheAct) : CacheAct → Option (Settings Text.Loose)
  | .get => (cached env past).get.1.toOption
  | _ => none

/-- Nothing has been served since the cache was cleared. -/
def Unserved (env : Environment) (past : List CacheAct) : Prop :=
  NoneSince (· = .clear) (served? env) past

/-- These settings were the first that were served since the cache was cleared, behind the acts before. -/
def FirstServed (env : Environment) (past before : List CacheAct) (s : Settings Text.Loose) : Prop :=
  FirstSince (· = .clear) (served? env) past before s

theorem cached_concat (a : CacheAct) : cached env (past ++ [a]) = ((cached env past).act a).2 := by
  rw [cached, Cached.after, List.foldl_append]
  rfl

theorem env_get (c : Cached) : c.get.2.env = c.env := by
  unfold Cached.get
  split
  · rfl
  · split <;> rfl

theorem env_act (c : Cached) (a : CacheAct) : (c.act a).2.env = a.edit c.env := by
  cases a with
  | get => exact env_get c
  | _ => rfl

theorem env_cached : (cached env past).env = edited env past := by
  induction past using List.reverseRecOn with
  | nil => rfl
  | append_singleton past a ih =>
    rw [cached_concat, env_act, ih, edited, edited, List.foldl_append]
    rfl

theorem kept_get (c : Cached) : c.get.2.kept = c.get.1.toOption := by
  unfold Cached.get
  split
  · assumption
  · split
    · rfl
    · assumption

theorem get_of_kept {c : Cached} (h : c.kept = some s) : c.get.1 = .ok s := by
  rw [Cached.get, h]

theorem get_of_empty {c : Cached} (h : c.kept = none) : c.get.1 = c.fresh := by
  rw [Cached.get, h]
  dsimp only
  split <;> rename_i hfresh <;> exact hfresh.symm

theorem isMemory_kept (env : Environment) :
    IsMemory (· = .clear) (served? env) fun past => (cached env past).kept where
  nil := rfl
  of_reset past a ha := by
    rw [cached_concat, ha]
    rfl
  of_not_reset past a ha := by
    rw [cached_concat]
    cases a with
    | clear => exact absurd rfl ha
    | get =>
      rw [Cached.act, kept_get, served?]
      cases hkept : (cached env past).kept with
      | none => rw [Option.none_or]
      | some s =>
        rw [get_of_kept hkept]
        rfl
    | set | unset | fresh => exact Option.or_none.symm
  value_of_reset past a ha := by
    rw [ha]
    rfl

end Acts

section Answers

theorem fresh_cached : (cached env past).fresh = ofEnvironment (edited env past) := by
  rw [Cached.fresh, env_cached]

theorem get_of_unserved (h : Unserved env past) : (cached env past).get.1 = ofEnvironment (edited env past) := by
  rw [get_of_empty ((isMemory_kept env).eq_none_of_noneSince h), fresh_cached]

theorem get_of_firstServed (h : FirstServed env past before s) :
    ofEnvironment (edited env before) = .ok s ∧ (cached env past).get.1 = .ok s := by
  refine ⟨?_, get_of_kept ((isMemory_kept env).eq_some_of_firstSince h)⟩
  obtain ⟨a, behind, -, hbefore, hserved, -⟩ := h
  cases a with
  | get =>
    rw [served?, get_of_unserved hbefore] at hserved
    cases hread : ofEnvironment (edited env before) with
    | error problems => rw [hread] at hserved; cases hserved
    | ok s' =>
      rw [hread] at hserved
      exact congrArg Except.ok (Option.some.inj hserved)
  | _ => cases hserved

theorem cached_get_of_error (h : Unserved env past) {problems : List Problem}
    (herror : ofEnvironment (edited env past) = .error problems) : cached env (past ++ [.get]) = cached env past := by
  rw [cached_concat, Cached.act, Cached.get, (isMemory_kept env).eq_none_of_noneSince h, fresh_cached, herror]

theorem unserved_append (h : Unserved env past) {acts : List CacheAct} (hacts : .get ∉ acts) :
    Unserved env (past ++ acts) := by
  induction acts using List.reverseRecOn with
  | nil => rwa [List.append_nil]
  | append_singleton acts a ih =>
    obtain ⟨hacts, ha⟩ := not_or.mp (mt List.mem_append.mpr hacts)
    rw [← List.append_assoc]
    refine .concat ?_ (.inr (ih hacts))
    cases a with
    | get => exact absurd (List.mem_singleton_self _) ha
    | _ => rfl

theorem unserved_get_of_error (h : Unserved env past) {problems : List Problem}
    (herror : ofEnvironment (edited env past) = .error problems) : Unserved env (past ++ [.get]) := by
  refine .concat ?_ (.inr h)
  rw [served?, get_of_unserved h, herror]
  rfl

end Answers

/-- The answers after acts. The settings that were served first since the cache was cleared are served again; if there are
none, the present environment is read, and a failure leaves room for a later success. Without the cache the present
environment is read in any case, and the cache is left alone. -/
structure IsFaithful (env : Environment) (past : List CacheAct) : Prop where
  either : Unserved env past ∨ ∃ before s, FirstServed env past before s
  served : ∀ before s, FirstServed env past before s →
    ofEnvironment (edited env before) = .ok s ∧ (cached env past).get.1 = .ok s
  unserved : Unserved env past → (cached env past).get.1 = ofEnvironment (edited env past)
  failed : Unserved env past → ∀ problems, ofEnvironment (edited env past) = .error problems →
    (cached env (past ++ [.get])).kept = none ∧ cached env (past ++ [.get]) = cached env past
  repaired : Unserved env past → ∀ problems, ofEnvironment (edited env past) = .error problems →
    ∀ acts s, .get ∉ acts → ofEnvironment (edited env (past ++ .get :: acts)) = .ok s →
      (cached env (past ++ .get :: acts)).get.1 = .ok s
  fresh : (cached env past).act .fresh = (some (ofEnvironment (edited env past)), cached env past)

theorem cached_isFaithful (env : Environment) (past : List CacheAct) : IsFaithful env past where
  either := (isMemory_kept env).noneSince_or_firstSince past
  served _ _ h := get_of_firstServed h
  unserved h := get_of_unserved h
  failed h problems herror := by
    have hempty : (cached env past).kept = none := (isMemory_kept env).eq_none_of_noneSince h
    rw [cached_get_of_error h herror]
    exact ⟨hempty, rfl⟩
  repaired h problems herror acts s hacts hread := by
    rw [← List.singleton_append, ← List.append_assoc] at hread ⊢
    rw [get_of_unserved (unserved_append (unserved_get_of_error h herror) hacts), hread]
  fresh := by rw [Cached.act, fresh_cached]

end Retention.Settings
