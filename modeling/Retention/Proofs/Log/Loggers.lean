import Retention.Log.Layout
import Retention.Proofs.Log.Call
import Retention.Proofs.Past
import Retention.Proofs.Process

/-! # Configurations that loggers obey

The configuration in force is the latest that succeeded, and one that fails changes no later answer.
A logger keeps to the configuration that was in force when it was first called under one, whether or
not the call was let through. The root level is the first that could be read, for good.
-/

namespace Retention.Log

open Calendar

variable {lib : Library} {past future : List LogAct} {a : LogAct} {s s' : Loggers} {name : String} {c : Config}

section Levels

/-- The number that a level is given by, if it can be read; a truth value counts as zero or one. -/
def numberOf? : Value → Option Int
  | .text s => (Level.ofName? (Level.spelled s)).map Level.number
  | .loose t => t.plain.toOption.bind fun s => (Level.ofName? (Level.spelled s)).map Level.number
  | .int n => some n
  | .bool b => some (if b then 1 else 0)
  | _ => none

def levelOf? (v : Value) : Option Level :=
  (numberOf? v).bind Level.ofNumber?

/-- The values that no configuration can have as its level: a text that spells no name, a number that is none of a level,
and a value of another type. -/
def IsUnfit : Value → Prop
  | .text s => Level.spelled s ∉ Level.names
  | .loose t => ∀ s, t.plain = .ok s → Level.spelled s ∉ Level.names
  | .int n => n ∉ [0, 10, 20, 30, 40, 50]
  | .bool b => b = true
  | _ => True

theorem parseLevelName_toOption (t : Text.Loose) : (parseLevelName t).toOption.map Threshold.rank =
    t.plain.toOption.bind fun s => (Level.ofName? (Level.spelled s)).map Level.number := by
  have hname : ∀ s, Level.ofText? s = Level.ofName? (Level.spelled s) := fun _ => rfl
  rw [parseLevelName]
  cases t.plain with
  | error u => rfl
  | ok s =>
    simp only [Except.toOption, Option.bind_some, hname]
    cases Level.ofName? (Level.spelled s) <;> rfl

theorem parseLevel_toOption (v : Value) : (parseLevel v).toOption.map Threshold.rank = numberOf? v := by
  cases v with
  | text s => rw [parseLevel, parseLevelName_toOption, Text.Loose.plain_ofString, numberOf?, Except.toOption, Option.bind_some]
  | loose t => exact parseLevelName_toOption t
  | _ => rfl

theorem ofNumber?_eq_none_iff {n : Int} : Level.ofNumber? n = none ↔ n ∉ [0, 10, 20, 30, 40, 50] := by
  rw [Level.ofNumber?, List.find?_eq_none]
  simp [Level.all, Level.number, @eq_comm _ n]

theorem levelOf?_eq_none_iff {v : Value} : levelOf? v = none ↔ IsUnfit v := by
  cases v with
  | text s =>
    rw [IsUnfit, ← Level.ofName?_isSome_iff, levelOf?, numberOf?]
    cases Level.ofName? (Level.spelled s) <;> simp [Level.ofNumber?_number]
  | loose t =>
    simp only [IsUnfit, ← Level.ofName?_isSome_iff, levelOf?, numberOf?]
    cases t.plain with
    | error u => simp [Except.toOption]
    | ok s => cases h : Level.ofName? (Level.spelled s) <;> simp [Except.toOption, Level.ofNumber?_number, h]
  | int n => exact ofNumber?_eq_none_iff
  | bool b => cases b <;> simp [levelOf?, numberOf?, ofNumber?_eq_none_iff, IsUnfit]
  | _ => exact iff_of_true rfl trivial

/-- A configuration fixes the root level with the number that it reads, and takes effect if this is the number of a level. -/
theorem configure_setup (setup : Setup) (level : Value) (format : Format) :
    (setup.configure level format).2 =
      ⟨setup.root.or (numberOf? level), ((levelOf? level).map fun l => ⟨l, format⟩).or setup.current⟩ := by
  rw [levelOf?, ← parseLevel_toOption, Setup.configure]
  cases parseLevel level with
  | error reason => simp [Except.toOption]
  | ok threshold => cases h : Level.ofNumber? threshold.rank <;> simp [Except.toOption, h]

theorem configure_fails_iff (setup : Setup) (level : Value) (format : Format) :
    (∃ bad, (setup.configure level format).1 = .error bad) ↔ IsUnfit level := by
  rw [← levelOf?_eq_none_iff, levelOf?, ← parseLevel_toOption, Setup.configure]
  cases parseLevel level with
  | error reason => simp [Except.toOption]
  | ok threshold => cases h : Level.ofNumber? threshold.rank <;> simp [Except.toOption, h]

theorem configure_result (setup setup' : Setup) (level : Value) (format : Format) :
    (setup.configure level format).1 = (setup'.configure level format).1 := by
  unfold Setup.configure
  split
  · rfl
  · dsimp only
    split <;> rfl

end Levels

section Acts

def LogAct.number? : LogAct → Option Int
  | .configure level _ => numberOf? level
  | _ => none

def LogAct.config? : LogAct → Option Config
  | .configure level format => (levelOf? level).map fun l => ⟨l, format⟩
  | _ => none

/-- The configuration in force after acts is the latest. -/
def inForce (past : List LogAct) : Option Config :=
  (past.filterMap LogAct.config?).getLast?

def loggers (lib : Library) (past : List LogAct) : Loggers :=
  Loggers.initial.after lib past

def found? (name : String) (past : List LogAct) : LogAct → Option Config
  | .call name? _ _ => if name? = some name then inForce past else none
  | _ => none

/-- The logger under a name has not been called under a configuration since it was taken. -/
def Unbound (name : String) (past : List LogAct) : Prop :=
  NoneSince (· = .take name) (found? name) past

/-- The logger under a name was first called under a configuration behind the acts before, when this one was in force. -/
def FirstBound (name : String) (past before : List LogAct) (c : Config) : Prop :=
  FirstSince (· = .take name) (found? name) past before c

theorem loggers_concat (a : LogAct) : loggers lib (past ++ [a]) = ((loggers lib past).act lib a).2 := by
  rw [loggers, Loggers.after, List.foldl_append]
  rfl

theorem inForce_concat (a : LogAct) : inForce (past ++ [a]) = a.config?.or (inForce past) := by
  rw [inForce, inForce, List.filterMap_append, List.getLast?_append]
  cases h : a.config? <;> simp [h]

theorem setup_act (s : Loggers) (a : LogAct) :
    (s.act lib a).2.setup = ⟨s.setup.root.or a.number?, a.config?.or s.setup.current⟩ := by
  cases a with
  | configure level format => exact configure_setup s.setup level format
  | take name => simp [Loggers.act, Loggers.put, LogAct.number?, LogAct.config?]
  | call name? now r => cases name? <;> simp [Loggers.act, Loggers.put, LogAct.number?, LogAct.config?]

theorem setup_loggers : (loggers lib past).setup = ⟨(past.filterMap LogAct.number?).head?, inForce past⟩ := by
  induction past using List.reverseRecOn with
  | nil => rfl
  | append_singleton past a ih =>
    rw [loggers_concat, setup_act, ih, inForce_concat, List.filterMap_append, List.head?_append]
    cases h : a.number? <;> simp [h]

theorem kept_take (s : Loggers) (other name : String) : ((s.act lib (.take other)).2.named name).kept =
    if other = name then none else (s.named name).kept := by
  by_cases h : other = name
  · simp [Loggers.act, Loggers.put, Logger.fresh, h]
  · simp [Loggers.act, Loggers.put, h, Ne.symm h]

theorem kept_call (s : Loggers) (name? : Option String) (now : Moment) (r : Record) (name : String) :
    ((s.act lib (.call name? now r)).2.named name).kept =
      (s.named name).kept.or (if name? = some name then s.setup.current else none) := by
  cases name? with
  | none => exact Option.or_none.symm
  | some other =>
    by_cases h : other = name
    · simp [Loggers.act, Loggers.put, Loggers.logger, Setup.call, h]
    · simp [Loggers.act, Loggers.put, h, Ne.symm h]

theorem isMemory_named (lib : Library) (name : String) :
    IsMemory (· = .take name) (found? name) fun past => ((loggers lib past).named name).kept where
  nil := rfl
  of_reset past a ha := by
    rw [loggers_concat, ha, kept_take, if_pos rfl]
  of_not_reset past a ha := by
    rw [loggers_concat]
    cases a with
    | configure level format => exact Option.or_none.symm
    | take other =>
      have hother : other ≠ name := fun h => ha (congrArg LogAct.take h)
      rw [kept_take, if_neg hother]
      exact Option.or_none.symm
    | call name? now r =>
      rw [kept_call, setup_loggers]
      rfl
  value_of_reset past a ha := by
    rw [ha]
    rfl

end Acts

section Answers

/-- What the answers of loggers depend on: all but the root level. -/
def Loggers.guides (s : Loggers) : Option Config × (String → Logger) :=
  (s.setup.current, s.named)

theorem act_eq_of_guides (h : s.guides = s'.guides) (a : LogAct) :
    (s.act lib a).1 = (s'.act lib a).1 ∧ (s.act lib a).2.guides = (s'.act lib a).2.guides := by
  obtain ⟨⟨root, current⟩, named⟩ := s
  obtain ⟨⟨root', current'⟩, named'⟩ := s'
  obtain ⟨rfl, rfl⟩ := Prod.mk.inj h
  cases a with
  | configure level format =>
    have hresult := configure_result ⟨root, current⟩ ⟨root', current⟩ level format
    refine ⟨congrArg LogAnswer.configured hresult, ?_⟩
    simp only [Loggers.guides, setup_act]
    rfl
  | take name => exact ⟨rfl, rfl⟩
  | call name? now r => cases name? <;> exact ⟨rfl, rfl⟩

theorem answers_eq_of_guides (h : s.guides = s'.guides) (future : List LogAct) : s.answers lib future = s'.answers lib future := by
  induction future generalizing s s' with
  | nil => rfl
  | cons a rest ih =>
    obtain ⟨hanswer, hnext⟩ := act_eq_of_guides h a
    rw [Loggers.answers, Loggers.answers, hanswer, ih hnext]

theorem configure_unmoved {level : Value} (h : IsUnfit level) (s : Loggers) (format : Format) (future : List LogAct) :
    (s.act lib (.configure level format)).2.answers lib future = s.answers lib future := by
  refine answers_eq_of_guides ?_ future
  rw [Loggers.guides, setup_act, LogAct.config?, levelOf?_eq_none_iff.mpr h]
  rfl

theorem call_obeys {name? : Option String} (h : ((s.logger name?).kept.or s.setup.current) = some c) (now : Moment)
    (r : Record) : Obeys lib c now r (s.act lib (.call name? now r)).1 := by
  have hanswer : (s.act lib (.call name? now r)).1 = .called (callLine? lib (some c) now r) := by
    rw [← h]
    rfl
  rw [hanswer]
  exact callLine?_obeys lib c now r

theorem call_obeys_of_unbound (h : Unbound name past) (hc : inForce past = some c) (now : Moment) (r : Record) :
    Obeys lib c now r ((loggers lib past).act lib (.call (some name) now r)).1 := by
  refine call_obeys ?_ now r
  rw [Loggers.logger, (isMemory_named lib name).eq_none_of_noneSince h, setup_loggers, Option.none_or, hc]

theorem call_obeys_of_firstBound {before : List LogAct} (h : FirstBound name past before c) (now : Moment) (r : Record) :
    Obeys lib c now r ((loggers lib past).act lib (.call (some name) now r)).1 := by
  refine call_obeys ?_ now r
  rw [Loggers.logger, (isMemory_named lib name).eq_some_of_firstSince h, Option.some_or]

theorem inForce_of_firstBound {before : List LogAct} (h : FirstBound name past before c) : inForce before = some c := by
  obtain ⟨a, behind, -, -, hfound, -⟩ := h
  cases a with
  | call name? now r =>
    rw [found?] at hfound
    split at hfound
    · exact hfound
    · cases hfound
  | _ => cases hfound

end Answers

/-- What logging does after acts. A configuration that fails changes no answer of any future. A new logger, and one that has
not been called under a configuration, obeys the configuration in force, and any other logger the one that was in force when
it was first called under one. The root level is that of warnings until one could be read. -/
structure IsObedient (lib : Library) (past : List LogAct) : Prop where
  fails : ∀ level format,
    (∃ bad, ((loggers lib past).act lib (.configure level format)).1 = .configured (.error bad)) ↔ IsUnfit level
  unmoved : ∀ level format, IsUnfit level → ∀ future,
    ((loggers lib past).act lib (.configure level format)).2.answers lib future = (loggers lib past).answers lib future
  either : ∀ name, Unbound name past ∨ ∃ before c, FirstBound name past before c
  fresh : ∀ c, inForce past = some c → ∀ now r, Obeys lib c now r ((loggers lib past).act lib (.call none now r)).1
  unbound : ∀ name c, Unbound name past → inForce past = some c → ∀ now r,
    Obeys lib c now r ((loggers lib past).act lib (.call (some name) now r)).1
  bound : ∀ name before c, FirstBound name past before c → inForce before = some c ∧ ∀ now r,
    Obeys lib c now r ((loggers lib past).act lib (.call (some name) now r)).1
  rootLevel : (loggers lib past).setup.rootLevel = ((past.filterMap LogAct.number?).head?).getD 30

/-- A logger keeps to the configuration of its first call, which was not let through. -/
example :
    let quiet := [.configure (.text "WARNING") .json, .take "maintenance", .call (some "maintenance") (.ofEpochMicros 0)
      (.info "maintenance.start" []), .configure (.text "DEBUG") .console]
    ((loggers (.usual "") quiet).act (.usual "") (.call (some "maintenance") (.ofEpochMicros 0)
      (.info "maintenance.done" []))).1.printed = [] := by
  decide +kernel

end Retention.Log
