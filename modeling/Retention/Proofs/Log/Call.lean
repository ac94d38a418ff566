import Retention.Log.Loggers

/-! # What a call prints

A call under a configuration prints one line if its level is let through and the library takes it, and nothing otherwise. The
library takes it if it has no objection to the names of its fields and can write what redaction leaves of them.
-/

namespace Retention.Log

open Calendar

variable {lib : Library} {c : Config} {now : Moment} {r : Record} {line : String}

def Config.LetsThrough (c : Config) (r : Record) : Prop :=
  c.level.number ≤ r.level.number

instance (c : Config) (r : Record) : Decidable (c.LetsThrough r) :=
  inferInstanceAs (Decidable (_ ≤ _))

/-- The library takes a call that is let through, and makes this line of it. -/
structure Library.Takes (lib : Library) (c : Config) (now : Moment) (r : Record) (line : String) : Prop where
  names : lib.objection? true (r.fields.map (·.1)) = none
  line : lib.line c.format now r.level (redactFields (withEvent r)) = .ok line

/-- What comes of a call that obeys a configuration. Only a call that is let through and taken prints, and it prints its
line; it fails if it is let through and not taken, or held back in spite of an objection. -/
structure Obeys (lib : Library) (c : Config) (now : Moment) (r : Record) (answer : LogAnswer) : Prop where
  prints : ∀ line, c.LetsThrough r → lib.Takes c now r line → answer.printed = [line]
  silent : ¬ (c.LetsThrough r ∧ ∃ line, lib.Takes c now r line) → answer.printed = []
  fails : (∃ m, answer = .called (.error m)) ↔
    c.LetsThrough r ∧ (∀ line, ¬ lib.Takes c now r line) ∨
      ¬ c.LetsThrough r ∧ lib.objection? false (r.fields.map (·.1)) ≠ none

theorem Library.Takes.eq {line' : String} (h : lib.Takes c now r line) (h' : lib.Takes c now r line') : line = line' :=
  Except.ok.inj (h.line.symm.trans h'.line)

theorem Library.Takes.call (h : lib.Takes c now r line) (henabled : c.enables r.level = true) :
    callLine? lib (some c) now r = .ok (some line) := by
  simp only [callLine?, Option.all_some, henabled, if_true, Record.shown, h.names, h.line, Except.map]

theorem Obeys.of_taken (hlevel : c.LetsThrough r) (h : lib.Takes c now r line) :
    Obeys lib c now r (.called (.ok (some line))) where
  prints line' _ h' := by
    rw [h'.eq h]
    rfl
  silent hno := absurd ⟨hlevel, line, h⟩ hno
  fails := by
    refine iff_of_false (fun ⟨_, hm⟩ => nomatch hm) ?_
    rintro (⟨-, hnone⟩ | ⟨hheld, -⟩)
    · exact hnone line h
    · exact hheld hlevel

theorem Obeys.of_untaken {m : Mishap} (hlevel : c.LetsThrough r) (h : ∀ line, ¬ lib.Takes c now r line) :
    Obeys lib c now r (.called (.error m)) where
  prints line _ h' := absurd h' (h line)
  silent _ := rfl
  fails := iff_of_true ⟨m, rfl⟩ (.inl ⟨hlevel, h⟩)

theorem Obeys.of_held (hlevel : ¬ c.LetsThrough r) {result : Except Mishap (Option String)}
    (h : result = match lib.objection? false (r.fields.map (·.1)) with | some m => .error m | none => .ok none) :
    Obeys lib c now r (.called result) where
  prints _ hyes := absurd hyes hlevel
  silent _ := by
    subst h
    cases lib.objection? false (r.fields.map (·.1)) <;> rfl
  fails := by
    subst h
    cases lib.objection? false (r.fields.map (·.1)) <;> simp [hlevel]

theorem callLine?_obeys (lib : Library) (c : Config) (now : Moment) (r : Record) :
    Obeys lib c now r (.called (callLine? lib (some c) now r)) := by
  by_cases hlevel : c.LetsThrough r
  · have henabled : c.enables r.level = true := decide_eq_true hlevel
    simp only [callLine?, Option.all_some, henabled, if_true, Record.shown]
    cases hnames : lib.objection? true (r.fields.map (·.1)) with
    | some m =>
      refine .of_untaken hlevel fun line h => ?_
      cases h.names.symm.trans hnames
    | none =>
      cases hline : lib.line c.format now r.level (redactFields (withEvent r)) with
      | ok line => exact .of_taken hlevel ⟨hnames, hline⟩
      | error m =>
        refine .of_untaken hlevel fun line h => ?_
        cases h.line.symm.trans hline
  · have henabled : c.enables r.level = false := decide_eq_false hlevel
    refine .of_held hlevel ?_
    cases hnames : lib.objection? false (r.fields.map (·.1)) <;> simp [callLine?, henabled, Record.shown, hnames]

end Retention.Log
