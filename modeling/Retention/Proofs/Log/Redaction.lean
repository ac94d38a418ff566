import Retention.Log.Setup

/-! # What redaction leaves

A text that starts with a scheme, a user name and a password keeps the first two and loses the
third, whatever it is. Lines under a configuration show no more of records than their levels, the names
of their fields, and what redaction leaves of these.
-/

namespace Retention.Log

open Calendar Text

/-- A scheme and a user name, as they stand in front of the colon of a password. -/
structure Front where
  first : Char
  scheme : List Char
  user : List Char
  isSchemeStart_first : isSchemeStart first = true
  isSchemeChar_scheme : ∀ c ∈ scheme, isSchemeChar c = true
  isUserChar_user : ∀ c ∈ user, isUserChar c = true

def Front.chars (f : Front) : List Char :=
  f.first :: f.scheme ++ ':' :: '/' :: '/' :: f.user

section Credentials

variable {f : Front} {password rest : List Char}

theorem credentials?_front (hp : ∀ c ∈ password, isPasswordChar c = true) (hne : password ≠ []) :
    credentials? (f.chars ++ ':' :: password ++ '@' :: rest) = some ⟨f.chars, password, rest⟩ := by
  obtain ⟨p, ps, rfl⟩ := List.exists_cons_of_ne_nil hne
  have hcolon : isSchemeChar ':' = false := by decide
  have hend : isUserChar ':' = false := by decide
  have hat : isPasswordChar '@' = false := by decide
  have hps := (List.forall_mem_cons.mp hp).2
  simp [Front.chars, credentials?, f.isSchemeStart_first, List.dropWhile_append_of_pos f.isSchemeChar_scheme,
    List.takeWhile_append_of_pos f.isSchemeChar_scheme, List.dropWhile_append_of_pos f.isUserChar_user,
    List.takeWhile_append_of_pos f.isUserChar_user, List.dropWhile_append_of_pos hps,
    List.takeWhile_append_of_pos hps, hp p List.mem_cons_self, hcolon, hend, hat]

theorem redactChars_of_some {cs : List Char} {m : Credentials} (h : credentials? cs = some m) :
    redactChars cs = m.before ++ ':' :: redactedMark ++ '@' :: redactChars m.after := by
  rw [redactChars]
  split
  · rename_i m' hm
    cases h.symm.trans hm
    rfl
  · rename_i hm
    cases h.symm.trans hm

theorem redactChars_cons_of_none {c : Char} {more : List Char} (h : credentials? (c :: more) = none) :
    redactChars (c :: more) = c :: redactChars more := by
  rw [redactChars]
  split
  · rename_i m hm
    cases h.symm.trans hm
  · rfl

/-- What is left of the text does not depend on the password. -/
theorem redactChars_front (hp : ∀ c ∈ password, isPasswordChar c = true) (hne : password ≠ []) :
    redactChars (f.chars ++ ':' :: password ++ '@' :: rest) =
      f.chars ++ ':' :: redactedMark ++ '@' :: redactChars rest :=
  redactChars_of_some (credentials?_front hp hne)

theorem redactValue_text_of_eq {t t' : String} (h : redactText t = redactText t') (name? : Option String) :
    redactValue name? (.text t) = redactValue name? (.text t') := by
  unfold redactValue
  split
  · rfl
  · exact congrArg Value.text h

end Credentials

section Lines

def linesAt (lib : Library) (config : Option Config) (clock : Nat → Moment) (records : List Record) : List String :=
  records.zipIdx.filterMap fun entry => (callLine? lib config (clock entry.2) entry.1).toOption.join

theorem linesAt_const (lib : Library) (config : Option Config) (now : Moment) (records : List Record) :
    linesAt lib config (fun _ => now) records = lines lib config now records := by
  have h : records.zipIdx.map Prod.fst = records := List.zipIdx_map_fst 0 records
  rw [lines, ← congrArg (List.filterMap fun r => (callLine? lib config now r).toOption.join) h, List.filterMap_map]
  rfl

variable {lib : Library} {c : Config} {r r' : Record} {records records' : List Record}

theorem callLine?_eq_of_shown (h : r.shown = r'.shown) (now : Moment) :
    callLine? lib (some c) now r = callLine? lib (some c) now r' := by
  have hlevel : r.level = r'.level := congrArg Shown.level h
  rw [callLine?, callLine?, h, hlevel]

/-- Records that show the same are printed as the same lines, whatever the clock reads. -/
theorem linesAt_eq_of_shown (h : records.map Record.shown = records'.map Record.shown)
    (clock : Nat → Moment) :
    linesAt lib (some c) clock records = linesAt lib (some c) clock records' := by
  simp only [linesAt]
  generalize 0 = n
  induction records generalizing records' n with
  | nil =>
    rw [List.map_eq_nil_iff.mp h.symm]
  | cons r rest ih =>
    obtain ⟨r', rest', rfl, hr, hrest⟩ := List.map_eq_cons_iff.mp h.symm
    have hline : callLine? lib (some c) (clock n) r = callLine? lib (some c) (clock n) r' :=
      callLine?_eq_of_shown hr.symm (clock n)
    rw [List.zipIdx_cons, List.zipIdx_cons, List.filterMap_cons, List.filterMap_cons, hline, ih hrest.symm]

end Lines

end Retention.Log
