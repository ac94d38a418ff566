import Mathlib.Data.List.Induction
import Mathlib.Data.List.TakeWhile
import Mathlib.Data.Nat.Digits.Defs
import Retention.Text.Numeral

/-! # Spellings of integers

An integer is spelled by blanks, a sign that may be left out, digits with single low lines between them,
and blanks. Reading accepts these texts and no others, and finds the integer: blanks, marks and digits
have no character in common, so a text has one such division.
-/

namespace Retention.Text

section Digit

variable {c : Char} {d : Nat}

theorem digit?_eq_some_iff : digit? c = some d ↔ ∃ z ∈ zeros, c.toNat = z + d ∧ d < 10 := by
  have hapart : ∀ z ∈ zeros, ∀ z' ∈ zeros, z ≠ z' → z + 10 ≤ z' ∨ z' + 10 ≤ z := by
    decide +kernel
  rw [digit?, Option.map_eq_some_iff]
  constructor
  · rintro ⟨z, hz, rfl⟩
    have hrange := List.find?_some hz
    simp only [Bool.and_eq_true, decide_eq_true_eq] at hrange
    exact ⟨z, List.mem_of_find?_eq_some hz, by omega⟩
  · rintro ⟨z, hz, hc, hd⟩
    have hsome : (zeros.find? fun z => z ≤ c.toNat && c.toNat < z + 10).isSome := by
      rw [List.find?_isSome]
      exact ⟨z, hz, by simp only [Bool.and_eq_true, decide_eq_true_eq]; omega⟩
    obtain ⟨z', hz'⟩ := Option.isSome_iff_exists.mp hsome
    have hrange := List.find?_some hz'
    simp only [Bool.and_eq_true, decide_eq_true_eq] at hrange
    refine ⟨z', hz', ?_⟩
    by_contra hne
    rcases hapart z hz z' (List.mem_of_find?_eq_some hz') (by rintro rfl; omega) with h | h <;> omega

theorem asciiDigit?_eq_some_iff : asciiDigit? c = some d ↔ c.toNat = 0x30 + d ∧ d < 10 := by
  unfold asciiDigit?
  split <;> rename_i h <;> simp only [Bool.and_eq_true, decide_eq_true_eq] at h
  · rw [Option.some.injEq]
    omega
  · simp only [reduceCtorEq, false_iff]
    omega

def blanks : List Nat := [
  0x09, 0x0A, 0x0B, 0x0C, 0x0D, 0x20, 0x85, 0xA0, 0x1680, 0x2000, 0x2001, 0x2002, 0x2003, 0x2004, 0x2005, 0x2006, 0x2007,
  0x2008, 0x2009, 0x200A, 0x2028, 0x2029, 0x202F, 0x205F, 0x3000]

theorem mem_blanks_of_isBlank (h : isBlank c = true) : c.toNat ∈ blanks := by
  simp only [isBlank, Bool.or_eq_true, Bool.and_eq_true, decide_eq_true_eq, beq_iff_eq] at h
  simp only [blanks, List.mem_cons, List.not_mem_nil, or_false]
  omega

theorem digit?_of_isBlank (h : isBlank c = true) : digit? c = none := by
  have hapart : ∀ b ∈ blanks, ∀ z ∈ zeros, b < z ∨ z + 10 ≤ b := by decide +kernel
  rw [Option.eq_none_iff_forall_ne_some]
  intro d hd
  obtain ⟨z, hz, hc, hlt⟩ := digit?_eq_some_iff.mp hd
  have := hapart _ (mem_blanks_of_isBlank h) z hz
  omega

end Digit

namespace Numeral

variable {blank : Char → Bool} {digit? : Char → Option Nat} {cs run : List Char} {ds : List Nat} {n : Int}

/-- Digits, most significant first, with single low lines between them. -/
inductive Spells (digit? : Char → Option Nat) : List Char → List Nat → Prop
  | last {c d} (digit : digit? c = some d) : Spells digit? [c] [d]
  | next {c d cs ds} (digit : digit? c = some d) (rest : Spells digit? cs ds) : Spells digit? (c :: cs) (d :: ds)
  | lowLine {c d cs ds} (digit : digit? c = some d) (rest : Spells digit? cs ds) :
      Spells digit? (c :: '_' :: cs) (d :: ds)

/-- A sign that may be left out, true for minus. -/
inductive Signs : List Char → Bool → Prop
  | none : Signs [] false
  | plus : Signs ['+'] false
  | minus : Signs ['-'] true

inductive IsTextOf (blank : Char → Bool) (digit? : Char → Option Nat) : List Char → Int → Prop
  | intro {before sign run behind minus ds} (before_blank : ∀ c ∈ before, blank c = true) (sign_minus : Signs sign minus)
      (run_digits : Spells digit? run ds) (limit : ds.length ≤ digitLimit)
      (behind_blank : ∀ c ∈ behind, blank c = true) :
      IsTextOf blank digit? (before ++ (sign ++ (run ++ behind)))
        ((if minus then -1 else 1) * (Nat.ofDigits 10 ds.reverse : Nat))

structure IsAlphabet (blank : Char → Bool) (digit? : Char → Option Nat) : Prop where
  digit_of_blank : ∀ c, blank c = true → digit? c = none
  plus : blank '+' = false ∧ digit? '+' = none
  minus : blank '-' = false ∧ digit? '-' = none
  lowLine : blank '_' = false ∧ digit? '_' = none

theorem isAlphabet_text : IsAlphabet isBlank Text.digit? where
  digit_of_blank _ := digit?_of_isBlank
  plus := by decide
  minus := by decide
  lowLine := by decide

theorem isAlphabet_bytes : IsAlphabet isAsciiBlank asciiDigit? where
  digit_of_blank c h := by
    simp only [isAsciiBlank, Bool.or_eq_true, Bool.and_eq_true, decide_eq_true_eq, beq_iff_eq] at h
    rw [Option.eq_none_iff_forall_ne_some]
    intro d hd
    have := asciiDigit?_eq_some_iff.mp hd
    omega
  plus := by decide
  minus := by decide
  lowLine := by decide

theorem value_eq_ofDigits (ds : List Nat) : value ds = Nat.ofDigits 10 ds.reverse := by
  induction ds using List.reverseRecOn with
  | nil => rfl
  | append_singleton ds d ih =>
    rw [value_append, ih, List.reverse_append, List.reverse_singleton, List.singleton_append, Nat.ofDigits_cons,
      Nat.add_comm]

theorem applySign_eq (minus : Bool) (n : Nat) : applySign minus n = (if minus then -1 else 1) * (n : Int) := by
  cases minus <;> simp [applySign]

namespace Spells

theorem exists_cons (h : Spells digit? run ds) : ∃ c rest d, run = c :: rest ∧ digit? c = some d := by
  cases h <;> exact ⟨_, _, _, rfl, ‹_›⟩

/-- The low lines of a run are not digits, so its division into digits is found. -/
theorem digits?_eq (hline : digit? '_' = none) (h : Spells digit? run ds) : digits? digit? run = some ds := by
  induction h with
  | last digit => simp [digits?, digit]
  | @next c d cs ds digit rest ih =>
    obtain ⟨c', rest', d', rfl, hd'⟩ := rest.exists_cons
    have hc' : c' ≠ '_' := by
      rintro rfl
      rw [hline] at hd'
      cases hd'
    rw [digits?, ih, digit]
    · rfl
    · simp
    · simpa using hc'
  | lowLine digit rest ih => rw [digits?, ih, digit]; rfl

theorem of_digits? (h : digits? digit? run = some ds) : Spells digit? run ds := by
  fun_induction digits? digit? run generalizing ds with
  | case1 => cases h
  | case2 c =>
    obtain ⟨d, hd, rfl⟩ := Option.map_eq_some_iff.mp h
    exact .last hd
  | case3 c rest ih =>
    simp only [bind, Option.bind_eq_some_iff] at h
    obtain ⟨d, hd, ds, hds, h⟩ := h
    cases h
    exact .lowLine hd (ih hds)
  | case4 c rest _ _ ih =>
    simp only [bind, Option.bind_eq_some_iff] at h
    obtain ⟨d, hd, ds, hds, h⟩ := h
    cases h
    exact .next hd (ih hds)

end Spells

section Read

variable {sign run behind : List Char} {minus : Bool}

def isRunChar (digit? : Char → Option Nat) (c : Char) : Bool :=
  c == '_' || (digit? c).isSome

theorem Spells.isRunChar (h : Spells digit? run ds) : ∀ c ∈ run, isRunChar digit? c = true := by
  induction h with
  | last digit => simp [Numeral.isRunChar, digit]
  | next digit _ ih => simpa [Numeral.isRunChar, digit] using ih
  | lowLine digit _ ih => simpa [Numeral.isRunChar, digit] using ih

theorem exists_signs (cs : List Char) : ∃ s, Signs s (Numeral.sign cs).1 ∧ cs = s ++ (Numeral.sign cs).2 := by
  unfold Numeral.sign
  split
  · exact ⟨_, .plus, rfl⟩
  · exact ⟨_, .minus, rfl⟩
  · exact ⟨_, .none, rfl⟩

theorem isTextOf_of_read (h : read blank digit? cs = .ok n) : IsTextOf blank digit? cs n := by
  obtain ⟨s, hsign, hrest⟩ := exists_signs (cs.dropWhile blank)
  rw [read] at h
  generalize Numeral.sign (cs.dropWhile blank) = signed at h hsign hrest
  obtain ⟨minus, body⟩ := signed
  dsimp only at h hsign hrest
  split at h
  · cases h
  · rename_i ds hdigits
    split at h
    · cases h
    · rename_i hlimit
      split at h
      · rename_i hbehind
        obtain rfl := Except.ok.inj h
        rw [applySign_eq, value_eq_ofDigits, ← List.takeWhile_append_dropWhile (p := blank) (l := cs), hrest,
          ← List.takeWhile_append_dropWhile (p := fun c => c == '_' || (digit? c).isSome) (l := body)]
        exact .intro (fun c hc => List.mem_takeWhile_imp hc) hsign (.of_digits? hdigits) (by omega)
          (List.all_eq_true.mp hbehind)
      · cases h

variable (alphabet : IsAlphabet blank digit?)

include alphabet

theorem IsAlphabet.not_isRunChar {c : Char} (h : blank c = true) : isRunChar digit? c = false := by
  have hline : c ≠ '_' := by
    rintro rfl
    rw [alphabet.lowLine.1] at h
    cases h
  simp [isRunChar, hline, alphabet.digit_of_blank c h]

theorem IsAlphabet.ne_mark {c : Char} {d : Nat} (h : digit? c = some d) : c ≠ '+' ∧ c ≠ '-' := by
  constructor
  · rintro rfl
    rw [alphabet.plus.2] at h
    cases h
  · rintro rfl
    rw [alphabet.minus.2] at h
    cases h

theorem dropWhile_blank (hsign : Signs sign minus) (hrun : Spells digit? run ds) :
    (sign ++ (run ++ behind)).dropWhile blank = sign ++ (run ++ behind) := by
  obtain ⟨c, rest, d, rfl, hd⟩ := hrun.exists_cons
  have hc : blank c = false := by
    rw [← Bool.not_eq_true]
    intro hblank
    rw [alphabet.digit_of_blank c hblank] at hd
    cases hd
  cases hsign with
  | none => simp [hc]
  | plus => simp [alphabet.plus.1]
  | minus => simp [alphabet.minus.1]

theorem sign_append (hsign : Signs sign minus) (hrun : Spells digit? run ds) :
    Numeral.sign (sign ++ (run ++ behind)) = (minus, run ++ behind) := by
  obtain ⟨c, rest, d, rfl, hd⟩ := hrun.exists_cons
  obtain ⟨hplus, hminus⟩ := alphabet.ne_mark hd
  cases hsign with
  | none => simp [Numeral.sign, hplus, hminus]
  | plus => rfl
  | minus => rfl

theorem run_append (hrun : Spells digit? run ds) (hbehind : ∀ c ∈ behind, blank c = true) :
    (run ++ behind).takeWhile (isRunChar digit?) = run ∧ (run ++ behind).dropWhile (isRunChar digit?) = behind := by
  rw [List.takeWhile_append_of_pos hrun.isRunChar, List.dropWhile_append_of_pos hrun.isRunChar]
  cases behind with
  | nil => simp
  | cons c rest =>
    have hc : isRunChar digit? c = false := alphabet.not_isRunChar (hbehind c List.mem_cons_self)
    simp [hc]

theorem read_of_isTextOf (h : IsTextOf blank digit? cs n) : read blank digit? cs = .ok n := by
  obtain ⟨hbefore, hsign, hrun, hlimit, hbehind⟩ := h
  rename_i before sign run behind minus ds
  obtain ⟨htake, hdrop⟩ := run_append alphabet hrun hbehind
  unfold isRunChar at htake hdrop
  have hdigits := hrun.digits?_eq alphabet.lowLine.2
  rw [read, List.dropWhile_append_of_pos hbefore, dropWhile_blank alphabet hsign hrun, sign_append alphabet hsign hrun]
  simp only [htake, hdrop, hdigits]
  rw [if_neg (by omega), if_pos (List.all_eq_true.mpr hbehind), applySign_eq, value_eq_ofDigits]

/-- A text is read as an integer if and only if it is one of that integer. -/
theorem read_eq_ok_iff : read blank digit? cs = .ok n ↔ IsTextOf blank digit? cs n :=
  ⟨isTextOf_of_read, read_of_isTextOf alphabet⟩

end Read

end Numeral
end Retention.Text
