import Mathlib.Data.List.Forall2
import Retention.Proofs.Log.StandIn
import Retention.Proofs.Number.Spelling
import Retention.Proofs.Text.Lower
import Retention.Value.Literal

/-! # Redacted mappings

A key names a secret if its text in lower case does, and only a text can. Redaction hides the values under such keys,
masks the passwords in other texts and leaves the rest, and a second redaction finds nothing to do.
-/

namespace Retention.Log

open Text

namespace Key

def toValue : Key → Value
  | .null => .null
  | .bool b => .bool b
  | .int n => .int n
  | .float x => .float x
  | .text s => .text s

def spelling (k : Key) : String :=
  k.toValue.plain

/-- The text of the key is the name of a secret, in any letter case. -/
def IsSecret (k : Key) : Prop :=
  lower k.spelling ∈ secretNames

theorem spelling_int (n : Int) : (int n).spelling = toString n := by
  rw [spelling, toValue, Value.plain, Value.literal] <;> simp

theorem spelling_float (x : Binary64) : (float x).spelling = x.toText := by
  rw [spelling, toValue, Value.plain, Value.literal] <;> simp

end Key

namespace Key

theorem forall_secretNames : ∀ word ∈ secretNames,
    'p' ∈ word.toList ∧ ∀ c ∈ word.toList, 0 < c.toNat ∧ c.toNat < 128 ∧ c ≠ 'i' ∧ c ≠ 'k' := by
  have hall : ∀ word ∈ secretNames, 'p' ∈ word.toList ∧
      word.toList.all (fun c => 0 < c.toNat ∧ c.toNat < 128 ∧ c ≠ 'i' ∧ c ≠ 'k') = true := by decide +kernel
  intro word hword
  exact (hall word hword).imp id fun h c hc => of_decide_eq_true (List.all_eq_true.mp h c hc)

theorem lower_mem_secretNames_iff {s : String} : lower s ∈ secretNames ↔ isSecretName s = true := by
  have hsole : ∀ word ∈ secretNames, ∀ c ∈ word.toList, IsSoleLower c := fun word hword c hc =>
    have ⟨hpos, hascii, hi, hk⟩ := (forall_secretNames word hword).2 c hc
    ⟨hpos, hascii, hi, hk⟩
  rw [isSecretName, List.contains_iff_mem]
  constructor
  · intro h
    rwa [(lower_eq_iff (hsole _ h)).mp rfl]
  · intro h
    rwa [(lower_eq_iff (hsole _ h)).mpr rfl]

theorem not_isSecretName_of_forall {s : String} (h : ∀ c ∈ s.toList, c.toLower ≠ 'p') : ¬ isSecretName s = true := by
  intro hname
  have hp := (forall_secretNames _ (List.contains_iff_mem.mp hname)).1
  rw [toList_toLower] at hp
  obtain ⟨c, hc, hlower⟩ := List.mem_map.mp hp
  exact h c hc hlower

theorem toLower_ne_of_isNumberChar {c : Char} (h : isNumberChar c = true) : c.toLower ≠ 'p' := by
  have hall : ∀ n < 128, isNumberChar (Char.ofNat n) = true → (Char.ofNat n).toLower ≠ 'p' := by decide +kernel
  have hletters : "-+.einfa".toList.all (·.toNat < 128) = true := by decide
  have hc : c.toNat < 128 := by
    rcases Bool.or_eq_true_iff.mp h with hdigit | hletter
    · exact Nat.lt_of_le_of_lt (Char.isDigit_iff_toNat.mp hdigit).2 (by decide)
    · exact of_decide_eq_true (List.all_eq_true.mp hletters c (List.contains_iff_mem.mp hletter))
  have hchar := hall c.toNat hc
  rw [Char.ofNat_toNat] at hchar
  exact hchar h

theorem isSecret_iff (k : Key) : k.IsSecret ↔ k.name?.any isSecretName = true := by
  rw [IsSecret, lower_mem_secretNames_iff]
  have hother : (∀ c ∈ k.spelling.toList, c.toLower ≠ 'p') → k.name? = none →
      (isSecretName k.spelling = true ↔ k.name?.any isSecretName = true) := fun h hnone =>
    iff_of_false (not_isSecretName_of_forall h) (by simp [hnone])
  have hall : ∀ word ∈ ["None", "True", "False"], word.toList.all (·.toLower ≠ 'p') = true := by decide +kernel
  have hword : ∀ word ∈ ["None", "True", "False"], ∀ c ∈ word.toList, c.toLower ≠ 'p' := fun word hmem c hc =>
    of_decide_eq_true (List.all_eq_true.mp (hall word hmem) c hc)
  cases k with
  | text s => rfl
  | null => exact hother (hword "None" (by simp)) rfl
  | bool b =>
    cases b with
    | false => exact hother (hword "False" (by simp)) rfl
    | true => exact hother (hword "True" (by simp)) rfl
  | int n =>
    refine hother (fun c hc => ?_) rfl
    rw [spelling_int] at hc
    exact toLower_ne_of_isNumberChar (isNumberChar_of_mem_int hc)
  | float x =>
    refine hother (fun c hc => ?_) rfl
    rw [spelling_float] at hc
    exact toLower_ne_of_isNumberChar (isNumberChar_of_mem_float hc)

end Key

section Values

variable {k : Key} {v : Value} {t : String} {u : Loose}

/-- What redaction makes of the value under a key. A text with surrogates is treated as each text that has characters in
their place. -/
structure Redacted (key : Key) (before after : Value) : Prop where
  hidden : key.IsSecret → after = .text "[REDACTED]"
  kept : ¬ key.IsSecret → (∀ t, before = .text t → ¬ "://".toList <:+: t.toList) →
    (∀ u, before = .loose u → ¬ "://".toList.map .char <:+: u.symbols) → after = before
  masked : ¬ key.IsSecret → ∀ t, before = .text t → ∃ t', after = .text t' ∧ Masked t.toList t'.toList ∧
    ∀ password, Shows t'.toList password → password = redactedMark
  maskedLoose : ¬ key.IsSecret → ∀ u, before = .loose u → ∃ u', after = .loose u' ∧ ∀ g, IsStandIn g →
    Masked (u.symbols.map g) (u'.symbols.map g) ∧ ∀ password, Shows (u'.symbols.map g) password → password = redactedMark
  quiet : ¬ key.IsSecret → ∀ t, before = .text t → (∀ password, Shows t.toList password → password = redactedMark) →
    after = before
  quietLoose : ¬ key.IsSecret → ∀ u, before = .loose u →
    (∀ g, IsStandIn g → ∀ password, Shows (u.symbols.map g) password → password = redactedMark) → after = before

/-- Two entries have the same key, and the same value unless the key names a secret. -/
def SameButSecret (e e' : Key × Value) : Prop :=
  e.1 = e'.1 ∧ (¬ e.1.IsSecret → e.2 = e'.2)

theorem redactValue_of_isSecret (h : k.IsSecret) : redactValue k.name? v = .text "[REDACTED]" := by
  have hmark : String.ofList redactedMark = "[REDACTED]" := String.ofList_toList
  rw [redactValue.eq_def, if_pos (k.isSecret_iff.mp h), hmark]

theorem redactValue_text (h : ¬ k.IsSecret) : redactValue k.name? (.text t) = .text (redactText t) := by
  rw [redactValue, if_neg (mt k.isSecret_iff.mpr h)]

theorem redactValue_loose (h : ¬ k.IsSecret) : redactValue k.name? (.loose u) = .loose (redactLoose u) := by
  rw [redactValue, if_neg (mt k.isSecret_iff.mpr h)]

theorem redactValue_other (h : ¬ k.IsSecret) (hv : ∀ t, v ≠ .text t) (hu : ∀ u, v ≠ .loose u) :
    redactValue k.name? v = v := by
  rw [redactValue, if_neg (mt k.isSecret_iff.mpr h)]
  · exact hv
  · exact hu

theorem redactText_eq_self (h : ∀ password, Shows t.toList password → password = redactedMark) : redactText t = t := by
  rw [redactText, (redactChars_masked t.toList).eq_self h, String.ofList_toList]

theorem redactText_redactText (t : String) : redactText (redactText t) = redactText t := by
  rw [redactText, redactText, String.toList_ofList, redactChars_redactChars]

theorem not_separator_map {g : Symbol → Char} (hg : IsStandIn g) (h : ¬ "://".toList.map .char <:+: u.symbols) :
    ¬ "://".toList <:+: u.symbols.map g := by
  rintro ⟨before, behind, heq⟩
  obtain ⟨front, xs, hsymbols, hfront, -⟩ := List.map_eq_append_iff.mp heq.symm
  obtain ⟨ys, mark, rfl, -, hmark⟩ := List.map_eq_append_iff.mp hfront
  have hplain : mark = "://".toList.map .char := by
    refine hg.eq_map_char (fun c hc => ?_) hmark
    have hall : "://".toList.all (isUserChar · = false) = true := by decide
    exact .inr (.inl (of_decide_eq_true (List.all_eq_true.mp hall c hc)))
  exact h ⟨ys, xs, by rw [hsymbols, hplain]⟩

theorem redactLoose_eq_self (h : ∀ g, IsStandIn g → ∀ password, Shows (u.symbols.map g) password → password = redactedMark) :
    redactLoose u = u := by
  refine congrArg Loose.mk (eq_of_forall_map fun g hg => ?_)
  rw [map_redactSymbols hg, (redactChars_masked _).eq_self (h g hg)]

theorem redactLoose_redactLoose (u : Loose) : redactLoose (redactLoose u) = redactLoose u := by
  refine congrArg Loose.mk (eq_of_forall_map fun g hg => ?_)
  rw [map_redactSymbols hg, redactLoose, map_redactSymbols hg, redactChars_redactChars]

theorem redactValue_redacted (k : Key) (v : Value) : Redacted k v (redactValue k.name? v) where
  hidden := redactValue_of_isSecret
  kept hk ht hu := by
    cases v with
    | text t =>
      have hnone : ∀ password, Shows t.toList password → password = redactedMark := fun _ hshows =>
        absurd hshows.separator (ht t rfl)
      rw [redactValue_text hk, redactText_eq_self hnone]
    | loose u =>
      have hnone : ∀ g, IsStandIn g → ∀ password, Shows (u.symbols.map g) password → password = redactedMark :=
        fun g hg _ hshows => absurd hshows.separator (not_separator_map hg (hu u rfl))
      rw [redactValue_loose hk, redactLoose_eq_self hnone]
    | _ => exact redactValue_other hk (by simp) (by simp)
  masked := by
    rintro hk t rfl
    refine ⟨redactText t, redactValue_text hk, ?_⟩
    rw [redactText, String.toList_ofList]
    exact ⟨redactChars_masked t.toList, fun _ => (redactChars_masked t.toList).eq_redactedMark⟩
  maskedLoose := by
    rintro hk u rfl
    refine ⟨redactLoose u, redactValue_loose hk, fun g hg => ?_⟩
    rw [redactLoose, map_redactSymbols hg]
    exact ⟨redactChars_masked _, fun _ => (redactChars_masked _).eq_redactedMark⟩
  quiet := by
    rintro hk t rfl h
    rw [redactValue_text hk, redactText_eq_self h]
  quietLoose := by
    rintro hk u rfl h
    rw [redactValue_loose hk, redactLoose_eq_self h]

theorem redactValue_redactValue (k : Key) (v : Value) :
    redactValue k.name? (redactValue k.name? v) = redactValue k.name? v := by
  by_cases hk : k.IsSecret
  · rw [redactValue_of_isSecret hk, redactValue_of_isSecret hk]
  · cases v with
    | text t => rw [redactValue_text hk, redactValue_text hk, redactText_redactText]
    | loose u => rw [redactValue_loose hk, redactValue_loose hk, redactLoose_redactLoose]
    | _ => exact congrArg (redactValue k.name?) (redactValue_other hk (by simp) (by simp))

end Values

/-- Redaction keeps the keys in their order, hides what is under the names of secrets, leaves no other password in texts,
changes nothing else, and nothing at all when it is done again. What is under the names of secrets does not matter. -/
theorem redactEvent_complete (entries : List (Key × Value)) :
    List.Forall₂ (fun e e' => e'.1 = e.1 ∧ Redacted e.1 e.2 e'.2) entries (redactEvent entries) ∧
      redactEvent (redactEvent entries) = redactEvent entries ∧
        ∀ entries', List.Forall₂ SameButSecret entries entries' → redactEvent entries' = redactEvent entries := by
  refine ⟨?_, ?_, fun entries' h => ?_⟩
  · rw [redactEvent, List.forall₂_map_right_iff, List.forall₂_same]
    exact fun e _ => ⟨rfl, redactValue_redacted e.1 e.2⟩
  · rw [redactEvent, redactEvent, List.map_map]
    exact List.map_congr_left fun e _ => Prod.ext rfl (redactValue_redactValue e.1 e.2)
  · induction h with
    | nil => rfl
    | @cons e e' rest rest' he _ ih =>
      obtain ⟨hkey, hvalue⟩ := he
      have hredact : redactValue e'.1.name? e'.2 = redactValue e.1.name? e.2 := by
        rw [← hkey]
        by_cases hk : e.1.IsSecret
        · rw [redactValue_of_isSecret hk, redactValue_of_isSecret hk]
        · rw [hvalue hk]
      exact congrArg₂ List.cons (Prod.ext hkey.symm hredact) ih

/-- The password under a key in mixed case does not matter, and of logins that overlap no password is left. -/
theorem redactEvent_mixedCase :
    let entries (secret : Value) : List (Key × Value) :=
      [(.text "PgPassword", secret), (.text "note", .text "http://u:ftp://v:w@h"), (.text "rows", .int 3)]
    List.Forall₂ SameButSecret (entries (.text "hunter2")) (entries .null) ∧
      redactEvent (entries .null) = redactEvent (entries (.text "hunter2")) ∧
        ∃ t, (redactEvent (entries .null))[1]? = some (.text "note", .text t) ∧
          Masked "http://u:ftp://v:w@h".toList t.toList ∧ ∀ password, Shows t.toList password → password = redactedMark := by
  intro entries
  have hsecret : (Key.text "PgPassword").IsSecret :=
    (show lower "PgPassword" ∈ secretNames by decide +kernel)
  have hnote : ¬ (Key.text "note").IsSecret :=
    (show lower "note" ∉ secretNames by decide +kernel)
  have hsame : List.Forall₂ SameButSecret (entries (.text "hunter2")) (entries .null) :=
    .cons ⟨rfl, fun h => absurd hsecret h⟩ (.cons ⟨rfl, fun _ => rfl⟩ (.cons ⟨rfl, fun _ => rfl⟩ .nil))
  obtain ⟨hall, -, -⟩ := redactEvent_complete (entries .null)
  obtain ⟨-, hrest⟩ := List.forall₂_cons.mp hall
  obtain ⟨⟨-, hredacted⟩, -⟩ := List.forall₂_cons.mp hrest
  obtain ⟨t, ht, hmasked⟩ := hredacted.masked hnote _ rfl
  exact ⟨hsame, (redactEvent_complete _).2.2 _ hsame, t, congrArg (fun v => some (Key.text "note", v)) ht, hmasked⟩

end Retention.Log
