import Retention.Database.Locator
import Retention.Proofs.Log.Redaction

/-! # Logins in URLs

A login is the scheme and the user name in front of a password, by the grammar of database URLs.
That grammar is wider than what redaction looks for: a password is hidden if and only if the scheme
ends in a run that redaction takes for a scheme and the user name has neither at signs nor spacing,
and even then only if the password has no spacing.
-/

namespace Retention.Log

open Text

/-- A scheme and a user name by the grammar of database URLs. -/
structure Login where
  scheme : List Char
  user : List Char
  scheme_ne_nil : scheme ≠ []
  mem_scheme : ∀ c ∈ scheme, c.isAlphanum = true ∨ c = '_' ∨ c = '+'
  mem_user : ∀ c ∈ user, c ≠ ':' ∧ c ≠ '/'

/-- A password by the grammar of database URLs. -/
def IsPassword (password : List Char) : Prop :=
  password ≠ [] ∧ '@' ∉ password

/-- A password that redaction takes for one. -/
def IsSolid (password : List Char) : Prop :=
  password ≠ [] ∧ ∀ c ∈ password, isPasswordChar c = true

theorem isSolid_singleton {c : Char} (h : isPasswordChar c = true) : IsSolid [c] :=
  ⟨List.cons_ne_nil c [], by simpa using h⟩

/-- What redaction takes for a scheme: a small letter and characters of schemes after it. -/
def IsScheme : List Char → Prop
  | [] => False
  | c :: rest => isSchemeStart c = true ∧ ∀ x ∈ rest, isSchemeChar x = true

namespace Login

def secret (password rest : List Char) : List Char :=
  ':' :: password ++ '@' :: rest

def tail (l : Login) (password rest : List Char) : List Char :=
  ':' :: '/' :: '/' :: l.user ++ secret password rest

def url (l : Login) (password rest : List Char) : String :=
  String.ofList (l.scheme ++ l.tail password rest)

/-- Redaction finds the scheme and the user name. -/
structure IsCovered (l : Login) : Prop where
  scheme : ∃ t, t <:+ l.scheme ∧ IsScheme t
  user : ∀ c ∈ l.user, isUserChar c = true

end Login

theorem exists_first_of_not_forall {p : Char → Bool} {l : List Char} (h : ¬ ∀ x ∈ l, p x = true) :
    ∃ a d b, l = a ++ d :: b ∧ (∀ x ∈ a, p x = true) ∧ p d = false := by
  induction l with
  | nil => simp at h
  | cons c l ih =>
    cases hc : p c with
    | false => exact ⟨[], c, l, rfl, by simp, hc⟩
    | true =>
      obtain ⟨a, d, b, rfl, ha, hd⟩ := ih fun hl => h (List.forall_mem_cons.mpr ⟨hc, hl⟩)
      exact ⟨c :: a, d, b, rfl, List.forall_mem_cons.mpr ⟨hc, ha⟩, hd⟩

section None

variable {c d : Char} {run : List Char}

theorem credentials?_of_not_start (hc : isSchemeStart c = false) (more : List Char) :
    credentials? (c :: more) = none := by
  simp [credentials?, hc]

theorem credentials?_of_no_colon (hrun : ∀ x ∈ run, isSchemeChar x = true) (hd : isSchemeChar d = false)
    (hcolon : d ≠ ':') (more : List Char) : credentials? (c :: run ++ d :: more) = none := by
  simp [credentials?, List.dropWhile_append_of_pos hrun, hd, hcolon]

theorem credentials?_of_no_slash (hrun : ∀ x ∈ run, isSchemeChar x = true) (hd : d ≠ '/') (more : List Char) :
    credentials? (c :: run ++ ':' :: d :: more) = none := by
  have hcolon : isSchemeChar ':' = false := by decide
  simp [credentials?, List.dropWhile_append_of_pos hrun, hcolon, hd]

theorem credentials?_of_user {user : List Char} (hrun : ∀ x ∈ run, isSchemeChar x = true)
    (huser : ∀ x ∈ user, isUserChar x = true) (hd : isUserChar d = false) (hcolon : d ≠ ':') (more : List Char) :
    credentials? (c :: run ++ ':' :: '/' :: '/' :: user ++ d :: more) = none := by
  have hend : isSchemeChar ':' = false := by decide
  simp [credentials?, List.dropWhile_append_of_pos hrun, hend, List.dropWhile_append_of_pos huser, hd, hcolon]

theorem credentials?_of_password {user password : List Char} (hrun : ∀ x ∈ run, isSchemeChar x = true)
    (huser : ∀ x ∈ user, isUserChar x = true) (hpassword : ∀ x ∈ password, isPasswordChar x = true)
    (hd : isPasswordChar d = false) (hat : d ≠ '@') (more : List Char) :
    credentials? (c :: run ++ ':' :: '/' :: '/' :: user ++ ':' :: password ++ d :: more) = none := by
  have hend : isSchemeChar ':' = false := by decide
  have hcolon : isUserChar ':' = false := by decide
  simp [credentials?, List.dropWhile_append_of_pos hrun, hend, List.dropWhile_append_of_pos huser, hcolon,
    List.dropWhile_append_of_pos hpassword, List.takeWhile_append_of_pos hpassword, hd, hat]

theorem redactChars_append_of_none {front more : List Char}
    (h : ∀ c t, c :: t <:+ front → credentials? (c :: t ++ more) = none) :
    redactChars (front ++ more) = front ++ redactChars more := by
  induction front with
  | nil => rfl
  | cons c front ih =>
    have hc : credentials? (c :: (front ++ more)) = none := h c front (List.suffix_refl _)
    have hrest : redactChars (front ++ more) = front ++ redactChars more :=
      ih fun d t ht => h d t (ht.trans (List.suffix_cons c front))
    rw [List.cons_append, redactChars_cons_of_none hc, hrest, List.cons_append]

end None

section Shown

variable {l : Login} {c : Char} {t password rest : List Char}

theorem Login.ne_colon_of_mem_scheme (hc : c ∈ l.scheme) : c ≠ ':' := by
  rintro rfl
  simpa using l.mem_scheme _ hc

theorem credentials?_of_not_isScheme (h : c :: t <:+ l.scheme) (hscheme : ¬ IsScheme (c :: t)) (more : List Char) :
    credentials? (c :: t ++ more) = none := by
  cases hc : isSchemeStart c with
  | false => exact credentials?_of_not_start hc _
  | true =>
    obtain ⟨run, d, b, rfl, hrun, hd⟩ := exists_first_of_not_forall fun ht => hscheme ⟨hc, ht⟩
    have hcolon : d ≠ ':' := l.ne_colon_of_mem_scheme (h.subset (by simp))
    simpa using credentials?_of_no_colon hrun hd hcolon (b ++ more)

theorem credentials?_of_suffix_user (h : c :: t <:+ l.user) {d : Char} (hd : d ≠ '/') (more : List Char) :
    credentials? (c :: t ++ ':' :: d :: more) = none := by
  by_cases ht : ∀ x ∈ t, isSchemeChar x = true
  · exact credentials?_of_no_slash ht hd _
  · obtain ⟨run, e, b, rfl, hrun, he⟩ := exists_first_of_not_forall ht
    have hcolon : e ≠ ':' := (l.mem_user e (h.subset (by simp))).1
    simpa using credentials?_of_no_colon hrun he hcolon (b ++ ':' :: d :: more)

/-- No credentials start in the scheme if redaction does not find the login. -/
theorem credentials?_of_not_isCovered (hl : ¬ l.IsCovered) (h : c :: t <:+ l.scheme) :
    credentials? (c :: t ++ l.tail password rest) = none := by
  by_cases hscheme : IsScheme (c :: t)
  · obtain ⟨run, d, b, huser, hrun, hd⟩ := exists_first_of_not_forall fun hu => hl ⟨⟨_, h, hscheme⟩, hu⟩
    have hcolon : d ≠ ':' := (l.mem_user d (by simp [huser])).1
    simpa [Login.tail, huser] using
      credentials?_of_user hscheme.2 hrun hd hcolon (b ++ Login.secret password rest)
  · exact credentials?_of_not_isScheme h hscheme _

theorem credentials?_of_spacing (h : c :: t <:+ l.scheme) (run : List Char) {d : Char} {b : List Char}
    (hrun : ∀ x ∈ run, isPasswordChar x = true) (hd : isSpacing d = true) :
    credentials? (c :: t ++ l.tail (run ++ d :: b) rest) = none := by
  by_cases hl : l.IsCovered
  · by_cases hscheme : IsScheme (c :: t)
    · have hpd : isPasswordChar d = false := by simp [isPasswordChar, hd]
      have hat : d ≠ '@' := by
        rintro rfl
        exact absurd hd (by decide)
      simpa [Login.tail, Login.secret] using
        credentials?_of_password hscheme.2 hl.user hrun hpd hat (b ++ '@' :: rest)
    · exact credentials?_of_not_isScheme h hscheme _
  · exact credentials?_of_not_isCovered hl h

/-- A password is shown if no credentials start in the scheme, nor in the password, which begins with no slash. -/
theorem redactChars_url_of_none {p : Char} (hp : p ≠ '/') (hstart : ∀ x ∈ p :: password, isSchemeStart x = false)
    (hscheme : ∀ c t, c :: t <:+ l.scheme → credentials? (c :: t ++ l.tail (p :: password) rest) = none) :
    redactChars (l.scheme ++ l.tail (p :: password) rest) =
      l.scheme ++ l.tail (p :: password) (redactChars rest) := by
  have hsecret : redactChars (Login.secret (p :: password) rest) =
      Login.secret (p :: password) (redactChars rest) := by
    have h : ∀ c t, c :: t <:+ ':' :: (p :: password) ++ ['@'] → credentials? (c :: t ++ rest) = none := by
      intro c t ht
      have hc : c = ':' ∨ c ∈ p :: password ∨ c = '@' := by
        simpa [or_assoc] using ht.subset List.mem_cons_self
      refine credentials?_of_not_start ?_ _
      rcases hc with rfl | hc | rfl
      · decide
      · exact hstart c hc
      · decide
    simpa [Login.secret] using redactChars_append_of_none h
  have huser : redactChars (l.user ++ Login.secret (p :: password) rest) =
      l.user ++ Login.secret (p :: password) (redactChars rest) := by
    have hnone : ∀ c t, c :: t <:+ l.user → credentials? (c :: t ++ Login.secret (p :: password) rest) = none :=
      fun c t ht => credentials?_of_suffix_user ht hp _
    rw [redactChars_append_of_none hnone, hsecret]
  have hcolon : ∀ more, redactChars (':' :: more) = ':' :: redactChars more := fun more =>
    redactChars_cons_of_none (credentials?_of_not_start (by decide) _)
  have hslash : ∀ more, redactChars ('/' :: more) = '/' :: redactChars more := fun more =>
    redactChars_cons_of_none (credentials?_of_not_start (by decide) _)
  rw [redactChars_append_of_none hscheme]
  simp only [Login.tail, List.cons_append, hcolon, hslash, huser]

end Shown

section Hidden

variable {l : Login} {password rest : List Char}

/-- The scheme is left up to where redaction finds one, and the password is not left. -/
theorem redactChars_url_of_isCovered (hl : l.IsCovered) (hp : IsSolid password) :
    redactChars (l.scheme ++ l.tail password rest) = l.scheme ++ l.tail redactedMark (redactChars rest) := by
  have h : ∀ scheme, scheme <:+ l.scheme → (∃ t, t <:+ scheme ∧ IsScheme t) →
      redactChars (scheme ++ l.tail password rest) = scheme ++ l.tail redactedMark (redactChars rest) := by
    intro scheme hsuffix ht
    -- The match starts at the first character from which on all are characters of a scheme.
    induction scheme with
    | nil =>
      obtain ⟨t, ht, hscheme⟩ := ht
      rw [List.suffix_nil.mp ht] at hscheme
      exact hscheme.elim
    | cons c scheme ih =>
      by_cases hscheme : IsScheme (c :: scheme)
      · let f : Front := ⟨c, scheme, l.user, hscheme.1, hscheme.2, hl.user⟩
        have hfront : redactChars (f.chars ++ ':' :: password ++ '@' :: rest) =
            f.chars ++ ':' :: redactedMark ++ '@' :: redactChars rest := redactChars_front hp.2 hp.1
        simpa [Login.tail, Login.secret, Front.chars, f] using hfront
      · have hnone : credentials? (c :: (scheme ++ l.tail password rest)) = none :=
          credentials?_of_not_isScheme hsuffix hscheme _
        have hlater : ∃ t, t <:+ scheme ∧ IsScheme t := by
          obtain ⟨t, ht, htscheme⟩ := ht
          rcases List.suffix_cons_iff.mp ht with rfl | ht
          · exact absurd htscheme hscheme
          · exact ⟨t, ht, htscheme⟩
        rw [List.cons_append, redactChars_cons_of_none hnone, ih ((List.suffix_cons c scheme).trans hsuffix) hlater,
          List.cons_append]
  exact h l.scheme (List.suffix_refl _) hl.scheme

end Hidden

section Values

variable {l : Login} {p p' rest : List Char} {name? : Option String}

theorem redactValue_url (h : name?.any isSecretName = false) :
    redactValue name? (.text (l.url p rest)) = .text (String.ofList (redactChars (l.scheme ++ l.tail p rest))) := by
  rw [redactValue, if_neg (by simp [h]), redactText, Login.url, String.toList_ofList]

theorem redactValue_url_ne (h : name?.any isSecretName = false) (hne : p ≠ p')
    (hp : redactChars (l.scheme ++ l.tail p rest) = l.scheme ++ l.tail p (redactChars rest))
    (hp' : redactChars (l.scheme ++ l.tail p' rest) = l.scheme ++ l.tail p' (redactChars rest)) :
    redactValue name? (.text (l.url p rest)) ≠ redactValue name? (.text (l.url p' rest)) := by
  rw [redactValue_url h, redactValue_url h, hp, hp']
  intro heq
  simp only [Value.text.injEq, String.ofList_inj, Login.tail, Login.secret, List.append_cancel_left_eq,
    List.cons_append, List.cons.injEq, true_and] at heq
  exact hne (List.append_cancel_right heq)

/-- Redaction hides the solid passwords of a login if and only if it finds the login. With spacing in them, no login
hides its passwords. -/
theorem redactValue_url_eq_iff (l : Login) (rest : List Char) :
    ((∀ name? p p', IsSolid p → IsSolid p' →
        redactValue name? (.text (l.url p rest)) = redactValue name? (.text (l.url p' rest))) ↔ l.IsCovered) ∧
      ∃ p p', IsPassword p ∧ IsPassword p' ∧ ∀ name?, name?.any isSecretName = false →
        redactValue name? (.text (l.url p rest)) ≠ redactValue name? (.text (l.url p' rest)) := by
  refine ⟨⟨fun h => ?_, fun hl name? p p' hp hp' => ?_⟩, ['0', ' ', '0'], ['1', ' ', '1'], ⟨by decide, by decide⟩,
    ⟨by decide, by decide⟩, ?_⟩
  · refine Classical.byContradiction fun hl => ?_
    have hshown : ∀ d, d ≠ '/' → isSchemeStart d = false →
        redactChars (l.scheme ++ l.tail [d] rest) = l.scheme ++ l.tail [d] (redactChars rest) := fun d hd hstart =>
      redactChars_url_of_none hd (by simpa using hstart) fun c t ht => credentials?_of_not_isCovered hl ht
    have hne : redactValue none (.text (l.url ['0'] rest)) ≠ redactValue none (.text (l.url ['1'] rest)) :=
      redactValue_url_ne rfl (by decide) (hshown '0' (by decide) (by decide)) (hshown '1' (by decide) (by decide))
    exact hne (h none _ _ (isSolid_singleton (by decide)) (isSolid_singleton (by decide)))
  · apply redactValue_text_of_eq
    rw [redactText, redactText, Login.url, Login.url, String.toList_ofList, String.toList_ofList,
      redactChars_url_of_isCovered hl hp, redactChars_url_of_isCovered hl hp']
  · intro name? hname
    have hshown : ∀ d, isPasswordChar d = true → d ≠ '/' → isSchemeStart d = false →
        redactChars (l.scheme ++ l.tail [d, ' ', d] rest) = l.scheme ++ l.tail [d, ' ', d] (redactChars rest) := by
      intro d hsolid hd hstart
      apply redactChars_url_of_none hd
      · simpa [hstart] using (by decide : isSchemeStart ' ' = false)
      · exact fun c t ht => credentials?_of_spacing ht [d] (by simpa using hsolid) (by decide)
    apply redactValue_url_ne hname (by decide)
    · exact hshown '0' (by decide) (by decide) (by decide)
    · exact hshown '1' (by decide) (by decide) (by decide)

/-- The database library reads a password that has a space in it, and a log field shows it. -/
theorem redactValue_url_spaced :
    (Database.Locator.parse "postgresql://maint:top secret@db/ib").toOption.bind (·.password) = some "top secret" ∧
      redactValue (some "database_url") (.text "postgresql://maint:top secret@db/ib") ≠
        redactValue (some "database_url") (.text "postgresql://maint:hunter2@db/ib") := by
  have hshown : redactText "postgresql://maint:top secret@db/ib" = "postgresql://maint:top secret@db/ib" := by
    decide +kernel
  have hhidden : redactText "postgresql://maint:hunter2@db/ib" = "postgresql://maint:[REDACTED]@db/ib" := by
    decide +kernel
  have hname : (some "database_url").any isSecretName = false := by decide +kernel
  refine ⟨by decide +kernel, ?_⟩
  rw [redactValue, redactValue, hname]
  simp [hshown, hhidden]

end Values

end Retention.Log
