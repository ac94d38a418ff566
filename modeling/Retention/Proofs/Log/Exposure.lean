import Retention.Proofs.Log.Login
import Retention.Proofs.Text.Cut

/-! # Passwords that are left

A text shows a password wherever one stands between a front and an at sign, also where two such places overlap. Fronts and
passwords hold no at signs, so redaction works on the pieces between at signs, each on its own: it masks the password
behind the first front of a piece. No password is left but the mask itself.
-/

namespace Retention.Log

open Text

/-- A password stands somewhere in the text, behind a front and before an at sign. -/
def Shows (cs password : List Char) : Prop :=
  ∃ (f : Front) (before behind : List Char),
    cs = before ++ (f.chars ++ ':' :: password ++ '@' :: behind) ∧ IsSolid password

def EndsIn (cs password : List Char) : Prop :=
  ∃ (f : Front) (before : List Char), cs = before ++ (f.chars ++ ':' :: password) ∧ IsSolid password

/-- A piece that no password ends stays, and in any other piece the password behind the first front is masked. -/
inductive MaskedPiece (piece : List Char) : List Char → Prop where

  | kept : (∀ password, ¬ EndsIn piece password) → MaskedPiece piece piece

  | masked {f : Front} {before password : List Char} : piece = before ++ (f.chars ++ ':' :: password) →
      IsSolid password →
      (∀ (g : Front) before' password', piece = before' ++ (g.chars ++ ':' :: password') → IsSolid password' →
        before <+: before') →
      MaskedPiece piece (before ++ (f.chars ++ ':' :: redactedMark))

/-- All pieces that an at sign ends are masked; what stands behind the last at sign stays. -/
inductive Masked : List Char → List Char → Prop where

  | last {piece : List Char} : '@' ∉ piece → Masked piece piece

  | piece {piece masked rest rest' : List Char} : '@' ∉ piece → '@' ∉ masked → MaskedPiece piece masked →
      Masked rest rest' → Masked (piece ++ '@' :: rest) (masked ++ '@' :: rest')

section Fronts

variable {f : Front} {cs password rest : List Char} {m : Credentials}

theorem isSolid_redactedMark : IsSolid redactedMark :=
  ⟨by decide, List.all_eq_true.mp (by decide)⟩

theorem IsSolid.at_not_mem (h : IsSolid password) : '@' ∉ password := fun hat =>
  absurd (h.2 _ hat) (by decide)

theorem Front.colon_not_mem_scheme (f : Front) : ':' ∉ f.first :: f.scheme := by
  rintro h
  rcases List.mem_cons.mp h with hfirst | hscheme
  · exact absurd f.isSchemeStart_first (by rw [← hfirst]; decide)
  · exact absurd (f.isSchemeChar_scheme _ hscheme) (by decide)

theorem Front.count_colon (f : Front) : f.chars.count ':' = 1 := by
  have huser : ':' ∉ f.user := fun h => absurd (f.isUserChar_user _ h) (by decide)
  rw [Front.chars, List.count_append, List.count_eq_zero_of_not_mem f.colon_not_mem_scheme]
  simpa [List.count_eq_zero] using huser

theorem Front.at_not_mem (f : Front) : '@' ∉ f.chars := by
  have hfirst : '@' ≠ f.first := fun h => absurd f.isSchemeStart_first (by rw [← h]; decide)
  have hscheme : '@' ∉ f.scheme := fun h => absurd (f.isSchemeChar_scheme _ h) (by decide)
  have huser : '@' ∉ f.user := fun h => absurd (f.isUserChar_user _ h) (by decide)
  simp [Front.chars, hfirst, hscheme, huser]

theorem Front.at_not_mem_login (f : Front) (h : IsSolid password) : '@' ∉ f.chars ++ ':' :: password := by
  simp [f.at_not_mem, h.at_not_mem]

theorem exists_front_of_credentials? (h : credentials? cs = some m) :
    ∃ f : Front, f.chars = m.before ∧ IsSolid m.password := by
  unfold credentials? at h
  split at h
  · simp at h
  · rename_i first tail
    split at h
    · rename_i hfirst
      split at h
      · rename_i behind hbehind
        split at h
        · rename_i secret hsecret
          split at h
          · rename_i p ps after hp ha
            obtain rfl := Option.some.inj h
            have hscheme : ∀ c ∈ tail.takeWhile isSchemeChar, isSchemeChar c = true :=
              List.all_eq_true.mp List.all_takeWhile
            have huser : ∀ c ∈ behind.takeWhile isUserChar, isUserChar c = true :=
              List.all_eq_true.mp List.all_takeWhile
            have hpassword : ∀ c ∈ p :: ps, isPasswordChar c = true :=
              hp ▸ List.all_eq_true.mp List.all_takeWhile
            exact ⟨⟨first, _, _, hfirst, hscheme, huser⟩, rfl, List.cons_ne_nil p ps, hpassword⟩
          · simp at h
        · simp at h
      · simp at h
    · simp at h

theorem credentials?_piece {piece : List Char} (hat : '@' ∉ piece)
    (h : ∀ (f : Front) password, piece = f.chars ++ ':' :: password → ¬ IsSolid password) (rest : List Char) :
    credentials? (piece ++ '@' :: rest) = none := by
  cases hm : credentials? (piece ++ '@' :: rest) with
  | none => rfl
  | some m =>
    obtain ⟨f, hf, hsolid⟩ := exists_front_of_credentials? hm
    have hcs : piece ++ '@' :: rest = f.chars ++ ':' :: m.password ++ '@' :: m.after := hf ▸ credentials?_eq hm
    exact absurd hsolid (h f m.password (cut_unique hat (f.at_not_mem_login hsolid) hcs).1)

theorem redactChars_of_at_not_mem (h : '@' ∉ cs) : redactChars cs = cs := by
  have hnone : ∀ c t, c :: t <:+ cs → credentials? (c :: t ++ []) = none := by
    intro c t ht
    rw [List.append_nil]
    cases hm : credentials? (c :: t) with
    | none => rfl
    | some m => exact absurd (ht.subset (by rw [credentials?_eq hm]; simp)) h
  have hnil : redactChars [] = [] := by simp [redactChars, credentials?]
  have hfront := redactChars_append_of_none hnone
  rwa [hnil, List.append_nil] at hfront

end Fronts

section Pieces

variable {piece masked password rest : List Char}

theorem redactChars_piece (hat : '@' ∉ piece) (rest : List Char) :
    ∃ masked, MaskedPiece piece masked ∧ '@' ∉ masked ∧
      redactChars (piece ++ '@' :: rest) = masked ++ '@' :: redactChars rest := by
  induction piece with
  | nil =>
    refine ⟨[], .kept ?_, hat, ?_⟩
    · rintro password ⟨f, before, h, -⟩
      simp at h
    · exact redactChars_cons_of_none (credentials?_of_not_start (by decide) rest)
  | cons c piece ih =>
    by_cases hfirst : ∃ (f : Front) (password : List Char), c :: piece = f.chars ++ ':' :: password ∧ IsSolid password
    · obtain ⟨f, password, hpiece, hsolid⟩ := hfirst
      refine ⟨[] ++ (f.chars ++ ':' :: redactedMark), .masked (by simpa using hpiece) hsolid ?_, ?_, ?_⟩
      · exact fun _ before' _ _ _ => List.nil_prefix
      · simpa using f.at_not_mem_login isSolid_redactedMark
      · rw [hpiece, redactChars_front hsolid.2 hsolid.1, List.nil_append]
    · have hnone : credentials? (c :: (piece ++ '@' :: rest)) = none :=
        credentials?_piece hat (fun f password h hsolid => hfirst ⟨f, password, h, hsolid⟩) rest
      -- A front that does not start here starts in what follows.
      have hlater : ∀ (g : Front) before password, c :: piece = before ++ (g.chars ++ ':' :: password) →
          IsSolid password → ∃ before', before = c :: before' ∧ piece = before' ++ (g.chars ++ ':' :: password) := by
        intro g before password h hsolid
        cases before with
        | nil => exact absurd ⟨g, password, h, hsolid⟩ hfirst
        | cons d before =>
          rw [List.cons_append, List.cons.injEq] at h
          exact ⟨before, by rw [h.1], h.2⟩
      obtain ⟨masked, hmasked, hfree, hredact⟩ := ih fun h => hat (List.mem_cons_of_mem c h)
      refine ⟨c :: masked, ?_, ?_, ?_⟩
      · cases hmasked with
        | kept hends =>
          refine .kept ?_
          rintro password ⟨g, before, h, hsolid⟩
          obtain ⟨before', -, h'⟩ := hlater g before password h hsolid
          exact hends password ⟨g, before', h', hsolid⟩
        | @masked f before password heq hsolid hmin =>
          have hpiece : c :: piece = (c :: before) ++ (f.chars ++ ':' :: password) := by rw [heq, List.cons_append]
          refine .masked hpiece hsolid ?_
          intro g before' password' h hsolid'
          obtain ⟨before', rfl, h'⟩ := hlater g before' password' h hsolid'
          exact List.cons_prefix_cons.mpr ⟨rfl, hmin g before' password' h' hsolid'⟩
      · exact List.not_mem_cons_of_ne_of_not_mem (fun h => hat (h ▸ List.mem_cons_self)) hfree
      · rw [List.cons_append, redactChars_cons_of_none hnone, hredact, List.cons_append]

theorem MaskedPiece.eq_redactedMark (h : MaskedPiece piece masked) (hends : EndsIn masked password) :
    password = redactedMark := by
  cases h with
  | kept hnone => exact absurd hends (hnone password)
  | @masked f before secret heq hsolid hfirst =>
    obtain ⟨g, before', h, hpassword⟩ := hends
    have h : (before ++ f.chars ++ [':']) ++ redactedMark = (before' ++ g.chars ++ [':']) ++ password := by
      simpa using h
    rcases List.append_eq_append_iff.mp h with ⟨more, hmore, hmark⟩ | ⟨more, hmore, hmark⟩
    · -- The password is shorter than the mask, which has no colon.
      rcases List.eq_nil_or_concat' more with rfl | ⟨more, c, rfl⟩
      · simpa using hmark.symm
      · obtain ⟨-, rfl⟩ : _ ∧ ':' = c := by simpa [← List.append_assoc] using hmore
        exact absurd (show ':' ∈ redactedMark by simp [hmark]) (by decide)
    · -- The password is longer, so the front before it started a password of the piece, behind the first front.
      rcases List.eq_nil_or_concat' more with rfl | ⟨more, c, rfl⟩
      · simpa using hmark
      · have hpiece : piece = before' ++ (g.chars ++ ':' :: (more ++ [c] ++ secret)) := by
          rw [heq]
          simpa using congrArg (· ++ secret) hmore
        have hlong : IsSolid (more ++ [c] ++ secret) := by
          refine ⟨by simp, fun x hx => ?_⟩
          rcases List.mem_append.mp hx with hx | hx
          · exact hpassword.2 x (by rw [hmark]; exact List.mem_append_left _ hx)
          · exact hsolid.2 x hx
        obtain ⟨front, rfl⟩ := hfirst g before' _ hpiece hlong
        have hfront : f.chars = front ++ g.chars ++ ':' :: more := by
          have : f.chars ++ [':'] = front ++ g.chars ++ ':' :: more ++ [c] := by simpa using hmore
          exact (List.append_inj' this rfl).1
        have hcolons := congrArg (List.count ':') hfront
        rw [List.count_append, List.count_append, f.count_colon, g.count_colon, List.count_cons_self] at hcolons
        omega

theorem MaskedPiece.eq_self (h : MaskedPiece piece masked) (hends : ∀ password, EndsIn piece password →
    password = redactedMark) : masked = piece := by
  cases h with
  | kept => rfl
  | @masked f before password heq hsolid _ => rw [heq, hends password ⟨f, before, heq, hsolid⟩]

end Pieces

section Texts

variable {cs cs' piece rest password : List Char}

theorem redactChars_masked (cs : List Char) : Masked cs (redactChars cs) := by
  induction cs using pieces_induction '@' with
  | last piece hat =>
    rw [redactChars_of_at_not_mem hat]
    exact .last hat
  | piece piece rest hat ih =>
    obtain ⟨masked, hmasked, hfree, hredact⟩ := redactChars_piece hat rest
    rw [hredact]
    exact .piece hat hfree hmasked ih

theorem not_shows_of_at_not_mem (h : '@' ∉ cs) : ¬ Shows cs password := by
  rintro ⟨f, before, behind, rfl, -⟩
  simp at h

/-- No password reaches from one piece into the next. -/
theorem shows_piece_iff (hat : '@' ∉ piece) :
    Shows (piece ++ '@' :: rest) password ↔ EndsIn piece password ∨ Shows rest password := by
  constructor
  · rintro ⟨f, before, behind, h, hsolid⟩
    by_cases hbefore : '@' ∈ before
    · obtain ⟨front, later, rfl, hfront⟩ := List.eq_append_cons_of_mem hbefore
      have hcut : piece ++ '@' :: rest =
          front ++ '@' :: (later ++ (f.chars ++ ':' :: password ++ '@' :: behind)) := by simpa using h
      exact .inr ⟨f, later, behind, (cut_unique hat hfront hcut).2, hsolid⟩
    · have hlogin : '@' ∉ before ++ (f.chars ++ ':' :: password) := fun hmem =>
        (List.mem_append.mp hmem).elim hbefore (f.at_not_mem_login hsolid)
      have hcut : piece ++ '@' :: rest = before ++ (f.chars ++ ':' :: password) ++ '@' :: behind := by simpa using h
      exact .inl ⟨f, before, (cut_unique hat hlogin hcut).1, hsolid⟩
  · rintro (⟨f, before, rfl, hsolid⟩ | ⟨f, before, behind, rfl, hsolid⟩)
    · exact ⟨f, before, rest, by simp, hsolid⟩
    · exact ⟨f, piece ++ '@' :: before, behind, by simp, hsolid⟩

/-- A masked text shows no password but the mask. -/
theorem Masked.eq_redactedMark (h : Masked cs cs') (hshows : Shows cs' password) : password = redactedMark := by
  induction h with
  | last hat => exact absurd hshows (not_shows_of_at_not_mem hat)
  | piece _ hfree hmasked _ ih =>
    rcases (shows_piece_iff hfree).mp hshows with hends | hrest
    · exact hmasked.eq_redactedMark hends
    · exact ih hrest

/-- A text stays as it is if it shows no password but the mask. -/
theorem Masked.eq_self (h : Masked cs cs') (hshows : ∀ password, Shows cs password → password = redactedMark) :
    cs' = cs := by
  induction h with
  | last => rfl
  | piece hat _ hmasked _ ih =>
    have hpiece := hmasked.eq_self fun password hends => hshows password ((shows_piece_iff hat).mpr (.inl hends))
    have hrest := ih fun password hrest => hshows password ((shows_piece_iff hat).mpr (.inr hrest))
    rw [hpiece, hrest]

theorem redactChars_redactChars (cs : List Char) : redactChars (redactChars cs) = redactChars cs :=
  (redactChars_masked (redactChars cs)).eq_self fun _ => (redactChars_masked cs).eq_redactedMark

/-- A password that starts like a front is masked as a whole. -/
example : redactText "http://u:ftp://v:w@h" = "http://u:[REDACTED]@h" := by decide +kernel

theorem Shows.separator (h : Shows cs password) : "://".toList <:+: cs := by
  obtain ⟨f, before, behind, rfl, -⟩ := h
  exact ⟨before ++ f.first :: f.scheme, f.user ++ ':' :: password ++ '@' :: behind, by simp [Front.chars]⟩

end Texts

end Retention.Log
