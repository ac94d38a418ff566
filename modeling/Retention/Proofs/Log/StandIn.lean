import Retention.Proofs.Log.Exposure
import Retention.Proofs.Text.Loose

/-! # Surrogates between characters

A lone surrogate stands in a text as any other character would that no part of a URL ends or starts with. So whatever such
characters are put in the place of surrogates, what redaction finds and what it leaves is the same.
-/

namespace Retention.Log

open Text

/-- Characters for all symbols: each character for itself, and for a surrogate one that can stand in a user name and in a
password, and in no scheme. -/
structure IsStandIn (g : Symbol → Char) : Prop where
  char : ∀ c, g (.char c) = c
  scheme : ∀ place, isSchemeChar (g (.lone place)) = false
  user : ∀ place, isUserChar (g (.lone place)) = true
  password : ∀ place, isPasswordChar (g (.lone place)) = true

variable {g h : Symbol → Char} {s : Symbol} {cs : List Symbol} {c : Char} {f : Front} {m : Credentials}

theorem isStandIn_face : IsStandIn Symbol.face where
  char _ := rfl
  scheme _ := (by decide : isSchemeChar '\uFFFD' = false)
  user _ := (by decide : isUserChar '\uFFFD' = true)
  password _ := (by decide : isPasswordChar '\uFFFD' = true)

theorem IsStandIn.update (hg : IsStandIn g) (place : Fin 0x800) (hscheme : isSchemeChar c = false)
    (huser : isUserChar c = true) (hpassword : isPasswordChar c = true) :
    IsStandIn fun s => if s = .lone place then c else g s where
  char d := by simp [hg.char]
  scheme p := by
    by_cases hp : p = place <;> simp [hp, hscheme, hg.scheme]
  user p := by
    by_cases hp : p = place <;> simp [hp, huser, hg.user]
  password p := by
    by_cases hp : p = place <;> simp [hp, hpassword, hg.password]

theorem eq_of_forall_standIn {s s' : Symbol} (hall : ∀ g, IsStandIn g → g s = g s') : s = s' := by
  have htwo : ∀ place t, t ≠ .lone place → ∃ g, IsStandIn g ∧ g (.lone place) ≠ g t := by
    intro place t ht
    have hmark : IsStandIn fun s => if s = .lone place then '¤' else s.face :=
      isStandIn_face.update place (by decide) (by decide) (by decide)
    have hother : IsStandIn fun s => if s = .lone place then '¶' else s.face :=
      isStandIn_face.update place (by decide) (by decide) (by decide)
    by_cases hface : t.face = '¤'
    · exact ⟨_, hother, by simp [ht, hface]⟩
    · exact ⟨_, hmark, by simp [ht, Ne.symm hface]⟩
  cases s with
  | lone place =>
    by_contra hne
    obtain ⟨g, hg, hdiff⟩ := htwo place s' (Ne.symm hne)
    exact hdiff (hall g hg)
  | char c =>
    cases s' with
    | char d => exact congrArg Symbol.char (hall _ isStandIn_face)
    | lone place =>
      obtain ⟨g, hg, hdiff⟩ := htwo place (.char c) (by simp)
      exact absurd (hall g hg).symm hdiff

theorem eq_of_forall_map {xs ys : List Symbol} (hall : ∀ g, IsStandIn g → xs.map g = ys.map g) : xs = ys := by
  induction xs generalizing ys with
  | nil =>
    have hnil := hall _ isStandIn_face
    exact (List.map_eq_nil_iff.mp hnil.symm).symm
  | cons x xs ih =>
    cases ys with
    | nil => cases hall _ isStandIn_face
    | cons y ys =>
      have hhead : x = y := eq_of_forall_standIn fun g hg => (List.cons.inj (hall g hg)).1
      have htail : xs = ys := ih fun g hg => (List.cons.inj (hall g hg)).2
      rw [hhead, htail]

theorem Front.isSchemeChar_of_mem (f : Front) (hc : c ∈ f.first :: f.scheme) : isSchemeChar c = true := by
  rcases List.mem_cons.mp hc with rfl | hc
  · simp [isSchemeChar, f.isSchemeStart_first]
  · exact f.isSchemeChar_scheme c hc

section Symbols

theorem IsStandIn.eq_char (hg : IsStandIn g) (hc : isSchemeChar c = true ∨ isUserChar c = false ∨ isPasswordChar c = false)
    (hs : g s = c) : s = .char c := by
  cases s with
  | char d => rw [← hs, hg.char]
  | lone place =>
    subst hs
    rcases hc with hc | hc | hc
    · cases (hg.scheme place).symm.trans hc
    · cases (hg.user place).symm.trans hc
    · cases (hg.password place).symm.trans hc

theorem IsStandIn.map_char (hg : IsStandIn g) (cs : List Char) : (cs.map Symbol.char).map g = cs := by
  have hid : g ∘ Symbol.char = id := funext hg.char
  rw [List.map_map, hid, List.map_id]

theorem IsStandIn.eq_map_char (hg : IsStandIn g) {cs : List Symbol} {text : List Char}
    (htext : ∀ c ∈ text, isSchemeChar c = true ∨ isUserChar c = false ∨ isPasswordChar c = false)
    (hcs : cs.map g = text) : cs = text.map .char := by
  subst hcs
  rw [List.map_map]
  refine (List.map_id _).symm.trans (List.map_congr_left fun s hs => ?_)
  exact hg.eq_char (htext _ (List.mem_map_of_mem hs)) rfl

/-- A class that holds of what stands in for a surrogate in one way holds in every other. -/
theorem IsStandIn.forall_map {p : Char → Bool} (hg : IsStandIn g) (hh : IsStandIn h)
    (hlone : ∀ place, p (h (.lone place)) = true) (hcs : ∀ c ∈ cs.map g, p c = true) : ∀ c ∈ cs.map h, p c = true := by
  intro c hc
  obtain ⟨s, hs, rfl⟩ := List.mem_map.mp hc
  cases s with
  | char d =>
    rw [hh.char]
    exact hg.char d ▸ hcs _ (List.mem_map_of_mem hs)
  | lone place => exact hlone place

end Symbols

/-- What is found with some characters in the place of surrogates is found with all others. -/
theorem credentials?_standIn (hg : IsStandIn g) (hm : credentials? (cs.map g) = some m) :
    ∃ xs ys zs, cs = xs ++ .char ':' :: ys ++ .char '@' :: zs ∧ m = ⟨xs.map g, ys.map g, zs.map g⟩ ∧
      ∀ h, IsStandIn h → credentials? (cs.map h) = some ⟨xs.map h, ys.map h, zs.map h⟩ := by
  obtain ⟨before, password, after⟩ := m
  obtain ⟨f, hf, hsolid⟩ := exists_front_of_credentials? hm
  obtain rfl : f.chars = before := hf
  have hcs : cs.map g = f.chars ++ ':' :: password ++ '@' :: after := credentials?_eq hm
  rw [Front.chars] at hcs
  obtain ⟨login, behind, rfl, hlogin, hbehind⟩ := List.map_eq_append_iff.mp hcs
  obtain ⟨sign, zs, rfl, hsign, hzs⟩ := List.map_eq_cons_iff.mp hbehind
  obtain ⟨front, secret, rfl, hfront, hsecret⟩ := List.map_eq_append_iff.mp hlogin
  obtain ⟨colon, ys, rfl, hcolon, hys⟩ := List.map_eq_cons_iff.mp hsecret
  obtain ⟨scheme, separated, rfl, hscheme, hseparated⟩ := List.map_eq_append_iff.mp hfront
  obtain ⟨mark, slashed, rfl, hmark, hslashed⟩ := List.map_eq_cons_iff.mp hseparated
  obtain ⟨slash, slashed', rfl, hslash, hslashed'⟩ := List.map_eq_cons_iff.mp hslashed
  obtain ⟨slash', user, rfl, hslash', huser⟩ := List.map_eq_cons_iff.mp hslashed'
  -- All but the user and the password are characters that no surrogate looks like.
  obtain rfl := hg.eq_char (.inr (.inr (by decide))) hsign
  obtain rfl := hg.eq_char (.inr (.inl (by decide))) hcolon
  obtain rfl := hg.eq_char (.inr (.inl (by decide))) hmark
  obtain rfl := hg.eq_char (.inr (.inl (by decide))) hslash
  obtain rfl := hg.eq_char (.inr (.inl (by decide))) hslash'
  obtain rfl := hg.eq_map_char (fun c hc => .inl (f.isSchemeChar_of_mem hc)) hscheme
  refine ⟨_, ys, zs, rfl, ?_, fun h hh => ?_⟩
  · rw [← hys, ← hzs, Front.chars, ← hfront]
  · let f' : Front :=
      ⟨f.first, f.scheme, user.map h, f.isSchemeStart_first, f.isSchemeChar_scheme,
        hg.forall_map hh hh.user (huser ▸ f.isUserChar_user)⟩
    have hpassword : ∀ c ∈ ys.map h, isPasswordChar c = true := hg.forall_map hh hh.password (hys ▸ hsolid.2)
    have hne : ys.map h ≠ [] := fun hnil => hsolid.1 (by rw [← hys, List.map_eq_nil_iff.mp hnil, List.map_nil])
    have hxs : ((f.first :: f.scheme).map Symbol.char ++ .char ':' :: .char '/' :: .char '/' :: user).map h = f'.chars := by
      simp only [List.map_append, hh.map_char, List.map_cons, hh.char, Front.chars, f']
    have hfound : credentials? (f'.chars ++ ':' :: ys.map h ++ '@' :: zs.map h) = some ⟨f'.chars, ys.map h, zs.map h⟩ :=
      credentials?_front hpassword hne
    rw [← hxs] at hfound
    simpa only [List.map_append, List.map_cons, hh.char] using hfound

section Redaction

variable {xs ys zs : List Symbol}

theorem drop_credentials (hcs : cs = xs ++ Symbol.char ':' :: ys ++ Symbol.char '@' :: zs) :
    cs.drop (xs.length + ys.length + 2) = zs := by
  have hlength : xs.length + ys.length + 2 = (xs ++ Symbol.char ':' :: ys ++ [Symbol.char '@']).length := by
    simp
    omega
  rw [hlength, hcs.trans (List.append_cons _ _ zs)]
  exact List.drop_left

theorem redactSymbols_of_some
    (hm : credentials? (cs.map Symbol.face) = some ⟨xs.map Symbol.face, ys.map Symbol.face, zs.map Symbol.face⟩)
    (hcs : cs = xs ++ .char ':' :: ys ++ .char '@' :: zs) :
    redactSymbols cs = xs ++ .char ':' :: redactedMark.map .char ++ .char '@' :: redactSymbols zs := by
  have hbefore : cs.take (xs.length + 1) = xs ++ [.char ':'] := by
    rw [hcs, List.append_assoc, List.cons_append, List.take_length_add_append, List.take_succ_cons, List.take_zero]
  have hbehind : cs.drop (xs.length + ys.length + 2) = zs := drop_credentials hcs
  rw [redactSymbols]
  split
  · rename_i m hm'
    obtain rfl := Option.some.inj (hm'.symm.trans hm)
    simp only [List.length_map, hbefore, hbehind]
    simp
  · rename_i hnone
    cases hnone.symm.trans hm

theorem redactSymbols_cons_of_none {s : Symbol} (hm : credentials? ((s :: cs).map Symbol.face) = none) :
    redactSymbols (s :: cs) = s :: redactSymbols cs := by
  rw [redactSymbols]
  split
  · rename_i m hm'
    cases hm'.symm.trans hm
  · rfl

end Redaction

/-- Redaction is the same with all characters in the place of surrogates. -/
theorem map_redactSymbols (hg : IsStandIn g) (cs : List Symbol) : (redactSymbols cs).map g = redactChars (cs.map g) := by
  have hnone : ∀ cs : List Symbol, credentials? (cs.map Symbol.face) = none → credentials? (cs.map g) = none := by
    intro cs hface
    by_contra hsome
    obtain ⟨m, hm⟩ := Option.ne_none_iff_exists'.mp hsome
    obtain ⟨xs, ys, zs, -, -, hall⟩ := credentials?_standIn hg hm
    cases hface.symm.trans (hall _ isStandIn_face)
  induction cs using redactSymbols.induct with
  | case1 cs m hm ih =>
    obtain ⟨xs, ys, zs, hcs, rfl, hall⟩ := credentials?_standIn isStandIn_face hm
    simp only [List.length_map, drop_credentials hcs] at ih
    rw [redactSymbols_of_some hm hcs, redactChars_of_some (hall g hg)]
    simp [ih, hg.map_char, hg.char]
  | case2 hm =>
    have hchars : redactChars [] = [] := redactChars_of_at_not_mem List.not_mem_nil
    have hsymbols : redactSymbols [] = [] := by rw [redactSymbols]; rfl
    rw [hsymbols, List.map_nil, hchars]
  | case3 s rest hm ih =>
    rw [redactSymbols_cons_of_none hm, List.map_cons, ih]
    exact (redactChars_cons_of_none (hnone _ hm)).symm

theorem redactLoose_ofString (t : String) : redactLoose (.ofString t) = .ofString (redactText t) := by
  refine congrArg Loose.mk (eq_of_forall_map fun g hg => ?_)
  rw [Loose.symbols_ofString, map_redactSymbols hg, hg.map_char, hg.map_char, redactText, String.toList_ofList]

/-- What is left of a text decides what is left of its value, if both have surrogates or neither has. -/
theorem redactValue_ofLoose_of_eq {t t' : Loose} (h : redactLoose t = redactLoose t')
    (hplain : t.unencodable?.isSome = t'.unencodable?.isSome) (name? : Option String) :
    redactValue name? (.ofLoose t) = redactValue name? (.ofLoose t') := by
  have hvalue : Value.ofLoose t = .loose t ∧ Value.ofLoose t' = .loose t' ∨
      ∃ s s', t = .ofString s ∧ t' = .ofString s' ∧ Value.ofLoose t = .text s ∧ Value.ofLoose t' = .text s' := by
    simp only [Value.ofLoose, Loose.plain]
    cases hu : t.unencodable? with
    | some u =>
      obtain ⟨u', hu'⟩ := Option.isSome_iff_exists.mp (hplain.symm.trans (Option.isSome_of_eq_some hu))
      simp [hu']
    | none =>
      have hu' : t'.unencodable? = none := Option.not_isSome_iff_eq_none.mp (by simp [← hplain, hu])
      obtain ⟨s, rfl⟩ := Loose.exists_ofString hu
      obtain ⟨s', rfl⟩ := Loose.exists_ofString hu'
      exact .inr ⟨s, s', rfl, rfl, by simp, by simp [hu']⟩
  unfold redactValue
  split
  · rfl
  · rcases hvalue with ⟨hv, hv'⟩ | ⟨s, s', rfl, rfl, hv, hv'⟩
    · rw [hv, hv']
      exact congrArg Value.loose h
    · rw [redactLoose_ofString, redactLoose_ofString] at h
      have hface := congrArg Loose.faces h
      rw [Loose.faces_ofString, Loose.faces_ofString] at hface
      rw [hv, hv']
      exact congrArg Value.text hface

end Retention.Log
