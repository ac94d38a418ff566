import Retention.Text.Lower

/-! # Lower-case ASCII

In ASCII the lower case of a text is that of its characters, so a text without capital letters is its own lower case. All
but two of the small letters are the lower case of ASCII characters alone.
-/

namespace Retention.Text

variable {before behind cs : List Char} {c : Char} {s word : String}

section Ascii

theorem toList_toLower (s : String) : s.toLower.toList = s.toList.map Char.toLower :=
  String.toList_map

theorem lowerIn_ascii (hc : c.toNat < 128) : lowerIn before behind c = [c.toLower] := by
  have hsigma : c ≠ sigma := by
    rintro rfl
    simp [sigma] at hc
  have hdotted : c ≠ dottedI := by
    rintro rfl
    simp [dottedI] at hc
  have h := lowerChar_ascii c.toNat hc
  rw [Char.ofNat_toNat] at h
  rw [lowerIn, if_neg hsigma, if_neg hdotted, h]

theorem lowerBehind_ascii (h : ∀ c ∈ cs, c.toNat < 128) : lowerBehind before cs = cs.map Char.toLower := by
  induction cs generalizing before with
  | nil => rfl
  | cons c rest ih =>
    obtain ⟨hc, hrest⟩ := List.forall_mem_cons.mp h
    rw [lowerBehind, lowerIn_ascii hc, ih hrest]
    rfl

theorem lower_ascii (h : ∀ c ∈ s.toList, c.toNat < 128) : lower s = s.toLower := by
  rw [lower, lowerBehind_ascii h, ← toList_toLower, String.ofList_toList]

def IsPlainLower (cs : List Char) : Prop :=
  ∀ c ∈ cs, c.toNat < 128 ∧ c.toLower = c

instance (cs : List Char) : Decidable (IsPlainLower cs) :=
  List.decidableBAll _ cs

theorem lower_of_plain (h : IsPlainLower s.toList) : lower s = s := by
  have hmap : s.toList.map Char.toLower = s.toList.map id := List.map_congr_left fun c hc => (h c hc).2
  rw [lower, lowerBehind_ascii fun c hc => (h c hc).1, hmap, List.map_id, String.ofList_toList]

end Ascii

section Sole

/-- An ASCII character that is not the lower case of any character beyond ASCII: the Kelvin sign has a small k, and a
capital letter with a dot a small i. -/
structure IsSoleLower (c : Char) : Prop where
  pos : 0 < c.toNat
  ascii : c.toNat < 128
  ne_i : c ≠ 'i'
  ne_k : c ≠ 'k'

theorem toNat_ofNat_of_pos {n : Nat} (h : 0 < (Char.ofNat n).toNat) : (Char.ofNat n).toNat = n := by
  by_cases hn : n.isValidChar
  · rw [Char.ofNat, dif_pos hn]
    rfl
  · rw [Char.ofNat, dif_neg hn] at h
    cases h

theorem Capitals.shifted : ∀ cs ∈ all,
    cs.last < 128 ∨ 128 ≤ cs.first + cs.shift ∨ (cs.first = cs.last ∧ cs.first + cs.shift = 'k'.toNat) := by
  decide +kernel

theorem ascii_of_lowerChar (h : IsSoleLower (lowerChar c)) : c.toNat < 128 := by
  refine Nat.lt_of_not_le fun hc => ?_
  unfold lowerChar at h
  split at h
  · rename_i cs hcs
    have hmem : cs ∈ Capitals.all := List.mem_of_find?_eq_some hcs
    have hholds : cs.Holds c.toNat := by simpa using List.find?_some hcs
    have hshift := toNat_ofNat_of_pos h.pos
    have hascii := h.ascii
    have hk : (c.toNat + cs.shift).toNat ≠ 'k'.toNat := fun hk => h.ne_k (by rw [hk]; rfl)
    rcases Capitals.shifted cs hmem with hlast | hbeyond | ⟨hsingle, hkelvin⟩
    · have := hholds.2.1
      omega
    · have := hholds.1
      omega
    · have := hholds.1
      have := hholds.2.1
      omega
  · exact absurd h.ascii (Nat.not_lt.mpr hc)

theorem ascii_of_lowerIn (h : ∀ x ∈ lowerIn before behind c, IsSoleLower x) : c.toNat < 128 := by
  unfold lowerIn at h
  split at h
  · split at h
    · exact absurd (h finalSigma (by simp)).ascii (by decide)
    · exact ascii_of_lowerChar (h _ (by simp))
  · split at h
    · exact absurd rfl (h 'i' (by simp)).ne_i
    · exact ascii_of_lowerChar (h _ (by simp))

theorem ascii_of_lowerBehind (h : ∀ x ∈ lowerBehind before cs, IsSoleLower x) : ∀ c ∈ cs, c.toNat < 128 := by
  induction cs generalizing before with
  | nil => simp
  | cons c rest ih =>
    have h := List.forall_mem_append.mp h
    exact List.forall_mem_cons.mpr ⟨ascii_of_lowerIn h.1, ih h.2⟩

theorem ascii_of_toLower (h : c.toLower.toNat < 128) : c.toNat < 128 := by
  unfold Char.toLower at h
  split at h
  · rename_i hcapital
    have hc : c.toNat ≤ 'Z'.toNat := hcapital.2
    exact Nat.lt_of_le_of_lt hc (by decide)
  · exact h

/-- Lower case and the lower case of ASCII are the same to a word that is in lower case. -/
theorem lower_eq_iff (hword : ∀ c ∈ word.toList, IsSoleLower c) : lower s = word ↔ s.toLower = word := by
  constructor
  · rintro rfl
    rw [lower, String.toList_ofList] at hword
    exact (lower_ascii (ascii_of_lowerBehind hword)).symm
  · rintro rfl
    refine lower_ascii fun c hc => ascii_of_toLower (hword c.toLower ?_).ascii
    rw [toList_toLower]
    exact List.mem_map_of_mem hc

end Sole

end Retention.Text
