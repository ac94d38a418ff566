import Retention.Number.Shortest

/-! # Characters of numbers

The texts of integers and of floats are made of few characters.
-/

namespace Retention.Text

variable {c : Char}

/-- The texts of numbers are made of digits, signs, points, exponents and the letters of the words for infinity and NaN. -/
def isNumberChar (c : Char) : Bool :=
  c.isDigit || "-+.einfa".toList.contains c

theorem isNumberChar_of_mem_toDigits {n : Nat} (h : c ∈ Nat.toDigits 10 n) : isNumberChar c = true :=
  Bool.or_eq_true_iff.mpr (.inl (Nat.isDigit_of_mem_toDigits (by decide) (by decide) h))

theorem isNumberChar_of_mem_int {n : Int} (h : c ∈ (toString n).toList) : isNumberChar c = true := by
  rw [Int.toString_eq_repr] at h
  cases n with
  | ofNat n => exact isNumberChar_of_mem_toDigits (Nat.toList_repr ▸ h)
  | negSucc n =>
    rw [Int.repr, String.toList_append, Nat.toList_repr] at h
    rcases List.mem_append.mp h with hminus | hdigits
    · obtain rfl : c = '-' := by simpa using hminus
      decide
    · exact isNumberChar_of_mem_toDigits hdigits

theorem isNumberChar_of_mem_exponentText {n : Int} (h : c ∈ Binary64.exponentText n) : isNumberChar c = true := by
  have hc : c = '-' ∨ c = '+' ∨ c = '0' ∨ c ∈ Nat.toDigits 10 n.natAbs := by
    unfold Binary64.exponentText at h
    grind
  rcases hc with rfl | rfl | rfl | hdigits
  · decide
  · decide
  · decide
  · exact isNumberChar_of_mem_toDigits hdigits

theorem isNumberChar_of_mem_layout {ds : List Char} {point : Int} (hds : ∀ d ∈ ds, isNumberChar d = true)
    (h : c ∈ Binary64.layout ds point) : isNumberChar c = true := by
  have hc : c = '.' ∨ c = 'e' ∨ c = '0' ∨ c ∈ ds ∨ c ∈ Binary64.exponentText (point - 1) := by
    unfold Binary64.layout at h
    grind [List.mem_of_mem_take, List.mem_of_mem_drop]
  rcases hc with rfl | rfl | rfl | hdigit | hexponent
  · decide
  · decide
  · decide
  · exact hds c hdigit
  · exact isNumberChar_of_mem_exponentText hexponent

theorem isNumberChar_of_mem_float {x : Binary64} (h : c ∈ x.toText.toList) : isNumberChar c = true := by
  have hall : ∀ word ∈ ["nan", "inf", "-inf", "0.0"], word.toList.all isNumberChar = true := by decide +kernel
  have hword : ∀ word ∈ ["nan", "inf", "-inf", "0.0"], ∀ c ∈ word.toList, isNumberChar c = true := fun word hmem =>
    List.all_eq_true.mp (hall word hmem)
  cases x with
  | nan => exact hword "nan" (by simp) c h
  | infinite negative =>
    cases negative with
    | false => exact hword "inf" (by simp) c h
    | true => exact hword "-inf" (by simp) c h
  | finite negative mantissa exponent =>
    have hc : c = '-' ∨ c ∈ "0.0".toList ∨
        ∃ n point, c ∈ Binary64.layout (Binary64.trimZeros (Nat.toDigits 10 n)) point := by
      rw [Binary64.toText, String.toList_ofList] at h
      grind
    rcases hc with rfl | hzero | ⟨n, point, hlayout⟩
    · decide
    · exact hword "0.0" (by simp) c hzero
    · refine isNumberChar_of_mem_layout (fun d hd => isNumberChar_of_mem_toDigits (n := n) ?_) hlayout
      rw [Binary64.trimZeros, List.mem_reverse] at hd
      exact List.mem_reverse.mp ((List.dropWhile_sublist _).subset hd)

end Retention.Text
