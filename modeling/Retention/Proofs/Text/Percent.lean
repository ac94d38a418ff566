import Retention.Text.Percent

/-! # Percent-encoded texts

A percent-encoded text holds nothing but unreserved characters and percent signs, and it is empty
only if the text is. The text can be read back from it.
-/

namespace Retention.Text.Percent

def isEncoded (c : Char) : Bool :=
  isUnreserved c.toNat || c == '%'

theorem isEncoded_of_mem_encodeByte {b : UInt8} {c : Char} (h : c ∈ encodeByte b) :
    isEncoded c = true := by
  have hall : ∀ n < 256, (encodeByte (UInt8.ofNat n)).all isEncoded = true := by decide +kernel
  have hb := hall b.toNat b.toNat_lt
  rw [UInt8.ofNat_toNat] at hb
  exact List.all_eq_true.mp hb c h

theorem isEncoded_of_mem_encode {s : String} {c : Char} (h : c ∈ (encode s).toList) :
    isEncoded c = true := by
  rw [encode, String.toList_ofList] at h
  obtain ⟨b, -, hc⟩ := List.mem_flatMap.mp h
  exact isEncoded_of_mem_encodeByte hc

theorem encodeByte_ne_nil (b : UInt8) : encodeByte b ≠ [] := by
  unfold encodeByte
  split <;> simp

theorem toList_encode_ne_nil {s : String} (h : s ≠ "") : (encode s).toList ≠ [] := by
  obtain ⟨c, cs, hs⟩ := List.exists_cons_of_ne_nil (mt String.toList_eq_nil_iff.mp h)
  obtain ⟨b, bs, hb⟩ : ∃ b bs, String.utf8EncodeChar c = b :: bs := by
    apply List.exists_cons_of_ne_nil
    rw [← List.length_pos_iff, String.length_utf8EncodeChar]
    exact c.utf8Size_pos
  simp [encode, bytes, hs, hb, encodeByte_ne_nil]

/-- The encoded characters are ASCII, so a class holds of all of them if it holds of those below
128. -/
theorem forall_encoded {p : Char → Bool}
    (hp : ∀ n < 128, isEncoded (Char.ofNat n) = true → p (Char.ofNat n) = true)
    {c : Char} (h : isEncoded c = true) : p c = true := by
  have hc : c.toNat < 128 := by
    simp only [isEncoded, isUnreserved, Bool.or_eq_true, Bool.and_eq_true, decide_eq_true_eq, beq_iff_eq] at h
    rcases h with h | rfl
    · omega
    · decide
  have := hp c.toNat hc
  rw [Char.ofNat_toNat] at this
  exact this h

theorem not_mem_encode {c : Char} (hc : isEncoded c = false) (s : String) : c ∉ (encode s).toList := by
  intro h
  rw [isEncoded_of_mem_encode h] at hc
  exact Bool.noConfusion hc

section Decode

variable {c : Char} {cs : List Char}

theorem decodeBytes_cons (hc : c ≠ '%') : decodeBytes (c :: cs) = String.utf8EncodeChar c ++ decodeBytes cs := by
  rw [decodeBytes]
  exact fun _ _ _ h => absurd h hc

theorem hexValue?_hexDigit : ∀ n < 16, hexValue? (hexDigit n).toUpper = some n := by decide +kernel

theorem decodeBytes_encodeByte (b : UInt8) : decodeBytes (encodeByte b ++ cs) = b :: decodeBytes cs := by
  have hlt : b.toNat < 256 := b.toNat_lt
  by_cases hb : isUnreserved b.toNat = true
  · have hplain : ∀ n < 256, isUnreserved n = true →
        Char.ofNat n ≠ '%' ∧ String.utf8EncodeChar (Char.ofNat n) = [UInt8.ofNat n] := by decide +kernel
    obtain ⟨hmark, hbytes⟩ := hplain b.toNat hlt hb
    rw [encodeByte, if_pos hb, List.singleton_append, decodeBytes_cons hmark, hbytes, UInt8.ofNat_toNat,
      List.singleton_append]
  · have hdigits : encodeByte b =
        ['%', (hexDigit (b.toNat / 16 % 16)).toUpper, (hexDigit (b.toNat % 16)).toUpper] := if_neg hb
    have hvalue : 16 * (b.toNat / 16 % 16) + b.toNat % 16 = b.toNat := by omega
    rw [hdigits, List.cons_append, List.cons_append, List.cons_append, List.nil_append, decodeBytes,
      hexValue?_hexDigit _ (Nat.mod_lt _ (by decide)), hexValue?_hexDigit _ (Nat.mod_lt _ (by decide))]
    simp only [hvalue, UInt8.ofNat_toNat]

theorem decodeBytes_flatMap_encodeByte (bs : List UInt8) (cs : List Char) :
    decodeBytes (bs.flatMap encodeByte ++ cs) = bs ++ decodeBytes cs := by
  induction bs with
  | nil => rfl
  | cons b bs ih => rw [List.flatMap_cons, List.append_assoc, decodeBytes_encodeByte, ih, List.cons_append]

theorem fromUTF8?_bytes (s : String) : String.fromUTF8? ⟨(bytes s.toList).toArray⟩ = some s := by
  have hbytes : (⟨(bytes s.toList).toArray⟩ : ByteArray) = s.toByteArray := by
    rw [← String.utf8Encode_toList, List.utf8Encode]
    exact (congrArg ByteArray.mk List.data_toByteArray).symm
  rw [hbytes, String.fromUTF8?, dif_pos s.isValidUTF8]
  rfl

/-- Every text is read back from what it is encoded as. -/
theorem decode?_encode (s : String) : decode? (encode s) = some s := by
  have hbytes := decodeBytes_flatMap_encodeByte (bytes s.toList) []
  rw [List.append_nil, decodeBytes, List.append_nil] at hbytes
  rw [decode?, encode, String.toList_ofList, hbytes, fromUTF8?_bytes]

end Decode

end Retention.Text.Percent
