import Mathlib.Data.List.TakeWhile
import Retention.Value.Basic

/-! # Texts that can be encoded

A loose text can be encoded if and only if it is made of characters, and then it stands for the text of these.
-/

namespace Retention.Text.Loose

variable {t : Loose} {s : String}

@[simp] theorem faces_ofString (s : String) : (ofString s).faces = s := by
  have hface : Symbol.face ∘ Symbol.char = id := rfl
  rw [faces, symbols_ofString, List.map_map, hface, List.map_id, String.ofList_toList]

theorem ofString_append (s t : String) : ofString (s ++ t) = ofString s ++ ofString t := by
  show Loose.mk _ = Loose.mk _
  rw [String.toList_append, List.map_append, symbols_ofString, symbols_ofString]

theorem unencodable?_eq_none_iff : t.unencodable? = none ↔ ∀ s ∈ t.symbols, s.isChar = true := by
  rw [← List.dropWhile_eq_nil_iff, unencodable?]
  split <;> rename_i h <;> simp [h]

theorem map_char_face (h : ∀ s ∈ t.symbols, s.isChar = true) : (t.symbols.map Symbol.face).map .char = t.symbols := by
  rw [List.map_map]
  refine (List.map_congr_left fun s hs => ?_).trans (List.map_id _)
  cases s with
  | char c => rfl
  | lone place => exact absurd (h _ hs) Bool.false_ne_true

@[simp] theorem unencodable?_ofString (s : String) : (ofString s).unencodable? = none := by
  refine unencodable?_eq_none_iff.mpr fun _ h => ?_
  obtain ⟨c, -, rfl⟩ := List.mem_map.mp h
  rfl

@[simp] theorem plain_ofString (s : String) : (ofString s).plain = .ok s := by
  rw [plain, unencodable?_ofString, faces_ofString]

theorem plain_eq_ok_iff : t.plain = .ok s ↔ t = ofString s := by
  constructor
  · intro h
    rw [plain] at h
    split at h
    · cases h
    · rename_i hnone
      obtain rfl := Except.ok.inj h
      show t = Loose.mk _
      rw [faces, String.toList_ofList, map_char_face (unencodable?_eq_none_iff.mp hnone)]
  · rintro rfl
    exact plain_ofString s

theorem exists_ofString (h : t.unencodable? = none) : ∃ s, t = ofString s :=
  ⟨t.faces, plain_eq_ok_iff.mp (by rw [plain, h])⟩

theorem unencodable?_eq_none_iff_exists : t.unencodable? = none ↔ ∃ s, t = ofString s := by
  refine ⟨exists_ofString, ?_⟩
  rintro ⟨s, rfl⟩
  exact unencodable?_ofString s

theorem isSome_unencodable?_append (s : String) (t : Loose) :
    (ofString s ++ t).unencodable?.isSome = t.unencodable?.isSome := by
  rw [Bool.eq_iff_iff, ← not_iff_not, Option.not_isSome_iff_eq_none, Option.not_isSome_iff_eq_none,
    unencodable?_eq_none_iff, unencodable?_eq_none_iff, symbols_append, List.forall_mem_append]
  refine and_iff_right fun x hx => ?_
  obtain ⟨c, -, rfl⟩ := List.mem_map.mp hx
  rfl

@[simp] theorem strip_ofString (s : String) : (ofString s).strip = ofString (Text.strip s) := by
  show Loose.mk _ = Loose.mk _
  simp only [Text.strip, trim, symbols_ofString, String.toList_ofList, List.dropWhile_map, ← List.map_reverse]
  rfl

@[simp] theorem isBlank_ofString (s : String) : (ofString s).isBlank = isBlankText s := by
  rw [isBlank, symbols_ofString, List.all_map]
  rfl

@[simp] theorem isEmpty_ofString (s : String) : (ofString s).isEmpty = s.isEmpty := by
  rw [Bool.eq_iff_iff, isEmpty, symbols_ofString, List.isEmpty_iff, List.map_eq_nil_iff, String.toList_eq_nil_iff,
    String.isEmpty_iff]

end Retention.Text.Loose

@[simp] theorem Retention.Value.ofLoose_ofString (s : String) : Retention.Value.ofLoose (.ofString s) = .text s := by
  rw [Retention.Value.ofLoose, Retention.Text.Loose.plain_ofString]
