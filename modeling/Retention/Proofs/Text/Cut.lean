import Mathlib.Data.List.Basic
import Mathlib.Data.List.TakeWhile
import Retention.Text.Front

/-! # Texts in pieces

A text has one cut at the first place of a character, and it is made of pieces without the character that end in it, and
a last piece.
-/

namespace Retention.Text

variable {a b x y : List Char} {d : Char}

theorem cutAt?_append {p : Char → Bool} (ha : ∀ c ∈ a, p c = false) (hd : p d = true) :
    cutAt? p (a ++ d :: x) = some (a, d, x) := by
  have hpiece : ∀ c ∈ a, (!p c) = true := by simpa using ha
  simp [cutAt?, List.dropWhile_append_of_pos hpiece, List.takeWhile_append_of_pos hpiece, hd]

theorem cutAt?_cons (hd : d ∉ a) : cutAt? (· == d) (a ++ d :: x) = some (a, d, x) :=
  cutAt?_append (fun _ hc => beq_false_of_ne fun h => hd (h ▸ hc)) (beq_self_eq_true d)

theorem cutAt?_eq_none (hd : d ∉ a) : cutAt? (· == d) a = none := by
  have hrest : a.dropWhile (fun c => !(c == d)) = [] :=
    List.dropWhile_eq_nil_iff.mpr fun c hc => Bool.not_eq_true' _ ▸ beq_false_of_ne fun h => hd (h ▸ hc)
  rw [cutAt?, hrest]

/-- Two ways to cut a text at the first place of a character are the same. -/
theorem cut_unique (ha : d ∉ a) (hb : d ∉ b) (h : a ++ d :: x = b ++ d :: y) : a = b ∧ x = y := by
  have hcut := congrArg (cutAt? (· == d)) h
  rw [cutAt?_cons ha, cutAt?_cons hb] at hcut
  simpa using hcut

def cut? (d : Char) (s : String) : Option (String × String) :=
  (cutAt? (· == d) s.toList).map fun (front, _, rest) => (String.ofList front, String.ofList rest)

theorem cut?_append {s mark t : String} (hs : d ∉ s.toList) (hmark : mark.toList = [d]) :
    cut? d (s ++ (mark ++ t)) = some (s, t) := by
  rw [cut?, String.toList_append, String.toList_append, hmark, List.singleton_append, cutAt?_cons hs]
  simp only [Option.map_some, String.ofList_toList]

theorem cut?_eq_none {s : String} (hs : d ∉ s.toList) : cut? d s = none := by
  rw [cut?, cutAt?_eq_none hs, Option.map_none]

/-- What holds of a last piece and stays when a piece is put in front holds of every text. -/
@[elab_as_elim]
theorem pieces_induction {P : List Char → Prop} (d : Char) (last : ∀ piece, d ∉ piece → P piece)
    (piece : ∀ piece rest, d ∉ piece → P rest → P (piece ++ d :: rest)) (cs : List Char) : P cs := by
  by_cases hd : d ∈ cs
  · obtain ⟨front, rest, hcs, hfront⟩ := List.eq_append_cons_of_mem hd
    have hrest : rest.length < cs.length := by
      rw [hcs, List.length_append, List.length_cons]
      omega
    rw [hcs]
    exact piece front rest hfront (pieces_induction d last piece rest)
  · exact last cs hd
termination_by cs.length

end Retention.Text
