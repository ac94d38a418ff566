/-! # Parts of texts

A text that starts with another, and what follows; the first place of a part; the parts before, behind and between some
characters.
-/

namespace Retention.Text

/-- What follows a front, if the text starts with it. -/
def dropFront? : List Char → List Char → Option (List Char)
  | [], cs => some cs
  | _ :: _, [] => none
  | f :: front, c :: cs => if f = c then dropFront? front cs else none

theorem dropFront?_append (front cs : List Char) : dropFront? front (front ++ cs) = some cs := by
  induction front with
  | nil => rfl
  | cons f front ih => simp [dropFront?, ih]

theorem dropFront?_eq_some_iff {front cs rest : List Char} :
    dropFront? front cs = some rest ↔ cs = front ++ rest := by
  induction front generalizing cs with
  | nil => simp [dropFront?]
  | cons f front ih =>
    cases cs with
    | nil => simp [dropFront?]
    | cons c cs =>
      by_cases h : f = c
      · simp [dropFront?, h, ih]
      · simp [dropFront?, h, Ne.symm h]

def startsWith (front cs : List Char) : Bool :=
  (dropFront? front cs).isSome

theorem startsWith_iff {front cs : List Char} : startsWith front cs = true ↔ ∃ rest, cs = front ++ rest := by
  simp only [startsWith, Option.isSome_iff_exists, dropFront?_eq_some_iff]

def cutPart? (part : List Char) : List Char → Option (List Char × List Char)
  | [] => (dropFront? part []).map fun behind => ([], behind)
  | c :: cs =>
    match dropFront? part (c :: cs) with
    | some behind => some ([], behind)
    | none => (cutPart? part cs).map fun (before, behind) => (c :: before, behind)

theorem cutPart?_of_front {part cs behind : List Char} (h : dropFront? part cs = some behind) :
    cutPart? part cs = some ([], behind) := by
  cases cs with
  | nil => simp [cutPart?, h]
  | cons c cs => simp [cutPart?, h]

theorem cutPart?_append {d : Char} {front part : List Char} (hd : d ∉ front) (cs : List Char) :
    cutPart? (d :: part) (front ++ d :: (part ++ cs)) = some (front, cs) := by
  induction front with
  | nil => exact cutPart?_of_front (dropFront?_append (d :: part) cs)
  | cons c front ih =>
    have hc : d ≠ c := fun h => hd (h ▸ List.mem_cons_self)
    have hfront : d ∉ front := fun h => hd (List.mem_cons_of_mem c h)
    simp [cutPart?, dropFront?, hc, ih hfront]

def replaceFirst (part new cs : List Char) : List Char :=
  match cutPart? part cs with
  | some (before, behind) => before ++ new ++ behind
  | none => cs

theorem replaceFirst_front (part new cs : List Char) : replaceFirst part new (part ++ cs) = new ++ cs := by
  rw [replaceFirst, cutPart?_of_front (dropFront?_append _ _)]
  rfl

variable {α : Type}

/-- What stands before and after the first member of a class, with that member. -/
def cutAt? (p : α → Bool) (xs : List α) : Option (List α × α × List α) :=
  match xs.dropWhile fun x => !p x with
  | [] => none
  | x :: rest => some (xs.takeWhile fun x => !p x, x, rest)

def splitOn [DecidableEq α] (c : α) : List α → List (List α)
  | [] => [[]]
  | x :: rest =>
    match splitOn c rest with
    | [] => [[]]
    | first :: others => if x = c then [] :: first :: others else (x :: first) :: others

end Retention.Text
