import Retention.Proofs.Calendar.Elapsed
import Retention.Proofs.Database.References

/-! # Rows in time

Moments are stored as texts of one form, and these are ordered as the time that has passed by the wall
clock. So if the creation times of composes were stored that way, statements select the composes that
were created before the cutoff, and the clones of these.
-/

namespace Retention.Calendar

open Text

/-- The text has digits where the form has some, and is the form otherwise. -/
def HasForm (form text : String) : Prop :=
  List.Forall₂ (fun f c => if f.isDigit then c.isDigit = true else c = f) form.toList text.toList

theorem isDigit_digitChar {n : Nat} (h : n < 10) : (digitChar n).isDigit = true := by
  have hall : ∀ n < 10, (digitChar n).isDigit = true := by decide
  exact hall n h

namespace Moment

variable {m n : Moment}

theorem storedText_hasForm (m : Moment) : HasForm "0000-00-00 00:00:00.000000" m.storedText := by
  have digit (k : Nat) : (digitChar (k % 10)).isDigit = true := isDigit_digitChar (Nat.mod_lt k (by decide))
  simp [HasForm, storedText, Date.chars, TimeOfDay.seconds, TimeOfDay.micros, padded, digit]

theorem storedText_inj : m.storedText = n.storedText ↔ m.wallClock = n.wallClock := by
  rw [eq_iff_le_not_lt, eq_iff_le_not_lt, ← not_lt, ← not_lt, storedText_lt_iff, storedText_lt_iff]

theorem storedText_lt_iff_elapsed : m.storedText < n.storedText ↔ m.elapsed < n.elapsed := by
  rw [storedText_lt_iff, elapsed_lt_iff]

end Moment
end Retention.Calendar

namespace Retention.Database

open Calendar

/-- A compose with the moment of its creation, if that is known. -/
structure Dated where
  jobId : Option String
  created : Option Moment

variable {s : Store} {rows : List Dated} {cutoff : Moment} {clones : List Clone} {c : Clone}

namespace Dated

def row (p : Dated) : Compose :=
  ⟨p.jobId, p.created.map Moment.storedText⟩

/-- When the compose was created, less time had passed than at the cutoff. -/
def isBefore (cutoff : Moment) (p : Dated) : Bool :=
  p.created.any fun m => decide (m.elapsed < cutoff.elapsed)

theorem isExpired_row (p : Dated) : p.row.isExpired cutoff = p.isBefore cutoff := by
  rw [Compose.isExpired, isBefore, row, Option.any_map]
  simp only [Moment.storedText_lt_iff_elapsed]

end Dated

def isOfBefore (rows : List Dated) (cutoff : Moment) (c : Clone) : Bool :=
  c.any fun id => rows.any fun p => p.jobId == some id && p.isBefore cutoff

theorem refersTo_rows : refersTo (expiredIds cutoff (rows.map Dated.row)) c = isOfBefore rows cutoff c := by
  rw [Bool.eq_iff_iff, refersTo_expiredIds_iff]
  cases c with
  | none => simp [isOfBefore]
  | some id =>
    simp only [isOfBefore, Option.any_some, List.any_eq_true, Bool.and_eq_true, beq_iff_eq, List.mem_map]
    constructor
    · rintro ⟨_, hid, _, ⟨p, hp, rfl⟩, hj, he⟩
      obtain rfl := Option.some.inj hid
      exact ⟨p, hp, hj, p.isExpired_row ▸ he⟩
    · rintro ⟨p, hp, hj, he⟩
      exact ⟨id, rfl, p.row, ⟨p, hp, rfl⟩, hj, p.isExpired_row ▸ he⟩

theorem countP_rows : (rows.map Dated.row).countP (Compose.isExpired cutoff) = rows.countP (·.isBefore cutoff) := by
  rw [List.countP_map]
  exact List.countP_congr fun p _ => by rw [Function.comp, p.isExpired_row]

theorem filter_rows : (rows.map Dated.row).filter (!Compose.isExpired cutoff ·) =
    (rows.filter (!·.isBefore cutoff)).map Dated.row := by
  rw [List.filter_map]
  exact congrArg _ (List.filter_congr fun p _ => by rw [Function.comp, p.isExpired_row])

/-- Two stored moments, in a form of fixed width, are ordered in time and differ if their wall clocks do. -/
structure StoredInTime (m n : Moment) : Prop where
  form : HasForm "0000-00-00 00:00:00.000000" m.storedText
  earlier : m.storedText < n.storedText ↔ m.elapsed < n.elapsed
  same : m.storedText = n.storedText ↔ m.date = n.date ∧ m.time = n.time

/-- What statements do to a store of these composes. Those created before the cutoff are counted or deleted, and no
others, unless one of their clones and the foreign key stand in the way; and so are their clones. -/
structure SelectsBefore (s : Store) (rows : List Dated) (cutoff : Moment) : Prop where
  countComposes : s.execute (.countComposes cutoff) = (.ok (.holding (rows.countP (·.isBefore cutoff))), s)
  deleteComposes : (s.foreignKey = true → ∀ c ∈ s.cloneList, isOfBefore rows cutoff c = false) →
    s.execute (.deleteComposes cutoff) = (.ok (.counting (rows.countP (·.isBefore cutoff))),
      { s with composes := some ((rows.filter (!·.isBefore cutoff)).map Dated.row) })
  refused : s.foreignKey = true → (∃ c ∈ s.cloneList, isOfBefore rows cutoff c = true) →
    s.execute (.deleteComposes cutoff) = (.error foreignKeyFailed, s)
  countClones : ∀ clones, s.clones = some clones →
    s.execute (.countClones cutoff) = (.ok (.holding (clones.countP (isOfBefore rows cutoff))), s)
  deleteClones : ∀ clones, s.clones = some clones →
    s.execute (.deleteClones cutoff) = (.ok (.counting (clones.countP (isOfBefore rows cutoff))),
      { s with clones := some (clones.filter (!isOfBefore rows cutoff ·)) })

theorem selectsBefore (h : s.composes = some (rows.map Dated.row)) (cutoff : Moment) : SelectsBefore s rows cutoff := by
  have hclone : refersTo (expiredIds cutoff (rows.map Dated.row)) = isOfBefore rows cutoff := funext fun _ => refersTo_rows
  refine ⟨?_, fun hfree => ?_, fun hkey hclones => ?_, fun clones hclones => ?_, fun clones hclones => ?_⟩
  · simp only [Store.execute, Store.countComposes, h, countP_rows]
  · have hnone : (s.foreignKey && s.cloneList.any (isOfBefore rows cutoff)) = false := by
      cases hkey : s.foreignKey with
      | false => rfl
      | true => simpa using hfree hkey
    simp only [Store.execute, Store.deleteComposes, h, hclone, hnone, Bool.false_eq_true, if_false, countP_rows,
      filter_rows]
  · have hany : s.cloneList.any (isOfBefore rows cutoff) = true := List.any_eq_true.mpr hclones
    simp only [Store.execute, Store.deleteComposes, h, hclone, hkey, hany, Bool.and_self, if_true]
  · simp only [Store.execute, Store.countClones, h, hclones, hclone]
  · simp only [Store.execute, Store.deleteClones, h, hclones, hclone]

/-- Expiry is a matter of time: stored texts are ordered as the time that has passed by the wall clock and are equal
for one reading of it, so on composes that were stored with their moments statements select those created before the
cutoff. -/
theorem expiry_isChronological :
    (∀ m n : Moment, StoredInTime m n) ∧
      ∀ {s : Store} {rows : List Dated} (cutoff : Moment), s.composes = some (rows.map Dated.row) →
        SelectsBefore s rows cutoff :=
  ⟨fun m _ =>
      ⟨m.storedText_hasForm, Moment.storedText_lt_iff_elapsed, Moment.storedText_inj.trans Moment.wallClock_inj⟩,
    fun cutoff h => selectsBefore h cutoff⟩

/-- The first midnight of the year 10, in universal time. -/
def midnight : Moment :=
  .ofEpochMicros (-715875 * microsPerDay)

/-- Composes created right before that midnight, at it by a clock without an offset, right after it, and at an unknown
time. -/
def aroundMidnight : List Dated :=
  [⟨some "before", some (.ofEpochMicros (-715875 * microsPerDay - 1))⟩,
    ⟨some "at", some { midnight with offset := none }⟩,
    ⟨some "after", some (.ofEpochMicros (-715875 * microsPerDay + 1))⟩, ⟨some "unknown", none⟩]

theorem expiry_atMidnight :
    let s : Store := ⟨some (aroundMidnight.map Dated.row), some [some "before", some "at"], true⟩
    let disowned : Store := { s with clones := some [some "at"] }
    s.composes = some (aroundMidnight.map Dated.row) ∧ midnight.storedText = "0010-01-01 00:00:00.000000" ∧
      s.execute (.countComposes midnight) = (.ok (.holding 1), s) ∧
      s.execute (.deleteComposes midnight) = (.error foreignKeyFailed, s) ∧
      s.execute (.deleteClones midnight) = (.ok (.counting 1), disowned) ∧
      disowned.execute (.deleteComposes midnight) =
        (.ok (.counting 1), { disowned with composes := some ((aroundMidnight.drop 1).map Dated.row) }) := by
  intro s disowned
  have hcount : aroundMidnight.countP (·.isBefore midnight) = 1 := by decide +kernel
  have hkept : (aroundMidnight.filter (!·.isBefore midnight)).map Dated.row = (aroundMidnight.drop 1).map Dated.row := by
    decide +kernel
  have hclones : [some "before", some "at"].countP (isOfBefore aroundMidnight midnight) = 1 := by decide +kernel
  have hkeptClones : [some "before", some "at"].filter (!isOfBefore aroundMidnight midnight ·) = [some "at"] := by
    decide +kernel
  have hfree : ∀ c ∈ [some "at"], isOfBefore aroundMidnight midnight c = false := by decide +kernel
  have hs : SelectsBefore s aroundMidnight midnight := expiry_isChronological.2 midnight rfl
  have hdisowned : SelectsBefore disowned aroundMidnight midnight := expiry_isChronological.2 midnight rfl
  refine ⟨rfl, by decide +kernel, ?_, hs.refused rfl ⟨some "before", List.mem_cons_self, by decide +kernel⟩, ?_, ?_⟩
  · rw [hs.countComposes, hcount]
  · rw [hs.deleteClones _ rfl, hclones, hkeptClones]
  · rw [hdisowned.deleteComposes fun _ => hfree, hcount, hkept]

end Retention.Database
