import Retention.Proofs.Run.Calm
import Retention.Proofs.Run.DryRun

/-! # Forecasts

What a dry run counts is what a live run at the same time deletes from the same store. The counts
are taken once, while the deletions go through passes, each of which meets what the one before it
has left.
-/

namespace Retention.Run

open Calendar Database

section Counts

variable {cutoff : Moment} {X : Store} {n : Nat} {count : Option Int}

def Table.due (cutoff : Moment) (X : Store) : Table → Nat
  | .clones => X.clonesDue cutoff
  | .composes => X.composesDue cutoff

theorem execute_count (ht : X.HasTables) (table : Table) :
    X.execute (table.count cutoff) = (.ok (.holding (table.due cutoff X)), X) := by
  obtain ⟨composes, hco⟩ := Option.isSome_iff_exists.mp ht.1
  obtain ⟨clones, hcl⟩ := Option.isSome_iff_exists.mp ht.2
  cases table with
  | clones =>
    have hdue : X.isDue cutoff = refersTo (expiredIds cutoff composes) := by
      funext c
      rw [Store.isDue, Store.composeList, hco, Option.getD_some]
    simp only [Table.count, Store.execute, Store.countClones, hco, hcl, Table.due, Store.clonesDue, Store.cloneList,
      hdue, Option.getD_some]
  | composes =>
    simp only [Table.count, Store.execute, Store.countComposes, hco, Table.due, Store.composesDue, Store.composeList,
      Option.getD_some]

theorem Found.eq_of_holding (h : Found (.ok (.holding n)) count) : count = some (n : Int) := by
  cases h with
  | value scalar whole =>
    obtain rfl := Except.ok.inj scalar
    rw [Except.ok.inj whole]
  | unread scalar => cases scalar

theorem isPlain_stats {answer : Except Fault Reply} (h : Observed answer) : IsPlain .stats answer := by
  cases answer with
  | error f => exact h
  | ok reply => exact h

end Counts

section Asking

variable {t : Trial} {st : Statement} {cutoff : Moment} (h : Calm (fun _ => False) t) (ht : t.store.HasTables)

include h ht

theorem Calm.execute_count (table : Table) :
    t.execute (table.count cutoff) = (.ok (.holding (table.due cutoff t.store)), Run.passed t) := by
  have hst : table.count cutoff ≠ .stats := by cases table <;> simp [Table.count]
  rcases h.execute_cases (table.count cutoff) with ⟨_, hf, -⟩ | hs
  · exact hf.elim
  · exact hs.trans (h.passed.answer hst (Run.execute_count ht table))

/-- A calm trial answers what is only asked, and stays calm with the store that it has. -/
theorem Calm.asked (hst : st.writes = false) :
    IsPlain st (t.execute st).1 ∧ Calm (fun _ => False) (t.execute st).2 ∧ (t.execute st).2.store = t.store := by
  cases st with
  | stats =>
    rcases h.execute_cases .stats with ⟨_, hf, -⟩ | hs
    · exact hf.elim
    · rw [hs]
      obtain ⟨hobserved, hcalm, hstore⟩ := h.passed.answer_stats
      exact ⟨isPlain_stats hobserved, hcalm, hstore⟩
  | countClones c =>
    rw [show t.execute (.countClones c) = _ from h.execute_count ht .clones]
    exact ⟨.inl ⟨_, rfl⟩, h.passed, rfl⟩
  | countComposes c =>
    rw [show t.execute (.countComposes c) = _ from h.execute_count ht .composes]
    exact ⟨.inl ⟨_, rfl⟩, h.passed, rfl⟩
  | _ => cases hst

theorem Calm.plainTo (dialect : String) {sts : List Statement} (hsts : ∀ st ∈ sts, st.writes = false) :
    PlainTo (Trial.connection dialect) t sts := by
  induction sts generalizing t with
  | nil => trivial
  | cons st rest ih =>
    obtain ⟨hplain, hcalm, hstore⟩ := h.asked ht (hsts st List.mem_cons_self)
    exact ⟨hplain, ih hcalm (hstore ▸ ht) fun st' hst' => hsts st' (List.mem_cons_of_mem _ hst')⟩

end Asking

section Runs

variable (dialect dialect' : String) {dry live : Plan} {now cutoff : Moment} (s s' : Session Trial)

theorem run_counted (hdry : dry.dryRun.holds = true) (hcutoff : Calendar.cutoff now dry.months = .ok cutoff)
    (hcalm : Calm (fun _ => False) s.world) (ht : s.world.store.HasTables) :
    let r := run ⟨Trial.connection dialect, openConnection .none⟩ dry now s
    r.1 = .done ⟨cutoff, dry.dryRun, r.2.tally⟩ ∧
      r.2.tally.expiredClones = some (s.world.store.clonesDue cutoff : Int) ∧
      r.2.tally.expiredComposes = some (s.world.store.composesDue cutoff : Int) := by
  intro r
  obtain ⟨es, hj, -, hquiet⟩ := not_writes_of_dry (Trial.connection dialect) .none now s hdry
  have hplain : s.Plain (Trial.connection dialect) r.2 := by
    intro fs hfs
    obtain rfl := List.append_cancel_left (hj.symm.trans hfs)
    exact hcalm.plainTo ht dialect hquiet
  have hcourse := dryCourse_of_plain hdry hcutoff rfl rfl rfl hplain hj
  -- Neither the statistics nor the first count change the store, so both counts meet that of the start.
  let t : Trial := (s.world.execute .stats).2
  obtain ⟨-, hcalm', hstore⟩ : _ ∧ Calm _ t ∧ t.store = _ := hcalm.asked ht rfl
  have hclones : t.execute (.countClones cutoff) = (.ok (.holding (t.store.clonesDue cutoff)), passed t) :=
    hcalm'.execute_count (hstore ▸ ht) .clones
  have hcomposes : ((passed t).execute (.countComposes cutoff)).1 = .ok (.holding (t.store.composesDue cutoff)) :=
    congrArg Prod.fst (hcalm'.passed.execute_count (hstore ▸ ht) .composes)
  have hfound : Found (t.execute (.countClones cutoff)).1 r.2.tally.expiredClones := hcourse.clones
  have hfound' : Found ((t.execute (.countClones cutoff)).2.execute (.countComposes cutoff)).1
    r.2.tally.expiredComposes := hcourse.composes
  rw [hclones] at hfound hfound'
  rw [hcomposes] at hfound'
  rw [← hstore]
  exact ⟨(hcourse.done rfl rfl).1, hfound.eq_of_holding, hfound'.eq_of_holding⟩

/-- A dry run and a live run that nothing disturbs, at the same time and with the same window, are
done, and the dry run has counted as many rows of each table as the live run has deleted. -/
theorem run_foretold (hdry : dry.dryRun.holds = true) (hlive : live.dryRun.holds = false)
    (hmonths : live.months = dry.months) (hcutoff : Calendar.cutoff now dry.months = .ok cutoff)
    (ht : s.world.store.HasTables) (hstore : s'.world.store = s.world.store)
    (hcalm : Calm (fun _ => False) s.world) (hcalm' : Calm (fun _ => False) s'.world) :
    let forecast := run ⟨Trial.connection dialect, openConnection .none⟩ dry now s
    let deed := run ⟨Trial.connection dialect', openConnection .none⟩ live now s'
    ∃ foreseen summary, forecast.1 = .done foreseen ∧ deed.1 = .done summary ∧ ∃ clones composes : Nat,
      foreseen.tally.expiredClones = some (clones : Int) ∧ summary.tally.clonesDeleted = .whole clones ∧
      foreseen.tally.expiredComposes = some (composes : Int) ∧ summary.tally.composesDeleted = .whole composes := by
  intro forecast deed
  obtain ⟨hdone, hclones, hcomposes⟩ := run_counted dialect s hdry hcutoff hcalm ht
  have hdeletes : live.Deletes now cutoff := ⟨hlive, hmonths ▸ hcutoff⟩
  obtain ⟨hdone', h⟩ := run_quiet dialect' hdeletes hcalm' (hstore ▸ ht)
  refine ⟨_, _, hdone, hdone', _, _, hclones, h.clonesDeleted.trans ?_, hcomposes, h.composesDeleted.trans ?_⟩
  · rw [hstore]
  · rw [hstore]

/-- A store with two expired composes, of which one has clones, and with a clone that refers to nothing. -/
def orphaned : Store :=
  ⟨some [⟨some "a", some "1969-10-31"⟩, ⟨some "b", some "1969-12-31"⟩, ⟨some "c", some "2026-01-01"⟩],
    some [some "a", some "x", some "a", some "c"], false⟩

theorem run_orphaned :
    let forecast := run ⟨Trial.connection "postgresql", openConnection .none⟩ ⟨"", .bool true, .int 0⟩
      (.ofEpochMicros 0) (.start (.quiet orphaned))
    let deed := run ⟨Trial.connection "postgresql", openConnection .none⟩ ⟨"", .bool false, .int 0⟩
      (.ofEpochMicros 0) (.start (.quiet orphaned))
    ∃ foreseen summary, forecast.1 = .done foreseen ∧ deed.1 = .done summary ∧ ∃ clones composes : Nat,
      foreseen.tally.expiredClones = some (clones : Int) ∧ summary.tally.clonesDeleted = .whole clones ∧
      foreseen.tally.expiredComposes = some (composes : Int) ∧ summary.tally.composesDeleted = .whole composes := by
  exact run_foretold "postgresql" "postgresql" (.start (.quiet orphaned)) (.start (.quiet orphaned)) rfl rfl rfl
    (cutoff_zero _) (by decide) rfl (calm_quiet _ orphaned) (calm_quiet _ orphaned)

end Runs
end Retention.Run
