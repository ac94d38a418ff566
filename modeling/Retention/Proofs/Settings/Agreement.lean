import Retention.Proofs.Text.Loose
import Retention.Proofs.Text.Lower
import Retention.Settings.Basic

/-! # Environments that agree

Two environments agree except on some names if they have the same entries under all other names, in
the same order. What is looked up under other names is the same, and so is all that is read from it.
-/

namespace Retention.Settings

open Text Text.Loose

variable {names : List String} {env env' : Environment} {given : Given} {lookup : Lookup} {p p' : Loose}

namespace Environment

def others (names : List String) (env : Environment) : List (String × Loose) :=
  env.entries.filter fun e => !names.contains (lower e.1)

/-- The entries are the same but for those under some names. -/
def AgreeExcept (names : List String) (env env' : Environment) : Prop :=
  env.others names = env'.others names

instance : Decidable (env.AgreeExcept names env') :=
  inferInstanceAs (Decidable (env.others names = env'.others names))

end Environment

theorem findSome?_congr {α β : Type} {f g : α → Option β} {xs : List α} (h : ∀ x ∈ xs, f x = g x) :
    xs.findSome? f = xs.findSome? g := by
  rw [← Function.id_comp f, ← Function.id_comp g, ← List.findSome?_map, ← List.findSome?_map, List.map_congr_left h]

theorem lower_eq_of_finds {name entryName : String} (h : lookup.finds name entryName = true) :
    lower entryName = lower name := by
  unfold Lookup.finds at h
  split at h
  · rw [eq_of_beq h]
  · exact eq_of_beq h

theorem value?_eq_others {name : String} (hname : lower name ∉ names) :
    lookup.value? env name =
      ((env.others names).reverse.find? fun e => lookup.finds name e.1 && !(lookup.skipsEmpty && e.2.isEmpty)).map
        fun e => lookup.valueOf e.2 := by
  rw [Environment.others, ← List.filter_reverse, List.find?_filter, Lookup.value?]
  congr 2
  funext e
  rw [Bool.eq_iff_iff]
  cases hf : lookup.finds name e.1 with
  | false => simp
  | true => simp [lower_eq_of_finds hf, hname]

theorem value?_eq_of_agree (h : env.AgreeExcept names env') {name : String}
    (hname : lower name ∉ names) :
    lookup.value? env name = lookup.value? env' name := by
  rw [value?_eq_others hname, value?_eq_others hname, h]

theorem source?_eq_of_agree (h : env.AgreeExcept names env') {field : Field}
    (hfield : ∀ name ∈ lookup.names field.keys, lower name ∉ names) :
    source? lookup env given field = source? lookup env' given field := by
  rw [source?, source?, findSome?_congr fun name hname => value?_eq_of_agree h (hfield name hname)]

theorem readField_eq_of_source {α : Type} {field : Field} (h : source? lookup env' given field = source? lookup env given field)
    (read : Value → Except ProblemKind α) (default : α) :
    readField lookup env' given field read default = readField lookup env given field read default := by
  rw [readField, readField, h]

/-- The password setting holds this text, which is not empty. -/
structure HoldsPassword (env : Environment) (p : Loose) : Prop where
  source : source? .usual env [] .pgPassword = some (.ofLoose p)
  isEmpty : p.isEmpty = false

def withPassword {τ : Type} (p : τ) (s : Settings τ) : Settings τ :=
  { s with pgPassword := some p }

theorem readText_ofLoose (t : Loose) : readText (.ofLoose t) = .ok t := by
  rw [Value.ofLoose]
  split
  · rename_i s h
    rw [plain_eq_ok_iff.mp h]
    rfl
  · rfl

theorem readText?_ofLoose (t : Loose) : readText? (.ofLoose t) = .ok (some t) := by
  have hread := readText_ofLoose t
  revert hread
  rw [Value.ofLoose]
  split <;> exact congrArg (Except.map some)

theorem readField_password (hp : HoldsPassword env p) :
    readField .usual env [] .pgPassword readText? none = pure (some p) := by
  simp only [readField, hp.source, readText?_ofLoose]

theorem reader_eq_of_password (hp : HoldsPassword env p) :
    reader .usual env [] = withPassword p <$> reader .usual env [] := by
  simp only [reader, readField_password hp]
  rfl

/-- The password alone makes a difference to what is read. -/
theorem reader_eq_of_agree (h : env.AgreeExcept Field.pgPassword.keys env') (hp : HoldsPassword env p)
    (hp' : HoldsPassword env' p') :
    reader .usual env' [] = withPassword p' <$> reader .usual env [] := by
  have hfields : ∀ field ∈ Field.all, field ≠ .pgPassword → ∀ name ∈ Lookup.usual.names field.keys,
      IsPlainLower name.toList ∧ name ∉ Field.pgPassword.keys := by decide +kernel
  have hread : ∀ field ∈ Field.all, field ≠ .pgPassword →
      ∀ {α : Type} (read : Value → Except ProblemKind α) default,
      readField .usual env' [] field read default = readField .usual env [] field read default := by
    intro field hmem hne α read default
    refine readField_eq_of_source (source?_eq_of_agree h fun name hname => ?_).symm read default
    obtain ⟨hlower, hother⟩ := hfields field hmem hne name hname
    rwa [lower_of_plain hlower]
  simp only [reader, readField_password hp, readField_password hp', hread .env (by decide) (by decide),
    hread .databaseUrl (by decide) (by decide), hread .pgHost (by decide) (by decide),
    hread .pgPort (by decide) (by decide), hread .pgDatabase (by decide) (by decide),
    hread .pgUser (by decide) (by decide), hread .pgSslmode (by decide) (by decide),
    hread .dryRun (by decide) (by decide), hread .clonesRetentionMonths (by decide) (by decide),
    hread .logLevel (by decide) (by decide), hread .logJson (by decide) (by decide)]
  rfl

theorem ofEnvironment_eq_of_reader {f : Settings Loose → Settings Loose}
    (h : reader .usual env' [] = f <$> reader .usual env []) :
    ofEnvironment env' = (ofEnvironment env).map f := by
  have hrun : (reader .usual env' []).run [] =
      (f ((reader .usual env []).run []).1, ((reader .usual env []).run []).2) := by
    rw [h]
    rfl
  rw [ofEnvironment, ofEnvironment, read, read, hrun]
  rcases (reader .usual env []).run [] with ⟨settings, _ | ⟨problem, rest⟩⟩ <;> rfl

theorem pgPassword_of_holds {s : Settings Loose} (h : ofEnvironment env = .ok s) (hp : HoldsPassword env p) :
    s.pgPassword = some p := by
  have hsame : ofEnvironment env = (ofEnvironment env).map (withPassword p) :=
    ofEnvironment_eq_of_reader (reader_eq_of_password hp)
  rw [h] at hsame
  exact congrArg Settings.pgPassword (Except.ok.inj hsame)

/-- The settings of both environments come from the same reading, with one password or the other. -/
theorem ofEnvironment_of_agree (h : env.AgreeExcept Field.pgPassword.keys env') (hp : HoldsPassword env p)
    (hp' : HoldsPassword env' p') :
    ∃ r : Except _ (Settings Loose),
      ofEnvironment env = r.map (withPassword p) ∧ ofEnvironment env' = r.map (withPassword p') := by
  refine ⟨ofEnvironment env, ?_, ?_⟩
  · exact ofEnvironment_eq_of_reader (reader_eq_of_password hp)
  · exact ofEnvironment_eq_of_reader (reader_eq_of_agree h hp hp')

end Retention.Settings
