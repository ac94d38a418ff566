import Mathlib.Data.List.Induction
import Retention.Proofs.Settings.Agreement

/-! # The entries that decide

What settings are made of an environment depends on the last value that is given for each of their
names, in any letter case. A setting with two names goes by the first of them that is given.
-/

namespace Retention.Settings

variable {pairs pairs' : List (String × Text.Loose)} {field : Field}

/-- No name is given twice; names that differ in letter case are not the same. -/
def IsDistinct (pairs : List (String × Text.Loose)) : Prop :=
  (pairs.map Prod.fst).Nodup

instance (pairs : List (String × Text.Loose)) : Decidable (IsDistinct pairs) :=
  inferInstanceAs (Decidable (List.Nodup _))

def under (key : String) (pairs : List (String × Text.Loose)) : List (String × Text.Loose) :=
  pairs.filter fun e => Text.lower e.1 == key

def lowered (pairs : List (String × Text.Loose)) : List (String × Text.Loose) :=
  pairs.map fun e => (Text.lower e.1, e.2)

/-- The last value that is given for a name in any letter case. -/
def lastValue? (pairs : List (String × Text.Loose)) (key : String) : Option Text.Loose :=
  (under key pairs).getLast?.map Prod.snd

/-- The last value for the first name of the setting that is given. -/
def deciding? (pairs : List (String × Text.Loose)) (field : Field) : Option Text.Loose :=
  field.keys.findSome? (lastValue? pairs)

def allKeys : List String :=
  Field.all.flatMap Field.keys

def known (pairs : List (String × Text.Loose)) : List (String × Text.Loose) :=
  pairs.filter fun e => allKeys.contains (Text.lower e.1)

def outcome (pairs : List (String × Text.Loose)) : Except (List Problem) (Settings Text.Loose) :=
  ofEnvironment (.ofPairs pairs)

/-- The connection parts, whose settings have two names each. -/
def partNames : List String :=
  ["host", "port", "database", "user", "password", "sslmode"]

section Deciding

theorem entries_ofPairs (h : IsDistinct pairs) : (Environment.ofPairs pairs).entries = pairs := by
  induction pairs using List.reverseRecOn with
  | nil => rfl
  | append_singleton pairs e ih =>
    rw [IsDistinct, List.map_append, List.nodup_append] at h
    obtain ⟨hpairs, -, hnew⟩ := h
    have hany : pairs.any (·.1 == e.1) = false := by
      rw [List.any_eq_false]
      exact fun e' he' heq => hnew _ (List.mem_map_of_mem he') _ (List.mem_singleton_self _) (eq_of_beq heq)
    rw [Environment.ofPairs, List.foldl_append, ← Environment.ofPairs, List.foldl_cons, List.foldl_nil,
      Environment.set, ih hpairs, hany]
    rfl

theorem value?_ofPairs (h : IsDistinct pairs) {key : String} (hkey : Text.lower key = key) :
    Lookup.usual.value? (.ofPairs pairs) key = (lastValue? pairs key).map .ofLoose := by
  have hfinds : (fun e : String × Text.Loose => Lookup.usual.finds key e.1 && !(Lookup.usual.skipsEmpty && e.2.isEmpty)) =
      fun e => Text.lower e.1 == key := by
    funext e
    simp [Lookup.usual, Lookup.finds, hkey]
  rw [Lookup.value?, hfinds, entries_ofPairs h, ← List.head?_filter, List.filter_reverse, List.head?_reverse, lastValue?,
    Option.map_map]
  rfl

theorem names_usual (keys : List String) : Lookup.usual.names keys = keys := by
  have hfront : ∀ key : String, "" ++ key = key := fun _ => String.empty_append
  unfold Lookup.names
  split
  · exact congrArg (· :: []) (hfront _)
  · exact (List.map_congr_left fun key _ => hfront key).trans (List.map_id _)

theorem source?_ofPairs (h : IsDistinct pairs) (hkeys : ∀ key ∈ field.keys, Text.lower key = key) :
    source? .usual (.ofPairs pairs) [] field = (deciding? pairs field).map .ofLoose := by
  have hgiven : field.keys.findSome? (givenValue? []) = none := List.findSome?_eq_none_iff.mpr fun _ _ => rfl
  rw [source?, hgiven, Option.none_or, names_usual, findSome?_congr fun key hkey => value?_ofPairs h (hkeys key hkey),
    deciding?, List.map_findSome?]
  rfl

/-- What decides the settings decides the outcome. -/
theorem ofEnvironment_eq_of_source {env env' : Environment}
    (h : ∀ field ∈ Field.all, source? .usual env' [] field = source? .usual env [] field) :
    ofEnvironment env' = ofEnvironment env := by
  have hread : ∀ field ∈ Field.all, ∀ {α : Type} (read : Value → Except ProblemKind α) default,
      readField .usual env' [] field read default = readField .usual env [] field read default :=
    fun field hmem => readField_eq_of_source (h field hmem)
  have hreader : reader .usual env' [] = reader .usual env [] := by
    simp only [reader, hread .env (by decide), hread .databaseUrl (by decide), hread .pgHost (by decide),
      hread .pgPort (by decide), hread .pgDatabase (by decide), hread .pgUser (by decide),
      hread .pgPassword (by decide), hread .pgSslmode (by decide), hread .dryRun (by decide),
      hread .clonesRetentionMonths (by decide), hread .logLevel (by decide), hread .logJson (by decide)]
  rw [ofEnvironment, read, hreader, ← read, ← ofEnvironment]

theorem outcome_eq_of_deciding (h : IsDistinct pairs) (h' : IsDistinct pairs')
    (hsame : ∀ field ∈ Field.all, deciding? pairs' field = deciding? pairs field) : outcome pairs' = outcome pairs := by
  have hplain : ∀ field ∈ Field.all, ∀ key ∈ field.keys, Text.IsPlainLower key.toList := by decide +kernel
  have hlower : ∀ field ∈ Field.all, ∀ key ∈ field.keys, Text.lower key = key := fun field hfield key hkey =>
    Text.lower_of_plain (hplain field hfield key hkey)
  refine ofEnvironment_eq_of_source fun field hfield => ?_
  rw [source?_ofPairs h (hlower field hfield), source?_ofPairs h' (hlower field hfield), hsame field hfield]

end Deciding

section Same

theorem deciding?_eq_of_keys (h : ∀ key ∈ field.keys, lastValue? pairs' key = lastValue? pairs key) :
    deciding? pairs' field = deciding? pairs field := by
  rw [deciding?, deciding?, findSome?_congr h]

theorem mem_allKeys {key : String} (hfield : field ∈ Field.all) (hkey : key ∈ field.keys) : key ∈ allKeys :=
  List.mem_flatMap.mpr ⟨field, hfield, hkey⟩

theorem outcome_eq_of_lastValue? (h : IsDistinct pairs) (h' : IsDistinct pairs')
    (hsame : ∀ key ∈ allKeys, lastValue? pairs' key = lastValue? pairs key) : outcome pairs' = outcome pairs :=
  outcome_eq_of_deciding h h' fun _ hfield => deciding?_eq_of_keys fun key hkey => hsame key (mem_allKeys hfield hkey)

theorem under_known {key : String} (hkey : key ∈ allKeys) : under key (known pairs) = under key pairs := by
  rw [under, under, known, List.filter_filter]
  apply List.filter_congr
  intro e _
  cases hname : Text.lower e.1 == key with
  | false => rfl
  | true => simpa [eq_of_beq hname] using hkey

theorem lastValue?_lowered (key : String) :
    lastValue? pairs key = ((lowered pairs).filter (·.1 == key)).getLast?.map Prod.snd := by
  rw [lowered, List.filter_map, List.getLast?_map, Option.map_map]
  rfl

theorem deciding?_part (part : String) :
    deciding? pairs (.pg part) = (lastValue? pairs ("pg_" ++ part)).or (lastValue? pairs ("pg" ++ part)) := by
  rw [deciding?, Field.pg]
  cases h : lastValue? pairs ("pg_" ++ part) with
  | none => cases h' : lastValue? pairs ("pg" ++ part) <;> simp [h, h']
  | some v => simp [h]

theorem eq_pg_of_mem_keys : ∀ part ∈ partNames, ∀ field ∈ Field.all,
    "pg_" ++ part ∈ field.keys ∨ "pg" ++ part ∈ field.keys → field = .pg part := by
  decide +kernel

theorem mem_allKeys_part : ∀ part ∈ partNames, "pg_" ++ part ∈ allKeys ∧ "pg_" ++ part ≠ "pg" ++ part := by
  decide +kernel

/-- A setting with one decision that holds whatever is read under its names, and the same values for the others. -/
theorem outcome_eq_of_part (h : IsDistinct pairs) (h' : IsDistinct pairs') {part : String} (hpart : part ∈ partNames)
    (hdecided : deciding? pairs' (.pg part) = deciding? pairs (.pg part))
    (hsame : ∀ key ∈ allKeys, key ≠ "pg_" ++ part → key ≠ "pg" ++ part → lastValue? pairs' key = lastValue? pairs key) :
    outcome pairs' = outcome pairs := by
  refine outcome_eq_of_deciding h h' fun field hfield => ?_
  by_cases hmem : "pg_" ++ part ∈ field.keys ∨ "pg" ++ part ∈ field.keys
  · rw [eq_pg_of_mem_keys part hpart field hfield hmem, hdecided]
  · obtain ⟨hlong, hshort⟩ := not_or.mp hmem
    exact deciding?_eq_of_keys fun key hkey => hsame key (mem_allKeys hfield hkey) (fun he => hlong (he ▸ hkey))
      fun he => hshort (he ▸ hkey)

end Same

/-- The last value for each known name, in any letter case, decides the outcome. So other names make no difference, and
neither do letter case and the order of different names. The name of a connection part without a low line matters only if
the one with it is not given, and then as much as that one. -/
structure IsDecided (pairs : List (String × Text.Loose)) : Prop where
  lastValues : ∀ pairs', IsDistinct pairs' → (∀ key ∈ allKeys, lastValue? pairs' key = lastValue? pairs key) →
    outcome pairs' = outcome pairs
  otherNames : ∀ pairs', IsDistinct pairs' → known pairs' = known pairs → outcome pairs' = outcome pairs
  letterCase : ∀ pairs', IsDistinct pairs' → lowered pairs' = lowered pairs → outcome pairs' = outcome pairs
  order : ∀ pairs', IsDistinct pairs' → (∀ key, under key pairs' = under key pairs) → outcome pairs' = outcome pairs
  preferred : ∀ part ∈ partNames, ∀ v, lastValue? pairs ("pg_" ++ part) = some v → ∀ pairs', IsDistinct pairs' →
    (∀ key ∈ allKeys, key ≠ "pg" ++ part → lastValue? pairs' key = lastValue? pairs key) → outcome pairs' = outcome pairs
  substitute : ∀ part ∈ partNames, ∀ v, lastValue? pairs ("pg_" ++ part) = none →
    lastValue? pairs ("pg" ++ part) = some v → ∀ pairs', IsDistinct pairs' → lastValue? pairs' ("pg_" ++ part) = some v →
    (∀ key ∈ allKeys, key ≠ "pg_" ++ part → key ≠ "pg" ++ part → lastValue? pairs' key = lastValue? pairs key) →
    outcome pairs' = outcome pairs

theorem ofPairs_isDecided (h : IsDistinct pairs) : IsDecided pairs where
  lastValues _ h' hsame := outcome_eq_of_lastValue? h h' hsame
  otherNames pairs' h' hsame := by
    refine outcome_eq_of_lastValue? h h' fun key hkey => ?_
    rw [lastValue?, ← under_known hkey, hsame, under_known hkey, lastValue?]
  letterCase pairs' h' hsame := by
    refine outcome_eq_of_lastValue? h h' fun key _ => ?_
    rw [lastValue?_lowered, hsame, lastValue?_lowered]
  order pairs' h' hsame := by
    refine outcome_eq_of_lastValue? h h' fun key _ => ?_
    rw [lastValue?, hsame, lastValue?]
  preferred part hpart v hv pairs' h' hsame := by
    obtain ⟨hmem, hne⟩ := mem_allKeys_part part hpart
    have hv' : lastValue? pairs' ("pg_" ++ part) = some v := (hsame _ hmem hne).trans hv
    refine outcome_eq_of_part h h' hpart ?_ fun key hmem _ hne => hsame key hmem hne
    rw [deciding?_part, deciding?_part, hv, hv', Option.some_or, Option.some_or]
  substitute part hpart v hnone hv pairs' h' hv' hsame := by
    refine outcome_eq_of_part h h' hpart ?_ hsame
    rw [deciding?_part, deciding?_part, hnone, hv, hv', Option.some_or, Option.none_or]

/-- An empty port that is given last decides, whatever else is given for it. -/
theorem ofPairs_emptyPort :
    let pairs : List (String × Text.Loose) := [("PGPORT", "7"), ("PG_PORT", "5432"), ("HOME", "/"), ("pg_port", "")]
    IsDistinct pairs ∧ lastValue? pairs "pg_port" = some "" ∧ outcome [("Pg_Port", "")] = outcome pairs :=
  have hport := (ofPairs_isDecided (by decide)).preferred "port" (by decide) "" (by decide +kernel)
  ⟨by decide, by decide +kernel, hport [("Pg_Port", "")] (by decide) (by decide +kernel)⟩

end Retention.Settings
