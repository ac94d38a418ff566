import Mathlib
import Retention.Proofs.Number.Spelling
import Retention.Proofs.Process
import Retention.Proofs.Settings.Target
import Retention.Proofs.Text.Cut

/-! # Reading the target back

The URL that is made of parts can be taken apart again. What stands before its first at sign tells the user and the password,
whatever stands behind, and behind it the other parts are told apart if the host holds no delimiter.
-/

namespace Retention.Settings

open Text

/-- What a URL is made of; an empty password is none. -/
structure Parts where
  user : String
  password : Option String
  host : String
  port : Int
  database : String
  sslmode : String
  deriving DecidableEq, Repr

def password? (s : Settings String) : Option String :=
  s.pgPassword.filter (· ≠ "")

def parts (s : Settings String) : Parts :=
  ⟨s.pgUser, s.password?, s.pgHost, s.pgPort, s.pgDatabase, s.pgSslmode⟩

structure IsFromParts (s : Settings String) : Prop where
  url : isBlankText (s.databaseUrl.getD "") = true
  host : isBlankText s.pgHost = false

/-- Nothing in the host ends a piece of the URL. -/
def IsPlainHost (host : String) : Prop :=
  ∀ c ∈ [':', '/', '?', '@'], c ∉ host.toList

/-- The texts before and behind the first at sign after the scheme. -/
def cutLogin? (url : String) : Option (String × String) := do
  let rest ← dropFront? "postgresql+psycopg://".toList url.toList
  cut? '@' (String.ofList rest)

/-- The user and the password, which stands behind a colon. -/
def readLogin? (login : String) : Option (String × Option String) :=
  match cut? ':' login with
  | none => return (← Percent.decode? login, none)
  | some (user, password) => return (← Percent.decode? user, some (← Percent.decode? password))

structure Address where
  host : String
  port : String
  database : String
  query : String
  deriving DecidableEq, Repr

/-- Cuts at the first colon, the next slash and the next question mark. -/
def cutAddress? (text : String) : Option Address := do
  let (host, text) ← cut? ':' text
  let (port, text) ← cut? '/' text
  let (database, query) ← cut? '?' text
  return ⟨host, port, database, query⟩

/-- A login has one colon at most, which says whether there is a password, and gives the user and the password. -/
structure IsLogin (s : Settings String) (login : String) : Prop where
  count_colon : login.toList.count ':' ≤ 1
  colon_mem_iff : ':' ∈ login.toList ↔ ∃ password, s.pgPassword = some password ∧ password ≠ ""
  read : readLogin? login = some (s.pgUser, s.password?)

/-- The pieces are the host, the port, the encoded database and the mode; the port and the database are read back. -/
structure IsAddress (s : Settings String) (text : String) : Prop where
  cut : cutAddress? text =
    some ⟨s.pgHost, toString s.pgPort, Percent.encode s.pgDatabase, "sslmode=" ++ s.pgSslmode⟩
  read_port : (toString s.pgPort).toInt? = some s.pgPort
  read_database : Percent.decode? (Percent.encode s.pgDatabase) = some s.pgDatabase

variable {s s' : Settings String}

theorem resolvedDatabaseUrl_of_isFromParts (h : s.IsFromParts) : s.resolvedDatabaseUrl = s.urlOfParts := by
  have hurl : (strip (s.databaseUrl.getD "")).isEmpty = true := by
    rw [← Loose.isEmpty_ofString, ← Loose.strip_ofString, isEmpty_strip, Loose.isBlank_ofString, h.url]
  rw [resolvedDatabaseUrl, hurl, h.host]
  rfl

section Login

theorem password?_eq_some_iff {p : String} : s.password? = some p ↔ s.pgPassword = some p ∧ p ≠ "" := by
  rw [password?, Option.filter_eq_some_iff, decide_eq_true_eq]

theorem credentials_eq (s : Settings String) :
    s.credentials = Percent.encode s.pgUser ++ s.password?.elim "" fun p => ":" ++ Percent.encode p := by
  rw [credentials, password?]
  cases s.pgPassword with
  | none => rfl
  | some p =>
    by_cases hp : p = ""
    · subst hp
      rfl
    · have hempty : ¬ p.isEmpty = true := mt String.isEmpty_iff.mp hp
      rw [Option.getD_some, login, if_neg hempty, Option.filter_some, if_pos (decide_eq_true hp), Option.elim_some]

/-- The colon of the password is the only one, since the encoding leaves none. -/
theorem isLogin_credentials (s : Settings String) : IsLogin s s.credentials := by
  have hcolon (t : String) : ':' ∉ (Percent.encode t).toList := Percent.not_mem_encode (by decide) t
  have hpassword : (∃ p, s.pgPassword = some p ∧ p ≠ "") ↔ s.password?.isSome = true := by
    simp only [Option.isSome_iff_exists, password?_eq_some_iff]
  rw [credentials_eq]
  cases hp : s.password? with
  | none =>
    rw [Option.elim_none, String.append_empty]
    constructor
    · rw [List.count_eq_zero_of_not_mem (hcolon _)]
      exact Nat.zero_le 1
    · rw [hpassword, hp]
      exact iff_of_false (hcolon _) Bool.false_ne_true
    · rw [readLogin?, cut?_eq_none (hcolon _), hp]
      simp only [Percent.decode?_encode]
      rfl
  | some p =>
    have hmark : ":".toList = [':'] := by simp only [String.reduceToList]
    rw [Option.elim_some]
    constructor
    · simp only [String.toList_append, hmark, List.count_append, List.count_eq_zero_of_not_mem (hcolon _),
        List.count_singleton_self]
      exact Nat.le_refl 1
    · rw [hpassword, hp]
      simp [hmark]
    · rw [readLogin?, cut?_append (hcolon _) hmark, hp]
      simp only [Percent.decode?_encode]
      rfl

theorem at_not_mem_credentials (s : Settings String) : '@' ∉ s.credentials.toList := by
  have hencoded (t : String) : '@' ∉ (Percent.encode t).toList := Percent.not_mem_encode (by decide) t
  rw [credentials_eq, String.toList_append, List.mem_append, not_or]
  refine ⟨hencoded _, ?_⟩
  cases s.password? with
  | none => simp
  | some p => simp [hencoded]

theorem cutLogin?_resolvedDatabaseUrl (h : s.IsFromParts) :
    cutLogin? s.resolvedDatabaseUrl = some (s.credentials, s.back) := by
  have hmark : "@".toList = ['@'] := by simp only [String.reduceToList]
  rw [cutLogin?, resolvedDatabaseUrl_of_isFromParts h, urlOfParts_eq, String.toList_append, dropFront?_append,
    Option.bind_eq_bind, Option.bind_some, String.ofList_toList, cut?_append (at_not_mem_credentials s) hmark]

end Login

theorem isAddress_back (h : IsPlainHost s.pgHost) : IsAddress s s.back := by
  constructor
  case cut =>
    have hport : '/' ∉ (toString s.pgPort).toList := fun hc => Bool.noConfusion (isNumberChar_of_mem_int hc)
    have hdatabase : '?' ∉ (Percent.encode s.pgDatabase).toList := Percent.not_mem_encode (by decide) _
    have hmarks : ":".toList = [':'] ∧ "/".toList = ['/'] ∧ "?".toList = ['?'] := by
      simp only [String.reduceToList, and_self]
    have hback : s.back = s.pgHost ++ (":" ++ (toString s.pgPort ++ ("/" ++ (Percent.encode s.pgDatabase ++
        ("?" ++ ("sslmode=" ++ s.pgSslmode)))))) := by
      have hquery : "?sslmode=" = "?" ++ "sslmode=" := by decide
      unfold back
      simp only [hquery, String.append_assoc]
    simp only [cutAddress?, hback, cut?_append (h ':' (by decide)) hmarks.1, cut?_append hport hmarks.2.1,
      cut?_append hdatabase hmarks.2.2, Option.bind_eq_bind, Option.bind_some, Option.pure_def]
  case read_port => rw [Int.toString_eq_repr, Int.toInt?_repr]
  case read_database => exact Percent.decode?_encode s.pgDatabase

theorem parts_eq_of_resolvedDatabaseUrl_eq (h : s.IsFromParts) (h' : s'.IsFromParts) (hhost : IsPlainHost s.pgHost)
    (hhost' : IsPlainHost s'.pgHost) (heq : s.resolvedDatabaseUrl = s'.resolvedDatabaseUrl) : s.parts = s'.parts := by
  obtain ⟨hlogin, hback⟩ : s.credentials = s'.credentials ∧ s.back = s'.back := by
    have hcut := cutLogin?_resolvedDatabaseUrl h
    rw [heq, cutLogin?_resolvedDatabaseUrl h'] at hcut
    simpa using hcut.symm
  obtain ⟨huser, hpassword⟩ : s.pgUser = s'.pgUser ∧ s.password? = s'.password? := by
    have hread := (isLogin_credentials s).read
    rw [hlogin, (isLogin_credentials s').read] at hread
    simpa using hread.symm
  have haddress := isAddress_back hhost
  have haddress' := isAddress_back hhost'
  obtain ⟨hhosts, hports, hdatabases, hqueries⟩ : s.pgHost = s'.pgHost ∧ toString s.pgPort = toString s'.pgPort ∧
      Percent.encode s.pgDatabase = Percent.encode s'.pgDatabase ∧
        "sslmode=" ++ s.pgSslmode = "sslmode=" ++ s'.pgSslmode := by
    have hcut := haddress.cut
    rw [hback, haddress'.cut] at hcut
    exact Address.mk.inj (Option.some.inj hcut.symm)
  have hport : s.pgPort = s'.pgPort := Option.some.inj (by rw [← haddress.read_port, ← haddress'.read_port, hports])
  have hdatabase : s.pgDatabase = s'.pgDatabase :=
    Option.some.inj (by rw [← haddress.read_database, ← haddress'.read_database, hdatabases])
  have hsslmode : s.pgSslmode = s'.pgSslmode := String.append_right_inj _ |>.mp hqueries
  rw [parts, parts, huser, hpassword, hhosts, hport, hdatabase, hsslmode]

/-- The target that is made of parts is read back: who logs in whatever the host and the mode are, and the rest if the host
is plain. So other parts make another target. -/
theorem resolvedDatabaseUrl_readBack (h : s.IsFromParts) :
    (s.map Loose.ofString).target = .ok (.ofString s.resolvedDatabaseUrl) ∧
      ∃ login back, cutLogin? s.resolvedDatabaseUrl = some (login, back) ∧ IsLogin s login ∧
        (IsPlainHost s.pgHost → IsAddress s back ∧
          ∀ s' : Settings String, s'.IsFromParts → IsPlainHost s'.pgHost → s.parts ≠ s'.parts →
            s.resolvedDatabaseUrl ≠ s'.resolvedDatabaseUrl) := by
  refine ⟨target_map_ofString s, s.credentials, s.back, cutLogin?_resolvedDatabaseUrl h, isLogin_credentials s,
    fun hhost => ?_⟩
  refine ⟨isAddress_back hhost, fun s' h' hhost' hne heq => ?_⟩
  exact hne (parts_eq_of_resolvedDatabaseUrl_eq h h' hhost hhost' heq)

/-- Settings whose parts are full of delimiters, with a percent sign and characters of several bytes. -/
def delimited : Settings String where
  env := "development"
  databaseUrl := some " "
  pgHost := "db.internal"
  pgPort := 6432
  pgDatabase := "größe?/#"
  pgUser := "maint:a@b"
  pgPassword := some "p@ss/wörd:100%25"
  pgSslmode := "require"
  dryRun := false
  clonesRetentionMonths := 5
  logLevel := "INFO"
  logJson := true

theorem resolvedDatabaseUrl_delimited :
    delimited.IsFromParts ∧ IsPlainHost delimited.pgHost ∧
      ∃ login back, cutLogin? delimited.resolvedDatabaseUrl = some (login, back) ∧
        readLogin? login = some ("maint:a@b", some "p@ss/wörd:100%25") ∧
        cutAddress? back = some ⟨"db.internal", "6432", Percent.encode "größe?/#", "sslmode=require"⟩ := by
  have h : delimited.IsFromParts := ⟨by decide, by decide⟩
  have hhost : IsPlainHost "db.internal" := by
    simp [IsPlainHost]
  obtain ⟨-, login, back, hcut, hlogin, hplain⟩ := resolvedDatabaseUrl_readBack h
  exact ⟨h, hhost, login, back, hcut, hlogin.read, (hplain hhost).1.cut⟩

end Retention.Settings
