import Retention.Proofs.Log.StandIn
import Retention.Proofs.Settings.Agreement
import Retention.Proofs.Text.Percent
import Retention.Settings.Target

/-! # The password in the target

In the URL that is made of parts the password stands behind a scheme and a user name and is percent-
encoded, so redaction finds it whatever the parts are. A URL that is given holds nothing of it. A password that cannot be
encoded makes no target, and where in it the first surrogates stand can be told from the failure.
-/

namespace Retention.Settings

open Log Text Text.Loose

section Plain

def map {τ υ : Type} (f : τ → υ) (s : Settings τ) : Settings υ where
  env := f s.env
  databaseUrl := s.databaseUrl.map f
  pgHost := f s.pgHost
  pgPort := s.pgPort
  pgDatabase := f s.pgDatabase
  pgUser := f s.pgUser
  pgPassword := s.pgPassword.map f
  pgSslmode := f s.pgSslmode
  dryRun := s.dryRun
  clonesRetentionMonths := s.clonesRetentionMonths
  logLevel := f s.logLevel
  logJson := s.logJson

def credentials (s : Settings String) : String :=
  login s.pgUser (s.pgPassword.getD "")

/-- What stands behind the at sign in the URL from parts. -/
def back (s : Settings String) : String :=
  s.pgHost ++ ":" ++ toString s.pgPort ++ "/" ++ Percent.encode s.pgDatabase ++ "?sslmode=" ++ s.pgSslmode

def urlOfParts (s : Settings String) : String :=
  "postgresql+psycopg://" ++ (s.credentials ++ ("@" ++ s.back))

/-- The target of settings that can be encoded. -/
def resolvedDatabaseUrl (s : Settings String) : String :=
  let url := Text.strip (s.databaseUrl.getD "")
  if !url.isEmpty then url
  else if isBlankText s.pgHost then ""
  else s.urlOfParts

theorem urlOfParts_eq (s : Settings String) : s.urlOfParts = "postgresql+psycopg://" ++ (s.credentials ++ ("@" ++ s.back)) :=
  rfl

theorem targetOfParts_of_plain {s : Settings Loose} {user password database : String} (huser : s.pgUser = ofString user)
    (hpassword : s.pgPassword.getD (ofString "") = ofString password) (hdatabase : s.pgDatabase = ofString database) :
    s.targetOfParts =
      .ok (ofString ("postgresql+psycopg://" ++ login user password ++ "@") ++ s.address database) := by
  simp only [targetOfParts, huser, hpassword, hdatabase, plain_ofString, bind, Except.bind, pure, Except.pure,
    ofString_append]

theorem address_map_ofString (s : Settings String) : (s.map ofString).address s.pgDatabase = ofString s.back := by
  simp only [address, back, map, ofString_append]

theorem targetOfParts_map_ofString (s : Settings String) :
    (s.map ofString).targetOfParts = .ok (ofString s.urlOfParts) := by
  have hpassword : (s.map ofString).pgPassword.getD (ofString "") = ofString (s.pgPassword.getD "") := by
    rw [map]
    cases s.pgPassword <;> rfl
  have huser : (s.map ofString).pgUser = ofString s.pgUser := rfl
  have hdatabase : (s.map ofString).pgDatabase = ofString s.pgDatabase := rfl
  have hurl : "postgresql+psycopg://" ++ login s.pgUser (s.pgPassword.getD "") ++ "@" ++ s.back = s.urlOfParts := by
    unfold urlOfParts credentials
    simp only [String.append_assoc]
  rw [targetOfParts_of_plain huser hpassword hdatabase, address_map_ofString, ← ofString_append, hurl]

theorem target_map_ofString (s : Settings String) : (s.map ofString).target = .ok (ofString s.resolvedDatabaseUrl) := by
  have hurl : (s.map ofString).databaseUrl.getD (ofString "") = ofString (s.databaseUrl.getD "") := by
    rw [map]
    cases s.databaseUrl <;> rfl
  have hhost : (s.map ofString).pgHost = ofString s.pgHost := rfl
  rw [target, hurl, hhost, strip_ofString, isEmpty_ofString, isBlank_ofString, targetOfParts_map_ofString,
    resolvedDatabaseUrl]
  split
  · rfl
  · split <;> rfl

theorem targetOfParts_eq_ok_iff {s : Settings Loose} {url : Loose} :
    s.targetOfParts = .ok url ↔ ∃ user password database, s.pgUser = ofString user ∧
      s.pgPassword.getD (ofString "") = ofString password ∧ s.pgDatabase = ofString database ∧
        url = ofString ("postgresql+psycopg://" ++ login user password ++ "@") ++ s.address database := by
  constructor
  · intro h
    rw [targetOfParts] at h
    cases huser : s.pgUser.plain with
    | error u => rw [huser] at h; cases h
    | ok user =>
      cases hpassword : (s.pgPassword.getD (ofString "")).plain with
      | error u => rw [huser, hpassword] at h; cases h
      | ok password =>
        cases hdatabase : s.pgDatabase.plain with
        | error u => rw [huser, hpassword, hdatabase] at h; cases h
        | ok database =>
          rw [huser, hpassword, hdatabase] at h
          refine ⟨user, password, database, plain_eq_ok_iff.mp huser, plain_eq_ok_iff.mp hpassword,
            plain_eq_ok_iff.mp hdatabase, ?_⟩
          rw [← Except.ok.inj h, ofString_append, ofString_append]
  · rintro ⟨user, password, database, huser, hpassword, hdatabase, rfl⟩
    exact targetOfParts_of_plain huser hpassword hdatabase

theorem isEmpty_login (user password : String) (rest : Loose) :
    (ofString ("postgresql+psycopg://" ++ login user password ++ "@") ++ rest).isEmpty = false := by
  have hscheme : "postgresql+psycopg://".toList = 'p' :: "ostgresql+psycopg://".toList := by
    simp only [String.reduceToList]
  rw [isEmpty, symbols_append, symbols_ofString, String.toList_append, String.toList_append, hscheme]
  rfl

end Plain

section Password

theorem isUserChar_of_isEncoded {c : Char} (h : Percent.isEncoded c = true) : isUserChar c = true :=
  Percent.forall_encoded (by decide +kernel) h

theorem isPasswordChar_of_isEncoded {c : Char} (h : Percent.isEncoded c = true) :
    isPasswordChar c = true :=
  Percent.forall_encoded (by decide +kernel) h

/-- What stands before the colon of the password in the URL from parts. -/
def front (user : String) : Front where
  first := 'p'
  scheme := "ostgresql+psycopg".toList
  user := (Percent.encode user).toList
  isSchemeStart_first := by decide
  isSchemeChar_scheme := List.all_eq_true.mp (by decide)
  isUserChar_user _ h := isUserChar_of_isEncoded (Percent.isEncoded_of_mem_encode h)

variable {s : Settings Loose} {user password : String} {p p' : Loose}

theorem toList_login (hp : password ≠ "") :
    ("postgresql+psycopg://" ++ login user password ++ "@").toList =
      (front user).chars ++ ':' :: (Percent.encode password).toList ++ ['@'] := by
  have hscheme : "postgresql+psycopg://".toList = 'p' :: "ostgresql+psycopg".toList ++ [':', '/', '/'] := by
    simp only [String.reduceToList, List.cons_append, List.nil_append]
  have hcolon : ":".toList = [':'] := by simp only [String.reduceToList]
  have hat : "@".toList = ['@'] := by simp only [String.reduceToList]
  have hlogin : login user password = Percent.encode user ++ (":" ++ Percent.encode password) := by
    have hne : ¬ (password.isEmpty = true) := by simpa using hp
    exact congrArg (Percent.encode user ++ ·) (if_neg hne)
  rw [hlogin]
  simp only [front, Front.chars, String.toList_append, hscheme, hcolon, hat, List.append_assoc, List.cons_append,
    List.nil_append]

/-- What redaction leaves of a URL from parts. -/
theorem map_redactLoose_login {g : Symbol → Char} (hg : IsStandIn g) (hp : password ≠ "") (rest : Loose) :
    (redactLoose (ofString ("postgresql+psycopg://" ++ login user password ++ "@") ++ rest)).symbols.map g =
      (front user).chars ++ ':' :: redactedMark ++ '@' :: redactChars (rest.symbols.map g) := by
  rw [redactLoose, map_redactSymbols hg, symbols_append, List.map_append, symbols_ofString, hg.map_char, toList_login hp,
    List.append_assoc, List.singleton_append, redactChars_front _ (Percent.toList_encode_ne_nil hp)]
  exact fun c hc => isPasswordChar_of_isEncoded (Percent.isEncoded_of_mem_encode hc)

/-- The same targets or failures, or targets of which redaction leaves the same. -/
inductive SameMasked : Except Unencodable Loose → Except Unencodable Loose → Prop
  | same (r) : SameMasked r r
  | masked {t t' : Loose} (ht : t.isEmpty = false) (ht' : t'.isEmpty = false)
      (hvalue : ∀ name?, redactValue name? t = redactValue name? t') : SameMasked (.ok t) (.ok t')

theorem sameMasked_login {password' : String} (hp : password ≠ "") (hp' : password' ≠ "") (rest : Loose) :
    SameMasked (.ok (ofString ("postgresql+psycopg://" ++ login user password ++ "@") ++ rest))
      (.ok (ofString ("postgresql+psycopg://" ++ login user password' ++ "@") ++ rest)) := by
  refine .masked (isEmpty_login ..) (isEmpty_login ..) (redactValue_ofLoose_of_eq ?_ ?_)
  · refine congrArg Loose.mk (eq_of_forall_map fun g hg => ?_)
    exact (map_redactLoose_login hg hp rest).trans (map_redactLoose_login hg hp' rest).symm
  · rw [isSome_unencodable?_append, isSome_unencodable?_append]

/-- Passwords that can be encoded or fail alike make the same targets but for what is masked. -/
theorem sameMasked_targetOfParts (hp : p.isEmpty = false) (hp' : p'.isEmpty = false)
    (hsame : p.unencodable? = p'.unencodable?) :
    SameMasked (s.withPassword p).targetOfParts (s.withPassword p').targetOfParts := by
  have hfields : ∀ q, (s.withPassword q).pgUser = s.pgUser ∧ (s.withPassword q).pgDatabase = s.pgDatabase ∧
      (s.withPassword q).pgPassword.getD (ofString "") = q := fun q => ⟨rfl, rfl, rfl⟩
  cases hu : p.unencodable? with
  | some u =>
    have hfails : ∀ q : Loose, q.unencodable? = some u → q.plain = .error u := fun q hq => by rw [plain, hq]
    simp only [targetOfParts, hfields, hfails p hu, hfails p' (hsame ▸ hu), bind, Except.bind]
    exact .same _
  | none =>
    obtain ⟨q, rfl⟩ := exists_ofString hu
    obtain ⟨q', rfl⟩ := exists_ofString (hsame ▸ hu)
    rw [isEmpty_ofString, String.isEmpty_eq_false_iff] at hp hp'
    cases huser : s.pgUser.plain with
    | error u =>
      simp only [targetOfParts, hfields, huser, bind, Except.bind]
      exact .same _
    | ok user =>
      cases hdatabase : s.pgDatabase.plain with
      | error u =>
        simp only [targetOfParts, hfields, huser, hdatabase, plain_ofString, bind, Except.bind]
        exact .same _
      | ok database =>
        have hurl : ∀ t, (s.withPassword (ofString t)).targetOfParts =
            .ok (ofString ("postgresql+psycopg://" ++ login user t ++ "@") ++ s.address database) := fun t =>
          targetOfParts_of_plain (s := s.withPassword (ofString t)) (plain_eq_ok_iff.mp huser) rfl
            (plain_eq_ok_iff.mp hdatabase)
        rw [hurl, hurl]
        exact sameMasked_login hp hp' _

theorem sameMasked_target (hp : p.isEmpty = false) (hp' : p'.isEmpty = false)
    (hsame : p.unencodable? = p'.unencodable?) :
    SameMasked (s.withPassword p).target (s.withPassword p').target := by
  have hurl : ∀ q, (s.withPassword q).databaseUrl = s.databaseUrl ∧ (s.withPassword q).pgHost = s.pgHost :=
    fun q => ⟨rfl, rfl⟩
  simp only [target, hurl]
  split
  · exact .same _
  · split
    · exact .same _
    · exact sameMasked_targetOfParts hp hp' hsame

theorem validate_withPassword (h : SameMasked (s.withPassword p).target (s.withPassword p').target) :
    (s.withPassword p).validate = (s.withPassword p').validate := by
  have hother : ∀ q, (s.withPassword q).clonesRetentionMonths = s.clonesRetentionMonths ∧
      (s.withPassword q).logLevel = s.logLevel := fun q => ⟨rfl, rfl⟩
  simp only [validate, hother]
  generalize (s.withPassword p).target = r, (s.withPassword p').target = r' at h
  cases h with
  | same => rfl
  | masked ht ht' =>
    simp only [mapError_ok, bind, Except.bind, ht, ht']

/-- What redaction leaves of the target does not depend on the password. -/
theorem redactValue_target (h : SameMasked (s.withPassword p).target (s.withPassword p').target) (name? : Option String) :
    redactValue name? (s.withPassword p).url = redactValue name? (s.withPassword p').url := by
  rw [url, url]
  generalize (s.withPassword p).target = r, (s.withPassword p').target = r' at h
  cases h with
  | same => rfl
  | masked _ _ hvalue => exact hvalue name?

end Password

end Retention.Settings
