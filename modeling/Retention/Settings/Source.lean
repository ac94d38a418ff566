import Retention.Settings.Option
import Retention.Text.Word

/-! # Sources of settings

The process reads its environment alone. Settings that are made by hand come from arguments, given values and the
environment, in this order. The options of all sources are looked at before any source is read, and no file is ever found.
Sources that are built elsewhere replace all of them.
-/

namespace Retention.Settings

/-- The name of the settings under construction, which is no name for a value. -/
def ownName : String := "__pydantic_self__"

inductive Refusal where
  | mishap (mishap : Mishap)
  | problems (problems : List Problem)
  deriving Repr

namespace Refusal

def typeMishap (text : String) : Mishap :=
  ⟨.type, text⟩

def ownNameGiven : Mishap :=
  typeMishap ("BaseSettings.__init__() got multiple values for argument '" ++ ownName ++ "'")

def notIterable (v : Value) : Mishap :=
  typeMishap ("'" ++ v.typeName ++ "' object is not iterable")

end Refusal

def firstError (checks : List (Option Mishap)) : Except Mishap Unit :=
  match checks.findSome? id with
  | some mishap => .error mishap
  | none => .ok ()

/-! ## Sources built elsewhere -/

/-- What is wrong with sources in a row: none can be called. -/
def sourcesMishap? (sources : Value) : Option Mishap :=
  if !sources.holds then none
  else
    match sources.items? with
    | none => some (Refusal.notIterable sources)
    | some items => items.head?.map fun item => Refusal.typeMishap ("'" ++ item.typeName ++ "' object is not callable")

def builtMishap? (built : Value) : Option Mishap :=
  match built.items? with
  | none => some (Refusal.typeMishap ("cannot unpack non-iterable " ++ built.typeName ++ " object"))
  | some [sources, _] => sourcesMishap? sources
  | some items =>
    if items.length < 2 then
      some ⟨.value, "not enough values to unpack (expected 2, got " ++ toString items.length ++ ")"⟩
    else some ⟨.value, "too many values to unpack (expected 2)"⟩

/-! ## The environment and files -/

/-- One is taken from a limit that holds, which therefore has to be a number. -/
def limitMishap? (limit : Value) : Option Mishap :=
  if !limit.holds || limit.toInt?.isSome then none
  else
    match limit with
    | .float _ | .decimal _ => none
    | v => some (Refusal.typeMishap ("unsupported operand type(s) for -: '" ++ v.typeName ++ "' and 'int'"))

def frontLengthMishap? : Value → Option Mishap
  | .null => none
  | v => if v.items?.isSome then none else some (Refusal.typeMishap ("object of type '" ++ v.typeName ++ "' has no len()"))

def frontMishap? (target : FrontTarget) (front : Value) : Option Mishap :=
  match front with
  | .null | .text _ => none
  | _ => target.first?.map fun field =>
    ⟨.settings, "error getting value for field \"" ++ field.name ++ "\" from source \"EnvSettingsSource\""⟩

/-- The users whose home directories are known; without a name it is the own one. -/
def usersWithHome : List String :=
  ["", "root", "daemon", "bin", "sys", "sync", "games", "man", "lp", "mail", "news", "uucp", "proxy", "www-data", "backup",
    "list", "irc", "_apt", "nobody"]

/-- A path starts in the home directory of a user who has none. -/
def isHomeless (path : List Char) : Bool :=
  match path with
  | '/' :: _ => false
  | path =>
    match (Text.splitOn '/' path).find? fun part => part ≠ [] ∧ part ≠ ['.'] with
    | some ('~' :: user) => !usersWithHome.contains (String.ofList user)
    | _ => false

def pathMishap? : Value → Option Mishap
  | .text s => if isHomeless s.toList then some ⟨.runtime, "Could not determine home directory."⟩ else none
  | .bytes _ => some (Refusal.typeMishap
      "argument should be a str object or an os.PathLike object returning str, not <class 'bytes'>")
  | v => some (Refusal.typeMishap ("expected str, bytes or os.PathLike object, not " ++ v.typeName))

def pathsMishap? (paths : Value) : Option Mishap :=
  match paths, paths.items? with
  | .null, _ => none
  | .text s, _ => pathMishap? (.text s)
  | _, some items => items.findSome? pathMishap?
  | v, none => some (Refusal.notIterable v)

/-! ## Arguments -/

/-- A front of flags is a name that may have points within. -/
def isFlagFront (front : String) : Bool :=
  let cs := front.toList
  let name := cs.filter (· != '.')
  cs.head? != some '.' && cs.getLast? != some '.' && name.all Text.isWord &&
    name.head?.any fun c => (Text.digit? c).isNone

def flagFrontMishap? (front : Value) : Option Mishap :=
  match front, front.holds with
  | _, false => frontLengthMishap? front
  | .text s, true => if isFlagFront s then none else some ⟨.settings, "CLI settings source prefix is invalid: " ++ s⟩
  | .bytes _, true => some (Refusal.typeMishap "startswith first arg must be bytes or a tuple of bytes, not str")
  | v, true => some ⟨.attribute, "'" ++ v.typeName ++ "' object has no attribute 'startswith'"⟩

/-- The values that arguments give under the options. No arguments are those of this process, which has none. -/
def argumentValues (given : Given) : Except Mishap Given := do
  let asked := optionValue given "_cli_parse_args"
  if let .null := asked then return []
  firstError [flagFrontMishap? (optionValue given "_cli_prefix")]
  if asked.toInt? = some 0 then return []
  match asked with
  | .bool _ => return []
  | .list items =>
    (Arguments.valuesOf (.ofGiven given) items).mapError
      (BadArguments.toMishap (optionHolds given "_cli_exit_on_error" true))
  | v => throw ⟨.settings, "cli_parse_args must be a list or tuple of strings, received <class '" ++ v.typeName ++ "'>"⟩

/-! ## All sources -/

def checkedArguments (given : Given) : Except Mishap Given := do
  let front := optionValue given "_env_prefix"
  firstError [limitMishap? (optionValue given "_env_nested_max_split"), frontLengthMishap? front,
    pathsMishap? (optionValue given "_env_file")]
  let values ← argumentValues given
  firstError [frontMishap? (frontTarget given) front, pathsMishap? (optionValue given "_secrets_dir")]
  return values

/-- The settings that an environment, given options and given values make. -/
def ofGiven (env : Environment) (given : Given) : Except Refusal (Settings Text.Loose) := do
  if given.any (·.1 == ownName) then throw (.mishap Refusal.ownNameGiven)
  match optionValue given "_build_sources" with
  | .null =>
    let values ← (checkedArguments given).mapError .mishap
    (read (.ofGiven given) env (values ++ given.filter (!isOption ·.1))).mapError .problems
  | built =>
    (firstError [builtMishap? built]).mapError .mishap
    (read .usual .empty []).mapError .problems

end Retention.Settings
