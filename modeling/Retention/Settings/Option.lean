import Retention.Settings.Argument

/-! # Options of settings

Names with a low line in front that are given beside values where settings are made by hand. Some say how the environment
is looked up, some where else to look, some how arguments are read; the others change nothing.
-/

namespace Retention.Settings

def lookupOptions : List String :=
  ["_case_sensitive", "_env_prefix", "_env_prefix_target", "_env_ignore_empty", "_env_parse_none_str"]

def sourceOptions : List String :=
  ["_env_file", "_env_nested_max_split", "_secrets_dir", "_build_sources"]

def argumentOptions : List String :=
  ["_cli_parse_args", "_cli_prefix", "_cli_parse_none_str", "_cli_avoid_json", "_cli_exit_on_error", "_cli_implicit_flags",
    "_cli_ignore_unknown_args", "_cli_kebab_case"]

/-- The options that change nothing. -/
def otherOptions : List String :=
  ["_nested_model_default_partial_update", "_env_file_encoding", "_env_file_depth", "_env_nested_delimiter",
    "_env_parse_enums", "_cli_prog_name", "_cli_settings_source", "_cli_hide_none_type", "_cli_enforce_required",
    "_cli_use_class_docs_for_groups", "_cli_flag_prefix_char", "_cli_shortcuts", "_cli_show_env_vars"]

def isOption (name : String) : Bool :=
  [lookupOptions, sourceOptions, argumentOptions, otherOptions].any fun names => names.contains name

def optionValue (given : Given) (name : String) : Value :=
  ((given.find? (·.1 == name)).map (·.2)).getD .null

def optionText? (given : Given) (name : String) : Option String :=
  match optionValue given name with
  | .text s => some s
  | _ => none

/-- Whether an option holds; one that is not given does if the option usually does. -/
def optionHolds (given : Given) (name : String) (usual : Bool) : Bool :=
  match optionValue given name with
  | .null => usual
  | v => v.holds

/-- The settings whose names get something in front in the environment. -/
inductive FrontTarget where
  | single
  | several
  | all
  | nothing
  deriving DecidableEq, Repr

namespace FrontTarget

def ofValue : Value → FrontTarget
  | .null | .text "variable" => .single
  | .text "alias" => .several
  | .text "all" => .all
  | _ => .nothing

def isSingle (target : FrontTarget) : Bool :=
  target = .single ∨ target = .all

def isSeveral (target : FrontTarget) : Bool :=
  target = .several ∨ target = .all

def first? (target : FrontTarget) : Option Field :=
  Field.all.find? fun field => if field.keys.length = 1 then target.isSingle else target.isSeveral

end FrontTarget

def frontTarget (given : Given) : FrontTarget :=
  .ofValue (optionValue given "_env_prefix_target")

def Lookup.ofGiven (given : Given) : Lookup :=
  let front := (optionText? given "_env_prefix").getD ""
  { front := if (frontTarget given).isSingle then front else ""
    severalFront := if (frontTarget given).isSeveral then front else ""
    isExact := optionHolds given "_case_sensitive" false
    skipsEmpty := optionHolds given "_env_ignore_empty" false
    nullText := optionText? given "_env_parse_none_str" }

/-- The text that stands for no value in arguments: the one of the environment, unless it is empty, else their own. -/
def argumentNullText (given : Given) : Option String :=
  let avoidsJson := match optionValue given "_cli_avoid_json" with
    | .bool b => b
    | _ => false
  if optionHolds given "_env_parse_none_str" false then optionText? given "_env_parse_none_str"
  else if optionHolds given "_cli_parse_none_str" false then optionText? given "_cli_parse_none_str"
  else some (if avoidsJson then "None" else "null")

def ArgumentRules.ofGiven (given : Given) : ArgumentRules :=
  let front := (optionText? given "_cli_prefix").getD ""
  { front := if front.isEmpty then "" else front ++ "."
    isDashed := optionHolds given "_cli_kebab_case" false
    isExact := optionHolds given "_case_sensitive" false
    hasSwitches := optionHolds given "_cli_implicit_flags" false
    skipsUnknown := optionHolds given "_cli_ignore_unknown_args" false
    nullText := argumentNullText given }

end Retention.Settings
