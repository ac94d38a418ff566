import Retention.Fault
import Retention.Settings.Basic
import Retention.Text.Front
import Retention.Text.Quoted

/-! # Settings from arguments

A list of arguments names settings behind dashes. A value stands behind an equals sign or is the next argument, and the last
value of a setting counts. Arguments that name nothing are collected; all behind a lone pair of dashes are.
-/

namespace Retention.Settings

open Text

/-- How arguments are read: what stands before the names of settings, whether names are spelled with dashes in place of low
lines, whether letter case matters, whether truth values are switches, whether unknown arguments are passed over, and the
text that stands for no value. -/
structure ArgumentRules where
  front : String
  isDashed : Bool
  isExact : Bool
  hasSwitches : Bool
  skipsUnknown : Bool
  nullText : Option String
  deriving DecidableEq, Repr

/-- What a flag asks for: the help text, a value or a truth value. -/
inductive FlagUse where
  | help
  | value (field : Field)
  | switch (field : Field)
  deriving DecidableEq, Repr

structure Flag where
  names : List String
  use : FlagUse
  deriving DecidableEq, Repr

inductive BadArguments where
  | help
  | noValue (flag : Flag)
  | needlessValue (flag : Flag) (value : String)
  | unknown (arguments : List String)
  | noText (mishap : Mishap)
  deriving DecidableEq, Repr

namespace Flag

/-- What stands before the name of a switch that is turned off. -/
def offFront : String := "no-"

def help : Flag := ⟨["-h", "--help"], .help⟩

def ofField (rules : ArgumentRules) (field : Field) : Flag :=
  let spelled (key : String) :=
    let name := rules.front ++ key
    if rules.isDashed then String.ofList (name.toList.map fun c => if c = '_' then '-' else c) else name
  let names := field.keys.map spelled
  if rules.hasSwitches && [Field.dryRun, Field.logJson].contains field then
    ⟨names.map ("--" ++ ·) ++ names.map ("--" ++ offFront ++ ·), .switch field⟩
  else ⟨names.map ("--" ++ ·), .value field⟩

def all (rules : ArgumentRules) : List Flag :=
  help :: Field.all.map (ofField rules)

def text (flag : Flag) : String :=
  "/".intercalate flag.names

end Flag

/-- What an argument is by itself: a flag, with the value behind its equals sign, the short flag for help with letters at
once behind it, a value, or neither. -/
inductive Argument where
  | flag (flag : Flag) (name : String) (value : Option String)
  | letters (rest : List Char)
  | plain
  | unknown
  deriving DecidableEq, Repr

namespace Argument

/-- A minus sign and digits, with a point at most. -/
def isNegative (cs : List Char) : Bool :=
  match cs with
  | '-' :: rest =>
    let fraction := rest.dropWhile fun c => (digit? c).isSome
    !rest.isEmpty && (fraction.isEmpty ||
      (fraction.head? == some '.' && 1 < fraction.length && (fraction.drop 1).all fun c => (digit? c).isSome))
  | _ => false

def behindShort? : List Char → Option (List Char)
  | '-' :: 'h' :: rest => some rest
  | _ => none

/-- The kind of an argument. A flag stands alone or before an equals sign; a negative number and what holds a space are
values. -/
def classify (flags : List Flag) (argument : String) : Argument :=
  let named? (name : String) : Option Flag := flags.find? fun flag => flag.names.contains name
  let whole := (named? argument).map fun flag => Argument.flag flag argument none
  let split := (cutAt? (· == '=') argument.toList).bind fun (name, _, value) =>
    (named? (String.ofList name)).map fun flag => Argument.flag flag (String.ofList name) (some (String.ofList value))
  let short := (behindShort? argument.toList).map Argument.letters
  if argument.toList.head? ≠ some '-' ∨ argument = "-" then .plain
  else ((whole.or split).or short).getD
    (if isNegative argument.toList || argument.toList.contains ' ' then .plain else .unknown)

end Argument

/-- What arguments say: values of settings in order, and the arguments that name nothing. -/
structure Arguments where
  values : Given
  unknown : List String

namespace Arguments

def withUnknown (argument : String) (as : Arguments) : Arguments :=
  { as with unknown := argument :: as.unknown }

/-- The name under which a setting is found again. Before settings with several names nothing may stand. -/
def keyOf (rules : ArgumentRules) (field : Field) : Option String :=
  if rules.front.isEmpty || field.keys.length = 1 then some field.name else none

def valueOf (rules : ArgumentRules) (text : String) : Value :=
  if rules.nullText = some text then .null else .text text

def withValue (rules : ArgumentRules) (field : Field) (value : Value) (as : Arguments) : Arguments :=
  match keyOf rules field with
  | some key => { as with values := (key, value) :: as.values }
  | none => as

/-- Letters behind the short flag for help may repeat it, and others do not matter. -/
def behindHelp (letters : List Char) : BadArguments :=
  match letters.dropWhile (· == 'h') with
  | '=' :: rest => .needlessValue .help (String.ofList rest)
  | '-' :: rest => .needlessValue .help (String.ofList ('-' :: rest))
  | _ => .help

def read (rules : ArgumentRules) (flags : List Flag) : List String → Except BadArguments Arguments
  | [] => .ok ⟨[], []⟩
  | "--" :: rest => .ok ⟨[], "--" :: rest⟩
  | argument :: rest =>
    match Argument.classify flags argument with
    | .plain | .unknown => (read rules flags rest).map (withUnknown argument)
    | .letters letters => .error (behindHelp letters)
    | .flag flag name value =>
      match flag.use, value with
      | .help, none => .error .help
      | .help, some value | .switch _, some value => .error (.needlessValue flag value)
      | .switch field, none =>
        let isOn := (dropFront? ("--" ++ Flag.offFront).toList name.toList).isNone
        (read rules flags rest).map (withValue rules field (.bool isOn))
      | .value field, some value => (read rules flags rest).map (withValue rules field (valueOf rules value))
      | .value field, none =>
        match rest with
        | [] => .error (.noValue flag)
        | value :: rest =>
          if value ≠ "--" ∧ Argument.classify flags value = .plain then
            (read rules flags rest).map (withValue rules field (valueOf rules value))
          else .error (.noValue flag)

/-- An argument whose flag is written in lower case, which drops what follows its line. -/
def folded (argument : String) : String :=
  let isEnd (c : Char) := isSpacing c || c == '='
  let front := argument.toList.takeWhile fun c => !isEnd c
  let back := argument.toList.dropWhile fun c => !isEnd c
  if front.head? = some '-' ∧ 1 < front.length then
    lower (String.ofList front) ++ String.ofList (back.takeWhile (· != '\n'))
  else argument

/-- The text of an argument; what does not hold is empty. -/
def textOf (v : Value) : Except Mishap String :=
  match v with
  | .text s => .ok s
  | v =>
    if !v.holds then .ok ""
    else
      match v with
      | .bytes _ => .error ⟨.type, "cannot use a string pattern on a bytes-like object"⟩
      | v => .error ⟨.type, "expected string or bytes-like object, got '" ++ v.typeName ++ "'"⟩

/-- The values that arguments give, the last value of a setting first. -/
def valuesOf (rules : ArgumentRules) (items : List Value) : Except BadArguments Given := do
  let texts ← (items.mapM textOf).mapError .noText
  let as ← read rules (Flag.all rules) (if rules.isExact then texts else texts.map folded)
  if !as.unknown.isEmpty && !rules.skipsUnknown then throw (.unknown as.unknown)
  return as.values.reverse

end Arguments

namespace BadArguments

/-- A wrong use of arguments ends the process, unless it is to be reported. -/
def wrongUse (endsProcess : Bool) (text : String) : Mishap :=
  if endsProcess then ⟨.exit, "2"⟩ else ⟨.settings, "error parsing CLI: " ++ text⟩

def toMishap (endsProcess : Bool) : BadArguments → Mishap
  | .help => ⟨.exit, "0"⟩
  | .noValue flag => wrongUse endsProcess ("argument " ++ flag.text ++ ": expected one argument")
  | .needlessValue flag value =>
    wrongUse endsProcess ("argument " ++ flag.text ++ ": ignored explicit argument " ++ Quoted.text value)
  | .unknown arguments => wrongUse endsProcess ("unrecognized arguments: " ++ " ".intercalate arguments)
  | .noText mishap => mishap

end BadArguments
end Retention.Settings
