import Retention.Settings.Basic

/-! # The settings cache

Settings are read once and kept until the cache is cleared. A failed reading leaves nothing behind.
-/

namespace Retention.Settings

inductive CacheAct where
  | set (name : String) (value : Text.Loose)
  | unset (name : String)
  | clear
  | get
  | fresh
  deriving DecidableEq, Repr

structure Cached where
  env : Environment
  kept : Option (Settings Text.Loose)
  deriving DecidableEq, Repr

namespace Cached

def start (env : Environment) : Cached := ⟨env, none⟩

def set (c : Cached) (name : String) (value : Text.Loose) : Cached := { c with env := c.env.set name value }

def unset (c : Cached) (name : String) : Cached := { c with env := c.env.unset name }

def clear (c : Cached) : Cached := { c with kept := none }

def fresh (c : Cached) : Except (List Problem) (Settings Text.Loose) :=
  ofEnvironment c.env

/-- The kept settings, or fresh ones, which are kept. -/
def get (c : Cached) : Except (List Problem) (Settings Text.Loose) × Cached :=
  match c.kept with
  | some s => (.ok s, c)
  | none =>
    match c.fresh with
    | .ok s => (.ok s, { c with kept := some s })
    | .error problems => (.error problems, c)

/-- The settings or problems that an act answers, if it asks for settings, and what it leaves. -/
def act (c : Cached) : CacheAct → Option (Except (List Problem) (Settings Text.Loose)) × Cached
  | .set name value => (none, c.set name value)
  | .unset name => (none, c.unset name)
  | .clear => (none, c.clear)
  | .get => (some c.get.1, c.get.2)
  | .fresh => (some c.fresh, c)

def after (c : Cached) (acts : List CacheAct) : Cached :=
  acts.foldl (fun c a => (c.act a).2) c

end Cached
end Retention.Settings
