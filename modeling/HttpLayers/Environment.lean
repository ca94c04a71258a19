import HttpLayers.SettingsError
import HttpLayers.Duration
import HttpLayers.Text.Integer
import HttpLayers.Text.Split

-- A variable whose value is blank counts as not set.

namespace HttpLayers

open Text

abbrev Environment := String → Option String

namespace Environment

def ofTable (rows : List (String × String)) : Environment := fun name =>
  rows.lookup name

-- Rows fill in variables that are not set. One that is set to the empty text is set.
def orElse (env : Environment) (rows : List (String × String)) : Environment := fun name =>
  (env name).or (rows.lookup name)

def get? (env : Environment) (name : String) : Option (List Char) :=
  ((env name).map fun value => trim value.toList).filter fun value => !value.isEmpty

def text? (env : Environment) (name : String) : Option String :=
  (env.get? name).map String.ofList

def read? {α : Type} (env : Environment) (name : String) (reader : List Char → Except String α) :
    Except SettingsError (Option α) :=
  match env.get? name with
  | none => .ok none
  | some value => ((reader value).mapError (.unreadable name)).map some

def natural? (env : Environment) (most : Nat) (name : String) : Except SettingsError (Option Nat) :=
  env.read? name fun value => (Integer.natural most value).mapError Integer.Fault.message

def integer? (env : Environment) (name : String) : Except SettingsError (Option Int) :=
  env.read? name fun value => (Integer.signed64 value).mapError Integer.Fault.message

def seconds? (env : Environment) (name : String) : Except SettingsError (Option Duration) :=
  env.read? name fun value =>
    ((Integer.natural64 value).mapError Integer.Fault.message).map fun n => .seconds n.toUInt64

-- Commas alone make the empty list, which is not the same as none.
def list? (env : Environment) (name : String) : Option (List String) :=
  (env.get? name).map fun value => (entries value).map String.ofList

end Environment

end HttpLayers
