import HttpLayers.Adjustable
import HttpLayers.SettingsError
import HttpLayers.Text.Fold
import HttpLayers.Text.Split

namespace HttpLayers

open Text

namespace TrailingSlash

inductive Action where
  | redirect
  | substitute
  deriving DecidableEq, Repr

namespace Action

instance : Choice Action where
  all := [redirect,substitute]
  name
    | redirect => "redirect"
    | substitute => "rewrite"
  title
    | redirect => "Redirect"
    | substitute => "Rewrite"

def ofText (s : List Char) : Except SettingsError Action :=
  let name := String.ofList (lower (trim s))
  match Choice.ofName? name with
  | some action => .ok action
  | none => .error (.unreadable "trailing slash action"
      ("unknown action '" ++ name ++ "', expected redirect or rewrite"))

end Action

end TrailingSlash

structure TrailingSlash where
  action : TrailingSlash.Action := .redirect
  preferTrailingSlash : Bool := false
  redirectCode : UInt16 := 301

namespace TrailingSlash

inductive Setting where
  | action (value : Action)
  | preferTrailingSlash (value : Bool)
  | redirectCode (value : UInt16)

def set (policy : TrailingSlash) : Setting → TrailingSlash
  | .action value => { policy with action := value }
  | .preferTrailingSlash value => { policy with preferTrailingSlash := value }
  | .redirectCode value => { policy with redirectCode := value }

def snapshot (policy : TrailingSlash) : Snapshot where
  name := "TrailingSlashConfig"
  fields :=
    [("action",.ofChoice policy.action),
     ("prefer_trailing_slash",.flag policy.preferTrailingSlash),
     ("redirect_code",.ofCode policy.redirectCode)]

instance : Adjustable TrailingSlash Setting where
  initial := {}
  set := set
  snapshot := snapshot

-- A path of nothing but slashes is the root.
def withoutSlash (path : List Char) : List Char :=
  match dropEndWhile (· == '/') path with
  | [] => ['/']
  | kept => kept

-- The empty path and the root stay.
def preferred? (policy : TrailingSlash) (path : List Char) : Option (List Char) :=
  if path = [] ∨ path = ['/'] then none
  else
    match policy.preferTrailingSlash,path.getLast? == some '/' with
    | true,false => some (path ++ ['/'])
    | false,true => some (withoutSlash path)
    | _,_ => none

end TrailingSlash

end HttpLayers
