import HttpLayers.Adjustable
import HttpLayers.Http.Message
import HttpLayers.Text.Base64
import HttpLayers.Text.Split

namespace HttpLayers

open Http Text

abbrev CredentialCheck := String → String → Bool

namespace CredentialCheck

def table (users : List (String × String)) : CredentialCheck := fun user password =>
  users.lookup user == some password

def single (user password : String) : CredentialCheck :=
  table [(user,password)]

def user (name : String) : CredentialCheck := fun given _ =>
  given == name

end CredentialCheck

namespace BasicAuth

def defaultRealm : String := "Restricted"

end BasicAuth

structure BasicAuth where
  realm : String := BasicAuth.defaultRealm
  -- absent, only exempt paths pass
  validator : Option CredentialCheck := none
  exemptPaths : Option (List String) := none

namespace BasicAuth

inductive Setting where
  | realm (value : String)
  | validator (value : Option CredentialCheck)
  | exemptPaths (value : Option (List String))

def set (policy : BasicAuth) : Setting → BasicAuth
  | .realm value => { policy with realm := value }
  | .validator value => { policy with validator := value }
  | .exemptPaths value => { policy with exemptPaths := value }

def snapshot (policy : BasicAuth) : Snapshot where
  name := "BasicAuthConfig"
  fields :=
    [("realm",.text policy.realm),
     ("validator",.strategy policy.validator.isSome),
     ("exempt_paths",.optionalTexts policy.exemptPaths)]

instance : Adjustable BasicAuth Setting where
  initial := {}
  set := set
  snapshot := snapshot

-- Compared as a whole; a slash more or a letter's case makes another path.
def exempts (policy : BasicAuth) (path : String) : Bool :=
  isListed policy.exemptPaths path

-- The first colon ends the user, so a password may hold more of them.
def credentials? (request : Request) : Option (String × String) := do
  let value ← request.headers.text? (.of "authorization")
  let (scheme,encoded) ← splitOnce ' ' (trim value)
  guard (sameFolded scheme "basic".toList)
  let bytes ← Base64.decode (trim encoded)
  let decoded ← Bytes.toString? bytes
  let (user,password) ← splitOnce ':' decoded.toList
  return (String.ofList user,String.ofList password)

def isControl (c : Char) : Bool :=
  c.toNat < 32 || (127 ≤ c.toNat && c.toNat < 160)

-- A double quote would end the realm, and a control would make the header illegal.
def realmText (realm : String) : String :=
  String.ofList (realm.toList.map fun c => if c = '"' then '\'' else if isControl c then ' ' else c)

def challenge (realm : String) : String :=
  "Basic realm=\"" ++ realmText realm ++ "\""

def unauthorized (realm : String) : Response :=
  (Response.ofText 401
    "\x7b\"error\":\"unauthorized\",\"message\":\"Authentication required\"\x7d").withFields
      [("www-authenticate",challenge realm),("Content-Type","application/json")]

def accepts (policy : BasicAuth) (user password : String) : Bool :=
  policy.validator.any fun validate => validate user password

def admits (policy : BasicAuth) (request : Request) : Bool :=
  policy.exempts request.path ||
    (credentials? request).any fun credentials => policy.accepts credentials.1 credentials.2

def layer {m : Type → Type} [Pure m] (policy : BasicAuth) (inner : Service m) : Service m :=
  fun request =>
    if policy.admits request then inner request else pure (unauthorized policy.realm)

end BasicAuth

end HttpLayers
