import HttpLayers.Adjustable
import HttpLayers.ClientLocator
import HttpLayers.Net.Cidr

-- No list trusts every proxy; a list without one readable range trusts nobody.

namespace HttpLayers

open Http Net Text

structure RealIp where
  locator : Option ClientLocator := some .standard
  trustedProxies : Option (List String) := none

namespace RealIp

inductive Setting where
  | locator (value : Option ClientLocator)
  | trustedProxies (value : Option (List String))

def set (policy : RealIp) : Setting → RealIp
  | .locator value => { policy with locator := value }
  | .trustedProxies value => { policy with trustedProxies := value }

def snapshot (policy : RealIp) : Snapshot where
  name := "RealIpConfig"
  fields :=
    [("extractor",.strategy policy.locator.isSome),
     ("trusted_proxies",.optionalTexts policy.trustedProxies)]

instance : Adjustable RealIp Setting where
  initial := {}
  set := set
  snapshot := snapshot

def client? (policy : RealIp) (request : Request) : Option String :=
  policy.locator.map fun locate => locate request

inductive Trusted where
  | everyone
  | ranges (cidrs : List Cidr)
  deriving DecidableEq, Repr

-- An unreadable entry neither adds nor removes anything.
def trusted (policy : RealIp) : Trusted :=
  match policy.trustedProxies with
  | none => .everyone
  | some entries => .ranges (entries.filterMap fun entry => Cidr.ofText? entry.toList)

namespace Trusted

def members : Trusted → List Cidr
  | everyone => []
  | ranges cidrs => cidrs

def trusts : Trusted → String → Bool
  | everyone,_ => true
  | ranges cidrs,ip =>
    match IpAddress.ofText? (trim ip.toList) with
    | some address => cidrs.any fun range => range.contains address
    | none => false

end Trusted

def trusts (policy : RealIp) (ip : String) : Bool :=
  policy.trusted.trusts ip

end RealIp

end HttpLayers
