import HttpLayers.Adjustable
import HttpLayers.Http.HeaderPatch

namespace HttpLayers

open Http

structure SetHeader where
  headers : Option (List (String × String)) := none
  overwrite : Bool := true

namespace SetHeader

inductive Setting where
  | headers (value : Option (List (String × String)))
  | overwrite (value : Bool)

def set (policy : SetHeader) : Setting → SetHeader
  | .headers value => { policy with headers := value }
  | .overwrite value => { policy with overwrite := value }

def snapshot (policy : SetHeader) : Snapshot where
  name := "SetHeaderConfig"
  fields :=
    [("headers",.optionalTable policy.headers),
     ("overwrite",.flag policy.overwrite)]

instance : Adjustable SetHeader Setting where
  initial := {}
  set := set
  snapshot := snapshot

def patch (policy : SetHeader) : HeaderPatch where
  set := HeaderPatch.sortedFields (policy.headers.getD [])
  overwrite := policy.overwrite

end SetHeader

end HttpLayers
