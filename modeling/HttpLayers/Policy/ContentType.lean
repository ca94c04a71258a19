import HttpLayers.Adjustable
import HttpLayers.Http.MediaType

namespace HttpLayers

open Http Text

structure ContentType where
  allowedTypes : Option (List String) := some ["application/json"]
  statusCode : UInt16 := 415

namespace ContentType

inductive Setting where
  | allowedTypes (value : Option (List String))
  | statusCode (value : UInt16)

def set (policy : ContentType) : Setting → ContentType
  | .allowedTypes value => { policy with allowedTypes := value }
  | .statusCode value => { policy with statusCode := value }

def snapshot (policy : ContentType) : Snapshot where
  name := "ContentTypeConfig"
  fields :=
    [("allowed_types",.optionalTexts policy.allowedTypes),
     ("status_code",.ofCode policy.statusCode)]

instance : Adjustable ContentType Setting where
  initial := {}
  set := set
  snapshot := snapshot

-- White space around a listed type does not count.
def allows (policy : ContentType) (contentType : String) : Bool :=
  (policy.allowedTypes.getD []).any fun listed =>
    sameFolded (trim listed.toList) (MediaType.essence contentType.toList)

end ContentType

end HttpLayers
