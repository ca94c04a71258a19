import HttpLayers.Adjustable
import HttpLayers.Http.MediaType

-- A value that declares none counts as declaring the empty one, which a list may contain.

namespace HttpLayers

open Http Text

structure ContentCharset where
  charsets : Option (List String) := some ["utf-8"]
  statusCode : UInt16 := 415

namespace ContentCharset

inductive Setting where
  | charsets (value : Option (List String))
  | statusCode (value : UInt16)

def set (policy : ContentCharset) : Setting → ContentCharset
  | .charsets value => { policy with charsets := value }
  | .statusCode value => { policy with statusCode := value }

def snapshot (policy : ContentCharset) : Snapshot where
  name := "ContentCharsetConfig"
  fields :=
    [("charsets",.optionalTexts policy.charsets),
     ("status_code",.ofCode policy.statusCode)]

instance : Adjustable ContentCharset Setting where
  initial := {}
  set := set
  snapshot := snapshot

def declared (contentType : List Char) : List Char :=
  (MediaType.parameter? "charset".toList contentType).getD []

def allows (policy : ContentCharset) (contentType : String) : Bool :=
  (policy.charsets.getD []).any fun listed => sameFolded listed.toList (declared contentType.toList)

end ContentCharset

end HttpLayers
