import HttpLayers.Adjustable
import HttpLayers.Text.Fold
import HttpLayers.Text.Split

namespace HttpLayers

open Text

structure ContentEncoding where
  encodings : Option (List String) := some ["gzip","deflate"]
  statusCode : UInt16 := 415

namespace ContentEncoding

inductive Setting where
  | encodings (value : Option (List String))
  | statusCode (value : UInt16)

def set (policy : ContentEncoding) : Setting → ContentEncoding
  | .encodings value => { policy with encodings := value }
  | .statusCode value => { policy with statusCode := value }

def snapshot (policy : ContentEncoding) : Snapshot where
  name := "ContentEncodingConfig"
  fields :=
    [("encodings",.optionalTexts policy.encodings),
     ("status_code",.ofCode policy.statusCode)]

instance : Adjustable ContentEncoding Setting where
  initial := {}
  set := set
  snapshot := snapshot

-- Without a list every value is refused, the empty one too.
def allows (policy : ContentEncoding) (contentEncoding : String) : Bool :=
  match policy.encodings with
  | none => false
  | some listed =>
    (entries contentEncoding.toList).all fun coding =>
      listed.any fun accepted => sameFolded accepted.toList coding

end ContentEncoding

end HttpLayers
