import HttpLayers.Adjustable
import HttpLayers.Http.MediaType

-- The encoders themselves are elsewhere.

namespace HttpLayers

open Http Text

namespace Compression

def defaultLevel : Int := 6

def defaultMimeTypes : List String :=
  ["text/html","text/css","text/plain","text/javascript","text/xml","application/javascript",
   "application/x-javascript","application/json","application/xml","application/rss+xml",
   "image/svg+xml"]

end Compression

structure Compression where
  level : Int := Compression.defaultLevel
  -- accepted encodings, the preferred one first
  encodings : Option (List String) := some ["gzip","deflate"]
  mimeTypes : Option (List String) := some Compression.defaultMimeTypes
  -- shorter bodies stay as they are
  minLength : Int := 0

namespace Compression

inductive Setting where
  | level (value : Int)
  | encodings (value : Option (List String))
  | mimeTypes (value : Option (List String))
  | minLength (value : Int)

def set (policy : Compression) : Setting → Compression
  | .level value => { policy with level := value }
  | .encodings value => { policy with encodings := value }
  | .mimeTypes value => { policy with mimeTypes := value }
  | .minLength value => { policy with minLength := value }

def snapshot (policy : Compression) : Snapshot where
  name := "CompressionConfig"
  fields :=
    [("level",.integer policy.level),
     ("encodings",.optionalTexts policy.encodings),
     ("mime_types",.optionalTexts policy.mimeTypes),
     ("min_length",.integer policy.minLength)]

instance : Adjustable Compression Setting where
  initial := {}
  set := set
  snapshot := snapshot

def compresses (policy : Compression) (contentType : String) : Bool :=
  (policy.mimeTypes.getD []).any fun listed =>
    sameFolded listed.toList (MediaType.essence contentType.toList)

end Compression

end HttpLayers
