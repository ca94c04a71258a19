import HttpLayers.Adjustable
import HttpLayers.Http.HeaderPatch

namespace HttpLayers

open Http

namespace NoCache

def cacheControl : String :=
  "no-cache, no-store, no-transform, must-revalidate, private, max-age=0"

def defaultEtagHeaders : List String :=
  ["ETag","If-Modified-Since","If-Match","If-None-Match","If-Range","If-Unmodified-Since"]

def epoch : String :=
  "Thu, 01 Jan 1970 00:00:00 UTC"

def defaultHeaders : List (String × String) :=
  [("Expires",epoch),("Cache-Control",cacheControl),("Pragma","no-cache"),
   ("X-Accel-Expires","0")]

end NoCache

structure NoCache where
  headers : Option (List (String × String)) := some NoCache.defaultHeaders
  -- request headers to remove
  etagHeaders : Option (List String) := some NoCache.defaultEtagHeaders

namespace NoCache

inductive Setting where
  | headers (value : Option (List (String × String)))
  | etagHeaders (value : Option (List String))

def set (policy : NoCache) : Setting → NoCache
  | .headers value => { policy with headers := value }
  | .etagHeaders value => { policy with etagHeaders := value }

def snapshot (policy : NoCache) : Snapshot where
  name := "NoCacheConfig"
  fields :=
    [("headers",.optionalTable policy.headers),
     ("etag_headers",.optionalTexts policy.etagHeaders)]

instance : Adjustable NoCache Setting where
  initial := {}
  set := set
  snapshot := snapshot

-- It overwrites, so no handler can allow a cache to keep its answer.
def patch (policy : NoCache) : HeaderPatch where
  removed := (policy.etagHeaders.getD []).filterMap FieldName.ofString?
  set := HeaderPatch.sortedFields (policy.headers.getD [])
  overwrite := true

end NoCache

end HttpLayers
