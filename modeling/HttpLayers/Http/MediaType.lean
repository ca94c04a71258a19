import HttpLayers.Text.Fold
import HttpLayers.Text.Split

-- Every semicolon ends a part, one inside quotes too.

namespace HttpLayers.Http.MediaType

open Text

def essence (value : List Char) : List Char :=
  trim (before ';' value)

def parameters (value : List Char) : List (List Char × List Char) :=
  ((value.splitOn ';').drop 1).filterMap (splitOnce '=')

def parameter? (name value : List Char) : Option (List Char) :=
  let found := (parameters value).find? fun parameter => sameFolded (trim parameter.1) name
  found.map fun parameter => strip (· == '"') (trim parameter.2)

end HttpLayers.Http.MediaType
