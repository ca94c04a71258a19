import HttpLayers.Keying

-- The headers are believed as they stand, so a caller who can reach the service directly can name
-- any address.

namespace HttpLayers

open Http Text

abbrev ClientLocator := Request → String

namespace ClientLocator

def nonempty (s : List Char) : Option (List Char) :=
  if s.isEmpty then none else some s

def header? (request : Request) (name : FieldName) : Option (List Char) :=
  (request.headers.text? name).bind fun value => nonempty (trim value)

-- A second entry does not make up for an empty first one.
def firstEntry? (value : List Char) : Option (List Char) :=
  nonempty (trim (before ',' value))

def forParameter? (parameter : List Char) : Option (List Char) := do
  let (name,value) ← splitOnce '=' parameter
  if sameFolded (trim name) "for".toList then some value else none

-- The node without the quotes around it and, where it is bracketed, without brackets and port.
def forwardedNode? (value : List Char) : Option (List Char) := do
  let written ← ((before ',' value).splitOn ';').findSome? forParameter?
  match strip (· == '"') (trim written) with
  | '[' :: rest => nonempty (before ']' rest)
  | node => nonempty node

-- The most trusted source first.
def sources (request : Request) : List (Option (List Char)) :=
  [(header? request (.of "x-forwarded-for")).bind firstEntry?,
   header? request (.of "x-real-ip"),
   (header? request (.of "x-forwarded")).bind firstEntry?,
   (header? request (.of "forwarded")).bind forwardedNode?,
   request.peer.map fun endpoint => endpoint.address.text]

def standard : ClientLocator := fun request =>
  String.ofList (((sources request).findSome? id).getD [])

end ClientLocator

end HttpLayers
