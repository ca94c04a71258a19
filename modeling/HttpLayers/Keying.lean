import HttpLayers.Http.Message

namespace HttpLayers

open Http

abbrev Keying := Request → String

namespace Keying

def field (name : String) : Keying := fun request =>
  String.ofList (((FieldName.ofString? name).bind request.headers.text?).getD [])

-- The forwarding header is neither split nor trimmed; where it is empty or cannot be read, the peer
-- stands for it.
def forwardedFor : Keying := fun request =>
  let header := (request.headers.text? (.of "x-forwarded-for")).filter fun value => !value.isEmpty
  String.ofList ((header.or (request.peer.map Net.Endpoint.text)).getD [])

def path : Keying := fun request =>
  request.path

def constant (key : String) : Keying := fun _ =>
  key

end Keying

end HttpLayers
