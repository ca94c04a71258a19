import HttpLayers.Proofs.HeaderPatch
import HttpLayers.Proofs.Router.Stack
import HttpLayers.Proofs.SecurityPairs

namespace HttpLayers.Router

open Http

end HttpLayers.Router
