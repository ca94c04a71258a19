import HttpLayers.Http.Message

-- A recorded service answers as before and keeps the requests it was given, so a call that is left
-- out, made twice or made with another request shows.

namespace HttpLayers.Http

variable {m : Type → Type}

def recorded [Functor m] (inner : Service m) : Service (StateT (List Request) m) :=
  fun request seen => (fun response => (response,seen ++ [request])) <$> inner request

theorem run_recorded [Functor m] (inner : Service m) (request : Request) (seen : List Request) :
    (recorded inner request).run seen =
      (fun response => (response,seen ++ [request])) <$> inner request := rfl

theorem run_pure [Monad m] (response : Response) (seen : List Request) :
    (pure response : StateT (List Request) m Response).run seen = pure (response,seen) := rfl

end HttpLayers.Http
