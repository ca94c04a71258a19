import HttpLayers.Adjustable
import HttpLayers.Http.Message
import HttpLayers.Text.Blank

-- A star together with credentials is not allowed by the rules of browsers, so what the request
-- asks for is repeated instead.

namespace HttpLayers

open Http Text

namespace Cors

def defaultMethods : List String :=
  ["GET","HEAD","POST","PUT","PATCH","DELETE","OPTIONS"]

def defaultHeaders : List String :=
  ["Accept","Authorization","Content-Type","Origin","X-Request-Id"]

def defaultMaxAge : Duration := .seconds 86400

end Cors

structure Cors where
  allowedOrigins : Option (List String) := some ["*"]
  allowedMethods : Option (List String) := some Cors.defaultMethods
  allowedHeaders : Option (List String) := some Cors.defaultHeaders
  exposedHeaders : Option (List String) := none
  allowCredentials : Bool := false
  maxAge : Duration := Cors.defaultMaxAge

namespace Cors

inductive Setting where
  | allowedOrigins (value : Option (List String))
  | allowedMethods (value : Option (List String))
  | allowedHeaders (value : Option (List String))
  | exposedHeaders (value : Option (List String))
  | allowCredentials (value : Bool)
  | maxAge (value : Duration)

def set (policy : Cors) : Setting → Cors
  | .allowedOrigins value => { policy with allowedOrigins := value }
  | .allowedMethods value => { policy with allowedMethods := value }
  | .allowedHeaders value => { policy with allowedHeaders := value }
  | .exposedHeaders value => { policy with exposedHeaders := value }
  | .allowCredentials value => { policy with allowCredentials := value }
  | .maxAge value => { policy with maxAge := value }

def snapshot (policy : Cors) : Snapshot where
  name := "CorsConfig"
  fields :=
    [("allowed_origins",.optionalTexts policy.allowedOrigins),
     ("allowed_methods",.optionalTexts policy.allowedMethods),
     ("allowed_headers",.optionalTexts policy.allowedHeaders),
     ("exposed_headers",.optionalTexts policy.exposedHeaders),
     ("allow_credentials",.flag policy.allowCredentials),
     ("max_age",.duration policy.maxAge)]

instance : Adjustable Cors Setting where
  initial := {}
  set := set
  snapshot := snapshot

inductive Rule where
  | any
  -- what the request asks for
  | echoed
  | only (values : List FieldValue)
  deriving DecidableEq, Repr

def isStar (entry : String) : Bool :=
  trim entry.toList == ['*']

def hasStar (entries : Option (List String)) : Bool :=
  (entries.getD []).any isStar

-- Entries that cannot be read are left out.
def readAll (read : String → Option FieldValue) (entries : Option (List String)) :
    List FieldValue :=
  (entries.getD []).filterMap read

def method? (entry : String) : Option FieldValue :=
  if token : isToken entry.toList = true then some (.ofToken entry token) else none

def headerName? (entry : String) : Option FieldValue :=
  (FieldName.ofText? (trim entry.toList)).map .ofName

def ruleOf (policy : Cors) (read : String → Option FieldValue) (entries : Option (List String)) :
    Rule :=
  if hasStar entries then if policy.allowCredentials then .echoed else .any
  else .only (readAll read entries)

def originRule (policy : Cors) : Rule :=
  policy.ruleOf FieldValue.ofString? policy.allowedOrigins

def methodRule (policy : Cors) : Rule :=
  policy.ruleOf method? policy.allowedMethods

def headerRule (policy : Cors) : Rule :=
  policy.ruleOf headerName? policy.allowedHeaders

-- Exposed headers cannot be repeated from the request, so with credentials a star is left out.
def exposedRule (policy : Cors) : Rule :=
  if hasStar policy.exposedHeaders && !policy.allowCredentials then .any
  else .only (readAll headerName? (policy.exposedHeaders.map (·.filter fun entry => !isStar entry)))

def admitsEveryOrigin (policy : Cors) : Bool :=
  hasStar policy.allowedOrigins

def star : FieldValue := .of "*"

def Rule.originValue : Rule → Option FieldValue → Option FieldValue
  | any,_ => some star
  | echoed,origin => origin
  | only values,origin => origin.filter values.contains

-- Nothing is listed by leaving the header out.
def Rule.listValue : Rule → Option FieldValue → Option FieldValue
  | any,_ => some star
  | echoed,requested => requested
  | only [],_ => none
  | only values,_ => some (.join values)

def allowCredentialsField : FieldName := .of "access-control-allow-credentials"
def allowOrigin : FieldName := .of "access-control-allow-origin"
def allowMethods : FieldName := .of "access-control-allow-methods"
def allowHeaders : FieldName := .of "access-control-allow-headers"
def exposeHeaders : FieldName := .of "access-control-expose-headers"
def maxAgeField : FieldName := .of "access-control-max-age"

def field (name : FieldName) (value : Option FieldValue) : List (FieldName × FieldValue) :=
  value.toList.map fun value => (name,value)

def varyField : FieldName × FieldValue :=
  (.of "vary",.of "origin, access-control-request-method, access-control-request-headers")

def commonFields (policy : Cors) (request : Request) : List (FieldName × FieldValue) :=
  field allowCredentialsField (if policy.allowCredentials then some (.of "true") else none) ++
    field allowOrigin (policy.originRule.originValue (request.headers.get? (.of "origin")))

def preflightFields (policy : Cors) (request : Request) : List (FieldName × FieldValue) :=
  field allowMethods
      (policy.methodRule.listValue (request.headers.get? (.of "access-control-request-method"))) ++
    field allowHeaders
      (policy.headerRule.listValue (request.headers.get? (.of "access-control-request-headers"))) ++
    field maxAgeField (some (.ofNat policy.maxAge.secs.toNat))

def actualFields (policy : Cors) : List (FieldName × FieldValue) :=
  field exposeHeaders (policy.exposedRule.listValue none)

def isPreflight (request : Request) : Bool :=
  request.method == "OPTIONS"

def preflight (policy : Cors) (request : Request) : Response where
  status := 200
  headers := ⟨varyField :: policy.commonFields request ++ policy.preflightFields request⟩

-- The values that the answer had for `vary` stay.
def decorate (policy : Cors) (request : Request) (response : Response) : Response :=
  let varied := response.headers.append varyField.1 varyField.2
  { response with headers := varied.insertAll (policy.commonFields request ++ policy.actualFields) }

def layer {m : Type → Type} [Functor m] [Pure m] (policy : Cors) (inner : Service m) : Service m :=
  fun request =>
    if isPreflight request then pure (policy.preflight request)
    else policy.decorate request <$> inner request

end Cors

end HttpLayers
