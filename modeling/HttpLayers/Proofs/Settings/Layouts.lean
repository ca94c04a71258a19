import HttpLayers.Proofs.Settings.Slots
import HttpLayers.Settings

-- The slots of every kind of policy. That the reading and the filling of a slot fit together, that no
-- field is left out and that each setting has one slot is checked where the layout is made.

namespace HttpLayers

open Adjustable Http

def RateLimit.layout : Layout RateLimit RateLimit.Setting where
  slots :=
    [{ read := rate,given := fun | .rate value => some value | _ => none },
     { read := window,given := fun | .window value => some value | _ => none },
     { read := algorithm,given := fun | .algorithm value => some value | _ => none },
     { read := keying,given := fun | .keying value => some value | _ => none },
     { read := statusCode,given := fun | .statusCode value => some value | _ => none },
     { read := message,given := fun | .message value => some value | _ => none },
     { read := includeHeaders,given := fun | .includeHeaders value => some value | _ => none },
     { read := exemptPaths,given := fun | .exemptPaths value => some value | _ => none }]

def CircuitBreaker.layout : Layout CircuitBreaker CircuitBreaker.Setting where
  slots :=
    [{ read := failureThreshold,given := fun | .failureThreshold value => some value | _ => none },
     { read := successThreshold,given := fun | .successThreshold value => some value | _ => none },
     { read := recoveryTimeout,given := fun | .recoveryTimeout value => some value | _ => none },
     { read := failureTest,given := fun | .failureTest value => some value | _ => none },
     { read := keying,given := fun | .keying value => some value | _ => none },
     { read := openStatusCode,given := fun | .openStatusCode value => some value | _ => none },
     { read := openMessage,given := fun | .openMessage value => some value | _ => none }]

def BasicAuth.layout : Layout BasicAuth BasicAuth.Setting where
  slots :=
    [{ read := realm,given := fun | .realm value => some value | _ => none },
     { read := validator,given := fun | .validator value => some value | _ => none },
     { read := exemptPaths,given := fun | .exemptPaths value => some value | _ => none }]

def BodyLimit.layout : Layout BodyLimit BodyLimit.Setting where
  slots :=
    [{ read := limit,given := fun | .limit value => some value | _ => none },
     { read := statusCode,given := fun | .statusCode value => some value | _ => none },
     { read := message,given := fun | .message value => some value | _ => none }]

def ContentCharset.layout : Layout ContentCharset ContentCharset.Setting where
  slots :=
    [{ read := charsets,given := fun | .charsets value => some value | _ => none },
     { read := statusCode,given := fun | .statusCode value => some value | _ => none }]

def ContentEncoding.layout : Layout ContentEncoding ContentEncoding.Setting where
  slots :=
    [{ read := encodings,given := fun | .encodings value => some value | _ => none },
     { read := statusCode,given := fun | .statusCode value => some value | _ => none }]

def ContentType.layout : Layout ContentType ContentType.Setting where
  slots :=
    [{ read := allowedTypes,given := fun | .allowedTypes value => some value | _ => none },
     { read := statusCode,given := fun | .statusCode value => some value | _ => none }]

def RealIp.layout : Layout RealIp RealIp.Setting where
  slots :=
    [{ read := locator,given := fun | .locator value => some value | _ => none },
     { read := trustedProxies,given := fun | .trustedProxies value => some value | _ => none }]

def Timeout.layout : Layout Timeout Timeout.Setting where
  slots :=
    [{ read := timeout,given := fun | .timeout value => some value | _ => none },
     { read := statusCode,given := fun | .statusCode value => some value | _ => none },
     { read := message,given := fun | .message value => some value | _ => none }]

def TrailingSlash.layout : Layout TrailingSlash TrailingSlash.Setting where
  slots :=
    [{ read := action,given := fun | .action value => some value | _ => none },
     { read := preferTrailingSlash
       given := fun | .preferTrailingSlash value => some value | _ => none },
     { read := redirectCode,given := fun | .redirectCode value => some value | _ => none }]

def Compression.layout : Layout Compression Compression.Setting where
  slots :=
    [{ read := level,given := fun | .level value => some value | _ => none },
     { read := encodings,given := fun | .encodings value => some value | _ => none },
     { read := mimeTypes,given := fun | .mimeTypes value => some value | _ => none },
     { read := minLength,given := fun | .minLength value => some value | _ => none }]

def Cors.layout : Layout Cors Cors.Setting where
  slots :=
    [{ read := allowedOrigins,given := fun | .allowedOrigins value => some value | _ => none },
     { read := allowedMethods,given := fun | .allowedMethods value => some value | _ => none },
     { read := allowedHeaders,given := fun | .allowedHeaders value => some value | _ => none },
     { read := exposedHeaders,given := fun | .exposedHeaders value => some value | _ => none },
     { read := allowCredentials,given := fun | .allowCredentials value => some value | _ => none },
     { read := maxAge,given := fun | .maxAge value => some value | _ => none }]

def NoCache.layout : Layout NoCache NoCache.Setting where
  slots :=
    [{ read := headers,given := fun | .headers value => some value | _ => none },
     { read := etagHeaders,given := fun | .etagHeaders value => some value | _ => none }]

def SecurityHeaders.layout : Layout SecurityHeaders SecurityHeaders.Setting where
  slots :=
    [{ read := xssProtection,given := fun | .xssProtection value => some value | _ => none },
     { read := contentTypeNosniff
       given := fun | .contentTypeNosniff value => some value | _ => none },
     { read := xFrameOptions,given := fun | .xFrameOptions value => some value | _ => none },
     { read := hstsMaxAge,given := fun | .hstsMaxAge value => some value | _ => none },
     { read := hstsExcludeSubdomains
       given := fun | .hstsExcludeSubdomains value => some value | _ => none },
     { read := hstsPreload,given := fun | .hstsPreload value => some value | _ => none },
     { read := contentSecurityPolicy
       given := fun | .contentSecurityPolicy value => some value | _ => none },
     { read := cspReportOnly,given := fun | .cspReportOnly value => some value | _ => none },
     { read := referrerPolicy,given := fun | .referrerPolicy value => some value | _ => none }]

def SetHeader.layout : Layout SetHeader SetHeader.Setting where
  slots :=
    [{ read := headers,given := fun | .headers value => some value | _ => none },
     { read := overwrite,given := fun | .overwrite value => some value | _ => none }]

def Recover.layout : Layout Recover Recover.Setting where
  slots :=
    [{ read := stackSize,given := fun | .stackSize value => some value | _ => none },
     { read := enableStackTrace,given := fun | .enableStackTrace value => some value | _ => none },
     { read := statusCode,given := fun | .statusCode value => some value | _ => none }]

def RequestId.layout (entropy : Nat → Bytes) :
    @Layout RequestId RequestId.Setting (adjustable entropy) :=
  letI := adjustable entropy
  { slots :=
      [{ read := header,given := fun | .header value => some value | _ => none },
       { read := source,given := fun | .source value => some value | _ => none }] }

def RequestLogger.layout : Layout RequestLogger RequestLogger.Setting where
  slots :=
    [{ read := level,given := fun | .level value => some value | _ => none },
     { read := skipPaths,given := fun | .skipPaths value => some value | _ => none },
     { read := includeHeaders,given := fun | .includeHeaders value => some value | _ => none },
     { read := includeQuery,given := fun | .includeQuery value => some value | _ => none }]

end HttpLayers
