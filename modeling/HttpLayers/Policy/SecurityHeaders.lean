import HttpLayers.Adjustable
import HttpLayers.Http.HeaderPatch

-- An empty text and an age that is not positive switch a header off; what a handler sets itself is
-- kept.

namespace HttpLayers

open Http

structure SecurityHeaders where
  xssProtection : String := "1; mode=block"
  contentTypeNosniff : String := "nosniff"
  xFrameOptions : String := "SAMEORIGIN"
  hstsMaxAge : Int := 0
  hstsExcludeSubdomains : Bool := false
  hstsPreload : Bool := false
  contentSecurityPolicy : String := ""
  cspReportOnly : Bool := false
  referrerPolicy : String := ""

namespace SecurityHeaders

inductive Setting where
  | xssProtection (value : String)
  | contentTypeNosniff (value : String)
  | xFrameOptions (value : String)
  | hstsMaxAge (value : Int)
  | hstsExcludeSubdomains (value : Bool)
  | hstsPreload (value : Bool)
  | contentSecurityPolicy (value : String)
  | cspReportOnly (value : Bool)
  | referrerPolicy (value : String)

def set (policy : SecurityHeaders) : Setting → SecurityHeaders
  | .xssProtection value => { policy with xssProtection := value }
  | .contentTypeNosniff value => { policy with contentTypeNosniff := value }
  | .xFrameOptions value => { policy with xFrameOptions := value }
  | .hstsMaxAge value => { policy with hstsMaxAge := value }
  | .hstsExcludeSubdomains value => { policy with hstsExcludeSubdomains := value }
  | .hstsPreload value => { policy with hstsPreload := value }
  | .contentSecurityPolicy value => { policy with contentSecurityPolicy := value }
  | .cspReportOnly value => { policy with cspReportOnly := value }
  | .referrerPolicy value => { policy with referrerPolicy := value }

def snapshot (policy : SecurityHeaders) : Snapshot where
  name := "SecurityHeadersConfig"
  fields :=
    [("xss_protection",.text policy.xssProtection),
     ("content_type_nosniff",.text policy.contentTypeNosniff),
     ("x_frame_options",.text policy.xFrameOptions),
     ("hsts_max_age",.integer policy.hstsMaxAge),
     ("hsts_exclude_subdomains",.flag policy.hstsExcludeSubdomains),
     ("hsts_preload",.flag policy.hstsPreload),
     ("content_security_policy",.text policy.contentSecurityPolicy),
     ("csp_report_only",.flag policy.cspReportOnly),
     ("referrer_policy",.text policy.referrerPolicy)]

instance : Adjustable SecurityHeaders Setting where
  initial := {}
  set := set
  snapshot := snapshot

def transportSecurity? (policy : SecurityHeaders) : Option String :=
  if policy.hstsMaxAge ≤ 0 then none
  else
    some ("max-age=" ++ toString policy.hstsMaxAge ++
      (if policy.hstsExcludeSubdomains then "" else "; includeSubdomains") ++
      (if policy.hstsPreload then "; preload" else ""))

def allPairs (policy : SecurityHeaders) : List (String × String) :=
  [("X-XSS-Protection",policy.xssProtection),
   ("X-Content-Type-Options",policy.contentTypeNosniff),
   ("X-Frame-Options",policy.xFrameOptions),
   ("Strict-Transport-Security",policy.transportSecurity?.getD ""),
   (if policy.cspReportOnly then "Content-Security-Policy-Report-Only"
    else "Content-Security-Policy",policy.contentSecurityPolicy),
   ("Referrer-Policy",policy.referrerPolicy)]

def pairs (policy : SecurityHeaders) : List (String × String) :=
  policy.allPairs.filter fun pair => !pair.2.isEmpty

def patch (policy : SecurityHeaders) : HeaderPatch where
  set := policy.pairs.filterMap fun pair => HeaderPatch.field? pair.1 pair.2

end SecurityHeaders

end HttpLayers
