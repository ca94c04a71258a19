import HttpLayers.Environment
import HttpLayers.Net.Endpoint

namespace HttpLayers

open Net Text

structure CertificateFiles where
  certificate : String
  key : String
  deriving DecidableEq, Repr

structure AutomaticCertificates where
  domains : List String
  cacheDir : Option String
  deriving DecidableEq, Repr

inductive CertificateFault where
  -- one file has no name
  | fileMissing
  | filesAndDomains
  | noDomain
  -- one of the two variables is set alone
  | variableMissing
  -- a cache without domains
  | cacheAlone
  deriving DecidableEq, Repr

namespace CertificateFault

def problem : CertificateFault → String
  | fileMissing => "certificate and key files must be provided together"
  | filesAndDomains => "manual certificates and automatic TLS are mutually exclusive"
  | noDomain => "automatic TLS requires at least one domain"
  | variableMissing => "TLS_CERT_FILE and TLS_KEY_FILE must be set together"
  | cacheAlone => "AUTO_TLS_CACHE_DIR requires AUTO_TLS_DOMAINS"

def toError (fault : CertificateFault) : SettingsError :=
  .certificates fault.problem

end CertificateFault

namespace ServerSettings

def defaultHost : String := "0.0.0.0"
def defaultPort : UInt16 := 3000
def defaultShutdownTimeout : Duration := .seconds 10

end ServerSettings

structure ServerSettings where
  host : String := ServerSettings.defaultHost
  port : UInt16 := ServerSettings.defaultPort
  files : Option CertificateFiles := none
  automatic : Option AutomaticCertificates := none
  shutdownTimeout : Duration := ServerSettings.defaultShutdownTimeout
  deriving DecidableEq, Repr

namespace ServerSettings

-- Nothing is put around the host, so an address of the newer family has to bring its own brackets.
def address (server : ServerSettings) : String :=
  server.host ++ ":" ++ toString server.port.toNat

def endpoint? (server : ServerSettings) : Option Endpoint :=
  Endpoint.ofText? server.address.toList

def fault? (server : ServerSettings) : Option CertificateFault :=
  if server.files.any fun files => files.certificate.isEmpty || files.key.isEmpty then
    some .fileMissing
  else
    match server.automatic with
    | none => none
    | some automatic =>
      if server.files.isSome then some .filesAndDomains
      else if automatic.domains.isEmpty then some .noDomain
      else none

def check (server : ServerSettings) : Except SettingsError Unit :=
  match server.fault? with
  | none => .ok ()
  | some fault => .error fault.toError

def readFiles (env : Environment) : Except CertificateFault (Option CertificateFiles) :=
  match env.text? "TLS_CERT_FILE",env.text? "TLS_KEY_FILE" with
  | some certificate,some key => .ok (some { certificate,key })
  | none,none => .ok none
  | _,_ => .error .variableMissing

-- A list without a domain is as good as none.
def readAutomatic (env : Environment) : Except CertificateFault (Option AutomaticCertificates) :=
  match (env.list? "AUTO_TLS_DOMAINS").getD [],env.text? "AUTO_TLS_CACHE_DIR" with
  | [],none => .ok none
  | [],some _ => .error .cacheAlone
  | domains,cacheDir => .ok (some { domains,cacheDir })

def ofEnvironment (env : Environment) : Except SettingsError ServerSettings := do
  let port ← env.natural? 65535 "PORT"
  let files ← (readFiles env).mapError CertificateFault.toError
  let automatic ← (readAutomatic env).mapError CertificateFault.toError
  let shutdownTimeout ← env.seconds? "SHUTDOWN_TIMEOUT_SECS"
  return {
    host := (env.text? "HOST").getD defaultHost
    port := (port.map Nat.toUInt16).getD defaultPort
    files
    automatic
    shutdownTimeout := shutdownTimeout.getD defaultShutdownTimeout }

def shownFiles (files : CertificateFiles) : Shown :=
  .record "TlsConfig" [("cert_file",.quote files.certificate),("key_file",.quote files.key)]

def shownAutomatic (automatic : AutomaticCertificates) : Shown :=
  .record "AutoTlsConfig"
    [("domains",.list (automatic.domains.map .quote)),
     ("cache_dir",.ofOption (automatic.cacheDir.map .quote))]

def shown (server : ServerSettings) : Shown :=
  .record "ServerConfig"
    [("host",.quote server.host),
     ("port",.word (toString server.port.toNat)),
     ("tls",.ofOption (server.files.map shownFiles)),
     ("auto_tls",.ofOption (server.automatic.map shownAutomatic)),
     ("shutdown_timeout",.word server.shutdownTimeout.text)]

end ServerSettings

end HttpLayers
