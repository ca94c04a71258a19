import HttpLayers.EnvFile
import HttpLayers.Launch
import HttpLayers.Router

namespace HttpLayers.Main

open Http

def variableNames : List String :=
  ["HOST","PORT","SHUTDOWN_TIMEOUT_SECS","TLS_CERT_FILE","TLS_KEY_FILE","AUTO_TLS_DOMAINS",
   "AUTO_TLS_CACHE_DIR","RATE_LIMIT_RATE","RATE_LIMIT_WINDOW_SECS","RATE_LIMIT_ALGORITHM",
   "CIRCUIT_BREAKER_FAILURE_THRESHOLD","CIRCUIT_BREAKER_SUCCESS_THRESHOLD",
   "CIRCUIT_BREAKER_RECOVERY_TIMEOUT_SECS","CORS_ALLOWED_ORIGINS","TRUSTED_PROXIES",
   "REQUEST_BODY_LIMIT","REQUEST_TIMEOUT_SECS"]

def drawFrom (seed : Bytes) (n : Nat) : Bytes :=
  let start := seed.foldl (fun value b => 256 * value + b.toNat) 0
  (Net.IpAddress.digitsOf 256 16 (start + n)).map UInt8.ofNat

def readVariables : IO (List (String × String)) :=
  variableNames.filterMapM fun name => do
    return (← IO.getEnv name).map fun value => (name,value)

def readFile : IO String := do
  try
    IO.FS.readFile ".env"
  catch _ => return ""

def printResponse (out : IO.FS.Stream) (response : Response) : IO Unit := do
  out.putStrLn (toString response.status.toNat)
  for (name,value) in response.headers.sorted do
    out.putStr (name.text ++ ": ")
    out.write ⟨value.bytes.toArray⟩
    out.putStrLn ""
  out.putStrLn ""
  out.write ⟨response.body.toArray⟩
  out.putStrLn ""
  out.flush

-- A line without a blank is a target to get.
def readRequest (line : List Char) : Except Request.Fault Request :=
  let (method,target) := (Text.splitOnce ' ' line).getD ("GET".toList,line)
  Request.assemble (String.ofList method) (String.ofList target) [] [] none none

partial def serve (source out : IO.FS.Stream) (policies : Policies) : IO Unit := do
  let line ← source.getLine
  unless line.isEmpty do
    match readRequest (Text.trim line.toList) with
    | .error _ =>
      out.putStrLn "400"
      out.flush
      serve source out policies
    | .ok request =>
      let exchange := Router.exchange policies request (.seconds 0)
      printResponse out exchange.response
      serve source out exchange.next

end HttpLayers.Main

open HttpLayers in
def main : IO UInt32 := do
  let given := Environment.ofTable (← Main.readVariables)
  let env := given.orElse (EnvFile.rows given (← Main.readFile))
  let seed ← IO.getRandomBytes 16
  match Launch.prepare (Main.drawFrom seed.toList) env with
  | .error refusal =>
    (← IO.getStderr).putStrLn refusal.message
    return refusal.exitCode.toUInt32
  | .ok ready =>
    (← IO.getStderr).putStrLn ready.settings.shown.render
    Main.serve (← IO.getStdin) (← IO.getStdout) ready.policies
    return 0
