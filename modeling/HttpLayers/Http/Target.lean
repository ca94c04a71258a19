import HttpLayers.Text.Fold
import HttpLayers.Text.Split

-- A fragment is dropped. Paths and queries take any character outside ASCII as it stands.

namespace HttpLayers.Http

open Text

inductive Target where
  -- a path that starts with a slash, or `*`
  | origin (path : String) (query : Option String)
  -- the path is empty where nothing but a query follows the authority
  | absolute (scheme authority path : String) (query : Option String)
  | authority (text : String)
  deriving DecidableEq, Repr

namespace Target

def path : Target → String
  | origin path _ => path
  | absolute _ _ path _ => if path.isEmpty then "/" else path
  | authority _ => ""

def query : Target → Option String
  | origin _ query => query
  | absolute _ _ _ query => query
  | authority _ => none

def querySuffix : Option String → String
  | none => ""
  | some query => "?" ++ query

def pathAndQuery? : Target → Option String
  | origin path query => some (path ++ querySuffix query)
  | absolute _ _ path query =>
    let written := path ++ querySuffix query
    some (if written.isEmpty then "/" else written)
  | authority _ => none

def text : Target → String
  | target@(origin ..) => target.path ++ querySuffix target.query
  | target@(absolute scheme host ..) =>
    scheme ++ "://" ++ host ++ target.path ++ querySuffix target.query
  | authority host => host

def inRanges (ranges : List (Nat × Nat)) (c : Char) : Bool :=
  ranges.any fun range => range.1 ≤ c.toNat && c.toNat ≤ range.2

-- Quotes and braces pass; space, angle brackets and the grave accent do not.
def isPathChar : Char → Bool :=
  inRanges [(0x21,0x22),(0x24,0x3B),(0x3D,0x3D),(0x40,0x5F),(0x61,0x7E),(0x80,0x10FFFF)]

def isQueryChar : Char → Bool :=
  inRanges [(0x21,0x21),(0x24,0x3B),(0x3D,0x3D),(0x3F,0x7E),(0x80,0x10FFFF)]

def readPath (s : List Char) : Option (List Char × Option (List Char)) :=
  let s := before '#' s
  match splitOnce '?' s with
  | none => if s.all isPathChar then some (s,none) else none
  | some (path,query) =>
    if path.all isPathChar && query.all isQueryChar then some (path,some query) else none

def isAuthorityChar (c : Char) : Bool :=
  c.isAlphanum || "!$&'()*+,-.:;=@[]_~".toList.contains c

structure Scan where
  colons : Nat := 0
  opened : Bool := false
  closed : Bool := false
  percent : Bool := false

-- What stands before an at sign or inside brackets has colons of its own, so both forget those seen
-- so far.
def Scan.step (seen : Scan) (c : Char) : Option Scan :=
  if c = ':' then
    if 8 ≤ seen.colons then none else some { seen with colons := seen.colons + 1 }
  else if c = '[' then
    if seen.percent || seen.opened then none else some { seen with opened := true }
  else if c = ']' then
    if !seen.opened || seen.closed then none
    else some { seen with closed := true,colons := 0,percent := false }
  else if c = '@' then some { seen with colons := 0,percent := false }
  else if c = '%' then some { seen with percent := true }
  else if isAuthorityChar c then some seen
  else none

-- At most one colon before the port, brackets in pairs, a percent sign only in user information or
-- brackets, and something after an at sign.
def isAuthority (s : List Char) : Bool :=
  match s.foldlM Scan.step {} with
  | none => false
  | some seen =>
    !s.isEmpty && seen.opened == seen.closed && seen.colons ≤ 1 && !seen.percent &&
      s.getLast? != some '@'

def isSchemeChar (c : Char) : Bool :=
  c.isAlphanum || "+-.~".toList.contains c

-- The two schemes of the web are kept in small letters.
def readScheme (s : List Char) : Option (List Char × List Char) :=
  match s.dropWhile isSchemeChar with
  | ':' :: '/' :: '/' :: rest =>
    let name := s.takeWhile isSchemeChar
    let known := lower name = "http".toList ∨ lower name = "https".toList
    some (if known then lower name else name,rest)
  | _ => none

def isAuthorityEnd (c : Char) : Bool :=
  c == '/' || c == '?' || c == '#'

def readAbsolute (scheme rest : List Char) : Option Target := do
  let host := rest.takeWhile fun c => !isAuthorityEnd c
  let (path,query) ← readPath (rest.dropWhile fun c => !isAuthorityEnd c)
  if isAuthority host && scheme.length ≤ 64 then
    some (.absolute (String.ofList scheme) (String.ofList host) (String.ofList path)
      (query.map String.ofList))
  else none

def ofString? (s : String) : Option Target :=
  if 65534 < s.utf8ByteSize then none
  else
    match s.toList with
    | [] => none
    | ['*'] => some (.origin "*" none)
    | '/' :: rest => do
      let (path,query) ← readPath ('/' :: rest)
      return .origin (String.ofList path) (query.map String.ofList)
    | cs =>
      match readScheme cs with
      | some (scheme,rest) => readAbsolute scheme rest
      | none => if isAuthority cs then some (.authority s) else none

end Target

end HttpLayers.Http
