import RealtimeChat.Url.Host
/-!
# Addresses

An address of the web names a scheme, perhaps a user, a host, perhaps a port number, a path, and
perhaps a query and a fragment. Addresses of other schemes are only checked, since nothing is ever
fetched from them.

* `Url` -- an address of the web, with `Url.text`, its written form;
* `Address.parse` -- the address that a text stands for, or why it is none;
* `Url.appendPath`, `Url.appendQuery` -- an address below another one.
-/

namespace RealtimeChat

/-! ## 1. Addresses -/

/-- An address of the web. -/
structure Url where
  scheme : String
  /-- The encoded user and password with the sign behind them, or nothing. -/
  userinfo : List Char
  host : Url.Host
  portNumber : Option Nat
  /-- The encoded parts of the path; there is at least one. -/
  path : List (List Char)
  query : Option (List Char)
  fragment : Option (List Char)
deriving DecidableEq, Repr

/-- An address. -/
inductive Address where
  | web (url : Url)
  /-- An address of a scheme that is not of the web. -/
  | other (scheme : String)
deriving DecidableEq, Repr

namespace Url

/-- The schemes of the web with their usual port numbers. -/
def webSchemes : List (String × Nat) :=
  [("http", 80), ("https", 443), ("ws", 80), ("wss", 443), ("ftp", 21)]

/-- The path with a slash in front of each part. -/
def pathText (path : List (List Char)) : List Char := path.flatMap ('/' :: ·)

/-- The written form, as a row of characters. -/
def render (u : Url) : List Char :=
  u.scheme.toList ++ [':', '/', '/'] ++ u.userinfo ++ u.host.text ++
    (match u.portNumber with
      | none => []
      | some p => ':' :: Decimal.digits p) ++
    pathText u.path ++
    (match u.query with
      | none => []
      | some q => '?' :: q) ++
    (match u.fragment with
      | none => []
      | some f => '#' :: f)

/-- The written form. -/
def text (u : Url) : String := String.ofList u.render

/-! ## 2. Paths -/

/-- Whether a part of a path stands for the part itself. -/
def isSingleDot (part : List Char) : Bool :=
  String.ofList (part.map Char.toLower) ∈ [".", "%2e"]

/-- Whether a part of a path takes the part in front of it away. -/
def isDoubleDot (part : List Char) : Bool :=
  String.ofList (part.map Char.toLower) ∈ ["..", "%2e%2e", "%2e.", ".%2e"]

/-- Whether a text is the name of a drive: a letter with a colon or a bar. -/
def isDrive : List Char → Bool
  | [c, d] => c.isAlpha && (d = ':' || d = '|')
  | _ => false

/-- The path without its last part, which stays if it is the name of a drive. -/
def parentPath (path : List (List Char)) : List (List Char) :=
  if path.getLast?.any isDrive then path else path.dropLast

/-- The path with another part at its end; `last` says that nothing follows it. -/
def addPart (path : List (List Char)) (part : List Char) (last : Bool) : List (List Char) :=
  if isDoubleDot part then parentPath path ++ if last then [[]] else []
  else if isSingleDot part then path ++ if last then [[]] else []
  else path ++ [part]

/-- The path made of parts, all but the last of which have a slash behind them. -/
def addParts : List (List Char) → List (List Char) → List (List Char)
  | path, [] => path
  | path, [part] => addPart path part true
  | path, part :: rest => addParts (addPart path part false) rest

/-- The parts of a path between slashes of either kind. -/
def pathParts (cs : List Char) : List (List Char) :=
  (cs.map (fun c => if c = '\\' then '/' else c)).splitOn '/'

/-! ## 3. Reading -/

/-- The characters that are taken off both ends of an address. -/
def isEdge (c : Char) : Bool := c.toNat ≤ 0x20

/-- The characters that are left out of an address. -/
def isDropped (c : Char) : Bool := c = '\t' || c = '\n' || c = '\r'

/-- An address without what does not belong to it. -/
def cleaned (s : String) : List Char :=
  let cs := s.toList.dropWhile isEdge
  ((cs.reverse.dropWhile isEdge).reverse).filter (fun c => !isDropped c)

/-- The scheme in small letters and what is behind its colon. -/
def splitScheme (cs : List Char) : Option (String × List Char) :=
  let name := cs.takeWhile (· ≠ ':')
  match name, cs.drop name.length with
  | first :: _, ':' :: rest =>
    if first.isAlpha ∧ name.all (fun c => c.isAlphanum ∨ c = '+' ∨ c = '-' ∨ c = '.') then
      some (String.ofList (name.map Char.toLower), rest)
    else none
  | _, _ => none

/-- Whether a character ends the authority of an address. -/
def endsAuthority (web : Bool) (c : Char) : Bool :=
  c = '/' || c = '?' || c = '#' || (web && c = '\\')

/-- A user and a password, encoded, with the sign behind them. -/
def encodeUserinfo (cs : List Char) : List Char :=
  let user := cs.takeWhile (· ≠ ':')
  let password := cs.drop (user.length + 1)
  let encoded := Percent.encode Percent.userinfo user ++
    if password.isEmpty then [] else ':' :: Percent.encode Percent.userinfo password
  if encoded.isEmpty then [] else encoded ++ ['@']

/-- The user of an authority, encoded, and what is behind it. -/
def splitUserinfo (authority : List Char) : List Char × List Char :=
  let back := (authority.reverse.takeWhile (· ≠ '@')).reverse
  if back.length = authority.length then ([], authority)
  else (encodeUserinfo (authority.take (authority.length - back.length - 1)), back)

/-- The host of an authority and what is behind it: a colon in brackets does not end it. -/
def splitHost : Bool → List Char → List Char × List Char
  | _, [] => ([], [])
  | inBrackets, c :: rest =>
    if c = ':' ∧ ¬inBrackets then ([], c :: rest)
    else
      let (host, rest) := splitHost (c = '[' || (inBrackets && c ≠ ']')) rest
      (c :: host, rest)

/-- The port number behind a colon; `none` if there is none, or the usual one of the scheme. -/
def parsePort (usual : Option Nat) (cs : List Char) : Except Fault (Option Nat) :=
  match cs with
  | ':' :: ds =>
    -- a backslash ends the number under any scheme
    let ds := ds.takeWhile (· ≠ '\\')
    if ds.all Char.isDigit then
      let n := Decimal.value ds
      if 65535 < n then .error .invalidPort
      else .ok (if ds.isEmpty ∨ some n = usual then none else some n)
    else .error .invalidPort
  | _ => .ok none

/-- The user, host and port number of an authority of the web. -/
def parseAuthority (scheme : String) (authority : List Char) :
    Except Fault (List Char × Host × Option Nat) := do
  let (userinfo, back) := splitUserinfo authority
  let (host, back) := splitHost false back
  if host.isEmpty then .error .emptyHost
  else
    let host ← Host.parse host
    let portNumber ← parsePort (webSchemes.lookup scheme) back
    .ok (userinfo, host, portNumber)

/-- The rest of an address of the web, behind the slashes that follow its scheme. -/
def parseWeb (scheme : String) (cs : List Char) : Except Fault Url := do
  let cs := cs.dropWhile (fun c => c = '/' ∨ c = '\\')
  let authority := cs.takeWhile (fun c => !endsAuthority true c)
  let (userinfo, host, portNumber) ← parseAuthority scheme authority
  let rest := cs.drop authority.length
  let path := rest.takeWhile (fun c => c ≠ '?' ∧ c ≠ '#')
  let rest := rest.drop path.length
  let query := rest.takeWhile (· ≠ '#')
  let rest := rest.drop query.length
  let parts := (pathParts (path.drop 1)).map (Percent.encode Percent.path)
  .ok {
    scheme, userinfo, host, portNumber
    path := addParts [] parts
    query := if query.isEmpty then none else some (Percent.encode Percent.query (query.drop 1))
    fragment :=
      if rest.isEmpty then none else some (Percent.encode Percent.fragment (rest.drop 1)) }

/-- Check the authority of an address that is not of the web. -/
def checkOther (cs : List Char) : Except Fault Unit :=
  match cs with
  | '/' :: '/' :: cs => do
    let authority := cs.takeWhile (fun c => !endsAuthority false c)
    if authority = ['@'] ∧ authority.length < cs.length then .error .emptyHost
    let (userinfo, back) := splitUserinfo authority
    let (host, back) := splitHost false back
    let _ ← Host.parseOpaque host
    if host.isEmpty ∧ (back.head? = some ':' ∨ ¬userinfo.isEmpty) then .error .emptyHost
    else
      let _ ← parsePort none back
      .ok ()
  | _ => .ok ()

/-- Check the host of the address of a file. -/
def checkFile (cs : List Char) : Except Fault Unit :=
  let isSlash (c : Char) : Bool := c = '/' || c = '\\'
  match cs with
  | a :: b :: cs =>
    if isSlash a && isSlash b then
      let host := cs.takeWhile (fun c => !endsAuthority true c)
      if host.isEmpty ∨ isDrive host then .ok () else (Host.parse host).map (fun _ => ())
    else .ok ()
  | _ => .ok ()

end Url

/-- The address that a text stands for. -/
def Address.parse (s : String) : Except Url.Fault Address :=
  match Url.splitScheme (Url.cleaned s) with
  | none => .error .relative
  | some (scheme, rest) =>
    if (Url.webSchemes.lookup scheme).isSome then (Url.parseWeb scheme rest).map .web
    else if scheme = "file" then (Url.checkFile rest).map (fun _ => .other scheme)
    else (Url.checkOther rest).map (fun _ => .other scheme)

namespace Url

/-! ## 4. Addresses below another one -/

/-- The path without an empty part at its end. -/
def popEmpty (path : List (List Char)) : List (List Char) :=
  if 1 < path.length ∧ path.getLast? = some [] then path.dropLast else path

/-- The path with a part put in as a whole; the empty path of the root gives way to it. A part of
one or two dots changes nothing. -/
def extendPath (path : List (List Char)) (part : String) : List (List Char) :=
  if part = "." ∨ part = ".." then path
  else
    let encoded := Percent.encode Percent.pathSegment (part.toList.filter (fun c => !isDropped c))
    addPart (if path = [[]] then [] else path) encoded true

/-- The address with more parts of its path. -/
def appendPath (u : Url) (parts : List String) : Url :=
  { u with path := parts.foldl extendPath (popEmpty u.path) }

/-- A text as it is written in a form. -/
def formEncode (s : String) : List Char :=
  s.toList.flatMap fun c => if c = ' ' then ['+'] else Percent.encodeChar Percent.form c

/-- The address with another entry of its query. -/
def appendQuery (u : Url) (name value : String) : Url :=
  let entry := formEncode name ++ '=' :: formEncode value
  { u with query := some (match u.query with
      | none => entry
      | some q => if q.isEmpty then entry else q ++ '&' :: entry) }

end Url

end RealtimeChat
