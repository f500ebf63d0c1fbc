import SmsGateway.Url.Host

namespace SmsGateway.Url

/-- The kinds of schemes. -/
inductive SchemeKind where
  | file
  /-- Schemes that always have a host. -/
  | hosted
  /-- Schemes without rules of their own. -/
  | opaqueKind
  deriving DecidableEq, Repr

def SchemeKind.of (scheme : String) : SchemeKind :=
  if scheme = "file" then .file
  else if scheme ∈ ["http", "https", "ws", "wss", "ftp"] then .hosted
  else .opaqueKind

def isSchemeChar (c : Char) : Bool :=
  c.isAlphanum || c == '+' || c == '-' || c == '.'

/-- A scheme in lower case, and the text after its colon. -/
def scheme? (s : List Char) : Option (String × List Char) :=
  let name := s.takeWhile isSchemeChar
  match name, s.drop name.length with
  | first :: _, ':' :: rest =>
      if first.isAlpha then some (String.ofList (name.map Char.toLower), rest) else none
  | _, _ => none

def endsAuthority (kind : SchemeKind) (c : Char) : Bool :=
  c == '/' || c == '?' || c == '#' || (c == '\\' && kind != .opaqueKind)

/-- The text after the user of an authority, and whether there is a user. -/
def afterUser (kind : SchemeKind) (s : List Char) : Except UrlError (Bool × List Char) :=
  let authority := s.takeWhile fun c => !endsAuthority kind c
  if '@' ∉ authority then .ok (false, s)
  else
    let rest := (authority.reverse.takeWhile (· != '@')).reverse
    let user := authority.take (authority.length - rest.length - 1)
    let after := s.drop (authority.length - rest.length)
    if user = [] then
      if after.head?.any (endsAuthority kind) then .error .emptyHost else .ok (false, after)
    else .ok (user != [':'], after)

/-- The host at the front of a text; colons within brackets belong to it. -/
def takeHost (kind : SchemeKind) : (bracketed : Bool) → List Char → List Char
  | _, [] => []
  | bracketed, c :: rest =>
      if (c == ':' && !bracketed) || endsAuthority kind c then []
      else
        let bracketed := if c == '[' then true else if c == ']' then false else bracketed
        c :: takeHost kind bracketed rest

def checkPort (port : Nat) : List Char → Except UrlError Unit
  | [] => .ok ()
  | c :: rest =>
      if c.isDigit then
        let port := 10 * port + (c.toNat - 48)
        if 65535 < port then .error .invalidPort else checkPort port rest
      else if c == '/' || c == '\\' || c == '?' || c == '#' then .ok ()
      else .error .invalidPort

/-- What follows two slashes: a user, a host and a port. -/
def checkAuthority (kind : SchemeKind) (s : List Char) : Except UrlError Unit := do
  let (hasUser, s) ← afterUser kind s
  let name := takeHost kind false s
  if kind = .hosted then
    if name = [] then throw .emptyHost
    let _ ← host name
  else checkOpaque name
  match s.drop name.length with
  | ':' :: rest =>
      if name = [] then throw .emptyHost
      checkPort 0 rest
  | _ => if name = [] ∧ hasUser then throw .emptyHost

def isDrive (s : List Char) : Bool :=
  match s with
  | [letter, mark] => letter.isAlpha && (mark == ':' || mark == '|')
  | _ => false

def checkFile (s : List Char) : Except UrlError Unit :=
  let isSlash (c : Char) : Bool := c == '/' || c == '\\'
  match s with
  | a :: b :: rest =>
      if isSlash a && isSlash b then
        let name := rest.takeWhile fun c => !endsAuthority .file c
        if name = [] || isDrive name then .ok ()
        else (host name).map fun _ => ()
      else .ok ()
  | _ => .ok ()

def stripped (s : List Char) : List Char :=
  let isOuter (c : Char) : Bool := c.toNat ≤ 0x20
  let trimmed := ((s.dropWhile isOuter).reverse.dropWhile isOuter).reverse
  trimmed.filter fun c => c != '\t' && c != '\n' && c != '\r'

def scheme (url : String) : Except UrlError String :=
  match scheme? (stripped url.toList) with
  | none => .error .withoutBase
  | some (name, rest) =>
      let check : Except UrlError Unit :=
        match SchemeKind.of name with
        | .file => checkFile rest
        | .hosted => checkAuthority .hosted (rest.dropWhile fun c => c == '/' || c == '\\')
        | .opaqueKind =>
            match rest with
            | '/' :: '/' :: rest => checkAuthority .opaqueKind rest
            | _ => .ok ()
      check.map fun _ => name

end SmsGateway.Url
