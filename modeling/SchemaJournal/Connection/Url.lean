import SchemaJournal.Connection.Domain.Basic

/-!
# URLs

A URL has a scheme and, after it, an authority with credentials, a host and a port, then a path, a query and a
fragment. A few schemes are special: they need a host, which is the name of an internet domain, and a backslash counts
as a slash in them. In all other schemes a host is any text without the characters that have a meaning in URLs.

- `Url.ofText` reads a URL: it drops blanks at the ends, and tabs and line ends everywhere, and escapes what has to be;
- `Url.text` writes it;
- `Url.withUsername`, `Url.withPassword` and `Url.withPath` set one part.
-/

namespace SchemaJournal.Connection

/-- Why a text is no URL. -/
inductive UrlError where
  | relativeWithoutBase
  | emptyHost
  | invalidPort
  | invalidIpv4
  | invalidIpv6
  | invalidDomainCharacter
  | invalidDomainName
deriving DecidableEq, Repr

namespace UrlError

/-- The wording of an error. -/
def message : UrlError → String
  | .relativeWithoutBase => "relative URL without a base"
  | .emptyHost => "empty host"
  | .invalidPort => "invalid port number"
  | .invalidIpv4 => "invalid IPv4 address"
  | .invalidIpv6 => "invalid IPv6 address"
  | .invalidDomainCharacter => "invalid domain character"
  | .invalidDomainName => "invalid international domain name"

end UrlError

/-- A URL, its parts as they are written. A URL without an authority has no host; the host may be empty. -/
structure Url where
  scheme : String
  username : String
  password : String
  host : Option String
  port : Option Nat
  path : String
  query : Option String
  fragment : Option String
deriving DecidableEq, Repr

/-! ## Schemes -/

/-- The kinds of schemes. -/
inductive SchemeKind where
  | file
  | special
  | plain
deriving DecidableEq, Repr

namespace SchemeKind

/-- The kind of a scheme. -/
def of (scheme : String) : SchemeKind :=
  if scheme = "file" then .file
  else if ["http", "https", "ws", "wss", "ftp"].contains scheme then .special
  else .plain

/-- Whether a backslash counts as a slash. -/
def isSpecial (kind : SchemeKind) : Bool := kind != .plain

/-- Whether a character is a slash. -/
def isSlash (kind : SchemeKind) (c : Char) : Bool := c == '/' || (kind.isSpecial && c == '\\')

/-- Whether a character ends an authority. -/
def endsAuthority (kind : SchemeKind) (c : Char) : Bool := kind.isSlash c || c == '?' || c == '#'

end SchemeKind

/-- The port that a scheme means when none is given. -/
def defaultPort? : String → Option Nat
  | "http" | "ws" => some 80
  | "https" | "wss" => some 443
  | "ftp" => some 21
  | _ => none

/-- Whether a character can stand in a scheme. -/
def isSchemeChar (c : Char) : Bool := c.isAlphanum || c == '+' || c == '-' || c == '.'

/-- The scheme at the start of a text, in lower case, and what follows its colon. -/
def readScheme? (cs : List Char) : Option (String × List Char) :=
  if cs.head?.any Char.isAlpha then
    match cs.dropWhile isSchemeChar with
    | ':' :: rest => some (String.ofList ((cs.takeWhile isSchemeChar).map Char.toLower), rest)
    | _ => none
  else
    none

/-! ## Hosts -/

/-- A host in brackets, which has to be an address of version 6. -/
def readBracketed (cs : List Char) : Except UrlError String :=
  if cs.getLast? = some ']' then
    match Ipv6.ofText? (cs.drop 1).dropLast with
    | some address => .ok ("[" ++ address.text ++ "]")
    | none => .error .invalidIpv6
  else
    .error .invalidIpv6

/-- A host of a scheme that is not special. -/
def readOpaqueHost (cs : List Char) : Except UrlError String :=
  if cs.head? = some '[' then readBracketed cs
  else if cs.any isForbiddenInHost then .error .invalidDomainCharacter
  else .ok (String.ofList (Text.percentEncode Text.isControl cs))

/-- A host of a special scheme: a domain, in which escapes are undone, or an address. Names beyond ASCII are kept. -/
def readDomain (cs : List Char) : Except UrlError String :=
  if cs.head? = some '[' then readBracketed cs
  else
    match (String.fromUTF8? ⟨(Text.percentDecode cs).toArray⟩).bind (Domain.ofText? ·.toList) with
    | none => .error .invalidDomainName
    | some labels =>
      let domain := Domain.text labels
      if domain.isEmpty then .error .emptyHost
      else if Ipv4.endsInNumber domain && !Ipv4.isAddress domain then .error .invalidIpv4
      else .ok (String.ofList domain)

/-- The characters of a host: up to a colon outside of brackets, or to the end of the authority; and what follows. -/
def splitHost (kind : SchemeKind) (bracketed : Bool) : List Char → List Char × List Char
  | [] => ([], [])
  | c :: rest =>
    if (c == ':' && !bracketed) || kind.endsAuthority c then ([], c :: rest)
    else
      let bracketed := if c = '[' then true else if c = ']' then false else bracketed
      let (host, after) := splitHost kind bracketed rest
      (c :: host, after)

/-! ## Authorities -/

/-- Credentials as they are written. -/
structure Credentials where
  username : String
  password : String
deriving DecidableEq, Repr

/-- The form of a user name or a password in a URL. -/
def encodeUserinfo (s : String) : String := String.ofList (Text.percentEncode Text.inUserinfoSet s.toList)

/-- A text parted at its last `@`. -/
def partAtLastSign (cs : List Char) : Option (List Char × List Char) :=
  let host := (cs.reverse.takeWhile (· != '@')).reverse
  if host.length = cs.length then none else some (cs.take (cs.length - host.length - 1), host)

/-- The credentials at the start of an authority, up to its last `@`, and what follows. -/
def readCredentials (kind : SchemeKind) (cs : List Char) : Except UrlError (Credentials × List Char) :=
  let authority := cs.takeWhile (!kind.endsAuthority ·)
  let rest := cs.dropWhile (!kind.endsAuthority ·)
  match partAtLastSign authority with
  | none => .ok (⟨"", ""⟩, cs)
  | some ([], host) => if host.isEmpty && !rest.isEmpty then .error .emptyHost else .ok (⟨"", ""⟩, host ++ rest)
  | some (userinfo, host) =>
    let username := userinfo.takeWhile (· != ':')
    let password := userinfo.drop (username.length + 1)
    .ok (⟨encodeUserinfo (String.ofList username), encodeUserinfo (String.ofList password)⟩, host ++ rest)

/-- The port after a host, and what follows. -/
def readPort (scheme : String) (cs : List Char) : Except UrlError (Option Nat × List Char) :=
  match cs with
  | ':' :: cs =>
    let digits := cs.takeWhile Char.isDigit
    let rest := cs.dropWhile Char.isDigit
    let value := digits.foldl (fun n c => 10 * n + (c.toNat - 48)) 0
    if 65535 < value || !(rest.head?.all fun c => ['/', '\\', '?', '#'].contains c) then .error .invalidPort
    else if digits.isEmpty || defaultPort? scheme == some value then .ok (none, rest)
    else .ok (some value, rest)
  | cs => .ok (none, cs)

/-- An authority as it is written. -/
structure Authority where
  credentials : Credentials
  host : String
  port : Option Nat
deriving DecidableEq, Repr

/-- Reads an authority, and what follows it. -/
def readAuthority (scheme : String) (kind : SchemeKind) (cs : List Char) : Except UrlError (Authority × List Char) := do
  let (credentials, rest) ← readCredentials kind cs
  let (hostChars, rest) := splitHost kind false rest
  if hostChars.isEmpty && (kind.isSpecial || rest.head? == some ':') then throw .emptyHost
  let host ← if kind.isSpecial then readDomain hostChars else readOpaqueHost hostChars
  let (port, rest) ← readPort scheme rest
  if host.isEmpty && credentials != ⟨"", ""⟩ then throw .emptyHost
  return (⟨credentials, host, port⟩, rest)

/-! ## Paths -/

/-- The parts of a path between its slashes; there is one more than there are slashes. -/
def splitPath (kind : SchemeKind) : List Char → List (List Char)
  | [] => [[]]
  | c :: rest =>
    match splitPath kind rest with
    | [] => [[c]]
    | part :: parts => if kind.isSlash c then [] :: part :: parts else (c :: part) :: parts

/-- A segment without its escapes of dots. -/
def plainDots : List Char → List Char
  | '%' :: '2' :: 'e' :: rest | '%' :: '2' :: 'E' :: rest => '.' :: plainDots rest
  | c :: rest => c :: plainDots rest
  | [] => []

/-- Whether a segment stays in place. -/
def isSingleDot (segment : List Char) : Bool := plainDots segment == ['.']

/-- Whether a segment leads upwards. -/
def isDoubleDot (segment : List Char) : Bool := plainDots segment == ['.', '.']

/-- Whether a text is the name of a drive: a letter and a mark. -/
def isDrive (cs : List Char) : Bool :=
  match cs with
  | [letter, mark] => letter.isAlpha && (mark == ':' || mark == '|')
  | _ => false

/-- Segments without the last one, which comes first; a drive is never left. -/
def ascend : List (List Char) → List (List Char)
  | [] => []
  | segment :: above => if isDrive segment then segment :: above else above

/-- Follows segments from those that were followed before, the last one first. -/
def resolve (done : List (List Char)) : List (List Char) → List (List Char)
  | [] => done.reverse
  | [last] =>
    (if isDoubleDot last then [] :: ascend done else if isSingleDot last then [] :: done else last :: done).reverse
  | segment :: rest =>
    resolve (if isDoubleDot segment then ascend done else if isSingleDot segment then done else segment :: done) rest

/-- The form of a path in a URL; a slash in front makes no difference. An empty path stays empty in a scheme that is not
special. -/
def pathText (kind : SchemeKind) (cs : List Char) : String :=
  if cs.isEmpty && !kind.isSpecial then ""
  else
    let body := if cs.head?.any kind.isSlash then cs.drop 1 else cs
    let segments := (splitPath kind body).map (Text.percentEncode Text.inPathSet)
    "/" ++ "/".intercalate ((resolve [] segments).map String.ofList)

/-! ## Reading -/

/-- What follows a path: a query, a fragment, both or neither. -/
def readTail (kind : SchemeKind) (cs : List Char) : Option String × Option String :=
  let inQuery (c : Char) := Text.inQuerySet c || (kind.isSpecial && c == '\'')
  let fragmentOf (cs : List Char) := some (String.ofList (Text.percentEncode Text.inFragmentSet cs))
  match cs with
  | '?' :: cs =>
    let query := some (String.ofList (Text.percentEncode inQuery (cs.takeWhile (· != '#'))))
    match cs.dropWhile (· != '#') with
    | '#' :: cs => (query, fragmentOf cs)
    | _ => (query, none)
  | '#' :: cs => (none, fragmentOf cs)
  | _ => (none, none)

/-- Reads what follows a scheme and an authority. -/
def finish (scheme : String) (kind : SchemeKind) (authority : Option Authority) (cs : List Char) : Url :=
  let isEnd (c : Char) := c == '?' || c == '#'
  let pathChars := cs.takeWhile (!isEnd ·)
  let (query, fragment) := readTail kind (cs.dropWhile (!isEnd ·))
  let path :=
    if authority.isSome || pathChars.head?.any kind.isSlash then pathText kind pathChars
    else String.ofList (Text.percentEncode Text.isControl pathChars)
  { scheme, path, query, fragment
    username := (authority.map (·.credentials.username)).getD ""
    password := (authority.map (·.credentials.password)).getD ""
    host := authority.map (·.host)
    port := authority.bind (·.port) }

/-- Reads what follows the scheme of a file. The local host counts as none. -/
def readFileUrl (cs : List Char) : Except UrlError Url := do
  match cs with
  | a :: b :: rest =>
    if SchemeKind.file.isSlash a && SchemeKind.file.isSlash b then
      let hostChars := rest.takeWhile (!SchemeKind.file.endsAuthority ·)
      if hostChars.isEmpty || isDrive hostChars then
        return finish "file" .file (some ⟨⟨"", ""⟩, "", none⟩) rest
      let host ← readDomain hostChars
      let host := if host = "localhost" then "" else host
      return finish "file" .file (some ⟨⟨"", ""⟩, host, none⟩) (rest.drop hostChars.length)
    return finish "file" .file (some ⟨⟨"", ""⟩, "", none⟩) cs
  | _ => return finish "file" .file (some ⟨⟨"", ""⟩, "", none⟩) cs

/-- A text without the control characters and spaces at its ends. -/
def trimmed (cs : List Char) : List Char :=
  let isBlank (c : Char) := decide (c.toNat ≤ 32)
  ((cs.dropWhile isBlank).reverse.dropWhile isBlank).reverse

/-- The characters of a text that count. -/
def significant (cs : List Char) : List Char := cs.filter fun c => !(c == '\t' || c == '\n' || c == '\r')

namespace Url

/-- Reads a URL. -/
def ofText (s : String) : Except UrlError Url := do
  match readScheme? (significant (trimmed s.toList)) with
  | none => throw .relativeWithoutBase
  | some (scheme, rest) =>
    match SchemeKind.of scheme, rest with
    | .file, rest => readFileUrl rest
    | .special, rest =>
      let (authority, rest) ← readAuthority scheme .special (rest.dropWhile SchemeKind.special.isSlash)
      return finish scheme .special (some authority) rest
    | .plain, '/' :: '/' :: rest =>
      let (authority, rest) ← readAuthority scheme .plain rest
      return finish scheme .plain (some authority) rest
    | .plain, rest => return finish scheme .plain none rest

/-! ## Writing -/

/-- Credentials before a host. -/
def credentialsText (u : Url) : String :=
  if u.username.isEmpty && u.password.isEmpty then ""
  else u.username ++ (if u.password.isEmpty then "" else ":" ++ u.password) ++ "@"

/-- The authority with the slashes before it. A path that would look like one is kept apart by a dot. -/
def authorityText (u : Url) : String :=
  match u.host with
  | some host => "//" ++ u.credentialsText ++ host ++ ((u.port.map fun port => ":" ++ toString port).getD "")
  | none => if u.path.toList.take 2 = ['/', '/'] then "/." else ""

/-- The text of a URL. -/
def text (u : Url) : String :=
  u.scheme ++ ":" ++ u.authorityText ++ u.path ++ ((u.query.map ("?" ++ ·)).getD "") ++
    ((u.fragment.map ("#" ++ ·)).getD "")

/-! ## Setting parts -/

/-- Whether a URL can have credentials: it has a host. -/
def takesCredentials (u : Url) : Bool :=
  u.scheme != "file" && (match u.host with
    | some host => !host.isEmpty
    | none => false)

/-- Sets the user name. -/
def withUsername (u : Url) (username : String) : Option Url :=
  if u.takesCredentials then some { u with username := encodeUserinfo username } else none

/-- Sets the password; an empty one is none. -/
def withPassword (u : Url) (password : String) : Option Url :=
  if u.takesCredentials then some { u with password := encodeUserinfo password } else none

/-- Sets the path. In a scheme that is not special, a path that starts with the mark of a query or a fragment is taken
for an empty one. -/
def withPath (u : Url) (path : String) : Url :=
  let kind := SchemeKind.of u.scheme
  let cs := significant path.toList
  if !kind.isSpecial && cs.head?.any fun c => c == '?' || c == '#' then { u with path := "" }
  else { u with path := pathText kind cs }

end Url

end SchemaJournal.Connection
