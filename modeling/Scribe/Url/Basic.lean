import Scribe.Url.Host

/-!
# Addresses

An address names a resource: scheme, user, host, port, path, query and fragment.
Reading brings it to its normal form: small letters where case does not matter, no
default port, no dot segments, and signs encoded that a part cannot hold. A reference
is read relative to another address.
-/

namespace Scribe

open Scribe.Text

/-- An address in normal form. A path without a host before it may be any text. -/
structure Url where
  scheme : String
  user : String
  password : Option String
  host : Option Url.Host
  port : Option Nat
  path : String
  query : Option String
  fragment : Option String
deriving DecidableEq, Repr

namespace Url

/-- Port of a scheme where none is given. -/
def defaultPort? (scheme : String) : Option Nat :=
  if scheme = "http" ∨ scheme = "ws" then some 80
  else if scheme = "https" ∨ scheme = "wss" then some 443
  else if scheme = "ftp" then some 21
  else none

/-- Whether a scheme has a default port, so that a host must follow. -/
def isSpecial (scheme : String) : Bool :=
  (defaultPort? scheme).isSome

/-! ## Writing -/

/-- User and password in front of the host. -/
def renderUser (url : Url) : String :=
  let password :=
    match url.password with
    | none => ""
    | some password => ":" ++ password
  if url.user = "" ∧ url.password = none then "" else url.user ++ password ++ "@"

/-- The part between scheme and path. -/
def renderAuthority (url : Url) : String :=
  match url.host with
  | none => if url.scheme = "file" then "//" else ""
  | some host =>
      let port :=
        match url.port with
        | none => ""
        | some port => ":" ++ decimal port
      "//" ++ url.renderUser ++ host.render ++ port

/-- A mark and a text, if there is one. -/
def renderPart (mark : String) : Option String → String
  | none => ""
  | some text => mark ++ text

/-- Path and query, which is what a server is asked for. -/
def target (url : Url) : String :=
  url.path ++ renderPart "?" url.query

/-- A path that two slashes begin would be read as a host where there is none. -/
def guardPath (url : Url) : String :=
  if url.host.isNone && url.scheme != "file" && url.path.startsWith "//" then "/." else ""

/-- An address in its written form. -/
def render (url : Url) : String :=
  url.scheme ++ ":" ++ url.renderAuthority ++ url.guardPath ++ url.target ++
    renderPart "#" url.fragment

/-- Whether there is a host to speak to. -/
def hasHost (url : Url) : Bool :=
  url.host.any (· != .name "")

/-- The address without user and password, where both are text once decoded. -/
def withoutUser (url : Url) : Url :=
  let isText (part : String) : Bool :=
    (ofUtf8? ⟨(decodeBytes part.toUTF8.toList).toArray⟩).isSome
  let password := url.password.filter isText
  if isText url.user && (url.user != "" || password.isSome) then
    { url with user := "", password := none }
  else url

/-- The address with fields behind its query. -/
def withFields (url : Url) (fields : List (String × String)) : Url :=
  if fields.isEmpty then url
  else
    let before :=
      match url.query with
      | none | some "" => ""
      | some query => query ++ "&"
    { url with query := some (before ++ formQuery fields) }

/-! ## Reading -/

/-- Drop controls and spaces at both ends, and tabulators and line ends anywhere. -/
def clean (text : List Char) : List Char :=
  let trimmed := text.dropWhile fun c => c.toNat ≤ 32
  let trimmed := (trimmed.reverse.dropWhile fun c => c.toNat ≤ 32).reverse
  trimmed.filter fun c => c != '\t' && c != '\n' && c != '\r'

/-- Split a scheme off: a letter, then letters, digits and signs up to a colon. -/
def splitScheme : List Char → Option (String × List Char)
  | [] => none
  | c :: rest =>
      if c.isAlpha then
        let scheme := (c :: rest).takeWhile fun c =>
          c.isAlphanum || c == '+' || c == '-' || c == '.'
        match (c :: rest).drop scheme.length with
        | ':' :: rest => some (String.ofList (scheme.map Char.toLower), rest)
        | _ => none
      else none

/-- Whether a character parts two segments of a path. -/
def isSlash (special : Bool) (c : Char) : Bool :=
  c == '/' || (special && c == '\\')

/-- Segments of a path. -/
def segments (special : Bool) : List Char → List (List Char)
  | [] => [[]]
  | c :: rest =>
      if isSlash special c then [] :: segments special rest
      else
        match segments special rest with
        | [] => [[c]]
        | segment :: later => (c :: segment) :: later

/-- Dots of a segment, where each may be encoded; nothing if it holds anything else. -/
def dots? : List Char → Option Nat
  | [] => some 0
  | '.' :: rest => (dots? rest).map (· + 1)
  | '%' :: '2' :: e :: rest => if e = 'e' ∨ e = 'E' then (dots? rest).map (· + 1) else none
  | _ => none

/-- Follow segments: two dots leave the last directory, one dot stays. -/
def walk : (before : List (List Char)) → List (List Char) → List (List Char)
  | before, [] => before
  | before, segment :: rest =>
      match dots? segment with
      | some 2 => walk (before.dropLast ++ (if rest.isEmpty then [[]] else [])) rest
      | some 1 => walk (before ++ (if rest.isEmpty then [[]] else [])) rest
      | _ => walk (before ++ [encode pathSet segment]) rest

/-- A path from its segments. -/
def joinSegments (path : List (List Char)) : String :=
  String.ofList (path.flatMap fun segment => '/' :: segment)

/-- Split query and fragment off. -/
def splitTail (text : List Char) : List Char × Option (List Char) × Option (List Char) :=
  let beforeHash := text.takeWhile (· ≠ '#')
  let fragment :=
    match text.drop beforeHash.length with
    | _ :: fragment => some fragment
    | [] => none
  let path := beforeHash.takeWhile (· ≠ '?')
  let query :=
    match beforeHash.drop path.length with
    | _ :: query => some query
    | [] => none
  (path, query, fragment)

/-- The query of a scheme. -/
def encodeQuery (scheme : String) (query : List Char) : String :=
  String.ofList
    (encode (if isSpecial scheme ∨ scheme = "file" then specialQuerySet else querySet) query)

/-- The part in front of the path, and the rest. -/
def splitAuthority (special : Bool) (text : List Char) : List Char × List Char :=
  let authority := text.takeWhile fun c => !isSlash special c && c != '?' && c != '#'
  (authority, text.drop authority.length)

/-- Split user and password off at the last at sign. -/
def splitUser (authority : List Char) :
    Option (List Char) × List Char :=
  let host := (authority.reverse.takeWhile (· ≠ '@')).reverse
  if host.length < authority.length then
    (some (authority.take (authority.length - host.length - 1)), host)
  else (none, authority)

/-- The part up to the colon in front of a port, outside of brackets. -/
def hostLength : (bracket : Bool) → List Char → Nat
  | _, [] => 0
  | bracket, c :: rest =>
      if c = ':' ∧ !bracket then 0
      else 1 + hostLength (if c = '[' then true else if c = ']' then false else bracket) rest

/-- A port of up to sixteen bits. -/
def readPort (digits : List Char) : Except UrlFault (Option Nat) :=
  let step (port : Except UrlFault Nat) (c : Char) : Except UrlFault Nat := do
    let port ← port
    match digit? c with
    | none => throw .invalidPort
    | some digit =>
        if port * 10 + digit < 65536 then pure (port * 10 + digit) else throw .invalidPort
  match digits with
  | [] => .ok none
  | digits => (digits.foldl step (.ok 0)).map some

/-- Read what follows two slashes. -/
def readAuthority (scheme : String) (text : List Char) : Except UrlFault Url := do
  let special := isSpecial scheme
  let (authority, rest) := splitAuthority special text
  let (user, hostPort) := splitUser authority
  let name := (user.getD []).takeWhile (· ≠ ':')
  let password := (user.getD []).drop (name.length + 1)
  let named := !name.isEmpty || !password.isEmpty
  if hostPort.isEmpty ∧ (named ∨ user = some [] ∧ !rest.isEmpty) then throw .emptyHost
  let host := hostPort.take (hostLength false hostPort)
  if host.isEmpty ∧ (special ∨ !hostPort.isEmpty) then throw .emptyHost
  let parsed ←
    if host.isEmpty then pure (some (.name ""))
    else (if special then readHost host else readOtherHost host).map some
  let port ← readPort (hostPort.drop (host.length + 1))
  let (path, query, fragment) := splitTail rest
  let path :=
    match path with
    | [] => if special then "/" else ""
    | _ :: path => joinSegments (walk [] (segments special path))
  return {
    scheme
    user := String.ofList (encode userSet name)
    password := if password.isEmpty then none else some (String.ofList (encode userSet password))
    host := parsed
    port := if port = defaultPort? scheme then none else port
    path
    query := query.map (encodeQuery scheme)
    fragment := fragment.map fun text => String.ofList (encode fragmentSet text) }

/-- An address without a host. -/
def readPlain (scheme : String) (text : List Char) : Url :=
  let (path, query, fragment) := splitTail text
  let path :=
    match path with
    | '/' :: path => joinSegments (walk [] (segments false path))
    | path => String.ofList (encode [] path)
  { scheme
    user := ""
    password := none
    host := none
    port := none
    path
    query := query.map (encodeQuery scheme)
    fragment := fragment.map fun text => String.ofList (encode fragmentSet text) }

/-- Whether a text is a letter and one of the two signs for a drive. -/
def isDrive : List Char → Bool
  | [c, sign] => c.isAlpha && (sign == ':' || sign == '|')
  | _ => false

/-- The address of a file. -/
def readFile (text : List Char) : Except UrlFault Url := do
  match text with
  | a :: b :: rest =>
      if isSlash true a && isSlash true b then
        let (hostText, path) := splitAuthority true rest
        if isDrive hostText then return readPlain "file" ('/' :: rest)
        let host ←
          if hostText.isEmpty then pure none
          else do
            let host ← readHost hostText
            pure (if host = .name "localhost" then none else some host)
        return { readPlain "file" (if path.isEmpty then ['/'] else path) with host }
      else return readPlain "file" ('/' :: (if isSlash true a then b :: rest else text))
  | _ => return readPlain "file" ('/' :: text)

/-- Read what follows a scheme. -/
def readAfterScheme (scheme : String) (text : List Char) : Except UrlFault Url :=
  if scheme = "file" then readFile text
  else if isSpecial scheme then readAuthority scheme (text.dropWhile (isSlash true))
  else
    match text with
    | '/' :: '/' :: rest => readAuthority scheme rest
    | text => .ok (readPlain scheme text)

/-- Read an address. -/
def parse (text : String) : Except UrlFault Url :=
  match splitScheme (clean text.toList) with
  | none => .error .relative
  | some (scheme, rest) => readAfterScheme scheme rest

/-- Segments of a path in front of the last slash. -/
def directory (path : String) : List (List Char) :=
  ((segments false path.toList).drop 1).dropLast

/-- Read a reference relative to an address whose scheme has a default port. -/
def resolve (base : Url) (text : String) : Except UrlFault Url :=
  let relative (text : List Char) : Except UrlFault Url :=
    let (path, query, fragment) := splitTail text
    let query := query.map (encodeQuery base.scheme)
    let fragment := fragment.map fun text => String.ofList (encode fragmentSet text)
    match path with
    | [] => .ok { base with query := if query.isSome then query else base.query, fragment }
    | c :: rest =>
        match rest with
        | d :: _ =>
            if isSlash true c && isSlash true d then
              readAuthority base.scheme (text.dropWhile (isSlash true))
            else if isSlash true c then
              .ok { base with path := joinSegments (walk [] (segments true rest)), query, fragment }
            else
              .ok { base with
                path := joinSegments (walk (directory base.path) (segments true path))
                query
                fragment }
        | [] =>
            let start := if isSlash true c then [] else directory base.path
            let path := if isSlash true c then [] else path
            let path := joinSegments (walk start (segments true path))
            .ok { base with path, query, fragment }
  let text := clean text.toList
  match splitScheme text with
  | none => relative text
  | some (scheme, rest) =>
      if scheme = base.scheme ∧ (rest.takeWhile (isSlash true)).length < 2 then relative rest
      else readAfterScheme scheme rest

end Url

end Scribe
