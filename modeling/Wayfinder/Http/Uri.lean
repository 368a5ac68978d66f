import Wayfinder.Text.Trim
/-!
# Request targets

A target is a path with an optional query, an absolute address, the name of a host, or a star. Fragments are cut off.
-/

namespace Wayfinder.Http

inductive UriError
  | empty
  | tooLong
  | invalidChar
  | invalidFormat
  | invalidAuthority
  | schemeTooLong
  deriving Repr, DecidableEq

def UriError.message : UriError → String
  | empty => "empty string"
  | tooLong => "uri too long"
  | invalidChar => "invalid uri character"
  | invalidFormat => "invalid format"
  | invalidAuthority => "invalid authority"
  | schemeTooLong => "scheme too long"

/-- A target. Both path and query keep their escapes. -/
structure Uri where
  scheme : Option String := none
  authority : String := ""
  path : String
  query : Option String := none
  deriving Repr, DecidableEq

namespace Uri

/-- Targets have at most this many bytes. -/
def maxLength : Nat := 65534

/-- Characters of a path. -/
def isPathChar (c : Char) : Bool :=
  ('\x21' ≤ c && c ≤ '\x3b') || c == '=' || ('\x40' ≤ c && c ≤ '\x5f') || ('a' ≤ c && c ≤ '\x7e') ||
    '\x80' ≤ c

/-- Characters of a query. -/
def isQueryChar (c : Char) : Bool :=
  c == '\x21' || ('\x24' ≤ c && c ≤ '\x3b') || c == '=' || ('\x3f' ≤ c && c ≤ '\x7e') || '\x80' ≤ c

/-- Characters of a host, its user and its port. -/
def isAuthorityChar (c : Char) : Bool := c.isAlphanum || "!$&'()*+,-.:;=@[]_~".contains c

/-- Characters in front of the colon of an absolute address. -/
def isSchemeChar (c : Char) : Bool := c.isAlphanum || c == '+' || c == '-' || c == '.' || c == '~'

/-- Reads a path with its query. -/
def readPath (s : List Char) : Except UriError (String × Option String) :=
  let (path, rest) := s.span fun c => c != '?' && c != '#'
  if !path.all isPathChar then .error .invalidChar
  else match rest with
    | '?' :: rest =>
      let query := rest.takeWhile (· != '#')
      if query.all isQueryChar then .ok (String.ofList path, some (String.ofList query))
      else .error .invalidChar
    | _ => .ok (String.ofList path, none)

/-- What has been seen of an authority: colons that may stand before a port, brackets, and percent signs. -/
structure AuthorityState where
  colons : Nat := 0
  opened : Bool := false
  closed : Bool := false
  percent : Bool := false

/-- Checks one character of an authority. -/
def AuthorityState.step (st : AuthorityState) (c : Char) : Except UriError AuthorityState :=
  match c with
  | ':' => if 8 ≤ st.colons then .error .invalidAuthority else .ok { st with colons := st.colons + 1 }
  | '[' => if st.percent || st.opened then .error .invalidAuthority else .ok { st with opened := true }
  | ']' =>
    if !st.opened || st.closed then .error .invalidAuthority
    else .ok { st with closed := true, colons := 0, percent := false }
  | '@' => .ok { st with colons := 0, percent := false }
  | '%' => .ok { st with percent := true }
  | c => if isAuthorityChar c then .ok st else .error .invalidChar

/-- Reads an authority up to the path behind it. Percent signs may stand before an `@` or inside brackets only, and
one colon after that. -/
def readAuthority (s : List Char) : Except UriError (List Char × List Char) := do
  let (authority, rest) := s.span fun c => c != '/' && c != '?' && c != '#'
  let st ← authority.foldlM AuthorityState.step {}
  if st.opened != st.closed || 1 < st.colons || authority.getLast? == some '@' || st.percent then
    .error .invalidAuthority
  else .ok (authority, rest)

/-- The scheme of an absolute address and what follows the slashes behind it. -/
def readScheme (s : List Char) : Except UriError (Option (String × List Char)) :=
  let lower := s.map Char.toLower
  if "http://".toList.isPrefixOf lower then .ok (some ("http", s.drop 7))
  else if "https://".toList.isPrefixOf lower then .ok (some ("https", s.drop 8))
  else
    let (scheme, rest) := s.span isSchemeChar
    match rest with
    | ':' :: '/' :: '/' :: rest =>
      if s.length ≤ 3 then .ok none
      else if 64 < scheme.length then .error .schemeTooLong
      else .ok (some (String.ofList scheme, rest))
    | _ => .ok none

/-- The target that a text denotes. -/
def parse (s : String) : Except UriError Uri :=
  if maxLength < s.utf8ByteSize then .error .tooLong
  else match s.toList with
    | [] => .error .empty
    | ['*'] => .ok { path := "*" }
    | '/' :: rest => do
      let (path, query) ← readPath ('/' :: rest)
      return { path, query }
    | cs => do
      match ← readScheme cs with
      | none =>
        let (authority, rest) ← readAuthority cs
        if rest = [] then return { authority := String.ofList authority, path := "" }
        else if cs.length = 1 then .error .invalidChar
        else .error .invalidFormat
      | some (_, []) => .error .empty
      | some (scheme, rest) =>
        let (authority, rest) ← readAuthority rest
        if authority = [] then .error .invalidFormat
        else
          let (path, query) ← readPath rest
          return { scheme := some scheme, authority := String.ofList authority,
                   path := if path = "" then "/" else path, query }

/-- The target as text. -/
def toText (u : Uri) : String :=
  (match u.scheme with
    | some scheme => scheme ++ "://"
    | none => "") ++ u.authority ++ u.path ++
    match u.query with
    | some query => "?" ++ query
    | none => ""

end Uri

end Wayfinder.Http
