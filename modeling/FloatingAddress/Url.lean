import FloatingAddress.Address.Reader
import FloatingAddress.Hostname.Name
import FloatingAddress.Text.Blank
import FloatingAddress.Text.Digit
import FloatingAddress.Text.Utf8

/-!
# The address of a request

A request is sent to a URL that is taken apart, checked and put together again: the
scheme and the host in lower case, a host beyond ASCII encoded, the port left out where it
is the usual one of the scheme, dot segments of the path resolved, and code points that a
part may not hold written byte by byte with percent signs.

* `Url.read`: the parts of a URL, or why it is none;
* `Url.text`: the parts put together;
* `Url.requested`: the URL that is asked for where one is configured;
* `Url.checkHost`: what is wrong with a host to which a request is to go.
-/

namespace FloatingAddress

/-- The parts of a URL. -/
structure Url where
  /-- The scheme, empty if there is none. -/
  scheme : Text
  /-- What stands in front of the host, empty if there is nothing. -/
  userinfo : Text
  /-- The host without brackets, empty if there is none. -/
  host : Text
  /-- The port, unless it is the usual one. -/
  port : Option Int
  path : Text
  /-- What follows the first question mark. -/
  query : Option Text
  /-- What follows the first number sign. -/
  fragment : Option Text
deriving DecidableEq

namespace Url

/-- Why a text is no URL. -/
inductive Problem
  | tooLong
  | unprintable (c : CodePoint) (offset : Nat)
  | invalidV4 (host : Text)
  | invalidV6 (host : Text)
  | invalidHostname (host : Text)
  | invalidPort (port : Text)
  | pathNotRooted
  | pathWithTwoSlashes
  | pathWithColon
  | pathTooLong
  | queryTooLong
  | unencodable (run : Unencodable)
  /-- The host is encoded, and is no host name once it is decoded. -/
  | undecodable (problem : Hostname.Problem)
  | unknownType (url : Text)
deriving DecidableEq

/-- The name of the kind of a problem. -/
def Problem.kind : Problem → Text
  | unencodable _ => "UnicodeEncodeError"
  | undecodable problem => problem.kind
  | unknownType _ => "ValueError"
  | _ => "InvalidURL"

/-- The wording of a problem. -/
def Problem.message : Problem → Text
  | tooLong => "URL too long"
  | unprintable c offset =>
      "Invalid non-printable ASCII character in URL, " ++ Text.quoted [c] ++ " at position "
        ++ Numeral.ofNat offset ++ "."
  | invalidV4 host => "Invalid IPv4 address: " ++ host.quoted
  | invalidV6 host => "Invalid IPv6 address: " ++ host.quoted
  | invalidHostname host => "Invalid IDNA hostname: " ++ host.quoted
  | invalidPort port => "Invalid port: " ++ port.quoted
  | pathNotRooted => "For absolute URLs, path must be empty or begin with '/'"
  | pathWithTwoSlashes => "Relative URLs cannot have a path starting with '//'"
  | pathWithColon => "Relative URLs cannot have a path starting with ':'"
  | pathTooLong => "URL component 'path' too long"
  | queryTooLong => "URL component 'query' too long"
  | unencodable run => run.message
  | undecodable problem => problem.message
  | unknownType url => "unknown url type: " ++ url.quoted

/-- The greatest length of a URL that is read, and of a part that is put into another. -/
def maxLength : Nat := 65536

/-! ## What the parts may hold -/

/-- A code point that any part holds as itself. -/
def isUnreserved (c : CodePoint) : Bool :=
  c.isLetter || c.isDigit || c = '-' || c = '.' || c = '_' || c = '~'

/-- A printable ASCII character other than those listed. -/
def isVisibleExcept (marks : String) (c : CodePoint) : Bool :=
  0x20 < c.val && c.val < 0x7F && !(Text.ofString marks).contains c

/-- What a path holds as itself. -/
def isPathPoint : CodePoint → Bool :=
  isVisibleExcept "\"#<>?\x60\x7b\x7d"

/-- What a query holds as itself. -/
def isQueryPoint : CodePoint → Bool :=
  isVisibleExcept "\"#<>"

/-- What a fragment holds as itself. -/
def isFragmentPoint : CodePoint → Bool :=
  isVisibleExcept "\"<>\x60"

/-- What stands as itself in front of a host. -/
def isUserinfoPoint : CodePoint → Bool :=
  isVisibleExcept "\"#<>?\x60\x7b\x7d/;=@[\\]^|"

/-- What a host name holds as itself. -/
def isHostPoint (c : CodePoint) : Bool :=
  isUnreserved c || (Text.ofString "!$&'()*+,;=\"\x60\x7b\x7d%|\\").contains c

/-- One code point of a part, byte by byte if the part does not hold it as itself. -/
def quotePoint (isPlain : CodePoint → Bool) (c : CodePoint) : Except Problem Text :=
  if isPlain c then .ok [c]
  else if c.isSurrogate then .error (.unencodable ⟨.utf8, [c], 0, c, 0⟩)
  else
    .ok ((Utf8.encodePoint c).flatMap fun b =>
      ('%' : CodePoint) :: (Numeral.hexPadded 2 b.toNat).map CodePoint.toUpper)

/-- A part with what it does not hold as itself written byte by byte. -/
def quotePart (isPlain : CodePoint → Bool) (t : Text) : Except Problem Text :=
  (t.mapM (quotePoint isPlain)).map List.flatten

/-! ## Taking a URL apart -/

/-- The scheme in front of the first colon, empty if the text begins with none. -/
def cutScheme (t : Text) : Text × Text :=
  match Text.cutAround ":" t with
  | none => ([], t)
  | some (scheme, rest) =>
      match scheme with
      | [] => ([], rest)
      | first :: more =>
          if first.isLetter
              && more.all (fun c => c.isLetter || c.isDigit || c = '+' || c = '.' || c = '-') then
            (scheme, rest)
          else ([], t)

/-- What follows two slashes, up to the path, query or fragment. -/
def cutAuthority (t : Text) : Text × Text :=
  match Text.after? "//" t with
  | none => ([], t)
  | some rest => rest.span fun c => !(c = '/' || c = '?' || c = '#')

/-- A part up to a mark, and what follows the mark if there is one. -/
def cutAt (mark : CodePoint) (t : Text) : Text × Option Text :=
  match Text.cutAround [mark] t with
  | none => (t, none)
  | some (before, after) => (before, some after)

/-- What stands in front of the last at sign, and the rest. -/
def cutUserinfo (authority : Text) : Text × Text :=
  let after := (authority.reverse.takeWhile fun c : CodePoint => c ≠ '@').reverse
  if after.length = authority.length then ([], authority)
  else (authority.take (authority.length - after.length - 1), after)

/-- The host, in brackets or up to a colon, and the port after it. -/
def cutHost (t : Text) : Text × Text :=
  let bracketed := (t.reverse.dropWhile fun c : CodePoint => c ≠ ']').reverse
  let host :=
    if t.head? = some ('[' : CodePoint) ∧ bracketed ≠ [] then bracketed
    else t.takeWhile fun c : CodePoint => c ≠ ':'
  let rest := t.drop host.length
  (host, (Text.after? ":" rest).getD rest)

/-! ## Checking the parts -/

/-- Four runs of digits with dots between them. With anything else between the runs, as in
`10-0-0-1`, a host is a name. -/
def isQuadLike (host : Text) : Bool :=
  let runs := List.splitOn ('.' : CodePoint) host
  runs.length = 4 && runs.all fun run => run ≠ [] && run.all CodePoint.isDigit

/-- A host as it is sent. -/
def readHost (host : Text) : Except Problem Text :=
  if host = [] then .ok []
  else if isQuadLike host then
    if (V4.read? host).isSome then .ok host else .error (.invalidV4 host)
  else if host.head? = some ('[' : CodePoint) ∧ host.getLast? = some (']' : CodePoint) then
    let inner := (host.drop 1).dropLast
    if (V6.read? inner).isSome then .ok inner else .error (.invalidV6 host)
  else if host.all CodePoint.isAscii then quotePart isHostPoint host.toLower
  else (Hostname.encode host).mapError fun _ => .invalidHostname host

/-- The port that is usual for a scheme. -/
def usualPort? (scheme : Text) : Option Int :=
  if scheme = "ftp" then some 21
  else if scheme = "http" ∨ scheme = "ws" then some 80
  else if scheme = "https" ∨ scheme = "wss" then some 443
  else none

/-- A decimal digit of any script as an ASCII digit; all else stays. -/
def asciiDigit (c : CodePoint) : CodePoint :=
  (c.digit?.bind fun n => CodePoint.ofNat? (0x30 + n)).getD c

/-- The number that a port is written as: white space around it, a sign, digits of any
script, and single underscores between the digits are allowed. -/
def portNumber? (t : Text) : Option Int :=
  let t := t.trim.map asciiDigit
  let negative := t.head? = some ('-' : CodePoint)
  let digits := if negative ∨ t.head? = some ('+' : CodePoint) then t.drop 1 else t
  let groups := List.splitOn ('_' : CodePoint) digits
  if (groups.all fun group => group ≠ [] ∧ group.all CodePoint.isDigit)
      ∧ groups.flatten.length ≤ Numeral.maxDigits then
    some (Numeral.signed negative groups.flatten)
  else none

/-- A port, none if it is empty or usual for the scheme. -/
def readPort (scheme port : Text) : Except Problem (Option Int) :=
  if port = [] then .ok none
  else
    match portNumber? port with
    | none => .error (.invalidPort port)
    | some n => .ok (if usualPort? scheme = some n then none else some n)

/-- A path has to fit what stands in front of it. -/
def checkPath (path : Text) (hasScheme hasAuthority : Bool) : Except Problem Unit :=
  if hasAuthority ∧ path ≠ [] ∧ path.head? ≠ some ('/' : CodePoint) then .error .pathNotRooted
  else if ¬hasScheme ∧ ¬hasAuthority ∧ (Text.after? "//" path).isSome then
    .error .pathWithTwoSlashes
  else if ¬hasScheme ∧ ¬hasAuthority ∧ path.head? = some (':' : CodePoint) then
    .error .pathWithColon
  else .ok ()

/-- The segments of a path without `.`, each `..` taking the segment before it away. -/
def resolveDots (segments : List Text) : List Text :=
  let keep (kept : List Text) (segment : Text) : List Text :=
    if segment = ("." : Text) then kept
    else if segment = (".." : Text) then
      if kept = [] ∨ kept = [[]] then kept else kept.drop 1
    else segment :: kept
  (segments.foldl keep []).reverse

/-- A path with its dot segments resolved. -/
def normalPath (path : Text) : Text :=
  List.intercalate "/" (resolveDots (List.splitOn ('/' : CodePoint) path))

/-- The parts of a URL. -/
def read (t : Text) : Except Problem Url := do
  if maxLength < t.length then throw .tooLong
  match t.dropWhile fun c => 0x20 ≤ c.val && c.val ≠ 0x7F with
  | c :: rest => throw (.unprintable c (t.length - (c :: rest).length))
  | [] => pure ()
  let (scheme, rest) := cutScheme t
  let (authority, rest) := cutAuthority rest
  let (rest, fragment) := cutAt '#' rest
  let (path, query) := cutAt '?' rest
  let (userinfo, authority) := cutUserinfo authority
  let (host, port) := cutHost authority
  let userinfo ← quotePart isUserinfoPoint userinfo
  let host ← readHost host
  let port ← readPort scheme port
  let hasScheme := decide (scheme ≠ [])
  let hasAuthority := decide (userinfo ≠ [] ∨ host ≠ [] ∨ port ≠ none)
  checkPath path hasScheme hasAuthority
  let path ← quotePart isPathPoint
    (if hasScheme || hasAuthority then normalPath path else path)
  let query ← query.mapM (quotePart isQueryPoint)
  let fragment ← fragment.mapM (quotePart isFragmentPoint)
  return { scheme := scheme.toLower, userinfo, host, port, path, query, fragment }

/-! ## Putting a URL together -/

/-- Host and port, brackets around a host with a colon. -/
def hostAndPort (u : Url) : Text :=
  (if (':' : CodePoint) ∈ u.host then ("[" ++ u.host ++ "]" : Text) else u.host)
    ++ (match u.port with
        | none => []
        | some n => (":" : Text) ++ Numeral.ofInt n)

/-- Host and port, the user information in front of them. -/
def authority (u : Url) : Text :=
  (if u.userinfo = [] then [] else u.userinfo ++ ("@" : Text)) ++ u.hostAndPort

/-- The parts put together. -/
def text (u : Url) : Text :=
  (if u.scheme = [] then [] else u.scheme ++ (":" : Text))
    ++ (if u.authority = [] then [] else ("//" : Text) ++ u.authority)
    ++ u.path
    ++ (match u.query with
        | none => []
        | some query => ("?" : Text) ++ query)
    ++ (match u.fragment with
        | none => []
        | some fragment => ("#" : Text) ++ fragment)

/-! ## Asking for a URL -/

/-- A URL that tells where a request goes. -/
def IsAbsolute (u : Url) : Prop :=
  u.scheme ≠ [] ∧ u.host ≠ []

instance (u : Url) : Decidable u.IsAbsolute :=
  inferInstanceAs (Decidable (_ ∧ _))

/-- Path and query of a URL, the path from the root. -/
def fromRoot (u : Url) : Except Problem Url := do
  let path := ('/' : CodePoint) :: u.path.dropWhile fun c : CodePoint => c = '/'
  if maxLength < path.length then throw .pathTooLong
  if u.query.any fun query => maxLength < query.length then throw .queryTooLong
  return { scheme := [], userinfo := [], host := [], port := none, path,
           query := u.query, fragment := none }

/-- The URL that is asked for where one is configured. If it does not tell where a request
goes, only path and query are left of it. -/
def requested (t : Text) : Except Problem Url := do
  let u ← read t
  if u.IsAbsolute then return u else u.fromRoot

/-- What is wrong with a host to which a request is to go: it is not in ASCII, or it is
encoded and is no host name once it is decoded. -/
def checkHost (u : Url) : Except Problem Unit := do
  if let some run := Encoding.ascii.unencodable? u.hostAndPort then
    throw (.unencodable run)
  if (Text.after? Label.mark u.host).isSome then
    let _ ← (Hostname.decode u.host).mapError .undecodable

end Url
end FloatingAddress
