import OperatorDaemon.Text.Integer
import OperatorDaemon.Url.Host
import OperatorDaemon.Url.Path

/-!
# Reading URLs

The URL that a text stands for. Blanks and control characters around it are dropped, and tabs and line
breaks within it. Slashes may be left out or doubled behind a well-known scheme, and backslashes count as
slashes there.
-/

namespace OperatorDaemon.Url

/-- The characters that matter. -/
def clean (text : String) : List Char :=
  let isMargin (c : Char) : Bool := c.toNat ≤ 0x20
  (((text.toList.dropWhile isMargin).reverse.dropWhile isMargin).reverse).filter
    fun c => c != '\t' && c != '\n' && c != '\r'

/-- Whether a character may stand in a scheme. -/
def isSchemeChar (c : Char) : Bool :=
  isAsciiLetter c || isAsciiDigit c || c = '+' || c = '-' || c = '.'

/-- The scheme in lower case, and what follows the colon. -/
def scheme? (cs : List Char) : Option (String × List Char) :=
  match cs.dropWhile isSchemeChar with
  | ':' :: rest =>
    if cs.head?.any isAsciiLetter then
      some (String.ofList ((cs.takeWhile isSchemeChar).map asciiLower), rest)
    else none
  | _ => none

/-- Whether a character ends the authority. -/
def endsAuthority (kind : SchemeKind) (c : Char) : Bool :=
  c = '?' || c = '#' || endsSegment kind c

/-- What stands in front of the last at sign of the authority, if there is one, and what follows. -/
def splitUserInfo (kind : SchemeKind) (cs : List Char) : Option (List Char) × List Char :=
  let authority := cs.takeWhile fun c => !endsAuthority kind c
  let behind := (authority.reverse.takeWhile (· != '@')).length
  if behind = authority.length then (none, cs)
  else
    let before := authority.length - behind - 1
    (some (cs.take before), cs.drop (before + 1))

/-- An authority without a host. An at sign with nothing around it is refused. -/
def readUserInfo (kind : SchemeKind) (info : Option (List Char)) (rest : List Char) :
    Except Fault Authority :=
  match info with
  | none => .ok {}
  | some [] => if rest.head?.any (endsAuthority kind) then .error .emptyHost else .ok {}
  | some info =>
    let encoded (cs : List Char) : String := String.ofList (Percent.encode Percent.inUserInfo cs)
    .ok { user := encoded (info.takeWhile (· != ':'))
          password := encoded ((info.dropWhile (· != ':')).drop 1) }

/-- How many characters the text of a host has. A colon in brackets belongs to it. -/
def hostLength (kind : SchemeKind) (inBrackets : Bool) : List Char → Nat
  | [] => 0
  | c :: rest =>
    if (c = ':' && !inBrackets) || endsAuthority kind c then 0
    else hostLength kind (c = '[' || (inBrackets && c != ']')) rest + 1

/-- The port behind a host, and what follows it. That of the scheme is left out. -/
def readPort (scheme : String) : List Char → Except Fault (Option Nat × List Char)
  | ':' :: rest =>
    let digits := rest.takeWhile isAsciiDigit
    let rest := rest.dropWhile isAsciiDigit
    match Integer.parseDigits 65535 0 digits with
    | .error _ => .error .invalidPort
    | .ok port =>
      if rest.head?.any fun c => !endsAuthority .network c then .error .invalidPort
      else if digits.isEmpty ∨ defaultPort? scheme = some port then .ok (none, rest)
      else .ok (some port, rest)
  | cs => .ok (none, cs)

/-- The host of a URL that is no file, and what follows it. -/
def readHost (kind : SchemeKind) (cs : List Char) : Except Fault (Option Host × List Char) := do
  let size := hostLength kind false cs
  let host := cs.take size
  let rest := cs.drop size
  if kind = .network then
    if host.isEmpty then throw .emptyHost
    return (some (← readSpecialHost host), rest)
  else
    let host ← readOtherHost host
    if host.isNone && rest.head? = some ':' then throw .emptyHost
    return (host, rest)

/-- The authority of a URL that is no file, and what follows it. -/
def readAuthority (scheme : String) (cs : List Char) : Except Fault (Authority × List Char) := do
  let kind := SchemeKind.ofScheme scheme
  let (info, rest) := splitUserInfo kind cs
  let authority ← readUserInfo kind info rest
  let (host, rest) ← readHost kind rest
  let (port, rest) ← readPort scheme rest
  if host.isNone && authority.hasUserInfo then throw .emptyHost
  return ({ authority with host, port }, rest)

/-- The query and the fragment. -/
def readTail (kind : SchemeKind) (cs : List Char) : Option String × Option String :=
  let set := if kind.isSpecial then Percent.inSpecialQuery else Percent.inQuery
  let fragment (cs : List Char) : Option String :=
    match cs with
    | '#' :: rest => some (String.ofList (Percent.encode Percent.inFragment rest))
    | _ => none
  match cs with
  | '?' :: rest =>
    (some (String.ofList (Percent.encode set (rest.takeWhile (· != '#')))),
      fragment (rest.dropWhile (· != '#')))
  | cs => (none, fragment cs)

/-- Whether a character ends the path. -/
def endsPath (c : Char) : Bool := c = '?' || c = '#'

/-- The URL with the path, the query and the fragment that characters stand for. `read` makes segments of
the characters of the path. -/
def finish (scheme : String) (authority : Option Authority) (read : List Char → List String)
    (cs : List Char) : Url :=
  let (query, fragment) := readTail (.ofScheme scheme) (cs.dropWhile fun c => !endsPath c)
  { scheme, authority, query, fragment,
    path := .segments (read (cs.takeWhile fun c => !endsPath c)) }

/-- The path behind an authority. Only a well-known scheme always has one. -/
def readPathStart (kind : SchemeKind) : List Char → List String
  | [] => if kind.isSpecial then [""] else []
  | c :: rest => if endsSegment kind c then readPath kind rest else readPath kind (c :: rest)

/-- The host of a file and what follows it. The letter of a drive belongs to the path. -/
def readFileHost (cs : List Char) : Except Fault (Option Host × List Char) := do
  let host := cs.takeWhile fun c => !endsAuthority .file c
  if isDriveLetter host then return (none, cs)
  let rest := cs.dropWhile fun c => !endsAuthority .file c
  if host.isEmpty then return (none, rest)
  match ← readSpecialHost host with
  | .name "localhost" => return (none, rest)
  | host => return (some host, rest)

/-- Whether one of the segments of a path is the letter of a drive. -/
def namesDrive (cs : List Char) : Bool :=
  (segmentsOf .file (cs.takeWhile fun c => !endsPath c)).any isDriveLetter

/-- The URL of a file. A path that names a drive has no host. -/
def readFile (scheme : String) (cs : List Char) : Except Fault Url := do
  let isSlash := endsSegment .file
  match cs with
  | a :: b :: rest =>
    if isSlash a && isSlash b then
      let (host, rest) ← readFileHost rest
      let host := if namesDrive rest then none else host
      return finish scheme (some { host }) (readPathStart .file) rest
    else return finish scheme (some {}) (readPath .file) cs
  | cs => return finish scheme (some {}) (readPath .file) cs

/-- The URL of a scheme that is not well known. -/
def readOther (scheme : String) : List Char → Except Fault Url
  | '/' :: '/' :: rest => do
    let (authority, rest) ← readAuthority scheme rest
    return finish scheme (some authority) (readPathStart .other) rest
  | '/' :: rest => .ok (finish scheme none (readPath .other) rest)
  | cs =>
    let text := Percent.encode Percent.isControl (cs.takeWhile fun c => !endsPath c)
    let url := finish scheme none (fun _ => []) cs
    .ok { url with path := .unstructured (String.ofList text) }

/-- The URL that a text stands for. -/
def parse (text : String) : Except Fault Url :=
  match scheme? (clean text) with
  | none => .error .noScheme
  | some (scheme, rest) =>
    match SchemeKind.ofScheme scheme with
    | .file => readFile scheme rest
    | .other => readOther scheme rest
    | .network => do
      let (authority, rest) ← readAuthority scheme (rest.dropWhile (endsSegment .network))
      return finish scheme (some authority) (readPathStart .network) rest

end OperatorDaemon.Url
