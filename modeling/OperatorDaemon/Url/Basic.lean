import OperatorDaemon.Net.IpAddress

/-!
# URLs

The parts of a URL and its text. Texts inside a URL are percent-encoded already. A path is either opaque
or a list of segments: that of `/a/` is `a` and an empty segment, and no segments at all make up the empty
path.
-/

namespace OperatorDaemon

/-- How URLs of a scheme are read. -/
inductive SchemeKind where
  /-- A well-known scheme whose URLs name a host. -/
  | network
  /-- The scheme of files. -/
  | file
  /-- Any other scheme. -/
  | other
  deriving DecidableEq, Repr

namespace SchemeKind

/-- The kind of a scheme. -/
def ofScheme (scheme : String) : SchemeKind :=
  if scheme ∈ ["http", "https", "ws", "wss", "ftp"] then network
  else if scheme = "file" then file
  else other

/-- Whether the scheme is a well-known one. -/
def isSpecial (k : SchemeKind) : Bool := k != other

end SchemeKind

/-- The port of a scheme that need not be written. -/
def defaultPort? (scheme : String) : Option Nat :=
  [("http", 80), ("ws", 80), ("https", 443), ("wss", 443), ("ftp", 21)].lookup scheme

/-- The host of a URL. -/
inductive Url.Host where
  /-- A name. -/
  | name (text : String)
  /-- An IPv4 address. -/
  | ipv4 (a : Ipv4)
  /-- An IPv6 address. -/
  | ipv6 (a : Ipv6)
  deriving DecidableEq, Repr

/-- The text of a host. -/
def Url.Host.text : Url.Host → String
  | .name text => text
  | .ipv4 a => a.text
  | .ipv6 a => "[" ++ a.hexText ++ "]"

/-- Who is asked, and on whose behalf. -/
structure Url.Authority where
  /-- The name of the user, which may be empty. -/
  user : String := ""
  /-- The password, which may be empty. -/
  password : String := ""
  /-- The host, unless it is empty. -/
  host : Option Url.Host := none
  /-- The port, unless it is that of the scheme. -/
  port : Option Nat := none
  deriving DecidableEq, Repr

namespace Url.Authority

/-- Whether there is a user name or a password. -/
def hasUserInfo (a : Authority) : Bool := !a.user.isEmpty || !a.password.isEmpty

/-- The text of the user name and the password. -/
def userInfoText (a : Authority) : String :=
  if a.hasUserInfo then
    a.user ++ (if a.password.isEmpty then "" else ":" ++ a.password) ++ "@"
  else ""

/-- The text of the port. -/
def portText (a : Authority) : String :=
  match a.port with
  | none => ""
  | some port => s!":{port}"

/-- The text of an authority. -/
def text (a : Authority) : String :=
  a.userInfoText ++ ((a.host.map Host.text).getD "") ++ a.portText

end Url.Authority

/-- The path of a URL. -/
inductive Url.Path where
  /-- A text without structure. -/
  | unstructured (text : String)
  /-- Segments, each behind a slash. -/
  | segments (texts : List String)
  deriving DecidableEq, Repr

/-- The text of a path. -/
def Url.Path.text : Url.Path → String
  | .unstructured text => text
  | .segments texts => String.join (texts.map ("/" ++ ·))

/-- A URL. -/
structure Url where
  /-- The scheme, in lower case. -/
  scheme : String
  /-- The authority, if two slashes introduce one. -/
  authority : Option Url.Authority
  /-- The path. -/
  path : Url.Path
  /-- The text behind the question mark. -/
  query : Option String
  /-- The text behind the number sign. -/
  fragment : Option String
  deriving DecidableEq, Repr

namespace Url

/-- The kind of the scheme. -/
def kind (u : Url) : SchemeKind := .ofScheme u.scheme

/-- Whether the path has segments, so that further ones can be put behind them. -/
def canBeBase (u : Url) : Bool :=
  match u.path with
  | .unstructured _ => false
  | .segments _ => true

/-- The host. -/
def host? (u : Url) : Option Host :=
  u.authority.bind (·.host)

/-- The text in front of the path. Without an authority, a path that begins with two slashes is set off
by a dot, lest it be taken for one. -/
def authorityText (u : Url) : String :=
  match u.authority, u.path with
  | some a, _ => "//" ++ a.text
  | none, .segments ("" :: _ :: _) => "/."
  | none, _ => ""

/-- The text of the query and the fragment. -/
def tailText (u : Url) : String :=
  ((u.query.map ("?" ++ ·)).getD "") ++ ((u.fragment.map ("#" ++ ·)).getD "")

/-- The text of a URL. -/
def text (u : Url) : String :=
  u.scheme ++ ":" ++ u.authorityText ++ u.path.text ++ u.tailText

/-- The URL without a user name and a password. -/
def withoutUserInfo (u : Url) : Url :=
  { u with authority := u.authority.map fun a => { a with user := "", password := "" } }

/-- The URL without its fragment. -/
def withoutFragment (u : Url) : Url :=
  { u with fragment := none }

end Url

end OperatorDaemon
