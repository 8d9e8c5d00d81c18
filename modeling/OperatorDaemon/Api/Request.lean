import OperatorDaemon.Json.Record
import OperatorDaemon.Text.Percent

/-!
# Requests to the daemon

A request to the local interface, and how the input in its query or its body is read. Input that cannot
be read is rejected with a text.
-/

namespace OperatorDaemon.Api

open Json (Codec Tree)

/-- A request to the local interface. -/
structure Request where
  /-- The method. -/
  method : String
  /-- The path and the query, perhaps behind a scheme and a host. -/
  target : String
  /-- The headers. -/
  headers : List (String × String)
  /-- The body. -/
  body : List UInt8
  /-- Where reading the body fails, to be put behind the cause. The line and the column are up to the library
  that reads JSON. -/
  place : String := ""
  deriving DecidableEq, Repr

namespace Request

/-- A target without the scheme and the host that may stand in front of the path. -/
def withoutOrigin (cs : List Char) : List Char :=
  match cs.dropWhile fun c => isAsciiLetter c || isAsciiDigit c || c = '+' || c = '-' || c = '.' with
  | ':' :: '/' :: '/' :: rest => rest.dropWhile fun c => c != '/' && c != '?' && c != '#'
  | _ => cs

/-- The path, as it is written. -/
def path (r : Request) : String :=
  String.ofList ((withoutOrigin r.target.toList).takeWhile fun c => c != '?' && c != '#')

/-- The query, empty if there is none. -/
def query (r : Request) : List Char :=
  match (withoutOrigin r.target.toList).dropWhile fun c => c != '?' && c != '#' with
  | '?' :: rest => rest.takeWhile (· != '#')
  | _ => []

/-- The first header with a name, in whatever case. -/
def header? (r : Request) (name : String) : Option String :=
  (r.headers.find? fun h => asciiLowerText h.1 = name).map (·.2)

end Request

/-! ### Rejections -/

/-- Why input is rejected. -/
inductive Rejection where
  /-- The body is not marked as JSON. -/
  | contentType
  /-- The body is too long. -/
  | tooLong
  /-- The body is not JSON. -/
  | malformed (reason : String)
  /-- The body is not what is expected. -/
  | unsuitable (reason : String)
  /-- The query is not what is expected. -/
  | query (reason : String)
  deriving DecidableEq, Repr

namespace Rejection

/-- The status of a rejection. -/
def status : Rejection → Nat
  | contentType => 415
  | tooLong => 413
  | malformed _ => 400
  | unsuitable _ => 422
  | query _ => 400

/-- The text of a rejection. -/
def text : Rejection → String
  | contentType => "Expected request with `Content-Type: application/json`"
  | tooLong => "Failed to buffer the request body: length limit exceeded"
  | malformed reason => "Failed to parse the request body as JSON: " ++ reason
  | unsuitable reason =>
    "Failed to deserialize the JSON body into the target type: " ++ reason
  | query reason => "Failed to deserialize query string: " ++ reason

end Rejection

/-! ### Queries -/

/-- Split characters where a mark stands. -/
def splitOn (mark : Char) : List Char → List (List Char)
  | [] => [[]]
  | c :: rest =>
    if c = mark then [] :: splitOn mark rest
    else match splitOn mark rest with
      | [] => [[c]]
      | part :: parts => (c :: part) :: parts

/-- The text of a name or a value. A plus sign stands for a blank. -/
def formText (cs : List Char) : String :=
  Utf8.decodeLossy (Percent.decode (Utf8.encode (cs.map fun c => if c = '+' then ' ' else c)))

/-- The name and the value in a part of a query. -/
def formPair (cs : List Char) : String × String :=
  (formText (cs.takeWhile (· != '=')), formText ((cs.dropWhile (· != '=')).drop 1))

/-- The names and values in a query. -/
def formPairs (cs : List Char) : List (String × String) :=
  ((splitOn '&' cs).filter (!·.isEmpty)).map formPair

/-- Read the query as an object of texts. -/
def Request.readQuery {α : Type} (r : Request) (c : Codec α) : Except Rejection α :=
  let members := (formPairs r.query).map fun (name, value) => (.ok name, Tree.string (.ok value))
  (c.decode (.object members .closed)).mapError fun failure => .query failure.message

/-! ### Bodies -/

/-- Whether a character may stand in the names and values of a content type. -/
def isTokenChar (c : Char) : Bool :=
  isAsciiLetter c || isAsciiDigit c || "!#$&'*+-.^_|~%".toList.contains c || c.toNat = 0x60

/-- Whether what follows the semicolon of a content type is well formed. -/
inductive ParameterState where
  /-- A name may begin. -/
  | start
  /-- A name has begun. -/
  | name
  /-- A value may begin. -/
  | equals
  /-- A value has begun. -/
  | value
  /-- A value in quotes may begin. -/
  | quote
  /-- A value in quotes has begun. -/
  | quoted
  /-- A value in quotes has ended. -/
  | closed

/-- Whether the rest of the parameters of a content type is well formed. -/
def areParameters : ParameterState → List Char → Bool
  | .start, [] | .equals, [] | .value, [] | .closed, [] => true
  | .name, [] | .quote, [] | .quoted, [] => false
  | .start, c :: rest =>
    if c = ' ' then areParameters .start rest else isTokenChar c && areParameters .name rest
  | .name, c :: rest =>
    if c = '=' then areParameters .equals rest else isTokenChar c && areParameters .name rest
  | .equals, c :: rest =>
    if c = '"' then areParameters .quote rest else isTokenChar c && areParameters .value rest
  | .value, c :: rest =>
    if c = ';' then areParameters .start rest else isTokenChar c && areParameters .value rest
  | .quote, c :: rest => isQuotable c && areParameters .quoted rest
  | .quoted, c :: rest =>
    if c = '"' then areParameters .closed rest else isQuotable c && areParameters .quoted rest
  | .closed, c :: rest =>
    if c = ';' then areParameters .start rest else c = ' ' && areParameters .closed rest
where
  /-- Whether a character may stand between quotes. -/
  isQuotable (c : Char) : Bool := 0x20 ≤ c.toNat && c.toNat < 0x7F

/-- Whether a content type is that of JSON: its type is that of applications, and its subtype is JSON or
ends with JSON behind a plus sign. -/
def isJsonContentType (text : String) : Bool :=
  let cs := text.toList.map asciiLower
  let type := cs.takeWhile (· != '/')
  let subtype := ((cs.dropWhile (· != '/')).drop 1).takeWhile (· != ';')
  let parameters := (cs.dropWhile (· != ';')).drop 1
  let suffix := (subtype.reverse.takeWhile (· != '+')).reverse
  let front := subtype.take (subtype.length - suffix.length - 1)
  type = "application".toList && subtype.all isTokenChar && areParameters .start parameters &&
    (subtype = "json".toList || (!front.isEmpty && (front = "json".toList || suffix = "json".toList)))

/-- The greatest number of bytes that a body may have. -/
def bodyLimit : Nat := 2097152

/-- Read the body as JSON. -/
def Request.readBody {α : Type} (r : Request) (c : Codec α) : Except Rejection α :=
  if !(r.header? "content-type").any isJsonContentType then .error .contentType
  else if bodyLimit < r.body.length then .error .tooLong
  else (c.readBytes r.body).mapError fun failure =>
    let reason := failure.message ++ r.place
    if failure.cause.isData then .unsuitable reason else .malformed reason

end OperatorDaemon.Api
