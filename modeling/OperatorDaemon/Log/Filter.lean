import OperatorDaemon.Log.Entry
import OperatorDaemon.Text.Ascii
import OperatorDaemon.Text.Blank
import OperatorDaemon.Text.Integer

/-!
# Log filters

A filter is a list of directives between commas. A directive names a level, or those who log, or both.
For an entry the directive counts that names its target most closely, and the entry passes if its level
is grave enough for it.
-/

namespace OperatorDaemon.Log

/-- A directive. -/
structure Directive where
  /-- How the targets begin that it is about. It is about all of them if there is none. -/
  target : Option String
  /-- The rank of the least grave level that passes. -/
  limit : Nat
  /-- Whether it is only about what is logged inside some span. -/
  inSpan : Bool := false
  deriving DecidableEq, Repr

/-! ### Reading -/

/-- The rank of the level that a text names, zero for none at all. -/
def readLimit (text : String) : Option Nat :=
  match Integer.parse 5 text with
  | .ok rank => some rank
  | .error _ =>
    let name := asciiLowerText text
    if name = "off" then some 0
    else (Level.all.find? fun level => asciiLowerText level.name = name).map Level.rank

/-- The limit behind an equals sign. -/
def readAssigned (cs : List Char) : Option Nat :=
  if cs.isEmpty then some Level.trace.rank else readLimit (String.ofList cs)

/-- A directive about a span, from what stands behind the opening bracket. -/
def readSpan (target : Option String) (cs : List Char) : Option Directive :=
  match (cs.dropWhile (· != ']')).drop 1 with
  | [] =>
    if cs.contains ']' then some { target, limit := Level.trace.rank, inSpan := true } else none
  | '=' :: rest => (readAssigned rest).map fun limit => { target, limit, inSpan := true }
  | _ => none

/-- Whether a directive that is not about a span may begin with a character. -/
def isDirectiveStart (c : Char) : Bool :=
  isAsciiLetter c || isAsciiDigit c || c = '-' || c = ':' || c = '_' || 0x80 ≤ c.toNat

/-- The directive that a text stands for. -/
def Directive.read (text : String) : Option Directive :=
  match trimChars text.toList with
  | '[' :: rest => readSpan none rest
  | c :: rest =>
    if isDirectiveStart c then
      let name := String.ofList ((c :: rest).takeWhile fun c => c != '=' && c != '[')
      match rest.dropWhile fun c => c != '=' && c != '[' with
      | '=' :: rest => (readAssigned rest).map fun limit => { target := some name, limit }
      | '[' :: rest => readSpan (some name) rest
      | _ =>
        match readLimit name with
        | some limit => some { target := none, limit }
        | none => some { target := some name, limit := Level.trace.rank }
    else none
  | [] => none

/-- A filter. -/
structure Filter where
  /-- The directives. -/
  directives : List Directive
  deriving DecidableEq, Repr

namespace Filter

/-- The filter of a daemon that is not told otherwise. It lets more through of those who handle requests to
the local interface. -/
def standard : Filter :=
  ⟨[{ target := none, limit := Level.info.rank },
    { target := some "tower_http", limit := Level.debug.rank }]⟩

/-- The filter that a text stands for. Without any directive only errors pass. -/
def read (text : String) : Option Filter := do
  let parts := (text.splitOn ",").filter (!·.isEmpty)
  let directives ← parts.mapM Directive.read
  return ⟨if directives.isEmpty then [{ target := none, limit := Level.error.rank }] else directives⟩

/-- The filter that a variable asks for. -/
def ofVariable (text? : Option String) : Filter :=
  (text?.bind read).getD standard

/-! ### Filtering -/

/-- How closely a directive names a target, if it is about it at all. -/
def closeness? (target : String) (d : Directive) : Option Nat :=
  if d.inSpan then none
  else match d.target with
    | none => some 0
    | some start => if start.toList.isPrefixOf target.toList then some (start.length + 1) else none

/-- The limit for a target and the closeness of the directive that sets it. A later directive replaces
one that is as close. -/
def limitFor (f : Filter) (target : String) : Nat × Nat :=
  f.directives.foldl (fun (closest, limit) d =>
    match closeness? target d with
    | some closeness => if closest ≤ closeness then (closeness, d.limit) else (closest, limit)
    | none => (closest, limit)) (0, 0)

/-- Whether an entry passes. -/
def admits (f : Filter) (e : Entry) : Bool :=
  e.level.rank ≤ (f.limitFor e.part.target).2

end Filter

end OperatorDaemon.Log
