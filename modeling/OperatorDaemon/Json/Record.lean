import OperatorDaemon.Json.Codec

/-!
# Records

A record is written as an object with its fields in order. It is read from an object, whose members may
stand in any order and among others that are passed over, or from a list of the fields in order.
-/

namespace OperatorDaemon.Json

/-- A field of a record. -/
structure RecordField (β : Type) where
  /-- The name of the member. -/
  name : String
  /-- The form of the value. -/
  codec : Codec β
  /-- The value where an object has no such member. -/
  absent : Option β := none
  /-- The value where a list ends before it. -/
  absentItem : Option β := none
  /-- Which values are not written. -/
  omitted : β → Bool := fun _ => false

/-- The fields of a record, with the type of their values and the type of the room for them while they
are being read. -/
inductive Shape : Type → Type → Type 1 where
  /-- No fields. -/
  | nil : Shape Unit Unit
  /-- A field in front of others. -/
  | cons {β τ σ : Type} (field : RecordField β) (rest : Shape τ σ) : Shape (β × τ) (Option β × σ)

namespace Shape

variable {τ σ : Type}

/-- No field has a value. -/
def empty : {τ σ : Type} → Shape τ σ → σ
  | _, _, .nil => ()
  | _, _, .cons _ rest => (none, rest.empty)

/-- How many fields there are. -/
def size : {τ σ : Type} → Shape τ σ → Nat
  | _, _, .nil => 0
  | _, _, .cons _ rest => rest.size + 1

/-- The names of the fields. -/
def names : {τ σ : Type} → Shape τ σ → List String
  | _, _, .nil => []
  | _, _, .cons field rest => field.name :: rest.names

/-- The members of a record. -/
def encode : {τ σ : Type} → Shape τ σ → τ → List (String × Value)
  | _, _, .nil, _ => []
  | _, _, .cons field rest, (v, vs) =>
    if field.omitted v then rest.encode vs
    else (field.name, field.codec.encode v) :: rest.encode vs

/-- Take in a member. One that is no field is passed over. -/
def accept : {τ σ : Type} → Shape τ σ → String → Tree → σ → Except Failure σ
  | _, _, .nil, name, t, slots =>
    match t.skip with
    | .ok () => .ok slots
    | .error fault => .error (Failure.under (.member name) (.fault fault))
  | _, _, .cons field rest, name, t, (slot, slots) =>
    if name = field.name then
      if slot.isSome then .error (.here (.duplicateField name))
      else match field.codec.decode t with
        | .ok v => .ok (some v, slots)
        | .error failure => .error (failure.under (.member name))
    else (rest.accept name t slots).map fun slots => (slot, slots)

/-- Take in the members of an object in order. -/
def acceptAll (s : Shape τ σ) : List (Except Fault String × Tree) → σ → Except Failure σ
  | [], slots => .ok slots
  | (.error fault, _) :: _, _ => .error (Failure.under .unnamed (.fault fault))
  | (.ok name, t) :: rest, slots =>
    match s.accept name t slots with
    | .error failure => .error failure
    | .ok slots => s.acceptAll rest slots

/-- The record, once all members have been taken in. -/
def finish : {τ σ : Type} → Shape τ σ → σ → Except Failure τ
  | _, _, .nil, _ => .ok ()
  | _, _, .cons field rest, (slot, slots) =>
    match slot <|> field.absent with
    | none => .error (.here (.missingField field.name))
    | some v => (rest.finish slots).map fun vs => (v, vs)

/-- The record that a list stands for. `expected` describes the whole record, and the first item has
this index. -/
def ofItems : {τ σ : Type} → Shape τ σ → (expected : String) → (index : Nat) → (ending : Ending) →
    List Tree → Except Failure τ
  | _, _, .nil, _, _, ending, items =>
    match restFault items ending with
    | none => .ok ()
    | some fault => .error (.fault fault)
  | _, _, .cons field rest, expected, index, ending, [] =>
    match ending.listFault with
    | some fault => .error (.fault fault)
    | none =>
      match field.absentItem with
      | none => .error (.here (.wrongLength index expected))
      | some v => (rest.ofItems expected (index + 1) ending []).map fun vs => (v, vs)
  | _, _, .cons field rest, expected, index, ending, t :: items =>
    match field.codec.decode t with
    | .error failure => .error (failure.under (.item index))
    | .ok v => (rest.ofItems expected (index + 1) ending items).map fun vs => (v, vs)

/-- What is expected of a list of the fields. -/
def expectedItems (s : Shape τ σ) (title : String) : String :=
  let count := s.size
  "struct " ++ title ++ s!" with {count} element" ++ (if count = 1 then "" else "s")

end Shape

/-- The codec of a record that reports call by its title. -/
def Codec.record {τ σ : Type} (title : String) (s : Shape τ σ) : Codec τ where
  encode v := .object (s.encode v)
  decode
    | .object members ending =>
      match s.acceptAll members s.empty with
      | .error failure => .error failure
      | .ok slots =>
        match ending.objectFault with
        | some fault => .error (Failure.under .unnamed (.fault fault))
        | none => s.finish slots
    | .array items ending => s.ofItems (s.expectedItems title) 0 ending items
    | t => .error (t.rejected ("struct " ++ title))

end OperatorDaemon.Json
