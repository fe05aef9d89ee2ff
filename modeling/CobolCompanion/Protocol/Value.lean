namespace CobolCompanion.Protocol

/-- A value. A number is some digits with the last of them behind the point. -/
inductive Value where
  | null
  | boolean (value : Bool)
  | number (digits : Int) (decimals : Nat)
  | text (value : String)
  | list (members : List Value)
  | object (fields : List (String × Value))
  deriving Inhabited

namespace Value

def natural (n : Nat) : Value :=
  number n 0

def texts (members : List String) : Value :=
  list (members.map text)

def present (fields : List (String × Option Value)) : Value :=
  object (fields.filterMap fun (name, value) => value.map fun value => (name, value))

def field? (name : String) : Value → Option Value
  | object fields => fields.lookup name
  | _ => none

def at? (names : List String) (v : Value) : Option Value :=
  names.foldlM (fun v name => v.field? name) v

def text? : Value → Option String
  | text s => some s
  | _ => none

def boolean? : Value → Option Bool
  | boolean b => some b
  | _ => none

def natural? : Value → Option Nat
  | number (.ofNat n) 0 => some n
  | _ => none

def list? : Value → Option (List Value)
  | list members => some members
  | _ => none

end Value

end CobolCompanion.Protocol
