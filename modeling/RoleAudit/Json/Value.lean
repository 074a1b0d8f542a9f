/-!
# Values

`Json` is the type of structured data: what a service replies, and what a report is made of. Whole
numbers and doubles are different values, and the entries of a table keep the order in which their
keys first appeared.
-/

namespace RoleAudit

/-- Structured data. -/
inductive Json where
  | null
  | bool (b : Bool)
  | int (n : Int)
  | float (x : Float)
  | str (s : String)
  | arr (items : List Json)
  | obj (entries : List (String × Json))
  deriving Inhabited

namespace Json

def get? (j : Json) (key : String) : Option Json :=
  match j with
  | .obj entries => entries.lookup key
  | _ => none

def strings (texts : List String) : Json :=
  .arr (texts.map .str)

def str? : Json → Option String
  | .str s => some s
  | _ => none

def items : Json → List Json
  | .arr items => items
  | _ => []

def entries : Json → List (String × Json)
  | .obj entries => entries
  | _ => []

/-- A text, or nothing. -/
def ofOption : Option String → Json
  | some s => .str s
  | none => .null

/-- Set a key of a list of entries: in place if it is there, else at the end. -/
def put (key : String) (value : α) : List (String × α) → List (String × α)
  | [] => [(key, value)]
  | (k, v) :: rest => if k == key then (k, value) :: rest else (k, v) :: put key value rest

end Json
end RoleAudit
