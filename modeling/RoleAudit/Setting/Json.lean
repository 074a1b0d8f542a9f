import RoleAudit.Json.Value
import RoleAudit.Setting

/-!
# Settings as structured data

- `Setting.ofJson`: structured data as a setting; nothing is lost;
- `Setting.toJson`: a setting as structured data; what has no counterpart there is given in words.
-/

namespace RoleAudit
namespace Setting

mutual

def ofJson : Json → Setting
  | .null => .null
  | .bool b => .bool b
  | .int n => .int n
  | .float x => .float x
  | .str s => .text s
  | .arr items => .list (ofItems items)
  | .obj entries => .table (ofEntries entries)

/-- The items of a list as settings. -/
def ofItems : List Json → List Setting
  | [] => []
  | j :: rest => ofJson j :: ofItems rest

/-- The entries of a table as settings. -/
def ofEntries : List (String × Json) → List (Setting × Setting)
  | [] => []
  | (k, j) :: rest => (.text k, ofJson j) :: ofEntries rest

end

mutual

def toJson : Setting → Json
  | .null => .null
  | .bool b => .bool b
  | .int n => .int n
  | .float x => .float x
  | .text s => .str s
  | .list items => .arr (toItems items)
  | .table entries => .obj (toEntries entries)
  | .pair a b => .arr [toJson a, toJson b]
  | .date y m d => .str (shown (.date y m d))
  | .moment y m d h mi s us z => .str (shown (.moment y m d h mi s us z))
  | .octets bytes => .str (shown (.octets bytes))
  | .distinct items => .str (shown (.distinct items))

/-- Settings as the items of a list. -/
def toItems : List Setting → List Json
  | [] => []
  | v :: rest => toJson v :: toItems rest

/-- Settings as the entries of a table. -/
def toEntries : List (Setting × Setting) → List (String × Json)
  | [] => []
  | (k, v) :: rest => ((k.text?).getD k.shown, toJson v) :: toEntries rest

end

end Setting
end RoleAudit
