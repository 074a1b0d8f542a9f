import RoleAudit.Text.Case
import RoleAudit.Text.Cut

/-!
# Naming conventions

How the files of a project are named after what they hold.

- `kebab`: a class name in lower case, with a hyphen before each capital;
- `moduleName`: the first segment of the path of a controller;
- `isServiceFile`, `isPolicyFile`: file names by convention.
-/

namespace RoleAudit
namespace Naming

open RoleAudit.Text

def hyphenate (cs : List Char) : List Char :=
  cs.flatMap fun c => if c.isUpper then ['-', c] else [c]

/-- A class name in lower case, with a hyphen before each capital that is not the first letter. -/
def kebab (name : String) : String :=
  match name.toList with
  | [] => ""
  | c :: cs => lower (String.ofList (c :: hyphenate cs))

/-- The first segment of a path that is not empty, or the empty text. -/
def moduleName (basePath : String) : String :=
  ((splitAt '/' basePath).find? fun p => !p.isEmpty).getD ""

/-- A name without the ending `Service`, which may stand before a last line feed. -/
def withoutService (name : String) : String :=
  let ending := "Service"
  if endsWith name ending then dropLast name ending.length
  -- the end of a pattern also matches before a last line feed
  else if endsWith name (ending ++ "\n") then dropLast name (ending.length + 1) ++ "\n"
  else name

/-- A file that holds a service by its name. -/
def isServiceFile (name : String) : Bool :=
  endsWith name ".service.ts" || (occursIn name "service" && endsWith name ".ts")

/-- A file that holds a policy by its name. -/
def isPolicyFile (name : String) : Bool :=
  endsWith name ".policy.ts" || (occursIn name "polic" && endsWith name ".ts")

end Naming
end RoleAudit
