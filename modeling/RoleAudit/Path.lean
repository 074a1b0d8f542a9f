import RoleAudit.Text.Cut

/-!
# Paths

Paths as texts, with a slash between names.

- `join`: a path below another one; an absolute path replaces what stands before it;
- `normalize`: no empty or single-dot segment, and no double-dot segment after a name; exactly two
  slashes at the start are kept, more become one;
- `baseName`, `parent`, `stem`: the last name, what stands before it, the name without its ending;
- `absolute`: a path from the root, in normal form;
- `relativeTo`: the way from one absolute path to another.
-/

namespace RoleAudit
namespace Path

open RoleAudit.Text

def segments (path : String) : List String :=
  splitAt '/' path

def parts (path : String) : List String :=
  (segments path).filter fun s => !s.isEmpty

def isAbsolute (path : String) : Bool :=
  startsWith path "/"

/-- A path below another one; an absolute path stands alone. -/
def join (base path : String) : String :=
  if isAbsolute path then path
  else if base.isEmpty || endsWith base "/" then base ++ path
  else base ++ "/" ++ path

/-- A path below another one, name by name. -/
def joinAll (base : String) (paths : List String) : String :=
  paths.foldl join base

/--
Resolve segments on a reversed list of names: empty and single-dot segments vanish, a double dot
takes back a name, and at the start it vanishes below the root and stays elsewhere.
-/
def resolveSegments (rooted : Bool) (done : List String) : List String → List String
  | [] => done.reverse
  | s :: rest =>
    if s == "" || s == "." then resolveSegments rooted done rest
    else if s == ".." then
      match done with
      -- nothing to take back
      | [] => if rooted then resolveSegments rooted [] rest else resolveSegments rooted [s] rest
      | last :: others =>
        -- a double dot that stayed is not taken back
        if last == ".." then resolveSegments rooted (s :: last :: others) rest
        else resolveSegments rooted others rest
    else resolveSegments rooted (s :: done) rest

/-- How many slashes a normal form keeps at the start. -/
def leadingSlashes (path : String) : Nat :=
  if startsWith path "///" then 1
  else if startsWith path "//" then 2
  else if startsWith path "/" then 1
  else 0

/-- The normal form of a path. -/
def normalize (path : String) : String :=
  let slashes := leadingSlashes path
  let body := joinWith "/" (resolveSegments (slashes != 0) [] (segments path))
  let whole := String.ofList (List.replicate slashes '/') ++ body
  if whole.isEmpty then "." else whole

def baseName (path : String) : String :=
  String.ofList (path.toList.reverse.takeWhile (· != '/')).reverse

/-- The text before the last slash, without slashes at its end unless it has nothing else. -/
def parent (path : String) : String :=
  -- `head` is reversed and still has the slash
  let head := path.toList.reverse.dropWhile (· != '/')
  let trimmed := head.dropWhile (· == '/')
  String.ofList (if trimmed.isEmpty then head else trimmed).reverse

/-- The names of an absolute path in normal form. -/
def names (path : String) : List String :=
  resolveSegments true [] (segments path)

/-- The absolute path through some names. -/
def fromRoot (names : List String) : String :=
  "/" ++ joinWith "/" names

/-- An absolute path in normal form; a relative path starts below `base`. -/
def absolute (base path : String) : String :=
  fromRoot (names (join base path))

/-- Drop the names that two lists begin with in common. -/
def dropCommon : List String → List String → List String × List String
  | a :: as, b :: bs => if a == b then dropCommon as bs else (a :: as, b :: bs)
  | as, bs => (as, bs)

/-- The way from one list of names to another: up, then down. -/
def wayBetween (start goal : List String) : List String :=
  let (up, down) := dropCommon start goal
  -- one step up for each name of the start that is not in common
  up.map (fun _ => "..") ++ down

/-- The path of `path` as seen from `start`, both absolute. -/
def relativeTo (start path : String) : String :=
  match wayBetween (names start) (names path) with
  | [] => "."
  | way => joinWith "/" way

/-- A file name without its last dot and what follows; dots at the start do not count. -/
def stem (name : String) : String :=
  let cs := name.toList
  let dots := cs.takeWhile (· == '.')
  let body := cs.dropWhile (· == '.')
  -- without a dot the name has no ending
  match body.reverse.dropWhile (· != '.') with
  | [] => name
  | _ :: before => String.ofList (dots ++ before.reverse)

end Path
end RoleAudit
