import RoleAudit.Syntax.Types

/-!
# Names and parameters

What declarations are made of: names of members, patterns that bind names, parameters of functions,
decorators, and methods, which a class and an object literal write in the same way.
-/

namespace RoleAudit
namespace Syntax

def memberName (self : Rules) : Reader Node :=
  stringLiteral <|> numberLiteral <|> privateName <|> wordNode <|> spanning .other do
    symbol "["
    let inner ← self .sequence
    symbol "]"
    return [inner]

/-- A value that is given with an equals sign. -/
def initializer (self : Rules) : Reader Node := do
  -- a comparison or an arrow gives no value
  sign "=" ["==", "=>"]
  self (.expression true)

def restPattern (self : Rules) : Reader Node := spanning .other do
  symbol "..."
  return [← self .pattern]

/-- A pattern with a default. -/
def patternItem (self : Rules) : Reader Node := spanning .other do
  let target ← restPattern self <|> self .pattern
  let standard ← maybe (initializer self)
  return target :: standard.toList

def patternProperty (self : Rules) : Reader Node := spanning .other do
  match ← maybe (restPattern self) with
  | some rest => return [rest]
  | none =>
    let name ← memberName self
    let target ← maybe do
      symbol ":"
      self .pattern
    let standard ← maybe (initializer self)
    return name :: target.toList ++ standard.toList

def pattern (self : Rules) : Reader Node := do
  if ← looksAt "\x7b" then
    spanning .other (enclosed (patternProperty self) "\x7b" "\x7d")
  else if ← looksAt "[" then
    spanning .other (enclosed (patternItem self) "[" "]")
  else wordNode

def parameterMarks : List String :=
  ["public", "private", "protected", "override", "readonly"]

def parameter (self : Rules) : Reader Node := do
  let start ← get
  let decorators ← many (self .decorator)
  let _ ← many do
    let w ← word
    require (parameterMarks.contains w)
    -- a mark that no name follows is the name of the parameter
    match ← peek with
    | some c => require (isWordStart c || "\x7b[.".toList.contains c)
    | none => failure
  let target ← restPattern self <|> self .pattern
  let loose ← tried (symbol "?")
  let type ← maybe (typeMark self)
  let standard ← maybe (initializer self)
  nodeFrom start (if loose then .optionalParameter else .parameter)
    (decorators ++ target.withRole .pattern :: (type.map (Node.withRole .type)).toList ++
      standard.toList)

def parameters (self : Rules) : Reader Node :=
  spanning .other (enclosed (parameter self) "(" ")")

/-- A decorator: a name, names with points, or a call of one; or any expression in brackets. -/
def decorator (self : Rules) : Reader Node := spanning .decorator do
  symbol "@"
  if ← looksAt "(" then return [← self .group]
  else
    let start ← get
    let first ← wordNode
    let length := (← get).left
    let target ← steps start first length
    let called ← maybe do
      let given ← maybe (self .typeArguments)
      return given.toList ++ [(← self .arguments).withRole .arguments]
    match called with
    | some parts => return [← nodeFrom start .call (target.withRole .function :: parts)]
    | none => return [target]
where
  /-- Names read off a name. -/
  steps (start : Cursor) (object : Node) : Nat → Reader Node
    | 0 => return object
    | n + 1 => do
      let property ← maybe do
        symbol "."
        privateName <|> wordNode
      match property with
      | some p =>
        let node ← nodeFrom start .member [object.withRole .object, p.withRole .property]
        steps start node n
      | none => return object

/-- Words before a member, as far as they are no names themselves. -/
def memberMarks : List String :=
  ["public", "private", "protected", "static", "override", "readonly", "async", "get", "set",
    "abstract", "declare", "accessor"]

/-- A word before a member; a word that ends a line is a member of its own. -/
def memberMark : Reader Unit := do
  let w ← word
  require (memberMarks.contains w)
  unless ← looksAt "*" do
    require (!(← onFreshLine))
    require (← startsName)

/-- Type parameters, parameters and a result type; the parameters carry their role. -/
def signature (self : Rules) : Reader (List Node) := do
  let generic ← maybe (self .typeParameters)
  let inputs ← self .parameters
  let result ← maybe (typeMark self)
  return generic.toList ++ inputs.withRole .parameters :: result.toList

def method (self : Rules) : Reader Node := spanning .method do
  let _ ← many memberMark
  let _ ← tried (symbol "*")
  let name ← memberName self
  let _ ← tried (symbol "?")
  let head ← signature self
  let body ← self .block
  return name.withRole .name :: head ++ [body.withRole .body]

end Syntax
end RoleAudit
