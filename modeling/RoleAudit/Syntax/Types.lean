import RoleAudit.Syntax.Goal

/-!
# Types

Types matter to an audit only as text, so a type is one node that ends where the type ends. Inside
brackets the signs are only balanced; outside them the rules say which sign still belongs to the
type.
-/

namespace RoleAudit
namespace Syntax

/-- Types between angle brackets, as they are given to a name. -/
def typeArguments (self : Rules) : Reader Node :=
  spanning .other (enclosed (self .type) "<" ">")

def typeParameter (self : Rules) : Reader Node := spanning .other do
  let _ ← many do
    let w ← word
    require (["const", "in", "out"].contains w && (← startsName))
  let _ ← word
  let bound ← maybe do
    keyword "extends"
    self .type
  let standard ← maybe do
    symbol "="
    self .type
  return bound.toList ++ standard.toList

def typeParameters (self : Rules) : Reader Node :=
  spanning .other (enclosed (typeParameter self) "<" ">")

def typeMark (self : Rules) : Reader Node := spanning .other do
  symbol ":"
  return [← self .type]

def functionType (self : Rules) : Reader (List Node) := do
  let _ ← maybe (self .typeParameters)
  require (← looksAt "(")
  let inputs ← self .group
  symbol "=>"
  return [inputs, ← self .type]

/-- A name with points, `typeof` and `import` forms, and what is read off them. -/
def typeName (self : Rules) : Reader (List Node) := do
  let first ← word
  let given ← if first == "import" then maybe (self .group) else pure none
  let steps ← many do
    (symbol "." <|> symbol "?.")
    privateName <|> wordNode
  let arguments ← maybe (self .typeArguments)
  return given.toList ++ steps ++ arguments.toList

/-- A word that changes the type after it, or a type of that name. -/
def changedType (self : Rules) (w : String) (changed : Reader (List Node)) : Reader (List Node) :=
  (do
    keyword w
    require (!(← onFreshLine))
    changed) <|> typeName self

/-- A type without the signs that join types. -/
def typeOperand (self : Rules) : Nat → Reader (List Node)
  | 0 => failure
  | steps + 1 => do
    let c ← peek
    let base ←
      match c with
      | some '(' => functionType self <|> (do return [← self .group])
      | some '<' => functionType self
      | some '[' => do pure [← self .group]
      | some '\x7b' => do pure [← self .group]
      | some '`' => do pure [← self .template]
      | some '-' => do
        symbol "-"
        pure [← numberLiteral]
      | _ =>
        (do return [← stringLiteral]) <|> (do return [← numberLiteral]) <|> do
          match ← peekWord with
          | "typeof" =>
            keyword "typeof"
            typeName self
          | "new" =>
            keyword "new"
            functionType self
          | "abstract" =>
            (do
              keyword "abstract"
              keyword "new"
              functionType self) <|> typeName self
          | "infer" =>
            (do
              keyword "infer"
              let _ ← word
              let bound ← maybe do
                keyword "extends"
                self .type
              return bound.toList) <|> typeName self
          | "keyof" => changedType self "keyof" (typeOperand self steps)
          | "readonly" => changedType self "readonly" (typeOperand self steps)
          | "unique" => changedType self "unique" (typeOperand self steps)
          | _ => typeName self
    let suffixes ← many do
      -- on a line of its own a bracket begins something else
      require (!(← onFreshLine))
      require (← looksAt "[")
      self .group
    return base ++ suffixes

def joinsTypes : Reader Unit :=
  sign "|" ["||", "|="] <|> sign "&" ["&&", "&="]

def joinedTypes (self : Rules) : Reader (List Node) := do
  let fuel := (← get).left + 1
  let _ ← tried joinsTypes
  let first ← typeOperand self fuel
  let rest ← many do
    joinsTypes
    typeOperand self fuel
  return first ++ rest.flatten

/-- A type; also what a function says about its argument in place of one. -/
def type (self : Rules) : Reader Node := spanning .other <|
  (do
    keyword "asserts"
    require (!(← onFreshLine))
    let _ ← word
    claim) <|>
  (do
    let _ ← word
    require (!(← onFreshLine))
    require ((← peekWord) == "is")
    claim) <|> do
  let first ← joinedTypes self
  -- a type that depends on another one
  let choice ← maybe do
    require (!(← onFreshLine))
    keyword "extends"
    let bound ← joinedTypes self
    symbol "?"
    let held ← self .type
    symbol ":"
    return bound ++ [held, ← self .type]
  return first ++ choice.getD []
where
  /-- The type that an argument is said to have. -/
  claim : Reader (List Node) := do
    let claimed ← maybe do
      require (!(← onFreshLine))
      keyword "is"
      self .type
    return claimed.toList

end Syntax
end RoleAudit
