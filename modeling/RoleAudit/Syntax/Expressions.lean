import RoleAudit.Syntax.Names

/-!
# Expressions

An audit looks for calls and for what they are called on, so the rules are exact about what is read
off what: names with points, calls, constructions. Signs between operands do not matter to it: a
chain of operands with signs between them is one node, whatever binds stronger.
-/

namespace RoleAudit
namespace Syntax

/-- Words that name no value. -/
def reserved : List String :=
  ["break", "case", "catch", "class", "const", "continue", "debugger", "default", "delete", "do",
    "else", "export", "extends", "finally", "for", "function", "if", "import", "in", "instanceof",
    "new", "return", "super", "switch", "this", "throw", "try", "typeof", "var", "void", "while",
    "with", "await", "yield", "enum"]

def valueName : Reader Node := do
  let w ← peekWord
  require (!reserved.contains w)
  wordNode

/-! ## Functions -/

def arrowBody (self : Rules) (typed : Bool) : Reader Node := do
  require (!(← onFreshLine))
  symbol "=>"
  -- a bracket that opens no block opens an object
  if ← looksAt "\x7b" then self .block <|> self (.expression typed)
  else self (.expression typed)

def arrow (self : Rules) (typed : Bool) : Reader Node := spanning .other do
  (do
    keyword "async"
    require (!(← onFreshLine))
    rest) <|> rest
where
  rest : Reader (List Node) :=
    (do
      let name ← valueName
      return [name, ← arrowBody self typed]) <|> do
    let generic ← maybe (self .typeParameters)
    let inputs ← self .parameters
    -- where a colon ends the middle of a choice, it gives no result type
    let result ← if typed then maybe (typeMark self) else pure none
    return generic.toList ++ inputs :: result.toList ++ [← arrowBody self typed]

def functionExpression (self : Rules) : Reader Node := spanning .other do
  let _ ← tried (keyword "async")
  keyword "function"
  let _ ← tried (symbol "*")
  let _ ← maybe wordNode
  let head ← signature self
  return head ++ [← self .block]

/-! ## Literals -/

def spread (self : Rules) : Reader Node := spanning .other do
  symbol "..."
  return [← self (.expression true)]

/-- An element of an array, or an argument. -/
def element (self : Rules) : Reader Node :=
  spread self <|> self (.expression true)

/-- What stands between the brackets of a call. -/
def arguments (self : Rules) : Reader Node :=
  spanning .arguments (enclosed (element self) "(" ")")

/-- A member of an object literal. -/
def objectMember (self : Rules) : Reader Node :=
  spread self <|>
  method self <|>
  spanning .other do
    let name ← memberName self
    let value ← (do
      symbol ":"
      return [← self (.expression true)]) <|> (do
      return (← maybe (initializer self)).toList)
    return name :: value

def object (self : Rules) : Reader Node :=
  spanning .other (enclosed (objectMember self) "\x7b" "\x7d")

def array (self : Rules) : Reader Node :=
  spanning .array (enclosed (element self) "[" "]")

/-- An expression between round brackets; it may carry a type. -/
def bracketed (self : Rules) : Reader Node := spanning .other do
  symbol "("
  let inner ← self .sequence
  let type ← maybe (typeMark self)
  symbol ")"
  return inner :: type.toList

/-! ## Classes as expressions -/

def heritage (self : Rules) : Reader (List Node) := do
  let base ← maybe do
    keyword "extends"
    let first ← self (.operand true)
    let given ← maybe (self .typeArguments)
    return first :: given.toList
  let shapes ← maybe do
    keyword "implements"
    let first ← self .type
    let rest ← many do
      symbol ","
      self .type
    return first :: rest
  return base.getD [] ++ shapes.getD []

/-- A class, after its decorators; a name may be missing from an expression. -/
def classParts (self : Rules) : Reader (List Node) := do
  keyword "class"
  let name ← maybe do
    let w ← peekWord
    -- `extends` and `implements` are a name only before the body or another `extends`
    require (w != "extends" && w != "implements" || (← could (do
      let _ ← word
      require ((← looksAt "\x7b") || (← peekWord) == "extends"))))
    wordNode
  let generic ← maybe (self .typeParameters)
  let above ← heritage self
  let body ← self .classBody
  return (name.map (Node.withRole .name)).toList ++ generic.toList ++ above ++
    [body.withRole .body]

def classExpression (self : Rules) : Reader Node := spanning .classExpression do
  let decorators ← many (self .decorator)
  return decorators ++ (← classParts self)

/-! ## What is read off a value -/

/-- Signs after which type arguments belong to the name before them. -/
def closesTypeArguments : Reader Bool := do
  match ← peek with
  | some c =>
    return ")],;:.?=|&\x7b\x7d".toList.contains c || (← onFreshLine) ||
      (← peekWord) == "implements"
  | none => return true

/-- What follows a value and is read off it. -/
inductive Suffix where
  /-- The rest makes a node of a kind, with the value in a role. -/
  | goesOn (kind : Kind) (role : Role) (parts : List Node)
  /-- The same, and nothing more can follow. -/
  | ends (parts : List Node)

def propertyName : Reader Node :=
  privateName <|> wordNode

def callParts (self : Rules) (given : Option Node) : Reader Suffix := do
  let arguments ← self .arguments <|> self .template
  return .goesOn .call .function (given.toList ++ [arguments.withRole .arguments])

def index (self : Rules) : Reader Suffix := do
  symbol "["
  let inner ← self .sequence
  symbol "]"
  return .goesOn .other .none [inner]

/-- What follows a value; in a construction nothing is called. -/
def suffix (self : Rules) (calls : Bool) : Reader Suffix :=
  (do
    sign "." [".."]
    let name ← propertyName
    return .goesOn .member .object [name.withRole .property]) <|>
  index self <|>
  (do
    require (!(← onFreshLine))
    -- a mark that says that the value is there
    sign "!" ["!=", "!=="]
    return .goesOn .other .none []) <|> do
  require calls
  (do
    symbol "?."
    match ← peek with
    -- before a digit this is a choice and a number without a whole part
    | some c => require (!c.isDigit)
    | none => failure
    (do
      let given ← maybe (self .typeArguments)
      callParts self given) <|> index self <|> (do
      let name ← propertyName
      return .goesOn .member .object [name.withRole .property])) <|>
  callParts self none <|>
  (do
    let given ← self .typeArguments
    callParts self (some given) <|> (do
      -- elsewhere the angle brackets are comparisons
      require (← closesTypeArguments)
      return .goesOn .other .none [given])) <|>
  (do
    require (!(← onFreshLine))
    symbol "++" <|> symbol "--"
    return .ends [])

/-- Everything that is read off a value which began at a cursor. -/
def suffixes (self : Rules) (calls : Bool) (start : Cursor) : Nat → Node → Reader Node
  | 0, value => return value
  | n + 1, value => do
    match ← maybe (suffix self calls) with
    | some (.goesOn kind role parts) =>
      let whole ← nodeFrom start kind (value.withRole role :: parts)
      suffixes self calls start n whole
    | some (.ends parts) => nodeFrom start .other (value :: parts)
    | none => return value

def primary (self : Rules) : Reader Node := do
  match ← peek with
  | none => failure
  | some c =>
    if c == '(' then bracketed self
    else if c == '[' then array self
    else if c == '\x7b' then object self
    else if c == '`' then self .template
    else if c == '"' || c == '\'' then stringLiteral
    else if c == '/' then regexLiteral
    else if c == '#' then privateName
    else if c == '@' then classExpression self
    else if c.isDigit || c == '.' then numberLiteral
    else
      match ← peekWord with
      | "this" => leaf .thisKeyword word
      | "super" => leaf .superKeyword word
      | "import" => wordNode
      | "class" => classExpression self
      | "function" => functionExpression self
      | "async" => functionExpression self <|> wordNode
      | _ => valueName

/-- What is constructed: a value with names and indices, but no call. -/
def constructed (self : Rules) : Nat → Reader Node
  | 0 => failure
  | n + 1 => do
    let start ← get
    keyword "new"
    let length := (← get).left
    -- `new.target` constructs nothing
    if ← looksAt "." then
      symbol "."
      nodeFrom start .other [← propertyName]
    else
      let inside ← get
      let target ←
        if (← peekWord) == "new" then constructed self n
        else do
          let first ← primary self
          suffixes self false inside (length + 1) first
      let given ← maybe (self .typeArguments)
      let arguments ← maybe (self .arguments)
      nodeFrom start .construction
        (target.withRole .constructor :: given.toList ++
          (arguments.map (Node.withRole .arguments)).toList)

/-! ## Operands and chains -/

/-- A sign or a word before an operand. -/
def before : Reader Unit :=
  symbol "++" <|> symbol "--" <|> symbol "!" <|> symbol "~" <|> symbol "+" <|> symbol "-" <|>
    keyword "typeof" <|> keyword "void" <|> keyword "delete" <|> keyword "await"

/-- What stands between the signs of an expression. -/
def operand (self : Rules) (typed : Bool) : Reader Node :=
  (spanning .other do
    before
    return [← self (.operand typed)]) <|>
  (spanning .other do
    keyword "yield"
    if ← onFreshLine then return []
    else
      let _ ← tried (symbol "*")
      return (← maybe (self (.expression typed))).toList) <|>
  arrow self typed <|>
  (spanning .other do
    -- a type in angle brackets before its value
    symbol "<"
    let type ← self .type
    symbol ">"
    return [type, ← self (.operand typed)]) <|> do
  let start ← get
  let first ←
    if (← peekWord) == "new" then constructed self (start.left + 1) else primary self
  suffixes self true start (start.left + 1) first

def joiners : List String :=
  [">>>=", "<<=", ">>=", ">>>", "**=", "&&=", "||=", "??=", "===", "!==", "==", "!=", "<=", ">=",
    "<<", ">>", "**", "&&", "||", "??", "+=", "-=", "*=", "/=", "%=", "&=", "|=", "^=", "+", "-",
    "*", "/", "%", "&", "|", "^", "<", ">"]

/-- A sign or a word between two operands. -/
def joiner : Reader Unit := do
  -- an arrow belongs to a function, not between operands
  if ← looksAt "=>" then failure
  let rest := (← get).rest
  match joiners.find? fun s => s.toList.isPrefixOf rest with
  | some s => symbol s
  | none => sign "=" [] <|> keyword "in" <|> keyword "instanceof"

/-- What goes on after an operand. -/
def continuation (self : Rules) (typed : Bool) : Reader (List Node) :=
  (do
    sign "?" ["??"]
    -- with an arrow that tells its type the colon of the choice may be lost; then without
    let held ← chosen true <|> chosen false
    return [held, ← self (.expression typed)]) <|>
  (do
    require (!(← onFreshLine))
    keyword "as" <|> keyword "satisfies"
    return [← self .type]) <|> do
  joiner
  return [← self (.operand typed)]
where
  /-- The middle of a choice, with the colon after it. -/
  chosen (typedArrows : Bool) : Reader Node := do
    let held ← self (.expression typedArrows)
    symbol ":"
    return held

/-- An expression without commas. -/
def expression (self : Rules) (typed : Bool) : Reader Node := do
  let start ← get
  let first ← self (.operand typed)
  match ← many (continuation self typed) with
  | [] => return first
  | rest => nodeFrom start .other (first :: rest.flatten)

def sequence (self : Rules) : Reader Node := do
  let start ← get
  let first ← element self
  let rest ← many do
    symbol ","
    element self
  match rest with
  | [] => return first
  | _ => nodeFrom start .other (first :: rest)

end Syntax
end RoleAudit
