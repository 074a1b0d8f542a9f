import RoleAudit.Syntax.Expressions

/-!
# Statements

Blocks, declarations and the bodies of classes.

- `statement`: one statement; a sign that begins none is passed, so that reading always goes on;
- `classBody`: the members of a class; the decorators of a method stand beside it in the body, the
  decorators of a property are inside the property;
- `importStatement`, `exportStatement`: what a source takes from others and gives to others.
-/

namespace RoleAudit
namespace Syntax

def block (self : Rules) : Reader Node := spanning .other do
  symbol "\x7b"
  let inner ← many (self .statement)
  symbol "\x7d"
  return inner

/-- A statement may end with a semicolon. -/
def semicolon : Reader Unit := do
  let _ ← tried (symbol ";")

def ended (r : Reader (List Node)) : Reader (List Node) := do
  let parts ← r
  semicolon
  return parts

def condition (self : Rules) : Reader Node := do
  symbol "("
  let inner ← self .sequence
  symbol ")"
  return inner

/-! ## Imports and exports -/

/-- A name that another source gives, and the name it gets here. -/
def specifier : Reader Node := spanning .importSpecifier <|
  (do
    -- `type` may be the name itself, then this way fails at what follows it
    keyword "type" <|> keyword "typeof"
    names) <|> names
where
  names : Reader (List Node) :=
    (do
      let name ← stringLiteral <|> wordNode
      keyword "as"
      let newName ← stringLiteral <|> wordNode
      closed
      return [name.withRole .name, newName.withRole .newName]) <|> do
    let name ← stringLiteral <|> wordNode
    closed
    return [name.withRole .name]
  /-- The place after a name. -/
  closed : Reader Unit := do
    require ((← looksAt ",") || (← looksAt "\x7d"))

def specifiers : Reader Node :=
  spanning .other (enclosed specifier "\x7b" "\x7d")

/-- All names under one name. -/
def everything : Reader Node := spanning .other do
  symbol "*"
  keyword "as"
  return [← stringLiteral <|> wordNode]

def importClause : Reader Node := spanning .other <|
  (do return [← everything <|> specifiers]) <|> do
  let standard ← wordNode
  let more ← maybe do
    symbol ","
    everything <|> specifiers
  return standard :: more.toList

def fromSource : Reader Node := do
  keyword "from"
  return (← stringLiteral).withRole .source

def importStatement (self : Rules) : Reader Node := spanning .importStatement <| ended do
  keyword "import"
  let parts ←
    (do
      -- `import type from` takes a name `type`, which the next way reads
      keyword "type" <|> keyword "typeof"
      taken) <|> taken <|> required <|> (do
      keyword "type"
      required) <|> (do return [(← stringLiteral).withRole .source])
  let attributes ← maybe do
    keyword "with" <|> keyword "assert"
    self .group
  return parts ++ attributes.toList
where
  taken : Reader (List Node) := do
    let clause ← importClause
    return [clause, ← fromSource]
  required : Reader (List Node) := do
    let clause ← spanning .other do
      let name ← wordNode
      symbol "="
      keyword "require"
      symbol "("
      let source ← stringLiteral
      symbol ")"
      return [name, source.withRole .source]
    return [clause]

/-- A short name for a longer one. -/
def importAlias : Reader Node := spanning .other <| ended do
  keyword "import"
  let name ← wordNode
  symbol "="
  let first ← wordNode
  let rest ← many do
    symbol "."
    wordNode
  return name :: first :: rest

/-! ## Classes -/

def classDeclaration (self : Rules) (start : Cursor) (decorators : List Node) : Reader Node := do
  let isAbstract ← tried do
    keyword "abstract"
    require ((← peekWord) == "class")
  let parts ← classParts self
  -- only a class expression may lack a name
  require (parts.any fun p => p.role == .name)
  nodeFrom start (if isAbstract then .abstractClass else .classDeclaration) (decorators ++ parts)

/-- Statements that a class runs once. -/
def staticBlock (self : Rules) : Reader Node := spanning .other do
  keyword "static"
  return [← self .block]

def indexSignature (self : Rules) : Reader Node := spanning .other do
  let _ ← many memberMark
  let sign ← tried (symbol "+" <|> symbol "-")
  if sign then keyword "readonly"
  symbol "["
  let _ ← word
  let type ← typeMark self <|> (do
    keyword "in"
    self .type)
  symbol "]"
  let result ← maybe (typeMark self)
  return type :: result.toList

def methodSignature (self : Rules) : Reader Node := spanning .other do
  let _ ← many memberMark
  let _ ← tried (symbol "*")
  let name ← memberName self
  let _ ← tried (symbol "?")
  return name :: (← signature self)

def property (self : Rules) : Reader Node := spanning .other do
  let decorators ← many (self .decorator)
  let _ ← many memberMark
  let name ← memberName self
  let _ ← tried (symbol "?" <|> symbol "!")
  let type ← maybe (typeMark self)
  let value ← maybe (initializer self)
  return decorators ++ name :: type.toList ++ value.toList

/-- A method of a class, after the decorators that stand beside it. -/
def decoratedMethod (self : Rules) : Reader (List Node) := do
  let decorators ← many (self .decorator)
  return decorators ++ [← method self]

/-- A member of a class; no signature and no static block has decorators. -/
def member (self : Rules) : Reader (List Node) :=
  (do
    symbol ";" <|> symbol ","
    return []) <|>
  (do return [← staticBlock self]) <|>
  -- the order decides: a method with a body counts before a signature, and that before a property
  decoratedMethod self <|>
  (do return [← indexSignature self]) <|>
  (do return [← methodSignature self]) <|>
  (do return [← property self])

def stray (self : Rules) : Reader Node := self .group

def classBody (self : Rules) : Reader Node := spanning .classBody do
  symbol "\x7b"
  -- a sign that no member takes is passed, so that one slip does not lose the members after it
  let members ← many (member self <|> (do return [← stray self]))
  symbol "\x7d"
  return members.flatten

/-! ## Declarations -/

def functionDeclaration (self : Rules) : Reader Node := spanning .other do
  let _ ← tried do
    keyword "async"
    -- on a line of its own `async` is a name
    require (!(← onFreshLine))
  keyword "function"
  let _ ← tried (symbol "*")
  let name ← maybe wordNode
  let head ← signature self
  let body ← maybe (self .block)
  semicolon
  return name.toList ++ head ++ body.toList

def binding (self : Rules) : Reader Node := spanning .other do
  let target ← self .pattern
  let _ ← tried (symbol "!")
  let type ← maybe (typeMark self)
  let value ← maybe (initializer self)
  return target :: type.toList ++ value.toList

def variableList (self : Rules) : Reader (List Node) := do
  keyword "var" <|> keyword "let" <|> keyword "const"
  let first ← binding self
  let rest ← many do
    symbol ","
    binding self
  return first :: rest

def typeAlias (self : Rules) : Reader Node := spanning .other <| ended do
  keyword "type"
  let name ← wordNode
  let generic ← maybe (self .typeParameters)
  symbol "="
  return name :: generic.toList ++ [← self .type]

/-- An interface; its members are types. -/
def interface (self : Rules) : Reader Node := spanning .other do
  keyword "interface"
  let name ← wordNode
  let generic ← maybe (self .typeParameters)
  let above ← maybe do
    keyword "extends"
    let first ← self .type
    let rest ← many do
      symbol ","
      self .type
    return first :: rest
  require (← looksAt "\x7b")
  return name :: generic.toList ++ above.getD [] ++ [← self .group]

def enumMember (self : Rules) : Reader Node := spanning .other do
  let name ← memberName self
  let value ← maybe (initializer self)
  return name :: value.toList

def enumeration (self : Rules) : Reader Node := spanning .other do
  let _ ← tried (keyword "const")
  keyword "enum"
  let name ← wordNode
  return name :: (← enclosed (enumMember self) "\x7b" "\x7d")

def space (self : Rules) : Reader Node := spanning .other do
  keyword "namespace" <|> keyword "module"
  require (!(← onFreshLine))
  let first ← stringLiteral <|> wordNode
  let rest ← many do
    symbol "."
    wordNode
  let body ← maybe (self .block)
  semicolon
  return first :: rest ++ body.toList

/-- A declaration of what is defined elsewhere. -/
def ambient (self : Rules) : Reader Node := spanning .other do
  keyword "declare"
  require (!(← onFreshLine))
  if (← peekWord) == "global" then
    keyword "global"
    return [← self .block]
  else return [← declared]
where
  /-- What can be defined elsewhere. -/
  declared : Reader Node := do
    let start ← get
    match ← peekWord with
    | "class" => classDeclaration self start []
    | "abstract" => classDeclaration self start []
    | "function" => functionDeclaration self
    | "async" => functionDeclaration self
    | "interface" => interface self
    | "type" => typeAlias self
    | "namespace" => space self
    | "module" => space self
    | "enum" => enumeration self
    | "const" => enumeration self <|> spanning .other (ended (variableList self))
    | "let" => spanning .other (ended (variableList self))
    | "var" => spanning .other (ended (variableList self))
    | _ => failure

def exportStatement (self : Rules) (start : Cursor) (decorators : List Node) : Reader Node := do
  keyword "export"
  let parts ←
    (do
      let _ ← tried (keyword "type")
      taken) <|>
    (do
      keyword "as"
      keyword "namespace"
      ended (do return [← wordNode])) <|>
    (do
      symbol "="
      ended (do return [← self .sequence])) <|>
    (do
      keyword "default"
      (do return [← declaration]) <|> ended (do return [← self (.expression true)])) <|>
    (do return [← self .statement])
  nodeFrom start .exportStatement (decorators ++ parts)
where
  taken : Reader (List Node) := ended do
    (do
      let all ← everything <|> leaf .other (symbol "*")
      return [all, ← fromSource]) <|> do
    let names ← spanning .other (enclosed exported "\x7b" "\x7d")
    let source ← maybe fromSource
    let attributes ← maybe do
      keyword "with" <|> keyword "assert"
      self .group
    return names :: source.toList ++ attributes.toList
  /-- A name that is given to others. -/
  exported : Reader Node := spanning .other do
    let first ← stringLiteral <|> wordNode
    let rest ← many (stringLiteral <|> wordNode)
    return first :: rest
  declaration : Reader Node := do
    let here ← get
    let marks ← many (self .decorator)
    match ← peekWord with
    | "class" => classDeclaration self here marks
    | "abstract" => classDeclaration self here marks
    | "interface" => interface self
    | "function" => functionDeclaration self
    | "async" => functionDeclaration self
    | _ => failure

/-! ## Statements -/

def decorated (self : Rules) : Reader Node := do
  let start ← get
  let decorators ← many (self .decorator)
  if (← peekWord) == "export" then exportStatement self start decorators
  else classDeclaration self start decorators

/-- The head of a loop over the members of a value. -/
def loopOver (self : Rules) : Reader (List Node) := do
  let target ← (do
    keyword "var" <|> keyword "let" <|> keyword "const"
    self .pattern) <|> self (.operand true)
  keyword "of" <|> keyword "in"
  return [target, ← self .sequence]

def loopCount (self : Rules) : Reader (List Node) := do
  let first ← variableList self <|> expressions
  symbol ";"
  let test ← expressions
  symbol ";"
  return first ++ test ++ (← expressions)
where
  expressions : Reader (List Node) := do
    return (← maybe (self .sequence)).toList

def switchCase (self : Rules) : Reader (List Node) := do
  let test ← (do
    keyword "case"
    return [← self .sequence]) <|> (do
    keyword "default"
    return [])
  symbol ":"
  let inner ← many do
    -- statements go on up to the next case
    require (!(← could caseHead))
    self .statement
  return test ++ inner
where
  caseHead : Reader Unit :=
    keyword "case" <|> (do
      keyword "default"
      symbol ":")

/-- Statements that begin with a word of their own. -/
def worded (self : Rules) (w : String) : Reader (List Node) := do
  match w with
  | "if" =>
    keyword "if"
    let test ← condition self
    let held ← self .statement
    let other ← maybe do
      keyword "else"
      self .statement
    return test :: held :: other.toList
  | "while" =>
    keyword "while"
    let test ← condition self
    return [test, ← self .statement]
  | "with" =>
    keyword "with"
    let test ← condition self
    return [test, ← self .statement]
  | "do" =>
    keyword "do"
    let body ← self .statement
    keyword "while"
    ended (do return [body, ← condition self])
  | "for" =>
    keyword "for"
    let _ ← tried (keyword "await")
    symbol "("
    let head ←
      (do
        let parts ← loopOver self
        symbol ")"
        return parts) <|> do
      let parts ← loopCount self
      symbol ")"
      return parts
    return head ++ [← self .statement]
  | "switch" =>
    keyword "switch"
    let test ← condition self
    symbol "\x7b"
    let cases ← many (switchCase self)
    symbol "\x7d"
    return test :: cases.flatten
  | "try" =>
    keyword "try"
    let body ← self .block
    let handler ← maybe do
      keyword "catch"
      let bound ← maybe do
        symbol "("
        let target ← self .pattern
        let type ← maybe (typeMark self)
        symbol ")"
        return target :: type.toList
      return bound.getD [] ++ [← self .block]
    let last ← maybe do
      keyword "finally"
      self .block
    return body :: handler.getD [] ++ last.toList
  | "return" => leaving "return"
  | "throw" => leaving "throw"
  | "break" => jump "break"
  | "continue" => jump "continue"
  | "debugger" =>
    keyword "debugger"
    semicolon
    return []
  | _ => failure
where
  /-- A word and perhaps a value on the same line. -/
  leaving (w : String) : Reader (List Node) := ended do
    keyword w
    -- a line end stands for the semicolon
    if ← onFreshLine then return [] else return (← maybe (self .sequence)).toList
  /-- A word and perhaps a label. -/
  jump (w : String) : Reader (List Node) := ended do
    keyword w
    if ← onFreshLine then return [] else return (← maybe valueName).toList

def labelled (self : Rules) : Reader Node := spanning .other do
  let name ← valueName
  symbol ":"
  return [name, ← self .statement]

def calculation (self : Rules) : Reader Node :=
  spanning .other (ended (do return [← self .sequence]))

/-- A statement by the word or the sign that it begins with. -/
def proper (self : Rules) : Reader Node := do
  if ← looksAt "\x7b" then self .block
  else if ← looksAt ";" then leaf .other (symbol ";")
  else if ← looksAt "@" then decorated self
  else
    let start ← get
    match ← peekWord with
    -- words that are no keywords everywhere may also begin an expression
    | "import" => importStatement self <|> importAlias <|> calculation self
    | "export" => exportStatement self start []
    | "class" => classDeclaration self start []
    | "abstract" => classDeclaration self start [] <|> calculation self
    | "function" => functionDeclaration self
    | "async" => functionDeclaration self <|> labelled self <|> calculation self
    | "interface" => interface self <|> calculation self
    | "type" => typeAlias self <|> labelled self <|> calculation self
    | "namespace" => space self <|> calculation self
    | "module" => space self <|> calculation self
    | "declare" => ambient self <|> calculation self
    | "enum" => enumeration self
    | "const" => enumeration self <|> spanning .other (ended (variableList self))
    | "var" => spanning .other (ended (variableList self))
    | "let" => spanning .other (ended (variableList self)) <|> calculation self
    | w => spanning .other (worded self w) <|> labelled self <|> calculation self

def statement (self : Rules) : Reader Node :=
  proper self <|> stray self

end Syntax
end RoleAudit
