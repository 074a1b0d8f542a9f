/-!
# Permissions

- `Permission`: who may do what to which resource, and under what condition. The rules of a policy
  document and what the controllers implement have this one shape, so that they can be compared.
- `RuleDeclaration`, `ModuleDeclaration`: the rules of a policy document as they are written.
-/

namespace RoleAudit

/-- A role may act on a resource under a condition; the empty condition is no condition. -/
structure Permission where
  role : String
  action : String
  resource : String
  condition : String
  deriving DecidableEq, Repr

/-- A rule as a policy document writes it; a part that is not written is empty. -/
structure RuleDeclaration where
  ruleId : String
  effect : String
  role : String
  action : String
  resource : String
  name : String
  /-- The restrictions without their blanks; none of them is empty. -/
  restrictions : List String
  deriving DecidableEq, Repr

/-- A named group of rules. -/
structure ModuleDeclaration where
  name : String
  rules : List RuleDeclaration
  deriving DecidableEq, Repr

end RoleAudit
