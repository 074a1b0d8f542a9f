/-!
# Log records

What the audit reports on the way to its answer. Every step returns its records beside its value,
so that a log is part of the answer and not an effect.

- `LogRecord`: a severity, the component that speaks, and its message;
- `Traced`: a value with the records made on the way to it, in order;
- `Step`: a traced value that may be a failure instead.
-/

namespace RoleAudit

/-- How important a record is, in ascending order. -/
inductive Severity where
  | debug
  | info
  | warning
  | error
  deriving DecidableEq, Repr

def Severity.rank : Severity → Nat
  | .debug => 10
  | .info => 20
  | .warning => 30
  | .error => 40

def Severity.name : Severity → String
  | .debug => "DEBUG"
  | .info => "INFO"
  | .warning => "WARNING"
  | .error => "ERROR"

/-- The parts of the audit that report. -/
inductive Component where
  | policy
  | extraction
  | facts
  | resolver
  | oracle
  | assembly
  | settings
  | audit
  | assistant
  deriving DecidableEq, Repr

def Component.name : Component → String
  | .policy => "permcheck.policy_parser"
  | .extraction => "permcheck.archive_extractor"
  | .facts => "permcheck.analysis.controller_facts"
  | .resolver => "permcheck.analysis.cross_file_resolver"
  | .oracle => "permcheck.analysis.resolution_oracle"
  | .assembly => "permcheck.analysis.permission_assembler"
  | .settings => "permcheck.config"
  | .audit => "permcheck.permission_checker"
  | .assistant => "permcheck.ai_client"

/-- One report of a component. -/
structure LogRecord where
  severity : Severity
  component : Component
  message : String
  deriving DecidableEq, Repr

def LogRecord.line (r : LogRecord) : String :=
  r.severity.name ++ " " ++ r.component.name ++ ": " ++ r.message

/-- A value with the records made on the way to it. -/
structure Traced (α : Type) where
  log : List LogRecord
  value : α

namespace Traced

instance : Monad Traced where
  pure value := ⟨[], value⟩
  bind x f := ⟨x.log ++ (f x.value).log, (f x.value).value⟩

/-- Make one record. -/
def note (severity : Severity) (component : Component) (message : String) : Traced Unit :=
  ⟨[⟨severity, component, message⟩], ()⟩

/-- Make one record if a condition holds. -/
def noteIf (condition : Bool) (severity : Severity) (component : Component) (message : String) :
    Traced Unit :=
  if condition then note severity component message else pure ()

@[simp]
theorem value_pure (a : α) : (pure a : Traced α).value = a := rfl

@[simp]
theorem log_pure (a : α) : (pure a : Traced α).log = [] := rfl

@[simp]
theorem value_bind (x : Traced α) (f : α → Traced β) : (x >>= f).value = (f x.value).value := rfl

@[simp]
theorem log_bind (x : Traced α) (f : α → Traced β) :
    (x >>= f).log = x.log ++ (f x.value).log := rfl

end Traced

/-- A traced value that may be a failure instead. -/
abbrev Step (ε α : Type) := ExceptT ε Traced α

end RoleAudit
