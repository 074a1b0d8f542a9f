import RoleAudit.Audit.Run
import RoleAudit.Json.Value
import RoleAudit.Metrics

/-!
# Reports

A run as a document.

- `Reconciliation.toJson`: the short form, with the differences only;
- `Run.report`: the full form: the tool, the project, the differences, the counts, the controllers,
  and what could not be resolved.
-/

namespace RoleAudit

def Permission.toJson (p : Permission) : Json :=
  .obj [("role", .str p.role), ("action", .str p.action), ("resource", .str p.resource),
    ("condition", .str p.condition)]

def Reconciliation.toJson (r : Reconciliation) : Json :=
  .obj [("redundantRule", .arr (r.redundant.map Permission.toJson)),
    ("lackRule", .arr (r.lacking.map Permission.toJson))]

def Metrics.toJson (m : Metrics) : Json :=
  .obj [("declared", .int m.declared), ("implemented", .int m.implemented),
    ("matched", .int m.matched), ("redundant", .int m.redundant), ("lacking", .int m.lacking),
    ("coverage", .float m.coverage)]

def ControllerSummary.toJson (c : ControllerSummary) : Json :=
  .obj [("file", .str c.path), ("class", .str c.className), ("basePath", .str c.basePath),
    ("methods", Json.strings c.methods), ("service", .str c.service),
    ("policies", Json.strings c.policies),
    ("permissions", .arr (c.permissions.map Permission.toJson))]

def Note.toJson (n : Note) : Json :=
  .obj [("controller", .str n.controller), ("kind", .str n.kind.name), ("detail", .str n.detail)]

def Run.metrics (r : Run) : Metrics :=
  Metrics.ofReconciliation r.rules r.permissions r.result

/-- The name and the version of the tool. -/
def toolName : String := "permcheck"

def toolVersion : String := "0.1.0"

/-- What tells one report from another. -/
structure ReportStamp where
  serialNumber : String
  timestamp : String

/-- The name of a project in a report. -/
def shownProject (project : String) : String :=
  if project.isEmpty then "Unknown Project" else project

/-- A run as a document about a project. -/
def Run.report (r : Run) (project : String) (stamp : ReportStamp) : Json :=
  .obj [
    ("bomFormat", .str "PermcheckPermissionReport"),
    ("specVersion", .str "1.0"),
    ("version", .int 1),
    ("serialNumber", .str stamp.serialNumber),
    ("metadata", .obj [
      ("timestamp", .str stamp.timestamp),
      ("tools", .arr [.obj [("name", .str toolName), ("version", .str toolVersion),
        ("oracle", .str r.oracle)]]),
      ("component", .obj [("type", .str "application"), ("name", .str (shownProject project))])]),
    ("result", r.result.toJson),
    ("metrics", r.metrics.toJson),
    ("controllers", .arr (r.controllers.map ControllerSummary.toJson)),
    ("unresolved", .arr (r.unresolved.map Note.toJson))]

end RoleAudit
