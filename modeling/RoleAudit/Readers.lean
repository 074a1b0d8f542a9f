import RoleAudit.Archive.Content
import RoleAudit.Configuration
import RoleAudit.Policy

/-!
# Readers

An audit is handed documents and archives in formats that are defined elsewhere. It takes what they
hold from readers, and does everything else by itself.

- `Readers`: a reader for each of these formats;
- `Readers.usual`: the readers of this library.
-/

namespace RoleAudit

/-- How to read what an audit is handed. -/
structure Readers where
  /-- The root element of a policy document. -/
  policy : Policy.Document → Except Xml.Error Xml.Element
  /-- The entries of an archive in the order of its directory. -/
  archive : Octets → Except Archive.Fault (List Archive.Entry)
  /-- The value of a document of settings. -/
  settings : SettingReader

def Readers.usual : Readers where
  policy := Policy.Document.root
  archive := Archive.opened
  settings := Setting.ofYaml

end RoleAudit
