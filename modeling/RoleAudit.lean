import RoleAudit.Archive.Checksum
import RoleAudit.Archive.CodePage
import RoleAudit.Archive.Content
import RoleAudit.Archive.Fault
import RoleAudit.Archive.Inflate
import RoleAudit.Archive.Listing
import RoleAudit.Archive.Member
import RoleAudit.Assembly
import RoleAudit.Assistant.Client
import RoleAudit.Assistant.Payload
import RoleAudit.Assistant.Usage
import RoleAudit.Audit.Basic
import RoleAudit.Audit.Contribution
import RoleAudit.Audit.Report
import RoleAudit.Audit.Run
import RoleAudit.Command.Arguments
import RoleAudit.Command.Check
import RoleAudit.Command.Diagnose
import RoleAudit.Configuration
import RoleAudit.Controller.Decorator
import RoleAudit.Controller.Extraction
import RoleAudit.Controller.Facts
import RoleAudit.Controller.Selection
import RoleAudit.Decimal.Fixed
import RoleAudit.Decimal.Numeral
import RoleAudit.Decimal.Shortest
import RoleAudit.Decimal.Whole
import RoleAudit.Disk
import RoleAudit.Extraction
import RoleAudit.Json.Parser
import RoleAudit.Json.Printer
import RoleAudit.Json.Value
import RoleAudit.Log
import RoleAudit.Main
import RoleAudit.Metrics
import RoleAudit.Naming
import RoleAudit.Oracle.Basic
import RoleAudit.Oracle.Reply
import RoleAudit.Oracle.Static
import RoleAudit.Ordered
import RoleAudit.Path
import RoleAudit.Permission
import RoleAudit.Policy
import RoleAudit.Proofs.Assembly
import RoleAudit.Proofs.Audit.Atomicity
import RoleAudit.Proofs.Audit.Contribution
import RoleAudit.Proofs.Audit.Degradation
import RoleAudit.Proofs.Audit.Guards
import RoleAudit.Proofs.Audit.Independence
import RoleAudit.Proofs.Disk.Changes
import RoleAudit.Proofs.Disk.Making
import RoleAudit.Proofs.Extraction.Containment
import RoleAudit.Proofs.Path.Segments
import RoleAudit.Proofs.Reconciliation.Difference
import RoleAudit.Proofs.Resolution.Cache
import RoleAudit.Readers
import RoleAudit.Reconciliation
import RoleAudit.Resolution.ClassMatch
import RoleAudit.Resolution.Locator
import RoleAudit.Resolution.Resolver
import RoleAudit.Setting
import RoleAudit.Setting.Json
import RoleAudit.SourceFiles
import RoleAudit.Syntax.Cursor
import RoleAudit.Syntax.Expressions
import RoleAudit.Syntax.Goal
import RoleAudit.Syntax.Names
import RoleAudit.Syntax.Source
import RoleAudit.Syntax.Statements
import RoleAudit.Syntax.Tree
import RoleAudit.Syntax.Types
import RoleAudit.Text.Alike
import RoleAudit.Text.Base64
import RoleAudit.Text.Blank
import RoleAudit.Text.Case
import RoleAudit.Text.Case.Table
import RoleAudit.Text.Class
import RoleAudit.Text.Class.Table
import RoleAudit.Text.Cut
import RoleAudit.Text.Encoding
import RoleAudit.Text.Hexadecimal
import RoleAudit.Text.Quoted
import RoleAudit.Xml.Document
import RoleAudit.Xml.Element
import RoleAudit.Xml.Error
import RoleAudit.Xml.Name
import RoleAudit.Xml.Namespace
import RoleAudit.Xml.Scan
import RoleAudit.Xml.Source
import RoleAudit.Yaml.Cursor
import RoleAudit.Yaml.Fault
import RoleAudit.Yaml.Node
import RoleAudit.Yaml.Scalar
import RoleAudit.Yaml.Schema
import RoleAudit.Yaml.Token
import RoleAudit.Yaml.Value
import RoleAudit.Proofs.Controller.Namesakes
import RoleAudit.Proofs.Oracle.Reply
import RoleAudit.Proofs.Oracle.Agreement
import RoleAudit.Proofs.Disk.Renewal
import RoleAudit.Proofs.Extraction.Renewal
import RoleAudit.Proofs.Audit.History
import RoleAudit.Proofs.Extraction.Lockstep
import RoleAudit.Proofs.Extraction.Wrapper
import RoleAudit.Proofs.Extraction.Origin
import RoleAudit.Proofs.Extraction.Selection
import RoleAudit.Proofs.Audit.Provenance
import RoleAudit.Proofs.Reconciliation.Counts
import RoleAudit.Proofs.Extraction.Faults
import RoleAudit.Proofs.Audit.Failures
import RoleAudit.Proofs.Path.Routes
import RoleAudit.Proofs.Resolution.Candidates
import RoleAudit.Proofs.Resolution.Reach
import RoleAudit.Proofs.Syntax.Outline
import RoleAudit.Proofs.Syntax.Reading
import RoleAudit.Proofs.Syntax.Phrases
import RoleAudit.Proofs.Syntax.Expressions
import RoleAudit.Proofs.Syntax.ClassBodies
import RoleAudit.Proofs.Syntax.Statements
import RoleAudit.Proofs.Controller.Binding
import RoleAudit.Proofs.Policy.Flattening
import RoleAudit.Proofs.Controller.Windows
import RoleAudit.Proofs.Syntax.Shift
import RoleAudit.Proofs.Controller.Nearest
import RoleAudit.Proofs.Extraction.Exactness
import RoleAudit.Proofs.Text.Spelling
import RoleAudit.Proofs.Reconciliation.Variants
import RoleAudit.Proofs.Extraction.Backslashes
import RoleAudit.Proofs.Resolution.Precedence
import RoleAudit.Proofs.Related
import RoleAudit.Proofs.Syntax.Commented
import RoleAudit.Proofs.Controller.Undisturbed
import RoleAudit.Proofs.Controller.Stretches
import RoleAudit.Proofs.Controller.Comments
import RoleAudit.Proofs.Audit.Comments
import RoleAudit.Proofs.Path.Normal
import RoleAudit.Proofs.Tables
import RoleAudit.Proofs.Resolution.Consults
import RoleAudit.Proofs.Resolution.Readings
import RoleAudit.Proofs.Resolution.Imported
import RoleAudit.Proofs.Resolution.Scan
import RoleAudit.Proofs.Oracle.Entities
import RoleAudit.Proofs.Reconciliation.Classes
import RoleAudit.Proofs.Assembly.Slots
import RoleAudit.Proofs.Oracle.Asked
import RoleAudit.Proofs.Audit.Misses
import RoleAudit.Proofs.First
import RoleAudit.Proofs.Controller.Calls
import RoleAudit.Proofs.Audit.FirstCalls
import RoleAudit.Proofs.Controller.Selected
import RoleAudit.Proofs.Oracle.Chatter
import RoleAudit.Proofs.Oracle.Answers
import RoleAudit.Proofs.Resolution.Groups
import RoleAudit.Proofs.SourceFiles
import RoleAudit.Proofs.Configuration
import RoleAudit.Proofs.Assistant.Answers
import RoleAudit.Proofs.Assistant.Totals
import RoleAudit.Proofs.Syntax.Search
import RoleAudit.Proofs.Configuration.Layers
