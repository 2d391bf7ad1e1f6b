import PolicyAudit.Service.Handlers
import PolicyAudit.PolicyStore.Call
import PolicyAudit.Proofs.Scan.Join
import PolicyAudit.Proofs.Scan.Run
import PolicyAudit.Proofs.Scan.Report
import PolicyAudit.Proofs.Scan.Timestamps
import PolicyAudit.Proofs.Scan.Union
import PolicyAudit.Proofs.CheckName.Grammar
import PolicyAudit.Proofs.CheckName.Pattern
import PolicyAudit.Proofs.Scan.Index
import PolicyAudit.Proofs.Scan.Influence
import PolicyAudit.Proofs.Scan.Order
import PolicyAudit.Proofs.Uuid
import PolicyAudit.Proofs.Instant.Rfc3339
import PolicyAudit.Proofs.Json.Decoder
import PolicyAudit.Proofs.Json.Models
import PolicyAudit.Proofs.Service.Operation
import PolicyAudit.Proofs.Store.Contents
import PolicyAudit.Proofs.Store.Calls
import PolicyAudit.Proofs.Service.Registry
import PolicyAudit.Proofs.Service.Live
import PolicyAudit.Proofs.Service.Results
import PolicyAudit.Proofs.Service.Names
import PolicyAudit.Proofs.Path
import PolicyAudit.Proofs.Service.Confinement
import PolicyAudit.Proofs.Xml.Place
import PolicyAudit.Proofs.Scan.Definitions
import PolicyAudit.Proofs.Xml.Markup
import PolicyAudit.Proofs.Scan.Markup
import PolicyAudit.Proofs.Text.Utf8
import PolicyAudit.Proofs.Store.Listing
import PolicyAudit.Proofs.Service.Variables
import PolicyAudit.Proofs.Policy.Acceptance
import PolicyAudit.Proofs.CheckName.Image
import PolicyAudit.Proofs.Xml.Reader
import PolicyAudit.Proofs.Xml.Characters
import PolicyAudit.Proofs.Xml.References
import PolicyAudit.Proofs.Xml.Writing
import PolicyAudit.Proofs.Scan.Observable
import PolicyAudit.Proofs.Scan.Declared
import PolicyAudit.Proofs.Service.DefaultDocument
