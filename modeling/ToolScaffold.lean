import ToolScaffold.Main
import ToolScaffold.Proofs.Server.Assembly
import ToolScaffold.Proofs.Server.FreeText
import ToolScaffold.Proofs.Server.Signature
import ToolScaffold.Proofs.Server.Shadowing
import ToolScaffold.Proofs.Server.Literal
import ToolScaffold.Proofs.Server.Documentation
import ToolScaffold.Proofs.Server.Agreement
import ToolScaffold.Proofs.Server.Filling
import ToolScaffold.Proofs.Server.Placeholders
import ToolScaffold.Proofs.UrlTemplate
import ToolScaffold.Proofs.UrlTemplate.Places
import ToolScaffold.Proofs.Validation.Usable
import ToolScaffold.Proofs.Validation.Messages
import ToolScaffold.Proofs.Host
import ToolScaffold.Proofs.Command.Gate
import ToolScaffold.Proofs.Entries
import ToolScaffold.Proofs.Json.Nested
import ToolScaffold.Proofs.Json.RoundTrip
import ToolScaffold.Proofs.Record.Manifest
import ToolScaffold.Proofs.Record.StoredText
import ToolScaffold.Proofs.Tool.InSync
import ToolScaffold.Proofs.Server.Lines
import ToolScaffold.Proofs.Tool.ReadBack
import ToolScaffold.Proofs.Disk.Tree
import ToolScaffold.Proofs.Export
import ToolScaffold.Proofs.Export.Success
import ToolScaffold.Proofs.Record.Conversion
import ToolScaffold.Proofs.Export.ArchiveName
import ToolScaffold.Proofs.Tool.Entrywise
import ToolScaffold.Proofs.Tool.Readers
