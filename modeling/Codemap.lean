import Codemap.Main
import Codemap.Proofs.Import.References
import Codemap.Service.Answer
import Codemap.Proofs.Json.Quoting
import Codemap.Proofs.Json.Spelling
import Codemap.Proofs.Json.Layout
import Codemap.Proofs.Files.Change
import Codemap.Proofs.Files.Directory
import Codemap.Proofs.Cache.Key
import Codemap.Proofs.Cache.Record
import Codemap.Proofs.Cache.Directory
import Codemap.Proofs.Files.FileChange
import Codemap.Proofs.Cache.History
import Codemap.Proofs.Import.Faults
import Codemap.Proofs.Bundle.Isolation
import Codemap.Proofs.Files.Twin
import Codemap.Proofs.Import.Twin
import Codemap.Proofs.Files.Place
import Codemap.Proofs.Cache.Apart
import Codemap.Proofs.Bundle.Found
import Codemap.Proofs.Bundle.Chosen
import Codemap.Proofs.Files.Edit
import Codemap.Proofs.Bundle.Markdown
import Codemap.Proofs.Bundle.Memory
import Codemap.Proofs.Bundle.Freshness
import Codemap.Proofs.Bundle.Repeat
import Codemap.Proofs.Glob.Pieces
import Codemap.Proofs.Glob.Segments
import Codemap.Proofs.Glob.Alternatives
import Codemap.Proofs.Glob.Parts
import Codemap.Proofs.Glob.Slashes
import Codemap.Proofs.Search.Everywhere
import Codemap.Proofs.Search.Refusals
import Codemap.Proofs.Cache.Traffic
import Codemap.Proofs.Cache.Untorn
import Codemap.Proofs.Source.Extent
import Codemap.Proofs.Source.Indexed
import Codemap.Proofs.Source.Shift
import Codemap.Proofs.Source.Layout.Signature
import Codemap.Proofs.Source.Layout.Outline
import Codemap.Proofs.Settings.Acceptance
import Codemap.Proofs.Settings.Overlap
import Codemap.Proofs.Settings.Trace
import Codemap.Proofs.Settings.Effect
import Codemap.Proofs.Pattern.Sound
import Codemap.Proofs.Pattern.Faults
import Codemap.Proofs.Source.Readings
import Codemap.Proofs.Source.Leads
import Codemap.Proofs.Source.Members
import Codemap.Proofs.Source.Beginning
import Codemap.Proofs.Source.Opening
import Codemap.Proofs.Source.Documentation
import Codemap.Proofs.Source.Attribution
import Codemap.Proofs.Source.Muting.Outline
import Codemap.Proofs.Pattern.Scanning
import Codemap.Proofs.Import.Order
import Codemap.Proofs.Import.Questions
import Codemap.Proofs.Cache.Retrieval
import Codemap.Proofs.Source.Remark
import Codemap.Proofs.Bundle.Selection
import Codemap.Proofs.Yaml.Given
import Codemap.Proofs.Bundle.Fences
import Codemap.Proofs.Source.Pausing
import Codemap.Proofs.Source.Behind
import Codemap.Proofs.Import.Spelling
