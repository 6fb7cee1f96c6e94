import EndpointGen.LogConfig
import EndpointGen.Main
import EndpointGen.Proofs.Annotated.Ignoring
import EndpointGen.Proofs.Annotated.MarkerNames
import EndpointGen.Proofs.CommandLine.Effects
import EndpointGen.Proofs.Declaration.Readability
import EndpointGen.Proofs.Declaration.RoundTrip
import EndpointGen.Proofs.Declaration.WrittenForms
import EndpointGen.Proofs.Discovery.FirstMarked
import EndpointGen.Proofs.Dto.Conservation
import EndpointGen.Proofs.Dto.HandWritten
import EndpointGen.Proofs.Dto.IgnoredAttributes
import EndpointGen.Proofs.Dto.Overrides
import EndpointGen.Proofs.Facade.Conflicts
import EndpointGen.Proofs.Facade.DeclaredNames
import EndpointGen.Proofs.Facade.Summaries
import EndpointGen.Proofs.Facade.Trimming
import EndpointGen.Proofs.Files.DryRun
import EndpointGen.Proofs.Graph.Ancestry
import EndpointGen.Proofs.Pass.FileNames
import EndpointGen.Proofs.Pass.Isolation
import EndpointGen.Proofs.Pass.Moving
import EndpointGen.Proofs.Pass.Order
import EndpointGen.Proofs.Pass.Outcome
import EndpointGen.Proofs.Pass.Records
import EndpointGen.Proofs.Pass.Recounting
import EndpointGen.Proofs.Pass.Splitting
import EndpointGen.Proofs.Pass.Unexposed
import EndpointGen.Proofs.Source.Attributes
import EndpointGen.Proofs.Source.GenericForms
import EndpointGen.Proofs.Document.Forms
