import Groundplan.Main
import Groundplan.Proofs.Text.Search
import Groundplan.Proofs.Block
import Groundplan.Proofs.Text.Run
import Groundplan.Proofs.Declaration.Opening
import Groundplan.Proofs.Declaration.Scan
import Groundplan.Proofs.Declaration.Collect
import Groundplan.Proofs.Declaration.RoundTrip
import Groundplan.Proofs.Declaration.Border
import Groundplan.Proofs.Flowchart.Label
import Groundplan.Proofs.Flowchart.Links
import Groundplan.Proofs.Flowchart.Drawing
import Groundplan.Proofs.Flowchart.Locality
import Groundplan.Proofs.Text.Utf8
import Groundplan.Proofs.Files.Store
import Groundplan.Proofs.Workspace.Session
import Groundplan.Proofs.Template.Reading
import Groundplan.Proofs.Readme.Insertion
import Groundplan.Proofs.Artifact
import Groundplan.Proofs.Readme.Once
import Groundplan.Proofs.Declaration.Extracted
import Groundplan.Proofs.Readme.ReadBack
import Groundplan.Proofs.Text.Escape
import Groundplan.Proofs.Flowchart.Agreement
import Groundplan.Proofs.Validation
import Groundplan.Proofs.CommandLine.Gate
import Groundplan.Proofs.Text.Quoted
import Groundplan.Proofs.Validation.Connections
import Groundplan.Proofs.Flowchart.Repetition
import Groundplan.Proofs.Artifact.Name
import Groundplan.Proofs.Artifact.Strategy
import Groundplan.Proofs.Artifact.Run
import Groundplan.Proofs.Readme.Image
import Groundplan.Proofs.Settings.Override
import Groundplan.Proofs.Files.Fault
import Groundplan.Proofs.Settings.Loading
import Groundplan.Proofs.CommandLine.Settings
import Groundplan.Proofs.Artifact.Failure
import Groundplan.Proofs.Declaration.Origin
import Groundplan.Proofs.Block.Reading
import Groundplan.Proofs.Declaration.Extent
import Groundplan.Proofs.Inference.Naming
import Groundplan.Proofs.Inference.Listing
import Groundplan.Proofs.Inference.Items
import Groundplan.Proofs.Inference.Independence
import Groundplan.Proofs.Readme.Heading
import Groundplan.Proofs.Readme.Placement
import Groundplan.Proofs.Readme.CodeBlock
import Groundplan.Proofs.Flowchart.Additions
import Groundplan.Proofs.Artifact.Chain
import Groundplan.Proofs.Yaml.Comment
import Groundplan.Proofs.Text.Spaced
import Groundplan.Proofs.Flowchart.Escaping
import Groundplan.Proofs.Validation.Policy
import Groundplan.Proofs.Validation.Services
import Groundplan.Proofs.OrderedMap
import Groundplan.Proofs.Validation.Identifiers
import Groundplan.Proofs.Inference.Service
import Groundplan.Proofs.View.Occurrence
import Groundplan.Proofs.Files.Listing
import Groundplan.Proofs.Artifact.Stamp
import Groundplan.Proofs.Template.Source
import Groundplan.Proofs.Template.Configuration
