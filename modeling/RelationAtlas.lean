import RelationAtlas.Text.Lines
import RelationAtlas.Text.Quoted
import RelationAtlas.Text.Numeral
import RelationAtlas.Encoding.Basic
import RelationAtlas.Graph.Assembly
import RelationAtlas.Graph.Payload
import RelationAtlas.Graph.Summary
import RelationAtlas.Tree.Fault
import RelationAtlas.Tree.Reading
import RelationAtlas.Discovery.Search
import RelationAtlas.Json.Reader
import RelationAtlas.Settings.Loading
import RelationAtlas.Viewer
import RelationAtlas.Command.Outcome
import RelationAtlas.Main
import RelationAtlas.Tree.Directory
import RelationAtlas.Proofs.Graph.Assembly
import RelationAtlas.Proofs.Source.Bodies
import RelationAtlas.Proofs.Source.Imports
import RelationAtlas.Proofs.Source.Blueprint
import RelationAtlas.Proofs.Source.RoundTrip
import RelationAtlas.Proofs.Source.Headers
import RelationAtlas.Proofs.Source.MethodText
import RelationAtlas.Proofs.Discovery.Matching
import RelationAtlas.Proofs.Discovery.Outcomes
import RelationAtlas.Proofs.Discovery.Steps
import RelationAtlas.Proofs.Discovery.Exactness
import RelationAtlas.Proofs.Discovery.Soundness
import RelationAtlas.Proofs.Scan.Reading
import RelationAtlas.Proofs.Scan.Candidates
import RelationAtlas.Proofs.Discovery.WildcardEndings
import RelationAtlas.Proofs.Viewer.Sources
import RelationAtlas.Proofs.Tree.Agreement
import RelationAtlas.Proofs.Discovery.Exclusion
import RelationAtlas.Proofs.Scan.Exclusion
import RelationAtlas.Proofs.Command.Arguments
import RelationAtlas.Proofs.Json.Strings
import RelationAtlas.Proofs.Json.RoundTrip
import RelationAtlas.Proofs.Text.Numerals
import RelationAtlas.Proofs.Tree.Writing
import RelationAtlas.Proofs.Command.Agreement
import RelationAtlas.Proofs.Graph.ModelSummaries
import RelationAtlas.Proofs.Scan.Pool
import RelationAtlas.Proofs.Discovery.Faults
import RelationAtlas.Proofs.Scan.Faults
import RelationAtlas.Proofs.Session.Runs
import RelationAtlas.Proofs.Source.Identity
import RelationAtlas.Proofs.Source.Headings
import RelationAtlas.Proofs.Source.Occurrences
import RelationAtlas.Proofs.Source.Attribution
import RelationAtlas.Proofs.Source.BodyLayout
import RelationAtlas.Proofs.Source.MethodLayout
import RelationAtlas.Proofs.Source.KindOrder
import RelationAtlas.Proofs.Assoc
import RelationAtlas.Proofs.Source.ImportTables
import RelationAtlas.Proofs.Source.ImportClauses
import RelationAtlas.Proofs.Text.Sealed
import RelationAtlas.Proofs.Source.JoinedTexts
import RelationAtlas.Proofs.Source.InsertedLines
import RelationAtlas.Proofs.Source.InsertedImports
import RelationAtlas.Proofs.Source.OwnNamespace
import RelationAtlas.Proofs.Source.Targets
import RelationAtlas.Proofs.Source.RenamingImports
import RelationAtlas.Proofs.Source.RootedImports
import RelationAtlas.Proofs.Scan.PassedOver
import RelationAtlas.Proofs.Source.AppendedText
import RelationAtlas.Proofs.Tree.TextFiles
import RelationAtlas.Proofs.Graph.Counts
import RelationAtlas.Proofs.Graph.FileOrder
