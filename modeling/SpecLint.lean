import SpecLint.Main
import SpecLint.Proofs.Conformance
import SpecLint.Proofs.Deletion
import SpecLint.Proofs.Isolation
import SpecLint.Proofs.LoadState
import SpecLint.Proofs.Selection
import SpecLint.Proofs.Uniqueness
import SpecLint.Proofs.Log
import SpecLint.Proofs.Composition
import SpecLint.Proofs.RecordingOrder
import SpecLint.Proofs.Grounding
import SpecLint.Proofs.Layout
import SpecLint.Proofs.Loading
import SpecLint.Proofs.Finding
import SpecLint.Proofs.Schema.Edit
import SpecLint.Proofs.Amount
import SpecLint.Proofs.Description
import SpecLint.Proofs.Required
import SpecLint.Proofs.Schema.PathText
import SpecLint.Proofs.Reference.Base
import SpecLint.Proofs.PullRequest.Verdict
import SpecLint.Proofs.VersionOrder
import SpecLint.Proofs.PullRequest.Comment
import SpecLint.Proofs.Members
import SpecLint.Proofs.Yaml.Conversion
import SpecLint.Proofs.Number.Magnitude
import SpecLint.Proofs.Number.Shortest
import SpecLint.Proofs.Number.Text
import SpecLint.Proofs.Yaml.Key
import SpecLint.Proofs.Route
import SpecLint.Proofs.Files.Ancestor
import SpecLint.Proofs.Text.Offset
import SpecLint.Proofs.PullRequest.Stripping
