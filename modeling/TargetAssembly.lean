import TargetAssembly.ArtifactSet.Basic
import TargetAssembly.ArtifactSet.Workbench
import TargetAssembly.Assembly
import TargetAssembly.Binary64
import TargetAssembly.BuildMode
import TargetAssembly.Capability
import TargetAssembly.Cbor
import TargetAssembly.Configuration.Basic
import TargetAssembly.Configuration.Text
import TargetAssembly.Contribution
import TargetAssembly.Decimal.Numeral
import TargetAssembly.Decimal.Shortest
import TargetAssembly.Description
import TargetAssembly.Diagnostics
import TargetAssembly.Digest.Sha256
import TargetAssembly.FileTree
import TargetAssembly.Json.Basic
import TargetAssembly.Json.Reader
import TargetAssembly.Keyed
import TargetAssembly.Library
import TargetAssembly.LinkPlan
import TargetAssembly.Log
import TargetAssembly.Payload
import TargetAssembly.Problem.Basic
import TargetAssembly.Proofs.ArtifactSet.Accumulating
import TargetAssembly.Proofs.ArtifactSet.Flattening
import TargetAssembly.Proofs.ArtifactSet.Nesting
import TargetAssembly.Proofs.Assembly.Interruption
import TargetAssembly.Proofs.Assembly.Outcome
import TargetAssembly.Proofs.Assembly.Reports
import TargetAssembly.Proofs.Assembly.Stages
import TargetAssembly.Proofs.Assembly.Trace
import TargetAssembly.Proofs.Cbor.Canonical
import TargetAssembly.Proofs.Cbor.RoundTrip
import TargetAssembly.Proofs.Configuration.Effective
import TargetAssembly.Proofs.Configuration.Files
import TargetAssembly.Proofs.Configuration.Members
import TargetAssembly.Proofs.Configuration.Outcome
import TargetAssembly.Proofs.Configuration.RoundTrip
import TargetAssembly.Proofs.Contribution.Merging
import TargetAssembly.Proofs.Contribution.Permuting
import TargetAssembly.Proofs.Contribution.Steps
import TargetAssembly.Proofs.Description.Bytes
import TargetAssembly.Proofs.Description.Decoding
import TargetAssembly.Proofs.Description.Reordering
import TargetAssembly.Proofs.Diagnostics.Reporting
import TargetAssembly.Proofs.FileTree.Writing
import TargetAssembly.Proofs.FirstFlaw
import TargetAssembly.Proofs.HostApp.Naming
import TargetAssembly.Proofs.Json.Blanks
import TargetAssembly.Proofs.Json.Compound
import TargetAssembly.Proofs.Json.Grammar
import TargetAssembly.Proofs.Json.Numeral
import TargetAssembly.Proofs.Json.Overlong
import TargetAssembly.Proofs.Json.RoundTrip
import TargetAssembly.Proofs.Json.Taken
import TargetAssembly.Proofs.Json.Text
import TargetAssembly.Proofs.KeyedLookup
import TargetAssembly.Proofs.Label.FullLabel
import TargetAssembly.Proofs.Library.Union
import TargetAssembly.Proofs.Log.Export
import TargetAssembly.Proofs.Registry.Answering
import TargetAssembly.Proofs.Registry.CommonLibrary
import TargetAssembly.Proofs.Registry.Coverage
import TargetAssembly.Proofs.Registry.Ignored
import TargetAssembly.Proofs.Registry.IllFormed
import TargetAssembly.Proofs.Registry.Outputs
import TargetAssembly.Proofs.ResourceArchive.Naming
import TargetAssembly.Proofs.Session.Isolation
import TargetAssembly.Proofs.TestTarget.Declaring
import TargetAssembly.Proofs.Text.Quoted
import TargetAssembly.Proofs.Text.Utf8
import TargetAssembly.Proofs.Value.Payload
import TargetAssembly.Proofs.Value.Projection
import TargetAssembly.Proofs.Value.ToJson
import TargetAssembly.Proofs.Value.Written
import TargetAssembly.RecordType
import TargetAssembly.Resolver.Answer
import TargetAssembly.Resolver.Registry
import TargetAssembly.Resolver.Request
import TargetAssembly.Session
import TargetAssembly.Sorting
import TargetAssembly.Template.Fill
import TargetAssembly.Template.Kind.Basic
import TargetAssembly.Template.Kind.Catalogue
import TargetAssembly.Template.Kind.Text
import TargetAssembly.Template.Layout
import TargetAssembly.Template.Number
import TargetAssembly.Template.Subject
import TargetAssembly.TestTarget
import TargetAssembly.Text.Character
import TargetAssembly.Text.Quoted
import TargetAssembly.Text.Split
import TargetAssembly.Text.Utf8
import TargetAssembly.Untyped.Assembly
import TargetAssembly.Untyped.Configuration
import TargetAssembly.Untyped.Description
import TargetAssembly.Untyped.Problem
import TargetAssembly.Untyped.Record
import TargetAssembly.Untyped.Registry
import TargetAssembly.Untyped.Request
import TargetAssembly.Untyped.Session
import TargetAssembly.Untyped.Target
import TargetAssembly.Value.Basic
import TargetAssembly.Value.Misfit
import TargetAssembly.Value.Reading
import TargetAssembly.Value.ToJson
import TargetAssembly.Value.Use
import TargetAssembly.Value.Written
