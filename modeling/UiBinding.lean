import UiBinding.Main
import UiBinding.Proofs.Catalog
import UiBinding.Proofs.Search.Recursion
import UiBinding.Proofs.Walk.Exactness
import UiBinding.Proofs.Resolution.Passes
import UiBinding.Proofs.Resolution.Pipeline
import UiBinding.Proofs.Resolution.Stability
import UiBinding.Proofs.Resolution.Reachability
import UiBinding.Proofs.Assets.Registration
import UiBinding.Proofs.Assets.Declared
import UiBinding.Proofs.Exports
import UiBinding.Proofs.Walk.Descendants
import UiBinding.Proofs.Resolution.Records
import UiBinding.Proofs.Resolution.DefaultNames
import UiBinding.Proofs.Assets.Order
import UiBinding.Proofs.Resolution.Order
import UiBinding.Proofs.Resolution.Links
import UiBinding.Proofs.Resolution.Idempotence
import UiBinding.Proofs.Resolution.Independence
import UiBinding.Proofs.Assets.Manifest
import UiBinding.Proofs.Assets.Outcome
import UiBinding.Proofs.Assets.Isolation
import UiBinding.Proofs.Resolution.Annotation
import UiBinding.Proofs.Resolution.Recomputation
import UiBinding.Proofs.Severity
import UiBinding.Proofs.Assets.Texts
import UiBinding.Proofs.Report
import UiBinding.Proofs.Walk.Attribution
import UiBinding.Proofs.Registry.Runs
import UiBinding.Proofs.Resolution.Dangling
import UiBinding.Proofs.Resolution.Targets
import UiBinding.Proofs.Resolution.Dropdowns
import UiBinding.Proofs.Publication
import UiBinding.Proofs.Component.Sections
import UiBinding.Proofs.Assets.Warnings
import UiBinding.Proofs.Text.ByteOrder
import UiBinding.Proofs.Assets.Discovery
import UiBinding.Proofs.Package.Paths
import UiBinding.Proofs.Component.Pages
import UiBinding.Proofs.Resolution.Groups
import UiBinding.Proofs.Search.Iterations
import UiBinding.Proofs.Xml.Outline
