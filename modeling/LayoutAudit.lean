import LayoutAudit.CommandLine.Folder
import LayoutAudit.Host.Site
import LayoutAudit.Main
import LayoutAudit.Run.Rehearsal
import LayoutAudit.Session.Understudy
import LayoutAudit.Spec.Clause
import LayoutAudit.Proofs.Evaluation.Direct
import LayoutAudit.Proofs.Scope.Sharing
import LayoutAudit.Proofs.Constraint.Meaning
import LayoutAudit.Proofs.Constraint.References
import LayoutAudit.Proofs.Spec.Calls
import LayoutAudit.Proofs.Evaluation.Footprint
import LayoutAudit.Proofs.Grid.Order
import LayoutAudit.Proofs.Grid.Rows
import LayoutAudit.Proofs.Run.Note
import LayoutAudit.Proofs.Run.Move
import LayoutAudit.Proofs.Run.Chronicle
import LayoutAudit.Proofs.Run.Opening
import LayoutAudit.Proofs.Run.Abort
import LayoutAudit.Proofs.Run.Isolation
import LayoutAudit.Proofs.Run.Termination
import LayoutAudit.Proofs.Run.Schedule
import LayoutAudit.Proofs.Run.Timing
import LayoutAudit.Proofs.Run.Exchange
import LayoutAudit.Proofs.Run.Lifecycle
import LayoutAudit.Proofs.Session.Tracking
import LayoutAudit.Proofs.Session.Routing
import LayoutAudit.Proofs.Spec.Handles
import LayoutAudit.Proofs.Relation.Presence
import LayoutAudit.Proofs.Relation.Easing
import LayoutAudit.Proofs.Constraint.Easing
import LayoutAudit.Proofs.Wire.Record
import LayoutAudit.Proofs.Wire.RoundTrip
import LayoutAudit.Proofs.Viewport.Catalog
import LayoutAudit.Proofs.Run.Preparation
import LayoutAudit.Proofs.Session.Shape
import LayoutAudit.Proofs.Constraint.Undefined
import LayoutAudit.Proofs.Grid.Delivery
import LayoutAudit.Proofs.Viewport.Changes
import LayoutAudit.Proofs.Viewport.Grammar
import LayoutAudit.Proofs.Registry.Calls
import LayoutAudit.Proofs.Wire.Report
import LayoutAudit.Proofs.Constraint.Mirror
import LayoutAudit.Proofs.Constraint.Paths
import LayoutAudit.Proofs.Constraint.Visibility
import LayoutAudit.Proofs.Session.Faults
import LayoutAudit.Proofs.Session.Ends
import LayoutAudit.Proofs.Run.Answers
import LayoutAudit.Proofs.Run.Configuration
import LayoutAudit.Proofs.Json.Lines
import LayoutAudit.Proofs.Run.Reports
import LayoutAudit.Proofs.Run.Workload
import LayoutAudit.Proofs.Run.Completion
import LayoutAudit.Proofs.CommandLine.Printing
import LayoutAudit.Proofs.Host.Handling
import LayoutAudit.Proofs.Run.Resources
import LayoutAudit.Proofs.Viewport.Expansion
import LayoutAudit.Proofs.Run.Planning
import LayoutAudit.Proofs.Constraint.Nearness
import LayoutAudit.Proofs.Run.Scripts
import LayoutAudit.Proofs.Server.Ports
import LayoutAudit.Proofs.Constraint.Evidence
import LayoutAudit.Proofs.Spec.Standard
import LayoutAudit.Proofs.Spec.Media
import LayoutAudit.Proofs.Settings.Precedence
