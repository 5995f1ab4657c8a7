import ServiceTemplates.Api.Client
import ServiceTemplates.Api.EventRecorder
import ServiceTemplates.Api.Exchange
import ServiceTemplates.Api.Outage
import ServiceTemplates.Api.Target
import ServiceTemplates.Cache.Basic
import ServiceTemplates.Cache.Replica
import ServiceTemplates.Definition.Basic
import ServiceTemplates.Definition.Contents
import ServiceTemplates.Definition.Manifest
import ServiceTemplates.Definition.Schema
import ServiceTemplates.Error
import ServiceTemplates.Health
import ServiceTemplates.Inspection
import ServiceTemplates.Json.Basic
import ServiceTemplates.Json.Binary64
import ServiceTemplates.Json.Block
import ServiceTemplates.Json.Merge
import ServiceTemplates.Json.Parser
import ServiceTemplates.Json.Printer
import ServiceTemplates.Main
import ServiceTemplates.Operation.Agenda
import ServiceTemplates.Operation.Basic
import ServiceTemplates.Operation.Intervention
import ServiceTemplates.Operation.Startup
import ServiceTemplates.Operation.Wake
import ServiceTemplates.Ownership
import ServiceTemplates.Pass.Basic
import ServiceTemplates.Pass.Counter
import ServiceTemplates.Pass.Interference
import ServiceTemplates.Pass.Lemmas
import ServiceTemplates.Pass.Run
import ServiceTemplates.Proofs.Api.StatusPatch
import ServiceTemplates.Proofs.Json.Numeral
import ServiceTemplates.Proofs.Json.Overlay
import ServiceTemplates.Proofs.Json.Patch
import ServiceTemplates.Proofs.Json.Path
import ServiceTemplates.Proofs.Json.Text
import ServiceTemplates.Proofs.Pass.Crowd
import ServiceTemplates.Proofs.Pass.Interaction
import ServiceTemplates.Proofs.Pass.Lagging
import ServiceTemplates.Proofs.Pass.Race
import ServiceTemplates.Proofs.Pass.Serve
import ServiceTemplates.Proofs.Pass.Unreliable
import ServiceTemplates.Proofs.Provision.Ownership
import ServiceTemplates.Proofs.Provision.Rekey
import ServiceTemplates.Proofs.Reconcile.Chain
import ServiceTemplates.Proofs.Reconcile.Commute
import ServiceTemplates.Proofs.Reconcile.Completeness
import ServiceTemplates.Proofs.Reconcile.Concurrency
import ServiceTemplates.Proofs.Reconcile.Course
import ServiceTemplates.Proofs.Reconcile.Credentials
import ServiceTemplates.Proofs.Reconcile.Dates
import ServiceTemplates.Proofs.Reconcile.Disturbed
import ServiceTemplates.Proofs.Reconcile.Effect
import ServiceTemplates.Proofs.Reconcile.Failure
import ServiceTemplates.Proofs.Reconcile.FirstPass
import ServiceTemplates.Proofs.Reconcile.Fits
import ServiceTemplates.Proofs.Reconcile.Fixpoint
import ServiceTemplates.Proofs.Reconcile.Flow
import ServiceTemplates.Proofs.Reconcile.Immutable
import ServiceTemplates.Proofs.Reconcile.Isolation
import ServiceTemplates.Proofs.Reconcile.Key
import ServiceTemplates.Proofs.Reconcile.Listing
import ServiceTemplates.Proofs.Reconcile.Lookup
import ServiceTemplates.Proofs.Reconcile.Publish
import ServiceTemplates.Proofs.Reconcile.Push
import ServiceTemplates.Proofs.Reconcile.Race
import ServiceTemplates.Proofs.Reconcile.Reordering
import ServiceTemplates.Proofs.Reconcile.ReportedSecret
import ServiceTemplates.Proofs.Reconcile.Requeue
import ServiceTemplates.Proofs.Reconcile.Resolution
import ServiceTemplates.Proofs.Reconcile.Resolve
import ServiceTemplates.Proofs.Reconcile.Resume
import ServiceTemplates.Proofs.Reconcile.Retry
import ServiceTemplates.Proofs.Reconcile.Setting
import ServiceTemplates.Proofs.Reconcile.Stage
import ServiceTemplates.Proofs.Reconcile.Success
import ServiceTemplates.Proofs.Reconcile.Touch
import ServiceTemplates.Proofs.Reconcile.Trigger
import ServiceTemplates.Proofs.Reconcile.View
import ServiceTemplates.Proofs.Reconcile.Warnings
import ServiceTemplates.Proofs.Reconcile.WriteRule
import ServiceTemplates.Proofs.Reconcile.WriteSafety
import ServiceTemplates.Proofs.Settings
import ServiceTemplates.Proofs.Store.Edit
import ServiceTemplates.Proofs.Store.History
import ServiceTemplates.Proofs.Store.Key
import ServiceTemplates.Proofs.Store.Sound
import ServiceTemplates.Proofs.Store.Version
import ServiceTemplates.Proofs.Template.Fold
import ServiceTemplates.Proofs.Template.Parameters
import ServiceTemplates.Proofs.Template.Precedence
import ServiceTemplates.Proofs.Template.Reapply
import ServiceTemplates.Proofs.Template.Renames
import ServiceTemplates.Proofs.Text.Base64
import ServiceTemplates.Proofs.Text.Casing
import ServiceTemplates.Proofs.Text.Numeral
import ServiceTemplates.Proofs.Text.Run
import ServiceTemplates.Proofs.Wire.Record
import ServiceTemplates.Proofs.Wire.RoundTrip
import ServiceTemplates.Provision.Binding
import ServiceTemplates.Provision.Instance
import ServiceTemplates.Provision.Secret
import ServiceTemplates.Reconcile.Backoff
import ServiceTemplates.Reconcile.Binding
import ServiceTemplates.Reconcile.Instance
import ServiceTemplates.Reconcile.Managed
import ServiceTemplates.Reconcile.Report
import ServiceTemplates.Reconcile.Requeue
import ServiceTemplates.Reconcile.Resolve
import ServiceTemplates.Reconcile.Secret
import ServiceTemplates.Reconcile.Touch
import ServiceTemplates.Reconcile.Trigger
import ServiceTemplates.Resource.Contents
import ServiceTemplates.Resource.Kind
import ServiceTemplates.Resource.Metadata
import ServiceTemplates.Resource.Object
import ServiceTemplates.Resource.ObjectReference
import ServiceTemplates.Resource.PlanReference
import ServiceTemplates.Session
import ServiceTemplates.Settings
import ServiceTemplates.SortedMap
import ServiceTemplates.SortedMap.Lemmas
import ServiceTemplates.Store.Change
import ServiceTemplates.Store.Cluster
import ServiceTemplates.Store.Key
import ServiceTemplates.Store.Lemmas
import ServiceTemplates.Store.Memory
import ServiceTemplates.Store.Selection
import ServiceTemplates.Template.Apply
import ServiceTemplates.Template.Merge
import ServiceTemplates.Text.Base64
import ServiceTemplates.Text.Blank
import ServiceTemplates.Text.FormField
import ServiceTemplates.Text.LowerCase
import ServiceTemplates.Text.Numeral
import ServiceTemplates.Text.Quoted
import ServiceTemplates.Text.Ranges
import ServiceTemplates.Text.Unprintable
import ServiceTemplates.Wire.Contents
import ServiceTemplates.Wire.Metadata
import ServiceTemplates.Wire.Object
import ServiceTemplates.Wire.ObjectReference
import ServiceTemplates.Wire.Record
