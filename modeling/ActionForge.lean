import ActionForge.Introspection.Query
import ActionForge.Main
import ActionForge.Proofs.Form.Order
import ActionForge.Proofs.Resolution
import ActionForge.Proofs.Form.Item
import ActionForge.Proofs.Generation
import ActionForge.Proofs.Outcome
import ActionForge.Proofs.Name
import ActionForge.Proofs.Template
import ActionForge.Proofs.Document.Arguments
import ActionForge.Proofs.Document.Pieces
import ActionForge.Proofs.Document.Paths
import ActionForge.Proofs.Query.Reading
import ActionForge.Proofs.Document.Reading
import ActionForge.Proofs.Document.Meaning
import ActionForge.Proofs.Introspection.Reply
import ActionForge.Proofs.Schema.Table
import ActionForge.Proofs.Introspection.Loading
import ActionForge.Proofs.Introspection.Agreement
import ActionForge.Proofs.Sdl.Naming
import ActionForge.Proofs.Reach
import ActionForge.Proofs.DeclarationOrder
import ActionForge.Proofs.EntryFile.Placement
import ActionForge.Proofs.EntryFile.Runs
import ActionForge.Proofs.Description
import ActionForge.Proofs.EntryFile.Bindings
import ActionForge.Proofs.Project.Writing
import ActionForge.Proofs.CommandLine.Effects
import ActionForge.Proofs.Form.Targets
import ActionForge.Proofs.Records
import ActionForge.Proofs.Json.Reading
import ActionForge.Proofs.Settings
import ActionForge.Proofs.Script.Evaluation
import ActionForge.Proofs.Script.Reading
import ActionForge.Proofs.Script.Results
import ActionForge.Proofs.Schema.Extensions
import ActionForge.Proofs.Form.Declared
import ActionForge.Proofs.Form.Invariant
import ActionForge.Proofs.Form.Required
import ActionForge.Proofs.Document.Demands
import ActionForge.Proofs.EntryFile.Additions
import ActionForge.Proofs.Script.Embedded
import ActionForge.Proofs.Script.Bundle
import ActionForge.Proofs.Introspection.Acceptance
import ActionForge.Proofs.Expansion
import ActionForge.Proofs.Form.Sorting
import ActionForge.Proofs.Text.Width
import ActionForge.Proofs.Text.Clipping
