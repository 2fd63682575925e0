import Drafting.Command
import Drafting.Command.Arguments
import Drafting.Command.Report
import Drafting.Constraint
import Drafting.Exchange.Call
import Drafting.Exchange.Emission
import Drafting.Fault
import Drafting.Geometry.Binding
import Drafting.Geometry.Kind
import Drafting.Geometry.Property
import Drafting.Geometry.Table
import Drafting.Geometry.View
import Drafting.Journal
import Drafting.Journal.Summary
import Drafting.Main
import Drafting.Number.ArrayText
import Drafting.Number.Binary
import Drafting.Number.Decimal
import Drafting.Number.Notation
import Drafting.Number.Power
import Drafting.Number.Reading
import Drafting.Number.Rounding
import Drafting.Proofs.Belonging
import Drafting.Proofs.StoreLedger
import Drafting.Proofs.Change
import Drafting.Proofs.Classification
import Drafting.Proofs.ConvergedApply
import Drafting.Proofs.ApplyOutcome
import Drafting.Proofs.Drawing
import Drafting.Proofs.EditedSessions
import Drafting.Proofs.Extension
import Drafting.Proofs.Handling
import Drafting.Proofs.Kinds
import Drafting.Proofs.Layout
import Drafting.Proofs.Likeness
import Drafting.Proofs.Locality
import Drafting.Proofs.Measurement
import Drafting.Proofs.MirroredRequests
import Drafting.Proofs.Numbering
import Drafting.Proofs.Ownership
import Drafting.Proofs.Privacy
import Drafting.Proofs.Proceeding
import Drafting.Proofs.Readiness
import Drafting.Proofs.Reading
import Drafting.Proofs.MirroredSolves
import Drafting.Proofs.Rebinding
import Drafting.Proofs.LastSolution
import Drafting.Proofs.MirroredDrawing
import Drafting.Proofs.OperandForms
import Drafting.Proofs.Refusal
import Drafting.Proofs.Registration
import Drafting.Proofs.Relabelling
import Drafting.Proofs.TagRemoval
import Drafting.Proofs.ClearedSketches
import Drafting.Proofs.Requesting
import Drafting.Proofs.Resolution
import Drafting.Proofs.Roots
import Drafting.Proofs.Scanning
import Drafting.Proofs.Session
import Drafting.Proofs.SessionIsolation
import Drafting.Proofs.Shifting
import Drafting.Proofs.Slots
import Drafting.Proofs.Solving
import Drafting.Proofs.Splines
import Drafting.Proofs.Steadiness
import Drafting.Proofs.Storing
import Drafting.Proofs.AcceptedViews
import Drafting.Proofs.PassiveConstraints
import Drafting.Relation.Builtin
import Drafting.Relation.Catalog
import Drafting.Relation.Formula
import Drafting.Relation.Operand
import Drafting.Relation.Plane
import Drafting.Relation.Template
import Drafting.Scalar
import Drafting.Scene
import Drafting.Sketch
import Drafting.Sketch.Constraining
import Drafting.Sketch.Drawing
import Drafting.Sketch.Request
import Drafting.Sketch.Solving
import Drafting.Solve.Backend
import Drafting.Solve.Diagnosis
import Drafting.Solve.Dogleg
import Drafting.Solve.Factor
import Drafting.Solve.Jacobian
import Drafting.Solve.LineSearch
import Drafting.Solve.Marquardt
import Drafting.Solve.Options
import Drafting.Solve.Orthogonal
import Drafting.Solve.Quadratic
import Drafting.Solve.QuasiNewton
import Drafting.Solve.Singular
import Drafting.Solve.Trial
import Drafting.Solve.Wishing
import Drafting.Store
import Drafting.Store.Arena
import Drafting.Store.Call
import Drafting.Text.Blank
import Drafting.Text.Digit
import Drafting.Text.Printable
import Drafting.Text.Quoted
import Drafting.Value
import Drafting.Value.Conversion
import Drafting.Value.Reading
import Drafting.Proofs.CompanionRules
import Drafting.Proofs.IdentifierOrder
import Drafting.Proofs.Ordering
import Drafting.Proofs.ResidualDomains
import Drafting.Proofs.SolveAnswers
import Drafting.Proofs.ConvergedStatus
import Drafting.Proofs.DrawingAtomicity
import Drafting.Proofs.FailureAttribution
import Drafting.Proofs.EarlierRows
import Drafting.Proofs.Precision
import Drafting.Proofs.Approximation
import Drafting.Proofs.Coordinates
import Drafting.Proofs.OrthogonalSweeps
import Drafting.Proofs.Freedom
import Drafting.Proofs.LateRefusals
import Drafting.Proofs.ApplyAtomicity
import Drafting.Proofs.RetiredSlots
import Drafting.Proofs.Footprint
import Drafting.Proofs.PropertyAddressing
import Drafting.Proofs.SplineReadback
import Drafting.Proofs.TagRetirement
import Drafting.Proofs.GeometryEmission
import Drafting.Proofs.ConstraintEmission
import Drafting.Proofs.SharedEntities
import Drafting.Proofs.SlotOwners
import Drafting.Proofs.Conics
import Drafting.Proofs.KindDefinitions
import Drafting.Proofs.MeasuredValues
