import BlockCyclic.Decimal
import BlockCyclic.Dense
import BlockCyclic.Descriptor
import BlockCyclic.Descriptor.Loose
import BlockCyclic.Distribution
import BlockCyclic.Distribution.Numbers
import BlockCyclic.Failure
import BlockCyclic.Figure
import BlockCyclic.Figure.Markup
import BlockCyclic.Generator
import BlockCyclic.Grid
import BlockCyclic.Grid.Collective
import BlockCyclic.Grid.Shape
import BlockCyclic.Kernel.Condition
import BlockCyclic.Kernel.Eigen
import BlockCyclic.Kernel.Factor
import BlockCyclic.Kernel.Loose
import BlockCyclic.Matrix
import BlockCyclic.Matrix.Call
import BlockCyclic.Matrix.Element
import BlockCyclic.Matrix.Factor
import BlockCyclic.Matrix.Layout
import BlockCyclic.Matrix.Load
import BlockCyclic.Matrix.Request
import BlockCyclic.Number
import BlockCyclic.Number.ElementType
import BlockCyclic.Number.ElementType.Name
import BlockCyclic.Number.Exact
import BlockCyclic.Number.Format
import BlockCyclic.Number.Rounding
import BlockCyclic.Number.Stored
import BlockCyclic.Proofs.Axis.Balance
import BlockCyclic.Proofs.Axis.Correspondence
import BlockCyclic.Proofs.Axis.Deal
import BlockCyclic.Proofs.Grid.Arrangement
import BlockCyclic.Proofs.Grid.BlockCount
import BlockCyclic.Proofs.Grid.Factorization
import BlockCyclic.Proofs.Grid.Groups
import BlockCyclic.Proofs.Grid.Messages
import BlockCyclic.Proofs.Grid.Pieces
import BlockCyclic.Proofs.Kernel.Acceptance
import BlockCyclic.Proofs.Kernel.Condition
import BlockCyclic.Proofs.Kernel.Eigen
import BlockCyclic.Proofs.Kernel.EigenBuffers
import BlockCyclic.Proofs.Kernel.EigenTarget
import BlockCyclic.Proofs.Kernel.Exact
import BlockCyclic.Proofs.Kernel.ExactNorm
import BlockCyclic.Proofs.Kernel.Factor
import BlockCyclic.Proofs.Kernel.LowerTriangle
import BlockCyclic.Proofs.Kernel.Redistribution
import BlockCyclic.Proofs.Kernel.Refinement
import BlockCyclic.Proofs.Kernel.Refusal
import BlockCyclic.Proofs.Matrix.Access
import BlockCyclic.Proofs.Matrix.Agreement
import BlockCyclic.Proofs.Matrix.AllOrNothing
import BlockCyclic.Proofs.Matrix.Atomicity
import BlockCyclic.Proofs.Matrix.Creation
import BlockCyclic.Proofs.Matrix.Entries
import BlockCyclic.Proofs.Matrix.Factoring
import BlockCyclic.Proofs.Matrix.Filling
import BlockCyclic.Proofs.Matrix.Independence
import BlockCyclic.Proofs.Matrix.Inversion
import BlockCyclic.Proofs.Matrix.JointFailure
import BlockCyclic.Proofs.Matrix.Legality
import BlockCyclic.Proofs.Matrix.Lifecycle
import BlockCyclic.Proofs.Matrix.Loading
import BlockCyclic.Proofs.Matrix.Norms
import BlockCyclic.Proofs.Matrix.Ownership
import BlockCyclic.Proofs.Matrix.Pieces
import BlockCyclic.Proofs.Matrix.Programs
import BlockCyclic.Proofs.Matrix.Room
import BlockCyclic.Proofs.Matrix.Solving
import BlockCyclic.Proofs.Matrix.Transfers
import BlockCyclic.Proofs.Matrix.UpperTriangle
import BlockCyclic.Proofs.Matrix.Whole
import BlockCyclic.Proofs.Number.Rounding
import BlockCyclic.Proofs.Region.Assembly
import BlockCyclic.Proofs.Region.Enumeration
import BlockCyclic.Proofs.Region.Places
import BlockCyclic.Proofs.Region.Tables
import BlockCyclic.Proofs.Session.Turns
import BlockCyclic.Proofs.Transfer.Buffer
import BlockCyclic.Proofs.Transfer.Members
import BlockCyclic.Proofs.Transfer.RoundTrip
import BlockCyclic.Report
import BlockCyclic.Serial
import BlockCyclic.Serial.Cholesky
import BlockCyclic.Serial.Condition
import BlockCyclic.Serial.Eigen
import BlockCyclic.Serial.Kernels
import BlockCyclic.Serial.TriangularSolve
import BlockCyclic.Session
import BlockCyclic.Session.Figures
import BlockCyclic.Session.Grids
import BlockCyclic.Session.Kernels
import BlockCyclic.Session.Matrices
import BlockCyclic.Settings
import BlockCyclic.Sheet
import BlockCyclic.Sheet.Entry
import BlockCyclic.Sheet.Nested
import BlockCyclic.Size.Argument
import BlockCyclic.Size.Brackets
import BlockCyclic.Size.Uniform
import BlockCyclic.State
import BlockCyclic.Text
import BlockCyclic.Text.Numeral
import BlockCyclic.Transfer
import BlockCyclic.Words
