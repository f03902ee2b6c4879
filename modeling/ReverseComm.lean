import ReverseComm.Algorithm.Evolve
import ReverseComm.Proofs.Action
import ReverseComm.Rehearsal.Caller
import ReverseComm.Rehearsal.Exercise
import ReverseComm.Rehearsal.Script
import ReverseComm.Report.Table
import ReverseComm.Solver.Layout
import ReverseComm.Tensor.Nested
import ReverseComm.Proofs.Evolution.Population
import ReverseComm.Proofs.Loop.Protocol
import ReverseComm.Proofs.Loop.Frame
import ReverseComm.Proofs.Loop.Memo
import ReverseComm.Proofs.Session.Lifecycle
import ReverseComm.Proofs.Loop.Correspondence
import ReverseComm.Proofs.Evolution.History
import ReverseComm.Proofs.Evolution.Release
import ReverseComm.Proofs.Evolution.StoredFitness
import ReverseComm.Proofs.Settings.RoundTrip
import ReverseComm.Proofs.Evolution.Refusal
import ReverseComm.Proofs.Settings.Setters
import ReverseComm.Proofs.Settings.Policies
import ReverseComm.Proofs.Evolution.EvaluationLog
import ReverseComm.Proofs.Session.Bounds
import ReverseComm.Proofs.Loading.Blame
import ReverseComm.Proofs.Loading.Naming
import ReverseComm.Proofs.Session.Retry
import ReverseComm.Proofs.Session.Dimensions
import ReverseComm.Proofs.Evolution.Representation
import ReverseComm.Proofs.Evolution.LastResult
import ReverseComm.Proofs.Evolution.Reproducibility
