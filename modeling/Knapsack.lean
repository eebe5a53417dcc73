import Knapsack.Main
import Knapsack.Session
import Knapsack.Slot
import Knapsack.Table.Step
import Knapsack.Proofs.Solver.Optimality
import Knapsack.Proofs.Solver.Ties
import Knapsack.Proofs.Solver.Totality
import Knapsack.Proofs.Command.Report
import Knapsack.Proofs.Json.Documents
import Knapsack.Proofs.Instance.Lines
import Knapsack.Proofs.Instance.Rendering
import Knapsack.Proofs.Calls.Course
import Knapsack.Proofs.Calls.Session
import Knapsack.Proofs.Calls.Slot
import Knapsack.Proofs.Table.Optima
import Knapsack.Proofs.Command.Outcome
import Knapsack.Proofs.Json.Value
import Knapsack.Proofs.Json.Members
import Knapsack.Proofs.Json.Leniency
import Knapsack.Proofs.Table.Plateaus
import Knapsack.Proofs.Table.Walks
import Knapsack.Proofs.Table.Recurrence
import Knapsack.Proofs.Table.Unweighed
import Knapsack.Proofs.Table.Aborted
import Knapsack.Proofs.Table.Allocation
import Knapsack.Proofs.Instance.Flaws
import Knapsack.Proofs.Instance.Items
import Knapsack.Proofs.Instance.Capacity
import Knapsack.Proofs.Instance.Endings
import Knapsack.Proofs.Instance.Forms
import Knapsack.Proofs.Table.Marks
import Knapsack.Proofs.Table.Terminal
import Knapsack.Proofs.Report.Error
import Knapsack.Proofs.Report.Text
import Knapsack.Proofs.Buffers.Steps
import Knapsack.Proofs.Buffers.Shape
