import TapeMachine.Main
import TapeMachine.Proofs.Partner
import TapeMachine.Proofs.Transition
import TapeMachine.Proofs.History
import TapeMachine.Proofs.Evaluation
import TapeMachine.Proofs.BracketTable
import TapeMachine.Proofs.Placement
import TapeMachine.Proofs.JumpMachine
import TapeMachine.Proofs.TapeView
import TapeMachine.Proofs.TapeShape
import TapeMachine.Proofs.BracketBalance
import TapeMachine.Proofs.CellArithmetic
import TapeMachine.Proofs.Conservation
import TapeMachine.Proofs.StepBudget
import TapeMachine.Proofs.FrameStack
import TapeMachine.Proofs.GuardedMachine
import TapeMachine.Proofs.GuardedRun
import TapeMachine.Proofs.ProgramText
import TapeMachine.Proofs.FaultCauses
import TapeMachine.Proofs.UnreadInput
import TapeMachine.Proofs.Sequencing
import TapeMachine.Proofs.Behaviour
import TapeMachine.Proofs.DeadLoop
import TapeMachine.Proofs.Ending
import TapeMachine.Proofs.FailedStep
import TapeMachine.Proofs.LoopReports
import TapeMachine.Proofs.EndlessTape
import TapeMachine.Proofs.TapeExtent
import TapeMachine.Proofs.StraightLine
import TapeMachine.Proofs.Travel
import TapeMachine.Proofs.SimpleLoop
import TapeMachine.Proofs.NestedLoops
import TapeMachine.Proofs.LimitedHistory
import TapeMachine.Proofs.ReadingLoop
import TapeMachine.Proofs.EchoedInput
import TapeMachine.Proofs.ReversedInput
import TapeMachine.Proofs.LoopGrammar
import TapeMachine.Proofs.CellResidue
