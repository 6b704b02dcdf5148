import RpnCalculator.Proofs.StackExecution
import RpnCalculator.Proofs.UniqueReading
import RpnCalculator.Proofs.ForwardHistory
import RpnCalculator.Number.Numeral.Lemmas
import RpnCalculator.Window
import RpnCalculator.Proofs.Engine.Reachability
import RpnCalculator.Proofs.Engine.Transcription
import RpnCalculator.Proofs.Infix.Grammar
import RpnCalculator.Proofs.Infix.Reader
import RpnCalculator.Proofs.Infix.Pieces
import RpnCalculator.Proofs.Infix.Reassociation
import RpnCalculator.Proofs.Infix.Legibility
import RpnCalculator.Proofs.Infix.ReadingBack
import RpnCalculator.Proofs.Calculator.Effect
import RpnCalculator.Proofs.Calculator.Screen
import RpnCalculator.Proofs.Calculator.TypedNumber
import RpnCalculator.Proofs.Calculator.Typing
import RpnCalculator.Proofs.Calculator.Commands
import RpnCalculator.Proofs.Engine.BlankHistory
import RpnCalculator.Proofs.Calculator.Recall
import RpnCalculator.Proofs.Calculator.StartingOver
import RpnCalculator.Proofs.Calculator.SignedZero
import RpnCalculator.Proofs.Weight
import RpnCalculator.Proofs.Calculator.Remembering
import RpnCalculator.Proofs.Window.Driving
import RpnCalculator.Proofs.Infix.Parentheses
import RpnCalculator.Proofs.Infix.Necessity
import RpnCalculator.Proofs.LateBinding
import RpnCalculator.Proofs.Calculator.Undo
import RpnCalculator.Proofs.Calculator.SignKey
import RpnCalculator.Proofs.Infix.Inventory
