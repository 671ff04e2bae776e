import StepPattern.Main
import StepPattern.Proofs.Agreement
import StepPattern.Proofs.AllOrNothing
import StepPattern.Proofs.Application
import StepPattern.Proofs.Checks
import StepPattern.Proofs.Commuting
import StepPattern.Proofs.Compositions
import StepPattern.Proofs.Concatenation
import StepPattern.Proofs.Endings
import StepPattern.Proofs.Grid
import StepPattern.Proofs.Layers
import StepPattern.Proofs.Layout
import StepPattern.Proofs.LooseValues
import StepPattern.Proofs.Notation
import StepPattern.Proofs.Order
import StepPattern.Proofs.Partition
import StepPattern.Proofs.RandomBounds
import StepPattern.Proofs.Registrations
import StepPattern.Proofs.Reordering
import StepPattern.Proofs.Repetition
import StepPattern.Proofs.Respaced
import StepPattern.Proofs.RestSymbol
import StepPattern.Proofs.Rotation
import StepPattern.Proofs.Succession
import StepPattern.Proofs.Thinning
import StepPattern.Proofs.Unguarded
import StepPattern.Proofs.Verbosity
import StepPattern.Proofs.WeightedChoice
