import Descent.ErrorValue
import Descent.Example.Printed
import Descent.Pattern.Lemmas
import Descent.Session
import Descent.Proofs.Reach
import Descent.Proofs.Consumption
import Descent.Proofs.Leaves
import Descent.Proofs.Provenance
import Descent.Proofs.Alike
import Descent.Proofs.Spacing
import Descent.Proofs.Genuine
import Descent.Proofs.Locating
import Descent.Proofs.Outcomes
import Descent.Proofs.Survival
import Descent.Proofs.Limit
import Descent.Proofs.Unlimited
import Descent.Proofs.Heads
import Descent.Proofs.Ending
import Descent.Proofs.Termination
import Descent.Proofs.Chaining
import Descent.Proofs.Reliance
import Descent.Proofs.Construction
import Descent.Proofs.Permanence
import Descent.Proofs.Settling
import Descent.Proofs.Lexical
import Descent.Proofs.Deciding
import Descent.Proofs.NestedLists
import Descent.Proofs.Collecting
import Descent.Proofs.Regrouping
import Descent.Proofs.Merging
import Descent.Proofs.Declarations.Spelling
import Descent.Proofs.Declarations.Reading
import Descent.Proofs.Declarations.Contents
import Descent.Proofs.Declarations.RoundTrip
import Descent.Proofs.Declarations.Totality
import Descent.Proofs.LeftRecursion
import Descent.Proofs.Faults
import Descent.Proofs.Checking
import Descent.Proofs.Safety
import Descent.Proofs.Relabeling
import Descent.Proofs.Naming
import Descent.Proofs.Tracing
import Descent.Proofs.CutOff
import Descent.Proofs.Editing
import Descent.Proofs.References
import Descent.Proofs.Rewiring
import Descent.Proofs.Separated
import Descent.Proofs.Iterating
import Descent.Proofs.Symbols
import Descent.Proofs.Wording
import Descent.Proofs.Declarations.Shapes
import Descent.Proofs.Meaning
import Descent.Proofs.Binding
import Descent.Proofs.Refactoring
import Descent.Proofs.RightRecursion
import Descent.Proofs.Exhausting
import Descent.Proofs.Literals
import Descent.Proofs.Places
import Descent.Proofs.Variables
import Descent.Proofs.LookingAhead
import Descent.Proofs.Occurrences
import Descent.Proofs.Excerpts
import Descent.Proofs.Foreign
import Descent.Proofs.Traversing
import Descent.Proofs.Coercing
import Descent.Proofs.Answering
