import RandomTerms.Atom.Layout
import RandomTerms.Main
import RandomTerms.Session
import RandomTerms.Term.Balance
import RandomTerms.Proofs.Derivation
import RandomTerms.Proofs.Grammar
import RandomTerms.Proofs.Image
import RandomTerms.Proofs.Ending
import RandomTerms.Proofs.Listing
import RandomTerms.Proofs.Replay
import RandomTerms.Proofs.Conduct
import RandomTerms.Proofs.Conservation
import RandomTerms.Proofs.Cost
import RandomTerms.Proofs.Limit
import RandomTerms.Proofs.Extent
import RandomTerms.Proofs.History
import RandomTerms.Proofs.Continuation
import RandomTerms.Proofs.Composition
import RandomTerms.Proofs.Scaling
import RandomTerms.Proofs.Uniformity
import RandomTerms.Proofs.Expansions
import RandomTerms.Proofs.Interruption
import RandomTerms.Proofs.Refusals
import RandomTerms.Proofs.Rereading
import RandomTerms.Proofs.Dyck
import RandomTerms.Proofs.Messages
import RandomTerms.Proofs.Fields
