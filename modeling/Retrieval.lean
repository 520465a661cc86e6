import Retrieval.Decimal.Read
import Retrieval.Json.Environment
import Retrieval.Json.Explanation
import Retrieval.Query.Shapes
import Retrieval.Ranking.Searcher
import Retrieval.Proofs.Candidates.Enumeration
import Retrieval.Proofs.Ranking.Faults
import Retrieval.Proofs.Candidates.Coverage
import Retrieval.Proofs.Evaluation.Scores
import Retrieval.Proofs.Query.Convergence
import Retrieval.Proofs.Query.NormalForm
import Retrieval.Proofs.Ranking.Switches
import Retrieval.Proofs.Collection.Division
import Retrieval.Proofs.Evaluation.Documents
import Retrieval.Proofs.Ranking.Segmentation
import Retrieval.Proofs.Ranking.Features
import Retrieval.Proofs.Collection.Lossless
import Retrieval.Proofs.Ranking.Collecting
import Retrieval.Proofs.Ranking.Idempotence
import Retrieval.Proofs.Ranking.Siblings
import Retrieval.Proofs.Candidates.Iteration
import Retrieval.Proofs.Ranking.Prefixes
import Retrieval.Proofs.Ranking.Explanations
import Retrieval.Proofs.Ranking.Explainable
import Retrieval.Proofs.Window.Ordered
import Retrieval.Proofs.Window.Pairs
import Retrieval.Proofs.Ranking.Measuring
import Retrieval.Proofs.Window.Unordered
import Retrieval.Proofs.Window.Proximity
import Retrieval.Proofs.Window.Counts
import Retrieval.Proofs.Window.Summaries
import Retrieval.Proofs.Window.Positions
import Retrieval.Proofs.Evaluation.Marking
import Retrieval.Proofs.Evaluation.Sharing
import Retrieval.Proofs.Candidates.Estimates
import Retrieval.Proofs.Ranking.Finite
import Retrieval.Proofs.Ranking.AbsentTerms
import Retrieval.Proofs.Ranking.Misses
import Retrieval.Proofs.Ranking.Whitelists
import Retrieval.Proofs.Query.KnownFields
import Retrieval.Proofs.Query.Completion
import Retrieval.Proofs.Query.Demands
import Retrieval.Proofs.Collection.Frequencies
import Retrieval.Proofs.Query.ScorerFields
import Retrieval.Proofs.Ranking.Normalisation
import Retrieval.Proofs.Candidates.Preparing
