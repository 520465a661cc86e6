import Retrieval.Proofs.Collection.Division
import Retrieval.Proofs.Evaluation.Freshness
import Retrieval.Proofs.Query.Nodes
import Retrieval.Proofs.Ranking.Preparation

/-!
# The sizes and the lengths of a measured scorer

The field of a scorer is found twice. Measuring takes the sizes of a field from the collection, and
looks only at the terms below the scorer; compilation gives the scorer the lengths of a field, and
looks first whether its child is the lengths of one. Both find the same field
(`Searcher.measured_normalised`), except right over lengths: there the sizes are those of the default
field, whatever field the lengths are of (`Searcher.measured_other_lengths`).
-/

namespace Retrieval

variable {R : Type} [Scalar R]

namespace Query

/-- The field that terms below a scorer are counted in normalises it, unless it is right over
lengths. -/
lemma scorerField_of_counted {q : Query R} {fallback field : String}
    (counted : q.onlyCountedField fallback = .ok field) :
    ∃ lengths, Session.scorerField fallback q = .ok lengths ∧
      (lengths ≠ field → field = fallback ∧ ∃ stats, q = .leaf (.lengths ⟨some lengths, stats⟩)) := by
  unfold Session.scorerField
  split
  · next lengths stats =>
    have open_ := (onlyCountedField_eq_ok.mp counted).2 rfl
    exact ⟨lengths, rfl, fun _ => ⟨open_, stats, rfl⟩⟩
  · exact ⟨field, counted, fun other => absurd rfl other⟩

end Query

namespace Session

omit [Scalar R] in
/-- A pure computation that has been run in a session has succeeded. -/
lemma eq_ok_of_run {α : Type} {result : Except Fault α} {a : α} {s s' : Session R}
    (ran : run (ofExcept result) s = (.ok a, s')) : result = .ok a := congrArg Prod.fst ran

/-- A scorer is compiled with the lengths of its field. -/
lemma plan_scorer {model : Model R} {stats : Option Statistics} {c : Query R} {s s' : Session R}
    {p : Plan R} (ran : run (plan (.modify (.scorer model stats) c)) s = (.ok p, s')) :
    ∃ scorer field inner, p = .modify (.scorer scorer field) inner ∧
      scorerField s.defaultField c = .ok field := by
  obtain ⟨a, _, adapted, ran⟩ := run_bind_eq_ok ran
  obtain ⟨inner, _, _, ran⟩ := run_bind_eq_ok ran
  cases ran
  obtain ⟨scorer, _, made, adapted⟩ := run_bind_eq_ok adapted
  rw [run_ofExcept_eq_ok made] at adapted
  obtain ⟨_, _, got, adapted⟩ := run_bind_eq_ok adapted
  cases got
  obtain ⟨field, _, named, adapted⟩ := run_bind_eq_ok adapted
  cases adapted
  exact ⟨scorer, field, inner, rfl, eq_ok_of_run named⟩

end Session

namespace Searcher

open Query

variable {e : Searcher R} {need : Need} {q : Query R} {p : Prepared R}

/-- The scorer over `c` with the measured `stats` has the sizes of `field`, the one that `c` is counted
in, and every session with the default field compiles it with the lengths of `lengths`. These are the
same field, unless the scorer is right over lengths: then its sizes are those of the default field. -/
structure Normalised (e : Searcher R) (model : Model R) (c : Query R) (stats : Statistics)
    (field lengths : String) : Prop where
  counted : c.onlyCountedField e.env.defaultField = .ok field
  sizes : ∃ known, e.collection.fieldStatistics? field = some known ∧ stats.cl = known.cl ∧
    stats.dc = known.dc
  named : Session.scorerField e.env.defaultField c = .ok lengths
  compiled : ∀ (s s' : Session R) (p : Plan R), s.defaultField = e.env.defaultField →
    Session.run (Session.plan (.modify (.scorer model (some stats)) c)) s = (.ok p, s') →
      ∃ scorer inner, p = .modify (.scorer scorer lengths) inner
  same : lengths ≠ field →
    field = e.env.defaultField ∧ ∃ known, c = .leaf (.lengths ⟨some lengths, known⟩)

/-- Whatever is measured normalises its scorer by some field. -/
lemma normalised_of_measured (model : Model R) {c : Query R} {stats : Statistics}
    (measured : e.measured c = .ok stats) :
    ∃ field lengths, e.Normalised model c stats field lengths := by
  obtain ⟨field, counted, measured⟩ := bind_eq_ok measured
  obtain ⟨known, found, measured⟩ := bind_eq_ok measured
  obtain ⟨counts, _, measured⟩ := bind_eq_ok measured
  cases measured
  obtain ⟨lengths, named, same⟩ := scorerField_of_counted counted
  have sizes := Collection.knownField_eq_ok.mp found
  refine ⟨field, lengths, counted, ⟨known, sizes, rfl, rfl⟩, named, ?_, same⟩
  intro s s' p default ran
  obtain ⟨scorer, lengths', inner, rfl, named'⟩ := Session.plan_scorer ran
  rw [default, named] at named'
  cases named'
  exact ⟨scorer, inner, rfl⟩

/-- What measuring makes of a scorer without statistics. -/
def Normalises (e : Searcher R) (n n' : Query R) : Prop :=
  ∀ model c, n = .modify (.scorer model none) c → ∃ stats c' field lengths,
    n' = .modify (.scorer model (some stats)) c' ∧ e.Normalised model c' stats field lengths

/-- In a prepared query every scorer that had no statistics when they had been attached has the
sizes of a field and is compiled with the lengths of a field. It is the same field, unless the
scorer is right over the lengths of a field other than the default one: then the sizes are those of
the default field. -/
theorem measured_normalised (prepared : e.prepareFor need q = .ok p) :
    ∃ bound known simple typed, q.bind e.env e.collection = .ok bound ∧
      bound.attachStatistics e.collection = .ok known ∧
      known.simplify e.env.maxPasses = .ok simple ∧ simple.infer need = .ok typed ∧
      List.Forall₂ e.Normalises typed.nodes p.scoring.nodes := by
  obtain ⟨bound, known, simple, typed, h, h', simplified, inferred, measured, _⟩ :=
    prepareFor_steps prepared
  refine ⟨bound, known, simple, typed, h, h', simplified, inferred, ?_⟩
  refine (nodes_rebuild typed measured).imp ?_
  rintro n n' built model c rfl
  obtain ⟨c', _, built⟩ := bind_eq_ok built
  obtain ⟨m', changed, built⟩ := bind_eq_ok built
  cases built
  obtain ⟨stats, measured, changed⟩ := bind_eq_ok changed
  cases changed
  obtain ⟨field, lengths, normalised⟩ := normalised_of_measured model measured
  exact ⟨stats, c', field, lengths, rfl, normalised⟩

/-- A scored synonym in titles beside scored lengths of titles, where bodies are the default field. -/
theorem measured_normalised_nested :
    let docs : List Document := [⟨"d0", [("body", "a"), ("title", "b c")]⟩]
    let e : Searcher Float := ⟨.ofDocuments none docs, .usual⟩
    let scored (c : Query Float) : Query Float := .modify (.scorer (.dirichlet none) none) c
    let synonym : Query Float := .join .synonym [.term "b" "title", .term "c" "title"]
    let q := .join .max
      [scored (.modify .alwaysMatch synonym), scored (.leaf (.lengths { field := some "title" }))]
    ∃ p, e.prepareFor .scores q = .ok p ∧ ∃ bound known simple typed,
      q.bind e.env e.collection = .ok bound ∧ bound.attachStatistics e.collection = .ok known ∧
      known.simplify e.env.maxPasses = .ok simple ∧ simple.infer .scores = .ok typed ∧
      List.Forall₂ e.Normalises typed.nodes p.scoring.nodes := by
  intro docs e scored synonym q
  have prepares : (e.prepareFor .scores q).isOk = true := by decide +kernel
  obtain ⟨p, prepared⟩ := exists_of_isOk prepares
  exact ⟨p, prepared, measured_normalised prepared⟩

/-- The statistics of a scorer that has some, and its child. -/
def scored? : Query R → Option (Statistics × Query R)
  | .modify (.scorer _ (some stats)) c => some (stats, c)
  | _ => none

omit [Scalar R] in
lemma scored?_eq_some {q : Query R} {x : Statistics × Query R} (scored : scored? q = some x) :
    ∃ model, q = .modify (.scorer model (some x.1)) x.2 := by
  unfold scored? at scored
  split at scored
  · cases scored
    exact ⟨_, rfl⟩
  · cases scored

/-- The titles have two tokens and the bodies one. A scorer over the lengths of titles is compiled
with these, but has the sizes of bodies. -/
theorem measured_other_lengths :
    let docs : List Document := [⟨"d0", [("body", "a"), ("title", "b c")]⟩]
    let e : Searcher Float := ⟨.ofDocuments none docs, .usual⟩
    let q : Query Float :=
      .modify (.scorer (.dirichlet none) none) (.leaf (.lengths { field := some "title" }))
    ∃ p model stats c, e.prepareFor .scores q = .ok p ∧
      p.scoring = .modify (.scorer model (some stats)) c ∧
      Session.scorerField e.env.defaultField c = .ok "title" ∧
      (e.collection.fieldStatistics? "title").map Statistics.cl = some 2 ∧ stats.cl = 1 := by
  intro docs e q
  have prepares : (e.prepareFor .scores q).map (fun p => (scored? p.scoring).map fun x =>
      (x.1.cl, Session.scorerField e.env.defaultField x.2)) = .ok (some (1, .ok "title")) := by
    decide +kernel
  obtain ⟨p, prepared, scoring⟩ := exists_of_map_eq_ok prepares
  obtain ⟨⟨stats, c⟩, scored, measured⟩ := Option.map_eq_some_iff.mp scoring
  obtain ⟨tokens, field⟩ := Prod.mk.inj measured
  obtain ⟨model, scoring⟩ := scored?_eq_some scored
  exact ⟨p, model, stats, c, prepared, scoring, field, by decide +kernel, tokens⟩

end Searcher

end Retrieval
