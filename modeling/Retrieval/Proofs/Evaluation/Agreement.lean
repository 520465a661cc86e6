import Retrieval.Proofs.Evaluation.Reading
import Mathlib.Data.List.Forall2
import Mathlib.Data.List.Nodup
import Mathlib.Tactic.Lemma

/-!
# Calls agree with readings

The state of an evaluation is a cache: cursors are ahead of where they were opened, and windows
remember what they found. `Origin.Fits` says what makes it a sound one, and a call agrees with a
reading (`Agrees`) if it answers from every such state what the reading says of the current
document, and leaves such a state behind in the same place. Agreement is closed under the steps that
the answers of nodes are made of, so the behaviour of a plan agrees with its readings
(`Plan.agree`).
-/

namespace Retrieval

/-! ## The state as a cache -/

namespace Postings

/-- A cursor that has passed a document can still be moved where any later target moves it. -/
lemma advance_advance {p : Postings} {t t' : Nat} (le : t ≤ t') :
    (p.advance t).advance t' = p.advance t' := by
  obtain ⟨rest, cost, needed⟩ := p
  simp only [advance, mk.injEq, and_true]
  induction rest with
  | nil => rfl
  | cons q rest ih =>
    by_cases before : q.doc < t
    · have before' : q.doc < t' := by omega
      rw [List.dropWhile_cons_of_pos (by simpa), List.dropWhile_cons_of_pos (by simpa), ih]
    · rw [List.dropWhile_cons_of_neg (by simpa using before)]

/-- A cursor stays where it is if that is not before the target. -/
lemma advance_of_le {p : Postings} {t : Nat} (le : t ≤ p.doc) : p.advance t = p := by
  obtain ⟨rest, cost, needed⟩ := p
  cases rest with
  | nil => rfl
  | cons q rest =>
    have here : ¬ q.doc < t := Nat.not_lt.mpr le
    rw [advance, List.dropWhile_cons_of_neg (by simpa using here)]

end Postings

/-- Where a state comes from: the cursors as they were opened, what each window looks for, and how
counts are added. -/
structure Origin where
  cursors : Array Postings
  searches : List (Nat × Reading (List Nat))
  overflow : Overflow

namespace Origin

/-- A state that the origin can have come to: no cursor has passed a posting of the current document
or of a later one, and what a window remembers of a document is what a search finds there. -/
structure Fits (o : Origin) (s : EvalState) : Prop where
  ahead : ∀ (slot target : Nat), s.doc ≤ target →
    s.cursors[slot]?.map (Postings.advance target) = o.cursors[slot]?.map (Postings.advance target)
  remembered : ∀ (slot : Nat) search, (slot, search) ∈ o.searches →
    ∀ doc starts, s.windows[slot]? = some (some (doc, starts)) → search doc = .ok starts
  overflow : s.overflow = o.overflow

/-- What readings of the origin can read. -/
def access (o : Origin) : Access Reading := Reading.access o.overflow o.cursors

/-- What a call may do to a state: everything but leave its place or spoil it. -/
structure Keeps (o : Origin) (s s' : EvalState) : Prop where
  fits : o.Fits s'
  doc : s'.doc = s.doc
  positioned : s'.positioned = s.positioned

end Origin

namespace Eval

variable {α β : Type}

/-- A step followed by another runs on from the state that the first one leaves. -/
lemma run_bind (call : Eval α) (next : α → Eval β) (s : EvalState) :
    (call >>= next).run s = match call.run s with
      | (.ok a, s') => (next a).run s'
      | (.error e, s') => (.error e, s') := by
  rcases ran : call.run s with ⟨e | a, s'⟩
  · exact runState_bind_error ran
  · exact runState_bind_ok ran

/-- Reading the state leaves it alone. -/
lemma run_get (s : EvalState) : (get : Eval EvalState).run s = (.ok s, s) := rfl

end Eval

/-- From every fitting state the call answers what the reading says of the current document. -/
def Agrees {α : Type} (o : Origin) (call : Eval α) (reading : Reading α) : Prop :=
  ∀ s, o.Fits s → (call.run s).1 = reading s.doc ∧ o.Keeps s (call.run s).2

namespace Agrees

variable {o : Origin} {α β : Type}

/-! ## Steps -/

lemma pure (a : α) : Agrees o (Pure.pure a) (Pure.pure a) :=
  fun _ fits => ⟨rfl, fits, rfl, rfl⟩

lemma throw (e : Fault) : Agrees (α := α) o (MonadExcept.throw e) (MonadExcept.throw e) :=
  fun _ fits => ⟨rfl, fits, rfl, rfl⟩

/-- The result of a pure computation is the same in a call and in a reading. -/
lemma ofExcept (result : Except Fault α) :
    Agrees o (MonadExcept.ofExcept result) (MonadExcept.ofExcept result) := by
  cases result with
  | ok a => exact pure a
  | error e => exact throw e

/-- Calls that agree one after the other agree together. -/
lemma bind {call : Eval α} {reading : Reading α} {call' : α → Eval β} {reading' : α → Reading β}
    (first : Agrees o call reading) (next : ∀ a, Agrees o (call' a) (reading' a)) :
    Agrees o (call >>= call') (reading >>= reading') := by
  intro s fits
  obtain ⟨answer, kept⟩ := first s fits
  rcases ran : call.run s with ⟨result, s'⟩
  rw [ran] at answer kept
  have read : (reading >>= reading') s.doc = result.bind (reading' · s.doc) := by
    simp only at answer
    rw [answer]
    rfl
  rw [Eval.run_bind, ran, read]
  cases result with
  | error e => exact ⟨rfl, kept⟩
  | ok a =>
    obtain ⟨answer', kept'⟩ := next a s' kept.fits
    rw [kept.doc] at answer'
    exact ⟨answer', kept'.fits, kept'.doc.trans kept.doc,
      kept'.positioned.trans kept.positioned⟩

lemma ite {c : Prop} [Decidable c] {call call' : Eval α} {reading reading' : Reading α}
    (yes : Agrees o call reading) (no : Agrees o call' reading') :
    Agrees o (if c then call else call') (if c then reading else reading') := by
  split
  · exact yes
  · exact no

/-! ## Lists -/

section Lists

variable {γ δ : Type} {r : γ → δ → Prop} {cs : List γ} {ds : List δ}

lemma mapM {call : γ → Eval α} {reading : δ → Reading α} (agree : List.Forall₂ r cs ds)
    (each : ∀ c d, r c d → Agrees o (call c) (reading d)) :
    Agrees o (cs.mapM call) (ds.mapM reading) := by
  induction agree with
  | nil => exact pure []
  | cons first _ ih =>
    rw [List.mapM_cons, List.mapM_cons]
    exact bind (each _ _ first) fun a => bind ih fun as => pure (a :: as)

lemma foldlM {call : α → γ → Eval α} {reading : α → δ → Reading α} (agree : List.Forall₂ r cs ds)
    (each : ∀ a c d, r c d → Agrees o (call a c) (reading a d)) (init : α) :
    Agrees o (cs.foldlM call init) (ds.foldlM reading init) := by
  induction agree generalizing init with
  | nil => exact pure init
  | cons first _ ih =>
    rw [List.foldlM_cons, List.foldlM_cons]
    exact bind (each init _ _ first) fun a => ih a

lemma anyM {call : γ → Eval Bool} {reading : δ → Reading Bool} (agree : List.Forall₂ r cs ds)
    (each : ∀ c d, r c d → Agrees o (call c) (reading d)) :
    Agrees o (cs.anyM call) (ds.anyM reading) := by
  induction agree with
  | nil => exact pure false
  | cons first _ ih =>
    apply bind (each _ _ first)
    intro hit
    cases hit with
    | true => exact pure true
    | false => exact ih

lemma allM {call : γ → Eval Bool} {reading : δ → Reading Bool} (agree : List.Forall₂ r cs ds)
    (each : ∀ c d, r c d → Agrees o (call c) (reading d)) :
    Agrees o (cs.allM call) (ds.allM reading) := by
  induction agree with
  | nil => exact pure true
  | cons first _ ih =>
    apply bind (each _ _ first)
    intro hit
    cases hit with
    | true => exact ih
    | false => exact pure false

end Lists

/-! ## What calls read -/

lemma here : Agrees o Eval.access.here o.access.here :=
  fun _ fits => ⟨rfl, fits, rfl, rfl⟩

/-- However far a cursor has come, catching up takes it where a cursor from the beginning gets. -/
lemma found (slot : Nat) :
    Agrees o (Eval.access.found slot) (o.access.found slot) := by
  intro s fits
  have read : o.access.found slot s.doc
      = .ok (o.cursors[slot]?.bind (·.at? s.doc)) := rfl
  have ahead := fits.ahead slot s.doc (Nat.le_refl _)
  rw [read]
  cases current : s.cursors[slot]? with
  | none =>
    have ran : (Eval.access.found slot).run s = (.ok none, s) := by
      simp only [Eval.access, Eval.catchUp, Eval.run_bind, Eval.run_get, current]
      rfl
    rw [current, Option.map_none, eq_comm, Option.map_eq_none_iff] at ahead
    rw [ran, ahead]
    exact ⟨rfl, fits, rfl, rfl⟩
  | some p =>
    obtain ⟨q, opened, same⟩ :
        ∃ q, o.cursors[slot]? = some q ∧ q.advance s.doc = p.advance s.doc := by
      rw [current, Option.map_some, eq_comm, Option.map_eq_some_iff] at ahead
      exact ahead
    have ran : (Eval.access.found slot).run s
        = (.ok (p.at? s.doc),
          { s with cursors := s.cursors.setIfInBounds slot (p.advance s.doc) }) := by
      have moved : (if p.doc < s.doc then p.advance s.doc else p) = p.advance s.doc := by
        split
        · rfl
        · next here => exact (Postings.advance_of_le (Nat.le_of_not_lt here)).symm
      simp only [Eval.access, Eval.catchUp, Eval.run_bind, Eval.run_get, current, moved]
      rfl
    rw [ran, opened]
    refine ⟨?_, ⟨?_, fits.remembered, fits.overflow⟩, rfl, rfl⟩
    · simp only [Option.bind_some, Postings.at?, same]
    · intro slot' target le
      rw [Array.getElem?_setIfInBounds]
      split
      · next e =>
        subst e
        have inside : slot < s.cursors.size := (Array.getElem?_eq_some_iff.mp current).1
        rw [if_pos inside, ← fits.ahead slot target le, current, Option.map_some, Option.map_some,
          Postings.advance_advance le]
      · exact fits.ahead slot' target le

/-- Counts are added as the origin says. -/
lemma plus (n n' : Nat) : Agrees o (Eval.access.plus n n') (o.access.plus n n') := by
  have added (overflow : Overflow) : Agrees o (overflow.plus n n') (overflow.plus n n') := by
    cases overflow with
    | never => exact pure _
    | wraps => exact pure _
    | stops => exact ite (pure _) (throw _)
  intro s fits
  have ran : (Eval.access.plus n n').run s = (s.overflow.plus n n' : Eval Nat).run s := rfl
  rw [ran, fits.overflow]
  exact added o.overflow s fits

/-- A window that remembers a document answers what a search would find there. -/
lemma remembered {slot : Nat} {search : Eval (List Nat)} {reading : Reading (List Nat)}
    (once : (o.searches.map Prod.fst).Nodup) (known : (slot, reading) ∈ o.searches)
    (agree : Agrees o search reading) : Agrees o (Eval.remembered slot search) reading := by
  -- where nothing is remembered of the document, the search is made and remembered
  have fresh : Agrees o (do
      let starts ← search
      modify fun t : EvalState =>
        { t with windows := t.windows.setIfInBounds slot (some (t.doc, starts)) }
      return starts) reading := by
    intro s fits
    obtain ⟨answer, kept⟩ := agree s fits
    rcases ran : search.run s with ⟨result, s'⟩
    rw [ran] at answer kept
    rw [Eval.run_bind, ran]
    cases result with
    | error e => exact ⟨answer, kept⟩
    | ok starts =>
      refine ⟨answer, ⟨kept.fits.ahead, ?_, kept.fits.overflow⟩, kept.doc, kept.positioned⟩
      intro slot' reading' known' doc starts' stored
      replace stored : (s'.windows.setIfInBounds slot (some (s'.doc, starts)))[slot']?
          = some (some (doc, starts')) := stored
      rw [Array.getElem?_setIfInBounds] at stored
      split at stored
      · next e =>
        subst e
        -- no other window remembers under this number
        obtain rfl : reading' = reading :=
          congrArg Prod.snd (List.inj_on_of_nodup_map once known' known rfl)
        split at stored
        · cases stored
          rw [kept.doc]
          exact answer.symm
        · cases stored
      · exact kept.fits.remembered slot' reading' known' doc starts' stored
  intro s fits
  rw [Eval.remembered, Eval.run_bind, Eval.run_get]
  dsimp only
  split
  · next doc starts stored =>
    split
    · next here =>
      have found := fits.remembered slot reading known doc starts stored
      rw [here] at found
      rw [found]
      exact ⟨rfl, fits, rfl, rfl⟩
    · exact fresh s fits
  · exact fresh s fits

end Agrees

end Retrieval
