import Retrieval.Proofs.Collection.Inversion
import Mathlib.Order.Nat
import Mathlib.Tactic.Lemma

/-!
# The segments of a collection

The segments of an indexed collection lie one after the other and leave nothing out. So a document
of the collection is found in one segment, under one number (`Collection.locate_of_mem`), and every
number below the size of the collection is that of a document (`Collection.exists_segment`).
-/

namespace Retrieval

/-- Cutting a list loses nothing. -/
lemma flatten_pieces {α : Type} (size : Nat) (l : List α) : (pieces size l).flatten = l := by
  induction l using pieces.induct size with
  | case1 => rw [pieces, List.flatten_nil]
  | case2 x xs ih =>
    rw [pieces, List.flatten_cons, ih, List.cons_append, List.take_append_drop]

namespace Collection

variable [Tokenizer]

/-- What is known of a segment among those that begin at `base` and hold `count` documents. -/
structure Between (base count : Nat) (s : Segment) : Prop where
  indexed : ∃ docs, s = .ofDocuments s.base docs
  base_le : base ≤ s.base
  end_le : s.base + s.size ≤ base + count

lemma between_of_mem_segmentsFrom {s : Segment} {base : Nat} {parts : List (List Document)}
    (mem : s ∈ segmentsFrom base parts) : Between base parts.flatten.length s := by
  induction parts generalizing base with
  | nil => cases mem
  | cons docs parts ih =>
    rw [List.flatten_cons, List.length_append]
    cases mem with
    | head => exact ⟨⟨docs, rfl⟩, Nat.le_refl base, Nat.add_le_add_left (Nat.le_add_right _ _) base⟩
    | tail _ mem =>
      obtain ⟨indexed, base_le, end_le⟩ := ih mem
      exact ⟨indexed, by omega, by omega⟩

/-- Segments lie one after the other. -/
lemma segmentsFrom_pairwise (base : Nat) (parts : List (List Document)) :
    (segmentsFrom base parts).Pairwise fun s t => s.base + s.size ≤ t.base := by
  induction parts generalizing base with
  | nil => exact .nil
  | cons docs parts ih =>
    refine List.pairwise_cons.mpr ⟨fun t mem => ?_, ih _⟩
    exact (between_of_mem_segmentsFrom mem).base_le

/-- Segments leave nothing out. -/
lemma exists_mem_segmentsFrom {doc base : Nat} {parts : List (List Document)} (le : base ≤ doc)
    (lt : doc < base + parts.flatten.length) :
    ∃ s ∈ segmentsFrom base parts, s.base ≤ doc ∧ doc < s.base + s.size := by
  induction parts generalizing base with
  | nil =>
    rw [List.flatten_nil, List.length_nil] at lt
    omega
  | cons docs parts ih =>
    rw [List.flatten_cons, List.length_append] at lt
    by_cases here : doc < base + docs.length
    · exact ⟨.ofDocuments base docs, List.mem_cons_self, le, here⟩
    · have le' : base + docs.length ≤ doc := Nat.le_of_not_lt here
      obtain ⟨s, mem, within⟩ := ih le' (by omega)
      exact ⟨s, List.mem_cons_of_mem _ mem, within⟩

variable {limit : Option Nat} {docs : List Document} {s : Segment} {doc : Nat}

/-- Every segment of a collection is indexed from some of its documents. -/
lemma between_of_mem (mem : s ∈ (ofDocuments limit docs).segments) : Between 0 docs.length s := by
  have between := between_of_mem_segmentsFrom mem
  rwa [flatten_pieces] at between

/-- The segments of a collection are indexed, where documents are numbered below the end. -/
lemma indexed_of_mem (numbered : docs.length ≤ noMoreDocs)
    (mem : s ∈ (ofDocuments limit docs).segments) : s.Indexed := by
  have between := between_of_mem mem
  have end_le := between.end_le
  exact ⟨between.indexed, by omega⟩

lemma segments_pairwise (limit : Option Nat) (docs : List Document) :
    (ofDocuments limit docs).segments.Pairwise fun s t => s.base + s.size ≤ t.base :=
  segmentsFrom_pairwise 0 _

omit [Tokenizer] in
/-- Numbers that rise in each of several segments rise from one to the next. -/
lemma flatten_rising {segments : List Segment} {numbers : Segment → List Nat}
    (apart : segments.Pairwise fun s t => s.base + s.size ≤ t.base)
    (rising : ∀ s ∈ segments, (numbers s).Pairwise (· < ·))
    (inside : ∀ s ∈ segments, ∀ n ∈ numbers s, s.base ≤ n ∧ n < s.base + s.size) :
    (segments.map numbers).flatten.Pairwise (· < ·) := by
  rw [List.pairwise_flatten]
  constructor
  · exact List.forall_mem_map.mpr rising
  · rw [List.pairwise_map]
    apply apart.imp_of_mem
    intro s t mem mem' end_le m here n there
    have := inside s mem m here
    have := inside t mem' n there
    omega

lemma size_ofDocuments (limit : Option Nat) (docs : List Document) :
    (ofDocuments limit docs).size = docs.length := by
  have sizes : ∀ base (parts : List (List Document)),
      addUp ((segmentsFrom base parts).map Segment.size) = parts.flatten.length := by
    intro base parts
    induction parts generalizing base with
    | nil => rfl
    | cons docs parts ih =>
      rw [List.flatten_cons, List.length_append, ← ih (base + docs.length)]
      rfl
  rw [size, ofDocuments, sizes, flatten_pieces]

/-- The names of a collection are those of its documents. -/
lemma name?_ofDocuments (limit : Option Nat) (docs : List Document) (doc : Nat) :
    (ofDocuments limit docs).name? doc = docs[doc]?.map Document.name := by
  rw [name?, ofDocuments, List.getElem?_toArray, List.getElem?_map]

lemma exists_segment (limit : Option Nat) (lt : doc < docs.length) :
    ∃ s ∈ (ofDocuments limit docs).segments, s.base ≤ doc ∧ doc < s.base + s.size := by
  apply exists_mem_segmentsFrom (Nat.zero_le doc)
  rwa [flatten_pieces, Nat.zero_add]

/-- Two segments that hold the same document are one. -/
lemma eq_of_mem_segments {t : Segment} (mem : s ∈ (ofDocuments limit docs).segments)
    (mem' : t ∈ (ofDocuments limit docs).segments) (within : s.base ≤ doc ∧ doc < s.base + s.size)
    (within' : t.base ≤ doc ∧ doc < t.base + t.size) : s = t := by
  have apart := segments_pairwise limit docs
  have same := List.Pairwise.forall_of_forall_of_flip
    (R := fun s t : Segment => s.base ≤ doc ∧ doc < s.base + s.size →
      t.base ≤ doc ∧ doc < t.base + t.size → s = t)
    (fun _ _ _ _ => rfl)
    (apart.imp fun end_le within within' => by omega)
    (apart.imp fun end_le within within' => by omega)
  exact same mem mem' within within'

/-- A document is found in the segment that holds it. -/
lemma locate_of_mem (mem : s ∈ (ofDocuments limit docs).segments) (le : s.base ≤ doc)
    (lt : doc < s.base + s.size) : (ofDocuments limit docs).locate doc = .ok (s, doc - s.base) := by
  rw [locate]
  split
  · next t found =>
    have within := List.find?_some found
    rw [Bool.and_eq_true, decide_eq_true_eq, decide_eq_true_eq] at within
    have same : s = t :=
      eq_of_mem_segments mem (List.mem_of_find?_eq_some found) ⟨le, lt⟩ ⟨within.1, by omega⟩
    rw [same]
  · next none =>
    have not := List.find?_eq_none.mp none s mem
    rw [Bool.and_eq_true, decide_eq_true_eq, decide_eq_true_eq] at not
    exact absurd ⟨le, by omega⟩ not

/-- No segment holds a document beyond the last one. -/
lemma locate_of_length_le (le : docs.length ≤ doc) :
    (ofDocuments limit docs).locate doc = .error (.outOfIndex doc) := by
  rw [locate]
  split
  · next s found =>
    have within := List.find?_some found
    rw [Bool.and_eq_true, decide_eq_true_eq, decide_eq_true_eq] at within
    have end_le := (between_of_mem (List.mem_of_find?_eq_some found)).end_le
    omega
  · rfl

omit [Tokenizer] in
/-- What is found lies in its segment. -/
lemma mem_of_locate {c : Collection} {here : Nat} (found : c.locate doc = .ok (s, here)) :
    s ∈ c.segments ∧ here < s.size ∧ doc = s.base + here := by
  rw [locate] at found
  split at found
  · next t found' =>
    cases found
    have within := List.find?_some found'
    rw [Bool.and_eq_true, decide_eq_true_eq, decide_eq_true_eq] at within
    exact ⟨List.mem_of_find?_eq_some found', within.2, by omega⟩
  · cases found

end Collection

end Retrieval
