import Retrieval.Environment
import Retrieval.Proofs.Candidates.Finding
import Retrieval.Proofs.Collection.Segments

/-!
# What whitelists list

A whitelist lists documents of a collection by their numbers or, without numbers, by their names.
Where every document has a name of its own, binding finds the numbers of the names, and so it does
not change what is listed (`Whitelist.listed_of_fillWhitelist`). A segment finds, under its own
numbers, those of the listed documents that it holds (`Whitelist.mem_idsWithin`), and the segments
find them all, in rising order (`Whitelist.flatten_idsWithin`).
-/

namespace Retrieval

variable {limit : Option Nat} {docs : List Document}

/-! ## Names -/

/-- The document with a name of its own is found by it. -/
lemma Collection.number?_eq_some_iff (distinct : (docs.map Document.name).Nodup) {name : String}
    {doc : Nat} : (ofDocuments limit docs).number? name = some doc ↔
      ∃ d, docs[doc]? = some d ∧ d.name = name := by
  have numbered : ∀ p : String × Nat, p ∈ (docs.map Document.name).zipIdx.reverse ↔
      ∃ d, docs[p.2]? = some d ∧ d.name = p.1 := by
    intro p
    rw [List.mem_reverse, List.mem_zipIdx_iff_getElem?, List.getElem?_map, Option.map_eq_some_iff]
  have number_eq : (ofDocuments limit docs).number? name =
      ((docs.map Document.name).zipIdx.reverse.find? (·.1 = name)).map (·.2) := rfl
  rw [number_eq, Option.map_eq_some_iff]
  constructor
  · rintro ⟨p, found, rfl⟩
    obtain ⟨d, here, named⟩ := (numbered p).mp (List.mem_of_find?_eq_some found)
    exact ⟨d, here, named.trans (by simpa using List.find?_some found)⟩
  · rintro ⟨d, here, rfl⟩
    have some_ : ((docs.map Document.name).zipIdx.reverse.find? (·.1 = d.name)).isSome :=
      List.find?_isSome.mpr ⟨(d.name, doc), (numbered _).mpr ⟨d, here, rfl⟩, decide_eq_true rfl⟩
    obtain ⟨p, found⟩ := Option.isSome_iff_exists.mp some_
    obtain ⟨d', here', named⟩ := (numbered p).mp (List.mem_of_find?_eq_some found)
    have same : d'.name = d.name := named.trans (by simpa using List.find?_some found)
    -- no other document has the name
    have inside : p.2 < (docs.map Document.name).length := by
      rw [List.length_map]
      exact (List.getElem?_eq_some_iff.mp here').1
    refine ⟨p, found, (List.getElem?_inj inside distinct).mp ?_⟩
    rw [List.getElem?_map, List.getElem?_map, here, here', Option.map_some, Option.map_some, same]

/-- Names that are looked up find the documents that have one of them. -/
lemma Collection.mem_lookup (distinct : (docs.map Document.name).Nodup) {names : List String}
    {doc : Nat} : doc ∈ (ofDocuments limit docs).lookup names ↔
      ∃ d, docs[doc]? = some d ∧ d.name ∈ names := by
  rw [lookup, List.mem_filterMap]
  constructor
  · rintro ⟨name, mem, found⟩
    obtain ⟨d, here, rfl⟩ := (number?_eq_some_iff distinct).mp found
    exact ⟨d, here, mem⟩
  · rintro ⟨d, here, mem⟩
    exact ⟨d.name, mem, (number?_eq_some_iff distinct).mpr ⟨d, here, rfl⟩⟩

/-! ## Documents -/

namespace Whitelist

variable {w w' : Whitelist} {doc : Nat}

/-- Whether a whitelist lists a document: by its number if it has numbers, by its name if it has
only names. -/
def lists (w : Whitelist) (doc : Nat) (d : Document) : Bool :=
  match w.ids, w.names with
  | some ids, _ => ids.contains doc
  | none, some names => names.contains d.name
  | none, none => false

/-- The numbers of the documents that a whitelist lists, in rising order. -/
def listed (docs : List Document) (w : Whitelist) : List Nat :=
  (List.range docs.length).filter fun doc => docs[doc]?.any (w.lists doc)

lemma mem_listed : doc ∈ w.listed docs ↔ ∃ d, docs[doc]? = some d ∧ w.lists doc d = true := by
  rw [listed, List.mem_filter, List.mem_range, Option.any_eq_true]
  exact and_iff_right_of_imp fun ⟨d, here, _⟩ => (List.getElem?_eq_some_iff.mp here).1

/-- Numbers list the documents of the collection that have them. -/
lemma mem_listed_of_ids {ids : List Nat} (numbers : w.ids = some ids) :
    doc ∈ w.listed docs ↔ doc < docs.length ∧ doc ∈ ids := by
  have lists : ∀ d, w.lists doc d = ids.contains doc := by
    intro d
    rw [Whitelist.lists, numbers]
  rw [mem_listed]
  simp only [lists, List.contains_iff_mem, exists_and_right]
  refine and_congr_left fun _ => ⟨fun ⟨_, here⟩ => ?_, fun inside => ?_⟩
  · exact (List.getElem?_eq_some_iff.mp here).1
  · exact ⟨_, List.getElem?_eq_getElem inside⟩

lemma listed_pairwise (docs : List Document) (w : Whitelist) :
    (w.listed docs).Pairwise (· < ·) :=
  List.Pairwise.filter _ List.pairwise_lt_range

/-- Names or numbers are enough to bind a whitelist. -/
lemma exists_fillWhitelist {c : Collection} (given : w.ids.isSome ∨ w.names.isSome) :
    ∃ w', Environment.fillWhitelist c w = .ok w' := by
  rw [Environment.fillWhitelist]
  split
  · exact ⟨_, rfl⟩
  · exact ⟨_, rfl⟩
  · next noIds noNames =>
    rw [noIds, noNames] at given
    cases given <;> contradiction

/-- Binding gives numbers to a whitelist, and does not change what it lists. -/
theorem listed_of_fillWhitelist (distinct : (docs.map Document.name).Nodup)
    (filled : Environment.fillWhitelist (.ofDocuments limit docs) w = .ok w') :
    w'.ids.isSome ∧ w'.listed docs = w.listed docs := by
  rw [Environment.fillWhitelist] at filled
  split at filled
  · next numbers =>
    cases filled
    exact ⟨Option.isSome_of_eq_some numbers, rfl⟩
  · next names noIds named =>
    cases filled
    refine ⟨rfl, List.filter_congr fun doc inside => ?_⟩
    have here := List.getElem?_eq_getElem (List.mem_range.mp inside)
    rw [here, Option.any_some, Option.any_some, lists, lists, noIds, named]
    rw [Bool.eq_iff_iff, List.contains_iff_mem, List.contains_iff_mem,
      Collection.mem_lookup distinct]
    constructor
    · rintro ⟨d, here', mem⟩
      cases here.symm.trans here'
      exact mem
    · exact fun mem => ⟨_, here, mem⟩
  · cases filled

/-! ## Segments -/

variable {s : Segment}

/-- A segment finds the listed documents that it holds, whatever the order of the numbers. -/
theorem mem_idsWithin {ids : List Nat} (held : s ∈ (Collection.ofDocuments limit docs).segments)
    (within : Session.idsWithin s w = .ok ids) {d : Nat} :
    d ∈ ids ↔ d < s.size ∧ s.base + d ∈ w.listed docs := by
  have end_le := (Collection.between_of_mem held).end_le
  obtain ⟨all, numbers⟩ := Option.isSome_iff_exists.mp ((exists_idsWithin_iff s w).mp ⟨ids, within⟩)
  rw [Retrieval.mem_idsWithin numbers within, mem_listed_of_ids numbers]
  exact and_congr_right fun inside => (and_iff_right (by omega)).symm

/-- Together, one after the other, the segments find all that is listed. -/
theorem flatten_idsWithin {here : Segment → List Nat}
    (within : ∀ s ∈ (Collection.ofDocuments limit docs).segments,
      Session.idsWithin s w = .ok (here s)) :
    ((Collection.ofDocuments limit docs).segments.map fun s => (here s).map (s.base + ·)).flatten =
      w.listed docs := by
  have rising : ((Collection.ofDocuments limit docs).segments.map fun s =>
      (here s).map (s.base + ·)).flatten.Pairwise (· < ·) := by
    apply Collection.flatten_rising (Collection.segments_pairwise limit docs)
    · intro s held
      rw [List.pairwise_map]
      exact (idsWithin_rising (within s held)).1.imp fun lt => Nat.add_lt_add_left lt s.base
    · intro s held
      refine List.forall_mem_map.mpr fun d mem => ⟨Nat.le_add_right _ _, Nat.add_lt_add_left ?_ _⟩
      exact (idsWithin_rising (within s held)).2 d mem
  refine eq_of_rising rising (listed_pairwise docs w) fun doc => ?_
  rw [← List.flatMap_def, List.mem_flatMap]
  constructor
  · rintro ⟨s, held, mem⟩
    obtain ⟨d, mem', rfl⟩ := List.mem_map.mp mem
    exact ((mem_idsWithin held (within s held)).mp mem').2
  · intro mem
    obtain ⟨d, here, _⟩ := mem_listed.mp mem
    obtain ⟨s, held, le, lt⟩ :=
      Collection.exists_segment limit (List.getElem?_eq_some_iff.mp here).1
    refine ⟨s, held, List.mem_map.mpr ⟨doc - s.base, ?_, Nat.add_sub_cancel' le⟩⟩
    rw [mem_idsWithin held (within s held), Nat.add_sub_cancel' le]
    exact ⟨by omega, mem⟩

end Whitelist

end Retrieval
