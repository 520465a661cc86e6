import Retrieval.Query.Typing
import Mathlib.Data.List.Forall2
import Mathlib.Tactic.Lemma

/-!
# Typed queries

In a typed query every node can give what is asked of it (`Query.Typed`): it has the answers that go
with the need, it asks of its children what the need comes down to, and no term is marked with less
than the nodes above ask for. Queries in the words of the index tell nothing but documents.
-/

namespace Retrieval

/-- A computation that succeeds has succeeded at each step. -/
lemma bind_eq_ok {ε α β : Type} {first : Except ε α} {next : α → Except ε β} {b : β}
    (h : first >>= next = .ok b) : ∃ a, first = .ok a ∧ next a = .ok b := by
  cases first with
  | error e => cases h
  | ok a => exact ⟨a, rfl, h⟩

/-- Computations that go on alike from what their first step gives are alike. -/
lemma bind_congr_ok {ε α β : Type} {first : Except ε α} {next next' : α → Except ε β}
    (same : ∀ a, first = .ok a → next a = next' a) : first >>= next = first >>= next' := by
  cases first with
  | error e => rfl
  | ok a => exact same a rfl

/-- A computation that fails has failed at its first step or after it. -/
lemma bind_eq_error {ε α β : Type} {first : Except ε α} {next : α → Except ε β} {e : ε}
    (h : first >>= next = .error e) :
    first = .error e ∨ ∃ a, first = .ok a ∧ next a = .error e := by
  cases first with
  | error e' =>
    cases h
    exact .inl rfl
  | ok a => exact .inr ⟨a, rfl, h⟩

/-- A computation that is seen to succeed has a result. -/
lemma exists_of_isOk {ε α : Type} {x : Except ε α} (h : x.isOk = true) : ∃ a, x = .ok a := by
  cases x with
  | error e => cases h
  | ok a => exact ⟨a, rfl⟩

/-- A computation that is seen to succeed with a result of some kind has such a result. -/
lemma exists_of_map_eq_ok {ε α β : Type} {x : Except ε α} {f : α → β} {b : β}
    (h : x.map f = .ok b) : ∃ a, x = .ok a ∧ f a = b := by
  cases x with
  | error e => cases h
  | ok a => exact ⟨a, rfl, Except.ok.inj h⟩

/-- Where the members of a list are all made into others, they are made into these one by one. -/
lemma forall₂_of_mapM {ε α β : Type} {make : α → Except ε β} {as : List α} {bs : List β}
    (h : as.mapM make = .ok bs) : List.Forall₂ (fun a b => make a = .ok b) as bs := by
  induction as generalizing bs with
  | nil =>
    cases h
    exact .nil
  | cons a as ih =>
    rw [List.mapM_cons] at h
    obtain ⟨b, first, h⟩ := bind_eq_ok h
    obtain ⟨bs', rest, h⟩ := bind_eq_ok h
    cases h
    exact .cons first (ih rest)

/-- In lists that are related item by item each item has one that it is related to. -/
lemma exists_mem_of_forall₂ {α β : Type} {r : α → β → Prop} {as : List α} {bs : List β}
    (h : List.Forall₂ r as bs) : (∀ a ∈ as, ∃ b ∈ bs, r a b) ∧ ∀ b ∈ bs, ∃ a ∈ as, r a b := by
  induction h with
  | nil => exact ⟨List.forall_mem_nil _, List.forall_mem_nil _⟩
  | @cons a b as bs first _ ih =>
    obtain ⟨forth, back⟩ := ih
    constructor
    · refine List.forall_mem_cons.mpr ⟨⟨b, List.mem_cons_self, first⟩, fun a' mem => ?_⟩
      obtain ⟨b', mem', related⟩ := forth a' mem
      exact ⟨b', List.mem_cons_of_mem b mem', related⟩
    · refine List.forall_mem_cons.mpr ⟨⟨a, List.mem_cons_self, first⟩, fun b' mem => ?_⟩
      obtain ⟨a', mem', related⟩ := back b' mem
      exact ⟨a', List.mem_cons_of_mem a mem', related⟩

/-- Where the members of a list are all made into others, each is made into one of these, and each
of these is made of one of them. -/
lemma mapM_eq_ok {ε α β : Type} {make : α → Except ε β} {as : List α} {bs : List β}
    (h : as.mapM make = .ok bs) :
    bs.length = as.length ∧ (∀ a ∈ as, ∃ b ∈ bs, make a = .ok b) ∧
      ∀ b ∈ bs, ∃ a ∈ as, make a = .ok b :=
  ⟨(forall₂_of_mapM h).length_eq.symm, exists_mem_of_forall₂ (forall₂_of_mapM h)⟩

/-- A list can be made into another if each of its members can. -/
lemma exists_mapM_eq_ok {ε α β : Type} {make : α → Except ε β} {as : List α}
    (each : ∀ a ∈ as, ∃ b, make a = .ok b) : ∃ bs, as.mapM make = .ok bs := by
  induction as with
  | nil => exact ⟨[], rfl⟩
  | cons a as ih =>
    obtain ⟨⟨b, first⟩, rest⟩ := List.forall_mem_cons.mp each
    obtain ⟨bs, rest⟩ := ih rest
    refine ⟨b :: bs, ?_⟩
    rw [List.mapM_cons, first, rest]
    rfl

/-- Where not all members of a list can be made into others, one of them cannot. -/
lemma exists_mapM_eq_error {ε α β : Type} {make : α → Except ε β} {as : List α} {e : ε}
    (h : as.mapM make = .error e) : ∃ a ∈ as, make a = .error e := by
  induction as with
  | nil => cases h
  | cons a as ih =>
    rw [List.mapM_cons] at h
    rcases bind_eq_error h with here | ⟨b, _, h⟩
    · exact ⟨a, List.mem_cons_self, here⟩
    · rcases bind_eq_error h with rest | ⟨_, _, h⟩
      · obtain ⟨a', mem, failed⟩ := ih rest
        exact ⟨a', List.mem_cons_of_mem a mem, failed⟩
      · cases h

lemma mapM_congr {ε α β : Type} {make make' : α → Except ε β} {as : List α}
    (same : ∀ a ∈ as, make a = make' a) : as.mapM make = as.mapM make' := by
  induction as with
  | nil => rfl
  | cons a as ih =>
    obtain ⟨first, rest⟩ := List.forall_mem_cons.mp same
    rw [List.mapM_cons, List.mapM_cons, first, ih rest]

/-- Lists that are related item by item are so side by side. -/
lemma forall₂_zip_zip {α β γ δ : Type} {r : α → β → Prop} {s : γ → δ → Prop} {as bs cs ds}
    (left : List.Forall₂ r as bs) (right : List.Forall₂ s cs ds) :
    List.Forall₂ (fun p q => r p.1 q.1 ∧ s p.2 q.2) (as.zip cs) (bs.zip ds) := by
  induction left generalizing cs ds with
  | nil => exact .nil
  | cons first _ ih =>
    cases right with
    | nil => exact .nil
    | cons first' rest' => exact .cons ⟨first, first'⟩ (ih rest')

/-- Lists that are related item by item have items in the same places. -/
lemma forall₂_getElem? {α β : Type} {r : α → β → Prop} {as : List α} {bs : List β}
    (h : List.Forall₂ r as bs) (i : Nat) :
    (as[i]? = none ∧ bs[i]? = none) ∨ ∃ a b, as[i]? = some a ∧ bs[i]? = some b ∧ r a b := by
  induction h generalizing i with
  | nil => exact .inl ⟨rfl, rfl⟩
  | cons first _ ih =>
    cases i with
    | zero => exact .inr ⟨_, _, rfl, rfl, first⟩
    | succ i => exact ih i

lemma forall₂_map_eq {α β γ : Type} {f : α → γ} {g : β → γ} {as : List α} {bs : List β} :
    List.Forall₂ (fun a b => f a = g b) as bs ↔ as.map f = bs.map g := by
  rw [← List.forall₂_eq_eq_eq, List.forall₂_map_left_iff, List.forall₂_map_right_iff]

/-- Lists are related item by item if they are made of lists that look alike, and items that are made
of such that look alike are related. -/
lemma forall₂_of_map_eq {α β γ δ ε : Type} {look : α → γ} {look' : β → γ} {r : α → δ → Prop}
    {r' : β → ε → Prop} {s : δ → ε → Prop} {as : List α} {as' : List β} {bs : List δ} {bs' : List ε}
    (same : as.map look = as'.map look')
    (alike : ∀ a ∈ as, ∀ a' ∈ as', look a = look' a' → ∀ b b', r a b → r' a' b' → s b b')
    (related : List.Forall₂ r as bs) (related' : List.Forall₂ r' as' bs') :
    List.Forall₂ s bs bs' := by
  induction related generalizing as' bs' with
  | nil =>
    cases List.map_eq_nil_iff.mp same.symm
    cases related'
    exact .nil
  | @cons a b as bs first _ ih =>
    cases related' with
    | nil => cases same
    | @cons a' b' as' bs' first' rest' =>
      obtain ⟨here, rest⟩ := List.cons.inj same
      have tail := ih rest (fun c mem c' mem' => alike c (List.mem_cons_of_mem a mem) c'
        (List.mem_cons_of_mem a' mem')) rest'
      exact .cons (alike a List.mem_cons_self a' List.mem_cons_self here b b' first first') tail

/-- Lists that are related item by item are so when they are sorted by keys that related items have
in common. -/
lemma forall₂_mergeSort {α β : Type} {r : α → β → Prop} {key : α → Nat} {key' : β → Nat}
    {as : List α} {bs : List β} (related : List.Forall₂ r as bs)
    (same : ∀ a b, r a b → key a = key' b) (before : Nat → Nat → Bool) :
    List.Forall₂ r (as.mergeSort fun a b => before (key a) (key b))
      (bs.mergeSort fun a b => before (key' a) (key' b)) := by
  -- Both lists are the halves of one list of pairs, which is sorted in their stead.
  let pairsBefore (p q : α × β) : Bool := before (key p.1) (key q.1)
  have each : ∀ p ∈ as.zip bs, r p.1 p.2 := fun p mem => List.forall₂_zip related mem
  have left : ((as.zip bs).mergeSort pairsBefore).map Prod.fst
      = ((as.zip bs).map Prod.fst).mergeSort fun a b => before (key a) (key b) :=
    List.map_mergeSort fun _ _ _ _ => rfl
  have right : ((as.zip bs).mergeSort pairsBefore).map Prod.snd
      = ((as.zip bs).map Prod.snd).mergeSort fun a b => before (key' a) (key' b) :=
    List.map_mergeSort fun p mem q mem' => by
      simp only [pairsBefore, same _ _ (each p mem), same _ _ (each q mem')]
  rw [List.map_fst_zip (Nat.le_of_eq related.length_eq)] at left
  rw [List.map_snd_zip (Nat.le_of_eq related.length_eq.symm)] at right
  rw [← left, ← right, List.forall₂_map_left_iff, List.forall₂_map_right_iff, List.forall₂_same]
  exact fun p mem => each p (List.mem_mergeSort.mp mem)

/-! ## Needs -/

namespace Need

lemma le_refl (n : Need) : n ≤ n := Nat.le_refl n.rank

lemma le_trans {l m n : Need} (left : l ≤ m) (right : m ≤ n) : l ≤ n := Nat.le_trans left right

lemma le_max_left (m n : Need) : m ≤ max m n := by
  cases m <;> cases n <;> decide

lemma le_max_right (m n : Need) : n ≤ max m n := by
  cases m <;> cases n <;> decide

lemma max_eq_left {m n : Need} (le : n ≤ m) : max m n = m := by
  revert le
  cases m <;> cases n <;> decide

lemma max_ne_scores {m n : Need} (left : m ≠ .scores) (right : n ≠ .scores) : max m n ≠ .scores := by
  revert left right
  cases m <;> cases n <;> decide

/-- The largest of several needs is at least where the search for it began. -/
lemma le_foldl_max (needs : List Need) (init : Need) : init ≤ needs.foldl max init := by
  induction needs generalizing init with
  | nil => exact le_refl init
  | cons n needs ih => exact le_trans (le_max_left init n) (ih _)

/-- The largest of several needs is at least each of them. -/
lemma le_foldl_max_of_mem {needs : List Need} {n : Need} (mem : n ∈ needs) (init : Need) :
    n ≤ needs.foldl max init := by
  induction mem generalizing init with
  | head needs => exact le_trans (le_max_right init n) (le_foldl_max needs _)
  | tail _ _ ih => exact ih _

end Need

namespace Query

variable {R : Type}

/-! ## Typed queries -/

/-- The kind of the node has the answers that the need asks for. -/
structure Admits (need : Need) (q : Query R) : Prop where
  counted : need = .counts ∨ need = .positions → q.onlyScores = false
  placed : need = .positions → q.tellsPositions = true
  scored : need = .scores → q.onlyCounts = false

/-- Every node of the query can give what is asked of it if `need` is asked of the root. -/
inductive Typed : Need → Query R → Prop where
  | leaf {need l} :
    Admits need (.leaf l) →
    (∀ t, l = .term t → need ≤ t.needed) →
    (∀ text, l = .raw text → need = .docs) →
    Typed need (.leaf l)
  | modify {need m c} :
    Admits need (.modify m c) →
    Typed (m.childNeed need) c →
    Typed need (.modify m c)
  | join {need op cs} :
    Admits need (.join op cs) →
    (op.wantsTwo.isSome → 2 ≤ cs.length) →
    (∀ c ∈ cs, Typed (op.childNeed need) c) →
    Typed need (.join op cs)
  | require {need c v} :
    Admits need (.require c v) →
    Typed .docs c →
    Typed need v →
    Typed need (.require c v)

/-- No leaf is written in the words of the index. -/
def NoRaw (q : Query R) : Prop := ∀ text, .leaf (.raw text) ∉ q.nodes

/-- What a node admits does not depend on its child. -/
lemma Admits.modify {need : Need} {m : Modifier R} {c c' : Query R}
    (admits : Admits need (.modify m c)) : Admits need (.modify m c') := by
  cases m <;> exact ⟨admits.1, admits.2, admits.3⟩

/-- What a node admits does not depend on its children. -/
lemma Admits.join {need : Need} {op : Operator R} {cs cs' : List (Query R)}
    (admits : Admits need (.join op cs)) : Admits need (.join op cs') := by
  cases op <;> exact ⟨admits.1, admits.2, admits.3⟩

variable [Scalar R]

/-- A node that passes its check can give what is asked of it. -/
lemma admits_of_checkNeed {need : Need} {q : Query R} (h : q.checkNeed need = .ok ()) :
    Admits need q := by
  rw [checkNeed] at h
  split at h
  · cases h
  · next scores =>
    split at h
    · cases h
    · next positions =>
      split at h
      · cases h
      · next counts =>
        refine ⟨fun asked => ?_, fun asked => ?_, fun asked => ?_⟩
        · simpa [asked] using scores
        · simpa [asked] using positions
        · simpa [asked] using counts

/-- An operator that passes its check has two children if it wants them. -/
lemma two_le_of_checkArity {op : Operator R} {cs : List (Query R)} (h : checkArity op cs = .ok ())
    (wants : op.wantsTwo.isSome) : 2 ≤ cs.length := by
  rw [checkArity] at h
  split at h
  · split at h
    · cases h
    · next enough => exact Nat.le_of_not_lt enough
  · next none =>
    rw [none] at wants
    cases wants

/-! ## Inference -/

lemma markAll_eq_mapM (need : Need) (cs : List (Query R)) :
    markAll need cs = cs.mapM (mark need) := by
  induction cs with
  | nil => rfl
  | cons c cs ih => rw [markAll, ih, List.mapM_cons]

omit [Scalar R]

lemma mapTermsAll_eq_map (f : Term → Term) (cs : List (Query R)) :
    mapTermsAll f cs = cs.map (mapTerms f) := by
  induction cs with
  | nil => rfl
  | cons c cs ih => rw [mapTermsAll, ih, List.map_cons]

lemma termsAll_eq_flatMap (cs : List (Query R)) : termsAll cs = cs.flatMap terms := by
  induction cs with
  | nil => rfl
  | cons c cs ih => rw [termsAll, ih, List.flatMap_cons]

mutual

theorem terms_mapTerms (f : Term → Term) : (q : Query R) → (q.mapTerms f).terms = q.terms.map f
  | .leaf l => by cases l <;> rfl
  | .modify _ c => terms_mapTerms f c
  | .join _ cs => termsAll_mapTermsAll f cs
  | .require c v => by
    rw [Query.mapTerms, terms, terms, List.map_append, terms_mapTerms f c, terms_mapTerms f v]

theorem termsAll_mapTermsAll (f : Term → Term) :
    (cs : List (Query R)) → termsAll (mapTermsAll f cs) = (termsAll cs).map f
  | [] => rfl
  | c :: cs => by
    rw [mapTermsAll, termsAll, termsAll, List.map_append, terms_mapTerms f c,
      termsAll_mapTermsAll f cs]

end

/-- Marking terms with more keeps a query typed. -/
lemma Typed.mapTerms {need : Need} {q : Query R} {f : Term → Term} (typed : Typed need q)
    (more : ∀ t ∈ q.terms, t.needed ≤ (f t).needed) : Typed need (q.mapTerms f) := by
  induction typed with
  | @leaf need l admits marked written =>
    cases l with
    | term t =>
      refine .leaf ⟨admits.1, admits.2, admits.3⟩ ?_ nofun
      rintro _ ⟨rfl⟩
      exact Need.le_trans (marked t rfl) (more t (List.mem_singleton_self t))
    | _ => exact .leaf admits marked written
  | modify admits _ ih => exact .modify admits.modify (ih more)
  | join admits two _ ih =>
    rw [Query.mapTerms, mapTermsAll_eq_map]
    refine .join admits.join (fun wants => ?_) fun c' mem => ?_
    · rw [List.length_map]
      exact two wants
    · obtain ⟨c, within, rfl⟩ := List.mem_map.mp mem
      apply ih c within
      intro t ht
      apply more t
      rw [terms, termsAll_eq_flatMap]
      exact List.mem_flatMap.mpr ⟨c, within, ht⟩
  | require admits _ _ ihc ihv =>
    refine .require ⟨admits.1, admits.2, admits.3⟩ (ihc fun t ht => more t ?_)
      (ihv fun t ht => more t ?_)
    · exact List.mem_append_left _ ht
    · exact List.mem_append_right _ ht

end Query

end Retrieval
