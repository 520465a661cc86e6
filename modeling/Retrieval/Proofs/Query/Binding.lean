import Retrieval.Environment
import Retrieval.Proofs.Query.Marks
import Retrieval.Proofs.Query.Nodes
import Retrieval.Proofs.Query.Runnable

/-!
# Binding and attaching

Binding names the fields of leaves, finds the documents of whitelists, and sets the parameters of
scorers; attaching gives statistics to leaves, and to scorers right over a term. Here is what either
makes of a single leaf and of a single modifier. So a query is left as it is by binding that has been
bound (`Query.bind_bind`), and by either where both have been (`Query.bind_attach_attach`).
-/

namespace Retrieval

variable {R : Type}

/-! ## Options -/

/-- What is set in the first is set alike in the second. -/
def Kept {α : Type} (x y : Option α) : Prop := ∀ a ∈ x, a ∈ y

namespace Kept

variable {α : Type} {x y : Option α}

lemma refl (x : Option α) : Kept x x := fun _ => id

lemma getD (x : Option α) (a : α) : Kept x (some (x.getD a)) := by
  rintro b ⟨rfl⟩
  rfl

lemma or (x y : Option α) : Kept x (x.or y) := by
  rintro a ⟨rfl⟩
  rfl

/-- Anything may be set where nothing is. -/
lemma of_none (lacks : x = none) : Kept x y := by
  rintro a ⟨rfl⟩
  cases lacks

end Kept

/-! ## Leaves -/

namespace Leaf

/-- The statistics that a leaf has. -/
def stats? : Leaf R → Option Statistics
  | .term t => t.stats
  | .lengths l | .constCount _ l => l.stats
  | _ => none

/-- The leaf names its field, if it is of a kind that has one. -/
def IsNamed : Leaf R → Prop
  | .term t => t.field.isSome
  | .lengths l | .constCount _ l => l.field.isSome
  | _ => True

end Leaf

/-- Binding gives documents to whitelists, and leaves those alone that have some. -/
lemma Environment.fillWhitelist_eq_ok {c : Collection} {w w' : Whitelist}
    (filled : fillWhitelist c w = .ok w') :
    w'.ids.isSome ∧ (fillWhitelist c w' = .ok w') := by
  rw [fillWhitelist] at filled
  split at filled
  · next given =>
    cases filled
    rw [fillWhitelist, given]
    exact ⟨rfl, rfl⟩
  · cases filled
    exact ⟨rfl, rfl⟩
  · cases filled

/-- Binding gives a field to terms and documents to whitelists, and makes no raw queries. -/
lemma Environment.fillLeaf_spec {e : Environment R} {c : Collection} {l l' : Leaf R}
    (filled : e.fillLeaf c l = .ok l') :
    (∀ t', l' = .term t' → ∃ t, l = .term t ∧
        t'.field = some (t.field.getD e.defaultField) ∧ t'.needed = t.needed) ∧
      (∀ w, l' = .whitelist w → w.ids.isSome) ∧ ∀ text, l' = .raw text → l = .raw text := by
  cases l with
  | term t =>
    cases filled
    refine ⟨?_, nofun, nofun⟩
    rintro _ ⟨rfl⟩
    exact ⟨t, rfl, rfl, rfl⟩
  | whitelist w =>
    obtain ⟨w', filled', filled⟩ := bind_eq_ok filled
    cases filled
    refine ⟨nofun, ?_, nofun⟩
    rintro _ ⟨rfl⟩
    exact (fillWhitelist_eq_ok filled').1
  | raw text =>
    change (if _ then _ else _) = _ at filled
    split at filled
    · cases filled
    · cases filled
      exact ⟨nofun, nofun, fun _ => id⟩
  | _ =>
    cases filled
    exact ⟨nofun, nofun, nofun⟩

/-- Attaching gives a term nothing but statistics, if it has none. -/
lemma Collection.attachTerm_eq_ok {c : Collection} {t t' : Term}
    (attached : c.attachTerm t = .ok t') :
    ∃ s, Kept t.stats (some s) ∧ t' = { t with stats := some s } := by
  rw [attachTerm] at attached
  split at attached
  · next s given =>
    cases attached
    refine ⟨s, ?_, by rw [← given]⟩
    rw [given]
    exact .refl _
  · next lacks =>
    obtain ⟨_, _, attached⟩ := bind_eq_ok attached
    obtain ⟨_, _, attached⟩ := bind_eq_ok attached
    cases attached
    exact ⟨_, .of_none lacks, rfl⟩

/-- Leaves that are given statistics stay what they are, and terms keep their field. -/
lemma Collection.attachLeaf_spec {c : Collection} {l l' : Leaf R}
    (attached : c.attachLeaf l = .ok l') :
    (∀ t', l' = .term t' → ∃ t, l = .term t ∧ t'.field = t.field ∧ t'.needed = t.needed) ∧
      (∀ w, l' = .whitelist w → l = .whitelist w) ∧ ∀ text, l' = .raw text → l = .raw text := by
  cases l with
  | term t =>
    obtain ⟨t', attached', attached⟩ := bind_eq_ok attached
    cases attached
    obtain ⟨s, _, rfl⟩ := attachTerm_eq_ok attached'
    refine ⟨?_, nofun, nofun⟩
    rintro _ ⟨rfl⟩
    exact ⟨t, rfl, rfl, rfl⟩
  | lengths k =>
    obtain ⟨k', _, attached⟩ := bind_eq_ok attached
    cases attached
    exact ⟨nofun, nofun, nofun⟩
  | constCount n k =>
    obtain ⟨k', _, attached⟩ := bind_eq_ok attached
    cases attached
    exact ⟨nofun, nofun, nofun⟩
  | _ =>
    cases attached
    exact ⟨nofun, fun _ => id, fun _ => id⟩

/-- Binding names the field of a leaf, and gives it no statistics. -/
lemma Environment.fillLeaf_named {e : Environment R} {c : Collection} {l l' : Leaf R}
    (filled : e.fillLeaf c l = .ok l') : l'.IsNamed ∧ l'.stats? = l.stats? := by
  cases l with
  | whitelist w =>
    obtain ⟨w', _, filled⟩ := bind_eq_ok filled
    cases filled
    exact ⟨trivial, rfl⟩
  | raw text =>
    change (if _ then _ else _) = _ at filled
    split at filled
    · cases filled
    · cases filled
      exact ⟨trivial, rfl⟩
  | term t =>
    cases filled
    exact ⟨rfl, rfl⟩
  | lengths k =>
    cases filled
    exact ⟨rfl, rfl⟩
  | constCount n k =>
    cases filled
    exact ⟨rfl, rfl⟩
  | _ =>
    cases filled
    exact ⟨trivial, rfl⟩

namespace Environment

variable {e : Environment R} {c : Collection}

lemma fillTerm_fillTerm (e : Environment R) (t : Term) :
    e.fillTerm (e.fillTerm t) = e.fillTerm t := by
  simp [fillTerm, Option.or_assoc, Option.or_self]

/-- Binding fills nothing into a leaf that it has filled. -/
lemma fillLeaf_filled {l l' : Leaf R} (filled : e.fillLeaf c l = .ok l') :
    e.fillLeaf c l' = .ok l' := by
  cases l with
  | term t =>
    cases filled
    rw [fillLeaf, fillTerm_fillTerm]
  | whitelist w =>
    obtain ⟨w', filled', filled⟩ := bind_eq_ok filled
    cases filled
    rw [fillLeaf, (fillWhitelist_eq_ok filled').2]
    rfl
  | raw text =>
    change (if _ then _ else _) = _ at filled
    split at filled
    · cases filled
    · next written =>
      cases filled
      exact if_neg written
  | _ =>
    cases filled
    rfl

end Environment

namespace Collection

variable {c : Collection}

/-- Attaching gives the lengths of a field nothing but statistics, if they have none. -/
lemma attachLengths_eq_ok {k k' : Lengths} (attached : c.attachLengths k = .ok k') :
    ∃ field s, k.field = some field ∧ Kept k.stats (some s) ∧ k' = ⟨some field, some s⟩ := by
  obtain ⟨_ | field, stats⟩ := k
  · cases attached
  · cases stats with
    | some s =>
      cases attached
      exact ⟨field, s, rfl, .refl _, rfl⟩
    | none =>
      change (c.knownField field >>= _) = _ at attached
      obtain ⟨s, _, attached⟩ := bind_eq_ok attached
      cases attached
      exact ⟨field, s, rfl, .of_none rfl, rfl⟩

end Collection

/-- Neither binding nor attaching statistics changes the leaf. -/
def Leaf.IsFull (e : Environment R) (c : Collection) (l : Leaf R) : Prop :=
  e.fillLeaf c l = .ok l ∧ c.attachLeaf l = .ok l

/-- Statistics attached to a leaf that binding has filled make it full. -/
lemma Leaf.isFull_of_attachLeaf {e : Environment R} {c : Collection} {l l' : Leaf R}
    (filled : e.fillLeaf c l = .ok l) (attached : c.attachLeaf l = .ok l') : l'.IsFull e c := by
  cases l with
  | term t =>
    obtain ⟨t', attached', attached⟩ := bind_eq_ok attached
    cases attached
    obtain ⟨s, _, rfl⟩ := Collection.attachTerm_eq_ok attached'
    injection filled with filled
    injection filled with same
    refine ⟨?_, rfl⟩
    exact congrArg (fun t => Except.ok (Leaf.term { t with stats := some s })) same
  | lengths k =>
    obtain ⟨k', attached', attached⟩ := bind_eq_ok attached
    cases attached
    obtain ⟨field, s, _, _, rfl⟩ := Collection.attachLengths_eq_ok attached'
    exact ⟨rfl, rfl⟩
  | constCount n k =>
    obtain ⟨k', attached', attached⟩ := bind_eq_ok attached
    cases attached
    obtain ⟨field, s, _, _, rfl⟩ := Collection.attachLengths_eq_ok attached'
    exact ⟨rfl, rfl⟩
  | _ =>
    cases attached
    exact ⟨filled, rfl⟩

namespace Query

/-! ## Rebuilding -/

section Rebuild

variable {ε : Type} {onLeaf : Leaf R → Except ε (Leaf R)}
  {onModifier : Modifier R → Query R → Except ε (Modifier R)}

/-- A query stays as it is when rebuilt if each of its leaves and modifiers does. -/
lemma rebuild_eq_self {q : Query R}
    (leaves : q.OnlyLeaves fun l => onLeaf l = .ok l)
    (modifiers : ∀ m c, .modify m c ∈ q.nodes → onModifier m c = .ok m) :
    q.rebuild onLeaf onModifier = .ok q := by
  have each : Everywhere (fun _ p => (∀ l, p = .leaf l → onLeaf l = .ok l) ∧
      ∀ m c, p = .modify m c → onModifier m c = .ok m) .docs q :=
    everywhere_of_nodes q fun p mem =>
      ⟨fun l e => leaves l (e ▸ mem), fun m c e => modifiers m c (e ▸ mem)⟩
  clear leaves modifiers
  generalize Need.docs = need at each
  induction each with
  | leaf here =>
    rw [rebuild, here.1 _ rfl]
    rfl
  | modify here _ ih =>
    rw [rebuild, ih]
    show (onModifier _ _ >>= _) = _
    rw [here.2 _ _ rfl]
    rfl
  | join _ _ ih =>
    rw [rebuild, rebuildAll_eq_mapM, mapM_eq_self ih]
    rfl
  | require _ _ _ ihc ihv =>
    rw [rebuild, ihc, ihv]
    rfl

end Rebuild

/-! ## Modifiers -/

/-- The parameters of a scorer are set. -/
def IsSet : Query R → Prop
  | .modify (.scorer model _) _ => model.IsSet
  | _ => True

/-- A scorer has statistics. -/
def IsMeasured : Query R → Prop
  | .modify (.scorer _ stats) _ => stats.isSome
  | _ => True

lemma isSet_fillModel (e : Environment R) (m : Model R) : (e.fillModel m).IsSet := by
  cases m
  · rfl
  · rfl
  · exact ⟨rfl, rfl⟩

/-- Binding leaves parameters alone that are set. -/
lemma fillModifier_eq_self {e : Environment R} {m : Modifier R} {c : Query R}
    (set : (modify m c).IsSet) : e.fillModifier m = m := by
  cases m with
  | scorer model stats =>
    refine congrArg (Modifier.scorer · stats) ?_
    cases model with
    | dirichlet mu =>
      obtain ⟨mu, rfl⟩ := Option.isSome_iff_exists.mp set
      rfl
    | absoluteDiscounting delta =>
      obtain ⟨delta, rfl⟩ := Option.isSome_iff_exists.mp set
      rfl
    | bm25 b k =>
      obtain ⟨b, rfl⟩ := Option.isSome_iff_exists.mp set.1
      obtain ⟨k, rfl⟩ := Option.isSome_iff_exists.mp set.2
      rfl
  | _ => rfl

/-- Attaching leaves scorers alone that have statistics. -/
lemma attach_eq_self {m : Modifier R} {c : Query R} (measured : (modify m c).IsMeasured) :
    m.attach c = m := by
  cases m with
  | scorer model stats =>
    obtain ⟨s, rfl⟩ := Option.isSome_iff_exists.mp measured
    rfl
  | _ => rfl

/-- Attaching statistics again gives a scorer none. -/
lemma attach_attach (m : Modifier R) (c : Query R) : (m.attach c).attach c = m.attach c := by
  cases m with
  | scorer model stats =>
    refine congrArg (Modifier.scorer model) ?_
    rw [Option.or_assoc, Option.or_self]
  | _ => rfl

/-! ## Queries that have been bound -/

section Binding

variable {e : Environment R} {c : Collection} {q bound known : Query R}

/-- Binding sets the parameters of every scorer. -/
lemma isSet_of_bind (filled : q.bind e c = .ok bound) : ∀ p ∈ bound.nodes, p.IsSet := by
  intro p mem
  cases p with
  | modify m' d' =>
    obtain ⟨m, d, _, _, changed⟩ := exists_modify_of_rebuild filled mem
    cases changed
    cases m with
    | scorer model stats => exact isSet_fillModel e model
    | _ => trivial
  | _ => trivial

/-- Binding changes nothing in a bound query. -/
lemma bind_bind (filled : q.bind e c = .ok bound) : bound.bind e c = .ok bound := by
  have leaves := OnlyLeaves.rebuild (P := fun _ => True)
    (fun _ _ _ => Environment.fillLeaf_filled) (fun _ _ => trivial) filled
  refine rebuild_eq_self leaves fun m d mem => ?_
  rw [fillModifier_eq_self (isSet_of_bind filled _ mem)]

/-- Neither binding nor attaching changes anything in a bound query with statistics attached. -/
lemma bind_attach_attach (filled : q.bind e c = .ok bound)
    (attached : bound.attachStatistics c = .ok known) :
    known.bind e c = .ok known ∧ known.attachStatistics c = .ok known := by
  have leaves := OnlyLeaves.rebuild (P := fun _ => True)
    (fun _ _ _ => Environment.fillLeaf_filled) (fun _ _ => trivial) filled
  have full := leaves.rebuild (fun _ _ => Leaf.isFull_of_attachLeaf) attached
  constructor
  · refine rebuild_eq_self (fun l mem => (full l mem).1) fun m' d' mem => ?_
    obtain ⟨m, d, among, _, changed⟩ := exists_modify_of_rebuild attached mem
    cases changed
    have set := isSet_of_bind filled _ among
    have set' : (modify (m.attach d') d').IsSet := by
      cases m with
      | scorer model stats => exact set
      | _ => trivial
    rw [fillModifier_eq_self set']
  · refine rebuild_eq_self (fun l mem => (full l mem).2) fun m' d' mem => ?_
    obtain ⟨m, d, _, _, changed⟩ := exists_modify_of_rebuild attached mem
    cases changed
    rw [attach_attach]

end Binding

end Query

end Retrieval
