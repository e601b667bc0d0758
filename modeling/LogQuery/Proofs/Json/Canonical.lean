import LogQuery.Json.Value
import Mathlib.Data.List.Induction

namespace LogQuery.Json

section Members

variable {α : Type} {key : String} {value : α} {member : String × α} {members : List (String × α)}

/-- Members in the order of their keys, so that no key stands twice. -/
abbrev Ascending (members : List (String × α)) : Prop :=
  members.Pairwise fun a b => a.1 < b.1

theorem mem_of_mem_insertMember (hmem : member ∈ insertMember key value members) :
    member = (key, value) ∨ member ∈ members := by
  induction members with
  | nil => exact .inl (List.mem_singleton.mp hmem)
  | cons other members ih =>
      rw [insertMember] at hmem
      split at hmem
      · exact List.mem_cons.mp hmem
      · split at hmem
        · exact (List.mem_cons.mp hmem).imp_right (List.mem_cons_of_mem _)
        · rcases List.mem_cons.mp hmem with rfl | hmem
          · exact .inr List.mem_cons_self
          · exact (ih hmem).imp_right (List.mem_cons_of_mem _)

theorem Ascending.insertMember (ascending : Ascending members) :
    Ascending (insertMember key value members) := by
  induction members with
  | nil => exact List.pairwise_singleton _ _
  | cons other members ih =>
      obtain ⟨above, others⟩ := List.pairwise_cons.mp ascending
      rw [Json.insertMember]
      split
      · next before =>
          refine List.pairwise_cons.mpr
            ⟨List.forall_mem_cons.mpr ⟨before, fun member hmem => ?_⟩, ascending⟩
          exact String.lt_trans before (above member hmem)
      · next later =>
          split
          · next same =>
              subst same
              exact List.pairwise_cons.mpr ⟨above, others⟩
          · next differ =>
              refine List.pairwise_cons.mpr ⟨fun member hmem => ?_, ih others⟩
              rcases mem_of_mem_insertMember hmem with rfl | hmem
              · exact Std.lt_of_le_of_ne (String.not_lt.mp later) (Ne.symm differ)
              · exact above member hmem

theorem insertMember_of_lt (last : ∀ member ∈ members, member.1 < key) :
    insertMember key value members = members ++ [(key, value)] := by
  induction members with
  | nil => rfl
  | cons other members ih =>
      rw [List.forall_mem_cons] at last
      rw [insertMember, if_neg (String.lt_asymm last.1),
        if_neg (Ne.symm (Std.ne_of_lt last.1)), ih last.2]
      rfl

theorem lookup_cons_eq_ite (other : String) :
    ((key, value) :: members).lookup other =
      if other = key then some value else members.lookup other := by
  rw [List.lookup_cons]
  by_cases same : other = key
  · rw [if_pos same, beq_iff_eq.mpr same]
  · rw [if_neg same, beq_eq_false_iff_ne.mpr same]

theorem lookup_insertMember (other : String) :
    (insertMember key value members).lookup other =
      if other = key then some value else members.lookup other := by
  induction members with
  | nil => rw [insertMember, lookup_cons_eq_ite]
  | cons first members ih =>
      rw [insertMember]
      split
      · rw [lookup_cons_eq_ite]
      · split
        · next same =>
            rw [lookup_cons_eq_ite, lookup_cons_eq_ite, ← same]
            split <;> rfl
        · next differ =>
            rw [lookup_cons_eq_ite, lookup_cons_eq_ite, ih]
            by_cases here : other = first.1
            · rw [if_pos here, if_pos here, if_neg (here ▸ Ne.symm differ)]
            · rw [if_neg here, if_neg here]

theorem sortMembers_concat (members : List (String × α)) (member : String × α) :
    sortMembers (members ++ [member]) = insertMember member.1 member.2 (sortMembers members) := by
  rw [sortMembers, List.foldl_append]
  rfl

theorem mem_of_mem_sortMembers (hmem : member ∈ sortMembers members) : member ∈ members := by
  induction members using List.reverseRecOn with
  | nil => exact hmem
  | append_singleton earlier last ih =>
      rw [sortMembers_concat] at hmem
      rw [List.mem_append, List.mem_singleton]
      exact (mem_of_mem_insertMember hmem).symm.imp_left ih

theorem ascending_sortMembers (members : List (String × α)) :
    Ascending (sortMembers members) := by
  induction members using List.reverseRecOn with
  | nil => exact .nil
  | append_singleton earlier last ih =>
      rw [sortMembers_concat]
      exact ih.insertMember

theorem sortMembers_eq_self (ascending : Ascending members) : sortMembers members = members := by
  induction members using List.reverseRecOn with
  | nil => rfl
  | append_singleton earlier last ih =>
      rw [Ascending, List.pairwise_append] at ascending
      rw [sortMembers_concat, ih ascending.1, insertMember_of_lt]
      exact fun member hmem => ascending.2.2 member hmem last (List.mem_singleton_self last)

def last? (key : String) (members : List (String × α)) : Option α :=
  members.reverse.lookup key

theorem lookup_sortMembers (key : String) (members : List (String × α)) :
    (sortMembers members).lookup key = last? key members := by
  induction members using List.reverseRecOn with
  | nil => rfl
  | append_singleton earlier last ih =>
      rw [sortMembers_concat, lookup_insertMember, ih, last?, last?, List.reverse_append,
        List.reverse_singleton, List.singleton_append, lookup_cons_eq_ite]

theorem last?_map {β : Type} (f : α → β) (key : String) (members : List (String × α)) :
    last? key (members.map fun member => (member.1, f member.2)) = (last? key members).map f := by
  rw [last?, last?, ← List.map_reverse]
  induction members.reverse with
  | nil => rfl
  | cons member members ih =>
      rw [List.map_cons, lookup_cons_eq_ite, lookup_cons_eq_ite, ih]
      split <;> rfl

theorem mem_of_last? (found : last? key members = some value) : (key, value) ∈ members := by
  obtain ⟨before, behind, split, -⟩ := List.lookup_eq_some_iff.mp found
  rw [← List.mem_reverse, split]
  exact List.mem_append_right _ List.mem_cons_self

theorem last?_sortMembers (key : String) (members : List (String × α)) :
    last? key (sortMembers members) = last? key members := by
  rw [← lookup_sortMembers, sortMembers_eq_self (ascending_sortMembers members),
    lookup_sortMembers]

end Members

section Values

variable {v w : Json}

/-- Whether a value is an array or an object. -/
def isCollection : Json → Bool
  | array _ | object _ => true
  | _ => false

/-- Whether two values are the same, where objects are maps and the last member of a key is the
one that counts. -/
inductive Alike : Json → Json → Prop
  | scalar {v : Json} (single : v.isCollection = false) : Alike v v
  | array {items others : List Json} (size : items.length = others.length)
      (each : ∀ pair ∈ items.zip others, Alike pair.1 pair.2) : Alike (array items) (array others)
  | object {members others : List (String × Json)}
      (keys : ∀ key, (last? key members).isSome = (last? key others).isSome)
      (each : ∀ key v w, last? key members = some v → last? key others = some w → Alike v w) :
      Alike (object members) (object others)

theorem canonical_of_single (single : v.isCollection = false) : v.canonical = v := by
  cases v with
  | array items => cases single
  | object members => cases single
  | _ => rfl

theorem canonicalItems_eq_map (items : List Json) :
    canonicalItems items = items.map canonical := by
  induction items with
  | nil => rfl
  | cons item items ih => rw [canonicalItems, ih, List.map_cons]

theorem canonicalMembers_eq_map (members : List (String × Json)) :
    canonicalMembers members = members.map fun member => (member.1, member.2.canonical) := by
  induction members with
  | nil => rfl
  | cons member members ih => rw [canonicalMembers, ih, List.map_cons]

theorem canonical_array (items : List Json) :
    (array items).canonical = array (items.map canonical) := by
  rw [canonical, canonicalItems_eq_map]

theorem canonical_object (members : List (String × Json)) : (object members).canonical =
    object (sortMembers (members.map fun member => (member.1, member.2.canonical))) := by
  rw [canonical, canonicalMembers_eq_map]

theorem isCollection_canonical (v : Json) : v.canonical.isCollection = v.isCollection := by
  cases v with
  | array items => rw [canonical_array]; rfl
  | object members => rw [canonical_object]; rfl
  | _ => rfl

/-- What holds of a value if it holds of all its items and members. -/
@[elab_as_elim]
theorem collection_induction {p : Json → Prop} (scalar : ∀ v : Json, v.isCollection = false → p v)
    (array : ∀ items : List Json, (∀ item ∈ items, p item) → p (array items))
    (object : ∀ members : List (String × Json), (∀ member ∈ members, p member.2) →
      p (object members)) (v : Json) :
    p v :=
  @Json.rec p (fun items => ∀ item ∈ items, p item)
    (fun members => ∀ member ∈ members, p member.2)
    (fun member => p member.2) (scalar _ rfl) (fun _ => scalar _ rfl) (fun _ => scalar _ rfl)
    (fun _ => scalar _ rfl) (fun _ => scalar _ rfl) array object nofun
    (fun _ _ first others => List.forall_mem_cons.mpr ⟨first, others⟩) nofun
    (fun _ _ first others => List.forall_mem_cons.mpr ⟨first, others⟩) (fun _ _ value => value) v

theorem canonical_canonical (v : Json) : v.canonical.canonical = v.canonical := by
  induction v using collection_induction with
  | scalar v single => rw [canonical_of_single single, canonical_of_single single]
  | array items ih =>
      have each : (items.map canonical).map canonical = items.map canonical := by
        rw [List.map_map]
        exact List.map_congr_left ih
      rw [canonical_array, canonical_array, each]
  | object members ih =>
      have each : ∀ member ∈ sortMembers (members.map fun member =>
        (member.1, member.2.canonical)),
          (member.1, member.2.canonical) = member := by
        intro member hmem
        obtain ⟨original, known, rfl⟩ := List.mem_map.mp (mem_of_mem_sortMembers hmem)
        exact Prod.ext rfl (ih original known)
      rw [canonical_object, canonical_object, List.map_congr_left each, List.map_id',
        sortMembers_eq_self (ascending_sortMembers _)]

theorem alike_canonical (v : Json) : Alike v.canonical v := by
  induction v using collection_induction with
  | scalar v single =>
      rw [canonical_of_single single]
      exact .scalar single
  | array items ih =>
      rw [canonical_array]
      have pairs : (items.map canonical).zip items = items.map fun item =>
          (item.canonical, item) := by
        simpa using List.zip_map' (f := canonical) (g := id) (l := items)
      refine .array (List.length_map _) ?_
      rw [pairs, List.forall_mem_map]
      exact ih
  | object members ih =>
      rw [canonical_object]
      refine .object (fun key => ?_) fun key v w found found' => ?_
      · rw [last?_sortMembers, last?_map, Option.isSome_map]
      · rw [last?_sortMembers, last?_map, found', Option.map_some, Option.some.injEq] at found
        subst found
        exact ih (key, w) (mem_of_last? found')

end Values

end LogQuery.Json
