import LogQuery.Json.Tagged
import LogQuery.Keyed
import LogQuery.Proofs.Json.Values
import Mathlib.Data.List.Nodup
import Mathlib.Data.List.Perm.Basic

/-!
Members of objects in any order and with others among them: what is left of them where those of a
record are gathered, and where one of them is taken out.
-/

namespace LogQuery.Json

variable {α : Type} {own members : List (String × Json)}

/-! ### Looking up keys -/

theorem lookup_of_mem {pairs : List (String × α)} (distinct : (pairs.map Prod.fst).Nodup)
    {pair : String × α} (mem : pair ∈ pairs) : pairs.lookup pair.1 = some pair.2 := by
  induction pairs with
  | nil => cases mem
  | cons first pairs ih =>
      rw [List.map_cons, List.nodup_cons] at distinct
      rcases List.mem_cons.mp mem with rfl | mem
      · exact List.lookup_cons_self
      · have differ : pair.1 ≠ first.1 := fun same => distinct.1 (same ▸ List.mem_map_of_mem mem)
        rw [Keyed.lookup_cons_of_ne differ, ih distinct.2 mem]

theorem isSome_lookup_iff {pairs : List (String × α)} {key : String} :
    (pairs.lookup key).isSome = true ↔ key ∈ pairs.map Prod.fst := by
  rw [List.lookup_isSome_iff, List.mem_map]
  simp only [beq_iff_eq, @eq_comm _ key]

theorem isSome_lookup_of_distinct {found later : List (String × Json)} {member : String × Json}
    (distinct : ((found ++ member :: later).map Prod.fst).Nodup) :
    (found.lookup member.1).isSome = false := by
  rw [Bool.eq_false_iff, ne_eq, isSome_lookup_iff]
  intro mem
  rw [List.map_append, List.nodup_append] at distinct
  exact distinct.2.2 _ mem _ List.mem_cons_self rfl

/-- The members whose keys are among those of `fields`. -/
def known (fields : List (String × α)) (members : List (String × Json)) : List (String × Json) :=
  members.filter fun member => (fields.lookup member.1).isSome

theorem known_cons_of_none {fields : List (String × α)} {member : String × Json}
    (unknown : fields.lookup member.1 = none) :
    known fields (member :: members) = known fields members := by
  simp [known, unknown]

theorem known_cons_of_some {fields : List (String × α)} {member : String × Json} {a : α}
    (found : fields.lookup member.1 = some a) :
    known fields (member :: members) = member :: known fields members := by
  simp [known, found]

/-! ### Other members -/

/-- Members in any order, with others among them that have other keys. -/
def Extends (own members : List (String × Json)) : Prop :=
  ∃ others, members.Perm (own ++ others) ∧ ∀ other ∈ others, other.1 ∉ own.map Prod.fst

theorem Extends.refl (own : List (String × Json)) : Extends own own :=
  ⟨[], by simp, nofun⟩

theorem Extends.mem (extend : Extends own members) {member : String × Json}
    (mem : member ∈ members) (named : member.1 ∈ own.map Prod.fst) : member ∈ own := by
  obtain ⟨others, perm, other⟩ := extend
  rcases List.mem_append.mp (perm.mem_iff.mp mem) with mem | mem
  · exact mem
  · exact absurd named (other member mem)

theorem Extends.known_perm (extend : Extends own members) {fields : List (String × α)}
    (keys : fields.map Prod.fst = own.map Prod.fst) : (known fields members).Perm own := by
  obtain ⟨others, perm, other⟩ := extend
  have all : known fields own = own := List.filter_eq_self.mpr fun member mem => by
    rw [isSome_lookup_iff, keys]
    exact List.mem_map_of_mem mem
  have none : known fields others = [] := List.filter_eq_nil_iff.mpr fun member mem => by
    rw [isSome_lookup_iff, keys]
    exact other member mem
  have split := perm.filter fun member => (fields.lookup member.1).isSome
  rw [List.filter_append] at split
  unfold known at all none ⊢
  rwa [all, none, List.append_nil] at split

/-! ### One key among others -/

variable {key : String}

def valuesOf (key : String) (members : List (String × Json)) : List Json :=
  (members.filter fun member => member.1 = key).map Prod.snd

def without (key : String) (members : List (String × Json)) : List (String × Json) :=
  members.filter fun member => member.1 ≠ key

theorem valuesOf_cons_self {member : String × Json} (same : member.1 = key) :
    valuesOf key (member :: members) = member.2 :: valuesOf key members := by
  simp [valuesOf, same]

theorem valuesOf_cons_of_ne {member : String × Json} (differ : member.1 ≠ key) :
    valuesOf key (member :: members) = valuesOf key members := by
  simp [valuesOf, differ]

theorem without_cons_self {member : String × Json} (same : member.1 = key) :
    without key (member :: members) = without key members := by
  simp [without, same]

theorem without_cons_of_ne {member : String × Json} (differ : member.1 ≠ key) :
    without key (member :: members) = member :: without key members := by
  simp [without, differ]

theorem eq_of_none_later {seen? all? : Option Json} (once : seen?.toList ++ [] = all?.toList) :
    seen? = all? := by
  simpa using congrArg List.head? once

theorem eq_of_once {seen? all? : Option Json} {v : Json} {later : List Json}
    (once : seen?.toList ++ v :: later = all?.toList) :
    seen? = none ∧ all? = some v ∧ later = [] := by
  cases seen? with
  | some _ => cases all? <;> cases once
  | none =>
      cases all? with
      | none => cases once
      | some w =>
          cases once
          exact ⟨rfl, rfl, rfl⟩

theorem valuesOf_eq_nil (absent : key ∉ members.map Prod.fst) : valuesOf key members = [] := by
  have none : (members.filter fun member => member.1 = key) = [] := by
    rw [List.filter_eq_nil_iff]
    rintro member mem
    rw [decide_eq_true_iff]
    rintro rfl
    exact absent (List.mem_map_of_mem mem)
  rw [valuesOf, none, List.map_nil]

theorem without_eq_self (absent : key ∉ members.map Prod.fst) :
    without key members = members := by
  rw [without, List.filter_eq_self]
  rintro member mem
  rw [decide_eq_true_iff]
  rintro rfl
  exact absent (List.mem_map_of_mem mem)

theorem absent_others {member : String × Json} {others : List (String × Json)}
    (other : ∀ other ∈ others, other.1 ∉ (member :: own).map Prod.fst) :
    member.1 ∉ others.map Prod.fst := by
  intro mem
  obtain ⟨same, mem_others, keys⟩ := List.mem_map.mp mem
  exact other same mem_others (keys ▸ List.mem_cons_self)

theorem Extends.valuesOf_eq {v : Json} (extend : Extends ((key, v) :: own) members)
    (absent : key ∉ own.map Prod.fst) : valuesOf key members = [v] := by
  obtain ⟨others, perm, other⟩ := extend
  have values : (valuesOf key members).Perm (valuesOf key ((key, v) :: own ++ others)) :=
    (perm.filter _).map _
  have rest : valuesOf key (own ++ others) = [] := by
    refine valuesOf_eq_nil ?_
    rw [List.map_append, List.mem_append]
    rintro (mem | mem)
    · exact absent mem
    · exact absent_others other mem
  rw [List.cons_append, @valuesOf_cons_self (own ++ others) key (key, v) rfl, rest] at values
  exact List.perm_singleton.mp values

theorem Extends.without {v : Json} (extend : Extends ((key, v) :: own) members)
    (absent : key ∉ own.map Prod.fst) : Extends own (without key members) := by
  obtain ⟨others, perm, other⟩ := extend
  refine ⟨others, ?_, fun member mem mem_own => other member mem (List.mem_cons_of_mem _ mem_own)⟩
  have split := perm.filter fun member => member.1 ≠ key
  have own_kept := without_eq_self absent
  have others_kept := without_eq_self (absent_others other)
  unfold Json.without at own_kept others_kept ⊢
  rwa [List.filter_append, List.filter_cons_of_neg (by simp), own_kept, others_kept] at split

/-! ### Values read again -/

/-- Whether the text of a value is read where the value is a member of a tagged one. -/
def Readable (v : Json) : Prop :=
  ∃ w, ReadAs Reader.memberDepth v w

/-- The value that the text of a member is read as. -/
def reread (v : Json) : Json :=
  match Reader.value Reader.memberDepth v.compact with
  | .ok (w, _) => w
  | .error _ => v

/-- Members, each as it is read from its text. -/
def rereadAll (members : List (String × Json)) : List (String × Json) :=
  members.map fun member => (member.1, member.2.reread)

theorem ReadAs.reread_eq {v w : Json} (readAs : ReadAs Reader.memberDepth v w) :
    v.reread = w := by
  have read := Reader.value_compact readAs closes_nil
  rw [List.append_nil] at read
  rw [reread, read]

theorem value_reread {v : Json} {rest : List Char} (readable : Readable v)
    (closes : Closes rest) :
    Reader.value Reader.memberDepth (v.compact ++ rest) = .ok (v.reread, rest) := by
  obtain ⟨w, readAs⟩ := readable
  rw [readAs.reread_eq, Reader.value_compact readAs closes]

/-- Members stay among others where those of their own are read as they were. -/
theorem Extends.reread (extend : Extends own members)
    (same : ∀ member ∈ own, member.2.reread = member.2) : Extends own (rereadAll members) := by
  obtain ⟨others, perm, other⟩ := extend
  have own_same : rereadAll own = own := by
    refine (List.map_congr_left fun member mem => ?_).trans (List.map_id own)
    rw [same member mem]
    rfl
  refine ⟨rereadAll others, ?_, fun member mem => ?_⟩
  · -- the keys stay, and with them what is a member of its own
    have all := perm.map fun member => (member.1, member.2.reread)
    rw [List.map_append] at all
    unfold rereadAll at own_same ⊢
    rwa [own_same] at all
  · obtain ⟨before, mem_others, rfl⟩ := List.mem_map.mp mem
    exact other before mem_others

/-! ### Gathering -/

namespace Shape

theorem gather_eq {forms : List (String × (Json → Except String Json))}
    {found : List (String × Json)}
    (forms_keep : ∀ member ∈ members, ∀ form ∈ forms.lookup member.1,
      form member.2 = .ok member.2)
    (distinct : ((found ++ known forms members).map Prod.fst).Nodup) :
    gather forms found members = .ok (found ++ known forms members) := by
  induction members generalizing found with
  | nil => simp [gather, known]
  | cons member members ih =>
      rw [List.forall_mem_cons] at forms_keep
      rw [gather]
      cases looked : forms.lookup member.1 with
      | none =>
          rw [known_cons_of_none looked] at distinct ⊢
          exact ih forms_keep.2 distinct
      | some form =>
          rw [known_cons_of_some looked] at distinct ⊢
          have fresh := isSome_lookup_of_distinct distinct
          rw [List.append_cons] at distinct ⊢
          have rest := ih forms_keep.2 distinct
          simp [fresh, forms_keep.1 form looked, rest, bind, Except.bind]

theorem complete_eq {found : List (String × Json)} {fields : List (String × Shape)}
    (keys : fields.map Prod.fst = own.map Prod.fst)
    (looked : ∀ member ∈ own, found.lookup member.1 = some member.2) :
    complete found fields = .ok own := by
  induction fields generalizing own with
  | nil =>
      obtain rfl : own = [] := by simpa using keys.symm
      rfl
  | cons field fields ih =>
      obtain ⟨member, own, rfl⟩ : ∃ member others, own = member :: others := by
        cases own with
        | nil => cases keys
        | cons member others => exact ⟨member, others, rfl⟩
      rw [List.map_cons, List.map_cons, List.cons.injEq] at keys
      rw [List.forall_mem_cons] at looked
      simp [complete, keys.1, looked.1, ih keys.2 looked.2, bind, Except.bind, pure, Except.pure]

end Shape

namespace Reader

theorem gather_membersText {readers : List (String × Reader Json)} {found : List (String × Json)}
    (reads : ∀ member ∈ members, ∀ reader ∈ readers.lookup member.1, ∀ rest, Closes rest →
      reader (member.2.compact ++ rest) = .ok (member.2, rest))
    (skips : ∀ member ∈ members, readers.lookup member.1 = none →
      ∃ depth v, ReadAs depth member.2 v)
    (distinct : ((found ++ known readers members).map Prod.fst).Nodup) {limit : Nat}
    (enough : members.length < limit) (first : Bool) (rest : List Char) :
    gather readers limit found first (membersText first members ++ '\x7d' :: rest) =
      .ok (found ++ known readers members, '\x7d' :: rest) := by
  induction members generalizing found limit first with
  | nil =>
      obtain ⟨limit, rfl⟩ := Nat.exists_eq_add_one.mpr enough
      simp [gather, membersText, known, beforeKey_close]
  | cons member members ih =>
      obtain ⟨limit, rfl⟩ := Nat.exists_eq_add_one_of_ne_zero (Nat.ne_zero_of_lt enough)
      rw [List.forall_mem_cons] at reads skips
      have closes := closes_membersText members rest
      rw [membersText, List.append_assoc, List.append_assoc, gather, bind_apply,
        beforeKey_memberText]
      cases looked : readers.lookup member.1 with
      | none =>
          rw [known_cons_of_none looked] at distinct ⊢
          obtain ⟨depth, v, readAs⟩ := skips.1 looked
          have others := ih reads.2 skips.2 distinct (Nat.lt_of_succ_lt_succ enough) false
          simp [key_memberText, looked, skipValue_compact readAs closes, others]
      | some reader =>
          rw [known_cons_of_some looked] at distinct ⊢
          have fresh := isSome_lookup_of_distinct distinct
          rw [List.append_cons] at distinct ⊢
          have others := ih reads.2 skips.2 distinct (Nat.lt_of_succ_lt_succ enough) false
          have here := reads.1 reader looked _ closes
          simp [key_memberText, looked, fresh, here, others]

end Reader

end LogQuery.Json
