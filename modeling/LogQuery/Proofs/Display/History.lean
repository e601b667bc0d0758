import LogQuery.Display.History
import LogQuery.Proofs.Ordering
import LogQuery.Proofs.Text.Distinct
import Mathlib.Data.List.Induction
import Mathlib.Data.List.Nodup

namespace LogQuery.HistoryItem

open Text

section Times

variable {s t : Option Int} {time : Int}

theorem eq_or_eq_of_later? (h : later? s t = some time) : s = some time ∨ t = some time := by
  cases s with
  | none => exact .inr h
  | some a =>
      cases t with
      | none => exact .inl h
      | some b =>
          rcases Int.le_total a b with before | behind
          · rw [later?, Int.max_eq_right before] at h
            exact .inr h
          · rw [later?, Int.max_eq_left behind] at h
            exact .inl h

theorem le_later?_left (h : s = some time) :
    ∃ newest, later? s t = some newest ∧ time ≤ newest := by
  subst h
  cases t with
  | none => exact ⟨time, rfl, Int.le_refl time⟩
  | some b => exact ⟨max time b, rfl, Int.le_max_left time b⟩

theorem le_later?_right (h : t = some time) :
    ∃ newest, later? s t = some newest ∧ time ≤ newest := by
  subst h
  cases s with
  | none => exact ⟨time, rfl, Int.le_refl time⟩
  | some a => exact ⟨max a time, rfl, Int.le_max_right a time⟩

end Times

/-- Whether a time is that of the newest run of a query. There is none if no run has a known
time. -/
structure Newest (entries : List HistoryEntry) (body : String) (time? : Option Int) : Prop where
  known : ∀ newest, time? = some newest →
    ∃ entry ∈ entries, withoutSource entry.body = body ∧ entry.createTime? = some newest
  latest : ∀ entry ∈ entries, withoutSource entry.body = body →
    ∀ time, entry.createTime? = some time →
    ∃ newest, time? = some newest ∧ time ≤ newest

namespace Newest

variable {entries : List HistoryEntry} {entry : HistoryEntry} {body : String} {time? : Option Int}

theorem again (h : Newest entries body time?) (same : withoutSource entry.body = body) :
    Newest (entries ++ [entry]) body (later? time? entry.createTime?) where
  known newest found := by
    rcases eq_or_eq_of_later? found with before | now
    · obtain ⟨other, hmem, hbody, hother⟩ := h.known newest before
      exact ⟨other, List.mem_append_left _ hmem, hbody, hother⟩
    · exact ⟨entry, by simp, same, now⟩
  latest other hmem hbody time hother := by
    rcases List.mem_append.mp hmem with hmem | hmem
    · obtain ⟨newest, rfl, le⟩ := h.latest other hmem hbody time hother
      obtain ⟨newer, found, le'⟩ := le_later?_left (t := entry.createTime?)
        (rfl : some newest = _)
      exact ⟨newer, found, Int.le_trans le le'⟩
    · rw [List.mem_singleton] at hmem
      subst hmem
      exact le_later?_right hother

theorem beside (h : Newest entries body time?) (differ : withoutSource entry.body ≠ body) :
    Newest (entries ++ [entry]) body time? where
  known newest found := by
    obtain ⟨other, hmem, hother⟩ := h.known newest found
    exact ⟨other, List.mem_append_left _ hmem, hother⟩
  latest other hmem hbody time hother := by
    rcases List.mem_append.mp hmem with hmem | hmem
    · exact h.latest other hmem hbody time hother
    · rw [List.mem_singleton] at hmem
      subst hmem
      exact absurd hbody differ

theorem none_of_new (new : ∀ entry ∈ entries, withoutSource entry.body ≠ body) :
    Newest entries body none where
  known := nofun
  latest entry hmem hbody := absurd hbody (new entry hmem)

theorem eq {other? : Option Int} (h : Newest entries body time?)
    (h' : Newest entries body other?) :
    time? = other? := by
  have le {s t : Option Int} {a : Int} (hs : Newest entries body s) (ht : Newest entries body t)
      (found : s = some a) : ∃ b, t = some b ∧ a ≤ b := by
    obtain ⟨entry, hmem, hbody, hentry⟩ := hs.known a found
    exact ht.latest entry hmem hbody a hentry
  cases time? with
  | none =>
      cases other? with
      | none => rfl
      | some b =>
          obtain ⟨_, found, _⟩ := le h' h rfl
          cases found
  | some a =>
      obtain ⟨b, rfl, ab⟩ := le h h' rfl
      obtain ⟨_, found, ba⟩ := le h' h rfl
      cases found
      exact congrArg some (Int.le_antisymm ab ba)

theorem perm {others : List HistoryEntry} (h : Newest entries body time?)
    (perm : entries.Perm others) :
    Newest others body time? where
  known newest found := by
    obtain ⟨entry, hmem, hentry⟩ := h.known newest found
    exact ⟨entry, perm.mem_iff.mp hmem, hentry⟩
  latest entry hmem := h.latest entry (perm.mem_iff.mpr hmem)

end Newest

def bodies (entries : List HistoryEntry) : List String :=
  entries.map fun entry => withoutSource entry.body

theorem mem_bodies {entries : List HistoryEntry} {body : String} :
    body ∈ bodies entries ↔ ∃ entry ∈ entries, withoutSource entry.body = body :=
  List.mem_map

theorem bodies_concat (entries : List HistoryEntry) (entry : HistoryEntry) :
    bodies (entries ++ [entry]) = bodies entries ++ [withoutSource entry.body] :=
  List.map_append

namespace Grouping

/-- What is known of the queries of some entries: there is one item for each, found by its place,
with the time of its newest run. -/
structure Groups (entries : List HistoryEntry) (grouping : Grouping) : Prop where
  once : grouping.items.map body = distinct (bodies entries)
  places : ∀ body, grouping.places.lookup body = (grouping.items.map HistoryItem.body).idxOf? body
  newest : ∀ item ∈ grouping.items, Newest entries item.body item.lastRun?

variable {entries : List HistoryEntry} {grouping : Grouping}

theorem Groups.nodup (h : Groups entries grouping) : (grouping.items.map body).Nodup := by
  rw [h.once]
  exact nodup_distinct _

theorem groups_empty : Groups [] empty where
  once := rfl
  places _ := rfl
  newest := nofun

/-- The item of a query stands at its place, and no other item is of that query. -/
theorem Groups.exists_item (h : Groups entries grouping) {body : String} {place : Nat}
    (found : grouping.places.lookup body = some place) (f : HistoryItem → HistoryItem) :
    ∃ before item behind, item.body = body ∧ grouping.items = before ++ item :: behind ∧
      grouping.items.modify place f = before ++ f item :: behind ∧
      ∀ other ∈ before ++ behind, other.body ≠ body := by
  rw [h.places, List.idxOf?_eq_some_iff] at found
  obtain ⟨within, here, -⟩ := found
  rw [List.length_map] at within
  obtain ⟨before, item, behind, split, length, modified⟩ := List.exists_of_modify f within
  have same : item.body = body := by
    rw [← here]
    simp [split, ← length]
  have nodup := h.nodup
  rw [split, List.map_append, List.map_cons, List.nodup_middle, List.nodup_cons,
    ← List.map_append] at nodup
  refine ⟨before, item, behind, same, split, modified, fun other hmem clash => nodup.1 ?_⟩
  rw [same, ← clash]
  exact List.mem_map_of_mem hmem

/-- Where the query of an entry has an item already, that item alone changes. -/
theorem Groups.add_known (h : Groups entries grouping) {entry : HistoryEntry} {place : Nat}
    (found : grouping.places.lookup (withoutSource entry.body) = some place) :
    Groups (entries ++ [entry]) { grouping with
      items := grouping.items.modify place fun item => item.runAt entry.createTime? } := by
  obtain ⟨before, item, behind, same, split, modified, others⟩ :=
    h.exists_item found fun item => item.runAt entry.createTime?
  have unchanged : (grouping.items.modify place fun item =>
    item.runAt entry.createTime?).map body =
      grouping.items.map body := by
    rw [modified, split]
    simp [runAt]
  have known : withoutSource entry.body ∈ bodies entries := by
    rw [← mem_distinct, ← h.once, ← same, split]
    simp
  constructor
  · rw [bodies_concat, distinct_concat_of_mem known, ← h.once]
    exact unchanged
  · intro body
    rw [unchanged]
    exact h.places body
  · have newest := h.newest
    rw [split, List.forall_mem_append, List.forall_mem_cons] at newest
    rw [List.forall_mem_append] at others
    rw [modified, List.forall_mem_append, List.forall_mem_cons]
    refine ⟨fun other hmem => ?_, newest.2.1.again same.symm, fun other hmem => ?_⟩
    · exact (newest.1 other hmem).beside (others.1 other hmem).symm
    · exact (newest.2.2 other hmem).beside (others.2 other hmem).symm

theorem idxOf?_concat {bodies : List String} {first : String} (new : first ∉ bodies)
    (body : String) :
    (bodies ++ [first]).idxOf? body =
      if body = first then some bodies.length else bodies.idxOf? body := by
  by_cases same : body = first
  · subst same
    have missing : bodies.findIdx? (· == body) = none := by
      simpa [List.findIdx?_eq_none_iff] using fun other hmem (clash : other = body) =>
        new (clash ▸ hmem)
    simp [List.idxOf?, List.findIdx?_append, missing]
  · simp [List.idxOf?, List.findIdx?_append, Ne.symm same, same]

theorem Groups.add_new (h : Groups entries grouping) {entry : HistoryEntry}
    (missing : grouping.places.lookup (withoutSource entry.body) = none) :
    Groups (entries ++ [entry]) {
      items := grouping.items ++ [⟨withoutSource entry.body, entry.createTime?⟩]
      places := Keyed.put (withoutSource entry.body) grouping.items.length grouping.places } := by
  rw [h.places, List.idxOf?_eq_none_iff] at missing
  have new : withoutSource entry.body ∉ bodies entries := by
    rw [← mem_distinct, ← h.once]
    exact missing
  constructor
  · rw [List.map_append, h.once, bodies_concat, distinct_concat_of_not_mem new,
      List.map_singleton]
  · intro body
    simp only [List.map_append, List.map_singleton, idxOf?_concat missing, List.length_map]
    split
    · next same => rw [same, Keyed.lookup_put_self]
    · next differ => rw [Keyed.lookup_put_of_ne differ, h.places]
  · rw [List.forall_mem_append, List.forall_mem_singleton]
    constructor
    · intro item hmem
      refine (h.newest item hmem).beside fun same => missing ?_
      rw [same]
      exact List.mem_map_of_mem hmem
    · have absent : ∀ other ∈ entries, withoutSource other.body ≠ withoutSource entry.body :=
        fun other hmem same => new (mem_bodies.mpr ⟨other, hmem, same⟩)
      exact (Newest.none_of_new absent).again rfl

theorem Groups.add (h : Groups entries grouping) (entry : HistoryEntry) :
    Groups (entries ++ [entry]) (grouping.add entry) := by
  cases found : grouping.places.lookup (withoutSource entry.body) with
  | some place =>
      simp only [Grouping.add, found]
      exact h.add_known found
  | none =>
      simp only [Grouping.add, found]
      exact h.add_new found

theorem groups_foldl (entries : List HistoryEntry) :
    Groups entries (entries.foldl add empty) := by
  induction entries using List.reverseRecOn with
  | nil => exact groups_empty
  | append_singleton earlier entry ih =>
      rw [List.foldl_append]
      exact ih.add entry

end Grouping

section Listing

variable {entries : List HistoryEntry} {a b c : HistoryItem}

theorem precedes_iff : a.precedes b = true ↔ ∀ time, b.lastRun? = some time →
    ∃ newest, a.lastRun? = some newest ∧ time ≤ newest := by
  unfold precedes
  cases a.lastRun? with
  | none => cases b.lastRun? <;> simp
  | some s => cases b.lastRun? <;> simp

theorem precedes_trans (a b c : HistoryItem) (ab : a.precedes b = true)
    (bc : b.precedes c = true) :
    a.precedes c = true := by
  rw [precedes_iff] at ab bc ⊢
  intro time known
  obtain ⟨newer, known', le⟩ := bc time known
  obtain ⟨newest, known'', le'⟩ := ab newer known'
  exact ⟨newest, known'', Int.le_trans le le'⟩

theorem precedes_total (a b : HistoryItem) : (a.precedes b || b.precedes a) = true := by
  unfold precedes
  cases a.lastRun? with
  | none => cases b.lastRun? <;> simp
  | some s =>
      cases b.lastRun? with
      | none => simp
      | some t => simpa using Int.le_total t s

theorem newer_or_eq (ab : a.precedes b = true) :
    (∃ newer, a.lastRun? = some newer ∧ ∀ time, b.lastRun? = some time → time < newer) ∨
      b.precedes a = true ∧ a.lastRun? = b.lastRun? := by
  rw [precedes_iff] at ab
  cases older : b.lastRun? with
  | none =>
      cases known : a.lastRun? with
      | none =>
        exact .inr ⟨precedes_iff.mpr fun time dated => (nomatch known.symm.trans dated), rfl⟩
      | some newer => exact .inl ⟨newer, rfl, nofun⟩
  | some time =>
      obtain ⟨newer, known, le⟩ := ab time older
      rcases Int.lt_or_eq_of_le le with lt | rfl
      · exact .inl ⟨newer, known, fun other same => Option.some.inj same ▸ lt⟩
      · refine .inr ⟨precedes_iff.mpr fun other same => ?_, known⟩
        exact ⟨other, older.trans (known.symm.trans same), Int.le_refl other⟩

theorem ofEntries_perm (entries : List HistoryEntry) :
    (ofEntries entries).Perm (entries.foldl Grouping.add .empty).items :=
  List.mergeSort_perm _ _

theorem nodup_map_body (entries : List HistoryEntry) : ((ofEntries entries).map body).Nodup :=
  ((ofEntries_perm entries).map body).nodup_iff.mpr (Grouping.groups_foldl entries).nodup

theorem mem_map_body {body : String} :
    body ∈ (ofEntries entries).map HistoryItem.body ↔ body ∈ bodies entries := by
  rw [((ofEntries_perm entries).map HistoryItem.body).mem_iff,
    (Grouping.groups_foldl entries).once, mem_distinct]

theorem newest_of_mem {item : HistoryItem} (hmem : item ∈ ofEntries entries) :
    Newest entries item.body item.lastRun? :=
  (Grouping.groups_foldl entries).newest item ((ofEntries_perm entries).mem_iff.mp hmem)

theorem mem_ofEntries {item : HistoryItem} :
    item ∈ ofEntries entries ↔ item.body ∈ bodies entries ∧
    Newest entries item.body item.lastRun? := by
  constructor
  · intro hmem
    exact ⟨mem_map_body.mp (List.mem_map_of_mem hmem), newest_of_mem hmem⟩
  · rintro ⟨known, newest⟩
    obtain ⟨other, hmem, same⟩ := List.mem_map.mp (mem_map_body.mpr known)
    have times := newest_of_mem hmem
    rw [same] at times
    obtain ⟨body, lastRun?⟩ := item
    obtain ⟨body', lastRun?'⟩ := other
    cases same
    cases times.eq newest
    exact hmem

theorem ofEntries_of_perm {others : List HistoryEntry} (perm : entries.Perm others) :
    (ofEntries entries).Perm (ofEntries others) := by
  have nodup (entries : List HistoryEntry) : (ofEntries entries).Nodup :=
    List.Nodup.of_map body (nodup_map_body entries)
  rw [List.perm_ext_iff_of_nodup (nodup _) (nodup _)]
  intro item
  rw [mem_ofEntries, mem_ofEntries]
  have known : item.body ∈ bodies entries ↔ item.body ∈ bodies others := (perm.map _).mem_iff
  exact and_congr known ⟨fun newest => newest.perm perm, fun newest => newest.perm perm.symm⟩

theorem ofEntries_ordered (entries : List HistoryEntry) :
    (ofEntries entries).Pairwise fun a b =>
      (∃ newer, a.lastRun? = some newer ∧ ∀ time, b.lastRun? = some time → time < newer) ∨
        a.lastRun? = b.lastRun? ∧
        (bodies entries).idxOf a.body < (bodies entries).idxOf b.body := by
  have first := (firstOccurrences_distinct (bodies entries)).ordered
  rw [← (Grouping.groups_foldl entries).once, List.pairwise_map] at first
  refine (pairwise_mergeSort_of_pairwise precedes_trans precedes_total first).imp ?_
  rintro a b ⟨ab, tied⟩
  exact (newer_or_eq ab).imp_right fun ⟨ba, same⟩ => ⟨same, tied ba⟩

/-- Each query is listed once, with the time of its newest run: newer ones first, those without a
time last, and of two with one time the one whose first entry comes first. -/
theorem queries_grouped_newest_first (entries : List HistoryEntry) :
    let items := ofEntries entries
    (items.map body).Nodup ∧
    (∀ body, body ∈ items.map HistoryItem.body ↔
      ∃ entry ∈ entries, withoutSource entry.body = body) ∧
    (∀ item ∈ items, match item.lastRun? with
      | none => ∀ entry ∈ entries, withoutSource entry.body = item.body → entry.createTime? = none
      | some newest =>
        (∃ entry ∈ entries, withoutSource entry.body = item.body ∧
          entry.createTime? = some newest) ∧
          ∀ entry ∈ entries, withoutSource entry.body = item.body →
            ∀ time, entry.createTime? = some time → time ≤ newest) ∧
    (items.Pairwise fun a b =>
      (∃ newer, a.lastRun? = some newer ∧ ∀ time, b.lastRun? = some time → time < newer) ∨
        a.lastRun? = b.lastRun? ∧ (bodies entries).idxOf a.body < (bodies entries).idxOf b.body) ∧
    ∀ others, entries.Perm others → items.Perm (ofEntries others) := by
  intro items
  refine ⟨nodup_map_body entries, fun body => mem_map_body.trans mem_bodies, ?_,
    ofEntries_ordered entries,
    fun others => ofEntries_of_perm⟩
  intro item hmem
  have newest := newest_of_mem hmem
  split
  · next undated =>
      intro entry entry_mem same
      rw [Option.eq_none_iff_forall_ne_some]
      intro time known
      obtain ⟨_, found, -⟩ := newest.latest entry entry_mem same time known
      rw [undated] at found
      cases found
  · next time dated =>
      refine ⟨newest.known time dated, fun entry entry_mem same earlier known => ?_⟩
      obtain ⟨_, found, le⟩ := newest.latest entry entry_mem same earlier known
      rw [dated] at found
      cases found
      exact le

theorem queries_grouped_newest_first_sources :
    let entry (body : String) (createTime? : Option Int) : HistoryEntry :=
      ⟨none, body, createTime?, .complete⟩
    let entries :=
      [entry "limit 5" none, entry "SOURCE \"/a\" | fields a" (some 100), entry "fields c" none,
        entry "limit 5" (some 300), entry "SOURCE \"/b\" |fields a" (some 300),
        entry "SOURCE /b" (some (-1))]
    entries.Perm entries.reverse ∧
      ofEntries entries =
        [⟨"limit 5", some 300⟩, ⟨"fields a", some 300⟩, ⟨"SOURCE /b", some (-1)⟩,
          ⟨"fields c", none⟩] ∧
      (ofEntries entries).Perm (ofEntries entries.reverse) := by
  intro entry entries
  have perm : entries.Perm entries.reverse := entries.reverse_perm.symm
  have grouped : (entries.foldl Grouping.add .empty).items =
      [⟨"limit 5", some 300⟩, ⟨"fields a", some 300⟩, ⟨"fields c", none⟩,
        ⟨"SOURCE /b", some (-1)⟩] := by
    decide +kernel
  have listed : ofEntries entries =
      [⟨"limit 5", some 300⟩, ⟨"fields a", some 300⟩, ⟨"SOURCE /b", some (-1)⟩,
        ⟨"fields c", none⟩] := by
    rw [ofEntries, grouped]
    simp [List.mergeSort, List.MergeSort.Internal.splitInTwo, precedes]
  exact ⟨perm, listed, (queries_grouped_newest_first entries).2.2.2.2 _ perm⟩

end Listing

end LogQuery.HistoryItem
