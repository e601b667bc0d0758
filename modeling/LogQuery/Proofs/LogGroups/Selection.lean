import LogQuery.Proofs.LogGroups.Lookup
import LogQuery.Proofs.LogGroups.Matching
import LogQuery.Proofs.Text.Distinct
import Mathlib.Data.Prod.Lex
import Mathlib.Data.List.Nodup

namespace LogQuery.LogGroups

open Text

/-- Where a name stands among those that are found: the first segment that matches it comes
first, and then its first position in the catalog. -/
def place (segments catalog : List String) (name : String) : ℕ ×ₗ ℕ :=
  toLex (segments.findIdx fun segment => segmentMatches segment name, catalog.idxOf name)

theorem mem_matchCatalog {segments catalog : List String} {name : String} :
    name ∈ matchCatalog segments catalog ↔
      name ∈ catalog ∧ ∃ segment ∈ segments, segmentMatches segment name = true := by
  rw [matchCatalog, mem_distinct]
  simp only [List.mem_flatMap, matchSegment, List.mem_filter]
  tauto

theorem matchCatalog_append (first second catalog : List String) :
    matchCatalog (first ++ second) catalog = matchCatalog first catalog ++
      (matchCatalog second catalog).filter fun name =>
        !(matchCatalog first catalog).contains name := by
  simp only [matchCatalog, List.flatMap_append, distinct_append, contains_distinct]

/-- The first segment finds its names in the order of the catalog, and the others find what is
left. -/
theorem matchCatalog_cons (segment : String) (segments catalog : List String) :
    matchCatalog (segment :: segments) catalog =
      (distinct catalog).filter (segmentMatches segment) ++
        (matchCatalog segments catalog).filter fun name => !segmentMatches segment name := by
  have others : ∀ name ∈ matchCatalog segments catalog,
      (!(matchSegment catalog segment).contains name) = !segmentMatches segment name := by
    intro name found
    have listed := (mem_matchCatalog.mp found).1
    simp [matchSegment, listed]
  rw [matchCatalog, List.flatMap_cons, distinct_append, matchSegment, distinct_filter]
  exact congrArg _ (List.filter_congr others)

theorem place_cons_of_matches {segment : String} {segments catalog : List String} {name : String}
    (fits : segmentMatches segment name = true) :
    place (segment :: segments) catalog name = toLex (0, catalog.idxOf name) := by
  simp [place, List.findIdx_cons, fits]

theorem place_cons_of_not_matches {segment : String} {segments catalog : List String}
    {name : String} (misfits : segmentMatches segment name = false) :
    place (segment :: segments) catalog name =
      toLex ((segments.findIdx fun segment => segmentMatches segment name) + 1,
        catalog.idxOf name) := by
  simp [place, List.findIdx_cons, misfits]

/-- What a segment finds goes by the catalog, all of it stands before what the segments behind it
find, and those keep their order when names are taken out. -/
theorem matchCatalog_ordered (segments catalog : List String) :
    (matchCatalog segments catalog).Pairwise fun a b =>
      place segments catalog a < place segments catalog b := by
  induction segments with
  | nil => exact .nil
  | cons segment segments ih =>
      rw [matchCatalog_cons, List.pairwise_append]
      refine ⟨?_, ?_, ?_⟩
      -- both names are the first segment's
      · apply ((firstOccurrences_distinct catalog).ordered.filter _).imp_of_mem
        intro a b ha hb before
        rw [place_cons_of_matches (List.mem_filter.mp ha).2,
          place_cons_of_matches (List.mem_filter.mp hb).2, Prod.Lex.toLex_lt_toLex]
        exact .inr ⟨rfl, before⟩
      -- neither is: all first segments lie one further back than without it
      · apply (ih.filter _).imp_of_mem
        intro a b ha hb before
        rw [place_cons_of_not_matches (by simpa using (List.mem_filter.mp ha).2),
          place_cons_of_not_matches (by simpa using (List.mem_filter.mp hb).2),
          Prod.Lex.toLex_lt_toLex]
        rw [place, place, Prod.Lex.toLex_lt_toLex] at before
        exact before.imp Nat.succ_lt_succ (And.imp_left (congrArg Nat.succ))
      · intro a ha b hb
        rw [place_cons_of_matches (List.mem_filter.mp ha).2,
          place_cons_of_not_matches (by simpa using (List.mem_filter.mp hb).2),
          Prod.Lex.toLex_lt_toLex]
        exact .inl (Nat.succ_pos _)

/-- Each name that some segment matches is found once, in the order of the first segments that
match them and then in the order of the catalog. -/
theorem found_in_order (segments catalog : List String) :
    let found := matchCatalog segments catalog
    (∀ name, name ∈ found ↔
      name ∈ catalog ∧ ∃ segment ∈ segments, segmentMatches segment name = true) ∧
    found.Nodup ∧
    (found.Pairwise fun a b => place segments catalog a < place segments catalog b) ∧
    ∀ further, matchCatalog (segments ++ further) catalog =
      found ++ (matchCatalog further catalog).filter fun name => !found.contains name :=
  ⟨fun _ => mem_matchCatalog, nodup_distinct _, matchCatalog_ordered segments catalog,
    fun further => matchCatalog_append segments further catalog⟩

theorem wildcard_not_mem_segments {pattern : String} (plain : hasWildcard pattern = false) :
    ∀ segment ∈ segments pattern, wildcard ∉ segment.toList := by
  intro segment hsegment
  obtain ⟨_, trimmed, rfl⟩ := List.mem_map.mp (List.mem_filter.mp hsegment).1
  obtain ⟨piece, hpiece, rfl⟩ := List.mem_map.mp trimmed
  refine not_mem_trim fun hmem => ?_
  rw [String.toList_ofList] at hmem
  have within := mem_of_mem_cut hpiece hmem
  simp [hasWildcard, within] at plain

theorem matchCatalog_eq_distinct {segments catalog : List String}
    (listed : ∀ segment ∈ segments, segment ∈ catalog)
    (alone : ∀ segment ∈ segments, ∀ name ∈ catalog,
      segmentMatches segment name = (name == segment)) :
    matchCatalog segments catalog = distinct segments := by
  induction segments with
  | nil => rfl
  | cons segment segments ih =>
      rw [List.forall_mem_cons] at listed alone
      have own : (distinct catalog).filter (segmentMatches segment) = [segment] := by
        rw [List.filter_congr fun name hname => alone.1 name (mem_distinct.mp hname),
          List.filter_beq,
          List.count_eq_one_of_mem (nodup_distinct catalog) (mem_distinct.mpr listed.1)]
        rfl
      have others : ∀ name ∈ distinct segments,
          (!segmentMatches segment name) = !(name == segment) := by
        intro name hname
        rw [alone.1 name (listed.2 name (mem_distinct.mp hname))]
      rw [matchCatalog_cons, own, ih listed.2 alone.2, List.filter_congr others, distinct,
        List.singleton_append]

/-- A pattern without wildcards whose segments are all in a catalog, which has no other name with
the letters of one of them, stands without any call for the names that its segments find there,
in the same order. -/
theorem plain_pattern_finds_its_names {pattern : String} (plain : hasWildcard pattern = false)
    {catalog : List String} (listed : ∀ segment ∈ segments pattern, segment ∈ catalog)
    (alone : ∀ segment ∈ segments pattern, ∀ name ∈ catalog,
      SameLetters segment.toList name.toList → name = segment) (site : Site) :
    lookUp site pattern = .done (some (matchCatalog (segments pattern) catalog)) ∧
    Expansion.start site pattern =
      .done (.ended (.ok (matchCatalog (segments pattern) catalog))) := by
  have found : matchCatalog (segments pattern) catalog = distinct (segments pattern) := by
    refine matchCatalog_eq_distinct listed fun segment hsegment name hname => ?_
    rw [Bool.eq_iff_iff,
      segmentMatches_literal (wildcard_not_mem_segments plain segment hsegment), beq_iff_eq]
    refine ⟨alone segment hsegment name hname, ?_⟩
    rintro rfl
    exact List.forall₂_same.mpr fun _ _ => rfl
  rw [found]
  constructor
  · rw [lookUp, plain]
    rfl
  · exact Expansion.start_of_plain site plain

theorem plain_pattern_finds_its_names_unsorted :
    let pattern := " /b,/A,,/b"
    let catalog := ["/A", "/x", "/b", "/A"]
    hasWildcard pattern = false ∧ (∀ segment ∈ segments pattern, segment ∈ catalog) ∧
    (∀ segment ∈ segments pattern, ∀ name ∈ catalog,
      SameLetters segment.toList name.toList → name = segment) ∧
    matchCatalog (segments pattern) catalog = ["/b", "/A"] ∧
    Expansion.start ⟨"p", "r"⟩ pattern = .done (.ended (.ok ["/b", "/A"])) := by
  intro pattern catalog
  have plain : hasWildcard pattern = false := by decide +kernel
  have listed : ∀ segment ∈ segments pattern, segment ∈ catalog := by decide +kernel
  have alone : ∀ segment ∈ segments pattern, ∀ name ∈ catalog,
      SameLetters segment.toList name.toList → name = segment := by decide +kernel
  have found : matchCatalog (segments pattern) catalog = ["/b", "/A"] := by decide +kernel
  have starts := (plain_pattern_finds_its_names plain listed alone ⟨"p", "r"⟩).2
  rw [found] at starts
  exact ⟨plain, listed, alone, found, starts⟩

end LogQuery.LogGroups
