import LogQuery.Proofs.Query.Settings
import LogQuery.Proofs.Text.Distinct

namespace LogQuery.Query

open Text

/-- Whether a line may stand above the settings line. -/
def Aside (line : String) : Prop :=
  '\n' ∉ line.toList ∧ (blank line = true ∨ line.toList.head? = some '#')

/-- Whether a line is read as a settings line when it is the first one under asides. -/
structure Leads (line : String) : Prop where
  unbroken : '\n' ∉ line.toList
  solid : blank line = false
  opening : (trimStart line).toList.head? ≠ some '#'

/-- The lines that follow a settings line. -/
def linesBelow (below : List String) : List Line :=
  (lines (trimEnd (unlines below))).map Line.read

theorem contents_append {front back : List Line} {line : String}
    (asides : ∀ l ∈ front, ∀ text ∈ l.content?, blank text = true) (solid : blank line = false) :
    contents (front ++ .content line :: back) = line :: back.filterMap Line.content? := by
  have passed : ∀ text ∈ front.filterMap Line.content?, blank text = true := by
    intro text hmem
    obtain ⟨l, hl, told⟩ := List.mem_filterMap.mp hmem
    exact asides l hl text told
  have here : (Line.content line).content? = some line := rfl
  rw [contents, List.filterMap_append, List.dropWhile_append_of_pos passed,
    List.filterMap_cons_some here, List.dropWhile_cons, if_neg (by simp [solid])]

theorem Aside.blank_of_content? {line text : String} (aside : Aside line)
    (told : text ∈ (Line.read (withoutReturn line)).content?) : blank text = true := by
  have chars : (withoutReturn line).toList = dropReturn line.toList := String.toList_ofList
  rcases aside.2 with blanks | comment
  · have within : ∀ c ∈ (withoutReturn line).toList, isBlank c = true := by
      rw [chars]
      exact fun c hmem => blank_iff.mp blanks c ((dropReturn_prefix_self line.toList).subset hmem)
    have plain : (withoutReturn line).toList.head? ≠ some '#' := by
      intro head
      exact absurd (within '#' (List.mem_of_head? head)) (by decide)
    rw [read_of_not_comment plain] at told
    cases told
    exact blank_iff.mpr within
  · have marked : (withoutReturn line).toList.head? = some '#' := by
      rw [chars]
      exact head?_dropReturn (by decide) comment
    rw [content?_read_of_comment marked] at told
    cases told

section Above

variable {above : List String} {line : String}

theorem linesOf_unlines (asides : ∀ l ∈ above, Aside l) (leads : Leads line)
    (below : List String) :
    ∃ first, trim first = trim line ∧ blank first = false ∧
      linesOf (unlines (above ++ line :: below)) =
        (above.dropWhile blank).map (Line.read ∘ withoutReturn) ++
          .content first :: linesBelow below := by
  have flush : ∀ l ∈ above, blank l = false → trimStart l = l := by
    intro l hmem hl
    rcases (asides l hmem).2 with blanks | comment
    · rw [hl] at blanks
      cases blanks
    · exact trimStart_of_comment comment
  obtain ⟨first, known, all⟩ :=
    lines_trim_unlines_append (fun l hmem =>
      (asides l hmem).1) flush leads.unbroken leads.solid below
  have plain : first.toList.head? ≠ some '#' := by
    rcases known with rfl | rfl
    · intro head
      apply leads.opening
      rw [trimStart_of_comment head, head]
    · exact leads.opening
  refine ⟨leftOf first below, ?_, ?_, ?_⟩
  · rw [trim_leftOf]
    rcases known with rfl | rfl
    · rfl
    · exact trim_trimStart line
  · rw [blank_leftOf]
    rcases known with rfl | rfl
    · exact leads.solid
    · rw [blank_trimStart, leads.solid]
  · have content : Line.read (leftOf first below) = .content (leftOf first below) := by
      apply read_of_not_comment
      intro head
      obtain ⟨rest, chars⟩ := leftOf_prefix_self first below
      apply plain
      rw [← chars, List.head?_append, head]
      rfl
    rw [linesOf, all, List.map_append, List.map_cons, List.map_map, content]
    rfl

theorem ofContents_unlines (asides : ∀ l ∈ above, Aside l) (leads : Leads line) (now : Int)
    (below : List String) :
    ofContents now (contents (linesOf (unlines (above ++ line :: below)))) =
      Settings.read line >>= fun settings =>
        ofSettings now settings ((linesBelow below).filterMap Line.content?) := by
  obtain ⟨first, same, solid, all⟩ := linesOf_unlines asides leads below
  have passed : ∀ l ∈ (above.dropWhile blank).map (Line.read ∘ withoutReturn),
      ∀ text ∈ l.content?, blank text = true := by
    intro l hmem text told
    obtain ⟨line', hline', rfl⟩ := List.mem_map.mp hmem
    exact (asides line' ((List.dropWhile_suffix blank).subset hline')).blank_of_content? told
  rw [all, contents_append passed solid, ofContents, Settings.read_congr same]

theorem ownTitle?_unlines (asides : ∀ l ∈ above, Aside l) (leads : Leads line)
    (below : List String) :
    ownTitle? (linesOf (unlines (above ++ line :: below))) =
      ownTitle? ((above.dropWhile blank).map (Line.read ∘ withoutReturn) ++
        linesBelow below) := by
  obtain ⟨first, -, -, all⟩ := linesOf_unlines asides leads below
  have untitled : (Line.content first).title? = none := rfl
  rw [all, ownTitle?, ownTitle?, List.findSome?_append, List.findSome?_append,
    List.findSome?_cons, untitled]

end Above

theorem leads_intercalate (sep : Char) (hsep : isBlank sep = false) (other : sep ≠ '#')
    {first : String} {rest : List String} (nonempty : rest ≠ [])
    (unbroken : ∀ part ∈ first :: rest, '\n' ∉ part.toList)
    (opening : (trimStart first).toList.head? ≠ some '#') :
    Leads ((String.singleton sep).intercalate (first :: rest)) where
  unbroken := by
    apply not_mem_intercalate _ unbroken
    rintro rfl
    exact absurd hsep (by decide)
  solid := by simp [blank, toList_intercalate_cons sep first nonempty, hsep]
  opening := by
    rw [trimStart, toList_intercalate_cons sep first nonempty, stripStart_append_cons hsep,
      String.toList_ofList, List.head?_append]
    rw [trimStart, String.toList_ofList] at opening
    cases start : (stripStart first.toList).head? with
    | none => simpa using other
    | some c => simpa [start] using opening

theorem limit?_of_read {now : Int} {previousTitle? : Option String} {block : String}
    {query : Query} {settings : Settings} {body : List String}
    (told : ofContents now (contents (linesOf block)) = ofSettings now settings body)
    (read : Query.read now previousTitle? block = .ok query) :
    query.limit? = settings.limit? := by
  cases known : ofSettings now settings body with
  | error problem =>
      rw [read_of_error (told.trans known)] at read
      cases read
  | ok plain =>
      rw [read_of_ok (told.trans known)] at read
      obtain ⟨-, range, -, rfl⟩ := ofSettings_eq_ok_iff.mp known
      cases read
      rfl

/-- A settings line reads the same with colons and with semicolons. -/
theorem colons_read_as_semicolons {environment regions logGroups timeRange : String}
    {above below : List String} (asides : ∀ line ∈ above, Aside line)
    (parts : ∀ part ∈ [environment, regions, logGroups],
      ':' ∉ part.toList ∧ ';' ∉ part.toList ∧ '\n' ∉ part.toList)
    (range : ';' ∉ timeRange.toList ∧ '\n' ∉ timeRange.toList)
    (opening : (trimStart environment).toList.head? ≠ some '#')
    (now : Int) (previousTitle? : Option String) :
    let settings := [environment, regions, logGroups, timeRange]
    let colons := unlines (above ++ ":".intercalate settings :: below)
    let semicolons := unlines (above ++ ";".intercalate settings :: below)
    (read now previousTitle? colons).map withoutSource =
        (read now previousTitle? semicolons).map withoutSource ∧
      ∀ query, read now previousTitle? colons = .ok query ∨
        read now previousTitle? semicolons = .ok query → query.limit? = none := by
  intro settings colons semicolons
  have plain : ∀ part ∈ settings, ';' ∉ part.toList ∧ '\n' ∉ part.toList := by
    simp only [settings, List.forall_mem_cons] at parts ⊢
    exact ⟨parts.1.2, parts.2.1.2, parts.2.2.1.2, range, by simp⟩
  have byColons : Settings.read (":".intercalate settings) = .ok _ :=
    Settings.read_colons (fun part hmem => (parts part hmem).1) (fun part hmem =>
      (plain part hmem).1)
  have bySemicolons : Settings.read (";".intercalate settings) = .ok _ :=
    Settings.read_semicolons (fun part hmem => (plain part hmem).1)
  have leads (sep : Char) (hsep : isBlank sep = false) (other : sep ≠ '#') :
      Leads ((String.singleton sep).intercalate settings) :=
    leads_intercalate sep hsep other (List.cons_ne_nil _ _) (fun part hmem =>
      (plain part hmem).2) opening
  have leadsColons : Leads (":".intercalate settings) := leads ':' (by decide) (by decide)
  have leadsSemicolons : Leads (";".intercalate settings) := leads ';' (by decide) (by decide)
  have colonsTell := ofContents_unlines asides leadsColons now below
  have semicolonsTell := ofContents_unlines asides leadsSemicolons now below
  rw [byColons] at colonsTell
  rw [bySemicolons] at semicolonsTell
  constructor
  · apply read_withoutSource (colonsTell.trans semicolonsTell.symm)
    rw [ownTitle?_unlines asides leadsColons, ownTitle?_unlines asides leadsSemicolons]
  · rintro query (told | told)
    · exact limit?_of_read colonsTell told
    · exact limit?_of_read semicolonsTell told

theorem colons_read_as_semicolons_timestamps :
    let settings := ["dev", "us-east-1", "/svc/*", "2023-01-01T00:00:00->"]
    let colons := unlines (["#@ Errors", ""] ++ ":".intercalate settings :: ["fields @message"])
    let semicolons :=
      unlines (["#@ Errors", ""] ++ ";".intercalate settings :: ["fields @message"])
    (∀ line ∈ ["#@ Errors", ""], Aside line) ∧
      (read 0 none colons).toOption.bind title? = some "Errors" ∧
      (read 0 none colons).map withoutSource = (read 0 none semicolons).map withoutSource := by
  intro settings colons semicolons
  have asides : ∀ line ∈ ["#@ Errors", ""], Aside line := by
    simp only [List.forall_mem_cons]
    exact ⟨⟨by decide, by decide⟩, ⟨by decide, by decide⟩, by simp⟩
  refine ⟨asides, by decide +kernel, ?_⟩
  exact (colons_read_as_semicolons asides (by decide) (by decide) (by decide) 0 none).1

section Body

variable {body : String}

theorem linesBelow_singleton (full : ∀ c ∈ body.toList.getLast?, isBlank c = false)
    (plain : ∀ line ∈ splitOn '\n' body,
      line.toList.head? ≠ some '#' ∧ line.toList.getLast? ≠ some '\r') :
    linesBelow [body] = (lines body).map .content := by
  have trimmed : trimEnd (unlines [body]) = body := by
    rw [unlines_singleton, trimEnd, stripEnd_eq_self full, String.ofList_toList]
  rw [linesBelow, trimmed]
  apply List.map_congr_left
  intro line hmem
  apply read_of_not_comment
  rw [lines_of_full full fun line hmem => (plain line hmem).2] at hmem
  split at hmem
  · cases hmem
  · exact (plain line hmem).1

theorem filterMap_contents (ls : List String) :
    (ls.map Line.content).filterMap Line.content? = ls := by
  rw [List.filterMap_map]
  exact List.filterMap_some

theorem ownTitle?_contents (ls : List String) : ownTitle? (ls.map Line.content) = none := by
  rw [ownTitle?, List.findSome?_eq_none_iff]
  intro line hmem
  obtain ⟨text, -, rfl⟩ := List.mem_map.mp hmem
  rfl

end Body

theorem mem_namesOf {name list : String} :
    name ∈ namesOf list ↔ ∃ piece ∈ splitOn ',' list, blank piece = false ∧
    name = trim piece := by
  simp only [namesOf, List.mem_filter, List.mem_map]
  constructor
  · rintro ⟨⟨piece, hmem, rfl⟩, nonempty⟩
    rw [trim_isEmpty, Bool.not_eq_true'] at nonempty
    exact ⟨piece, hmem, nonempty, rfl⟩
  · rintro ⟨piece, hmem, solid, rfl⟩
    rw [trim_isEmpty, solid]
    exact ⟨⟨piece, hmem, rfl⟩, rfl⟩

theorem distinct_namesOf_ne_nil_iff {list : String} :
    distinct (namesOf list) ≠ [] ↔ ∃ piece ∈ splitOn ',' list, blank piece = false := by
  constructor
  · intro nonempty
    obtain ⟨name, hmem⟩ := List.exists_mem_of_ne_nil _ nonempty
    obtain ⟨piece, hpiece, solid, -⟩ := mem_namesOf.mp (mem_distinct.mp hmem)
    exact ⟨piece, hpiece, solid⟩
  · rintro ⟨piece, hpiece, solid⟩
    exact List.ne_nil_of_mem (mem_distinct.mpr (mem_namesOf.mpr ⟨piece, hpiece, solid, rfl⟩))

/-- Whether the parts of a settings line and a body can be told from the block that they make. -/
structure Separable (environment regions logGroups timeRange limit body : String) : Prop where
  parts : ∀ part ∈ [environment, regions, logGroups, timeRange, limit],
    ';' ∉ part.toList ∧ '\n' ∉ part.toList
  opening : (trimStart environment).toList.head? ≠ some '#'
  plain : ∀ line ∈ splitOn '\n' body,
    line.toList.head? ≠ some '#' ∧ line.toList.getLast? ≠ some '\r'
  full : ∀ c ∈ body.toList.getLast?, isBlank c = false

namespace Separable

variable {environment regions logGroups timeRange limit body : String}
  (h : Separable environment regions logGroups timeRange limit body)

include h

theorem leads : Leads (";".intercalate [environment, regions, logGroups, timeRange, limit]) :=
  leads_intercalate ';' (by decide) (by decide) (List.cons_ne_nil _ _)
    (fun part hmem => (h.parts part hmem).2) h.opening

theorem ownTitle? :
    ownTitle? (linesOf (unlines
      [";".intercalate [environment, regions, logGroups, timeRange, limit], body])) = none := by
  have titled := ownTitle?_unlines (List.forall_mem_nil Aside) h.leads [body]
  rw [List.nil_append] at titled
  rw [titled, linesBelow_singleton h.full h.plain]
  exact ownTitle?_contents (lines body)

theorem ofContents (now : Int) :
    ofContents now (contents (linesOf (unlines
      [";".intercalate [environment, regions, logGroups, timeRange, limit], body]))) =
      readLimit limit >>= fun limit? =>
        ofSettings now ⟨trimStart environment, regions, logGroups, timeRange, limit?⟩
          (lines body) := by
  have told := ofContents_unlines (List.forall_mem_nil Aside) h.leads now [body]
  rw [List.nil_append] at told
  rw [told, Settings.read_semicolons_limit fun part hmem => (h.parts part hmem).1,
    linesBelow_singleton h.full h.plain, filterMap_contents]
  cases readLimit limit <;> rfl

end Separable

section Outcome

variable {outcome : Except Problem Query} {accepted : Prop} {because : Problem → Prop}
  {describes : Query → Prop}

theorem verdict_of_error {problem : Problem} (fails : outcome = .error problem)
    (refused : ¬accepted) (cause : because problem) :
    ((∃ query, outcome = .ok query) ↔ accepted) ∧
      (∀ problem, outcome = .error problem → because problem) ∧
      ∀ query, outcome = .ok query → describes query := by
  subst fails
  refine ⟨⟨?_, fun h => absurd h refused⟩, ?_, ?_⟩
  · rintro ⟨query, ⟨⟩⟩
  · rintro _ ⟨⟩
    exact cause
  · rintro query ⟨⟩

theorem verdict_of_ok {query : Query} (succeeds : outcome = .ok query) (hold : accepted)
    (said : describes query) :
    ((∃ query, outcome = .ok query) ↔ accepted) ∧
      (∀ problem, outcome = .error problem → because problem) ∧
      ∀ query, outcome = .ok query → describes query := by
  subst succeeds
  refine ⟨⟨fun _ => hold, fun _ => ⟨query, rfl⟩⟩, ?_, ?_⟩
  · rintro problem ⟨⟩
  · rintro _ ⟨⟩
    exact said

end Outcome

/-- A block of a settings line with all its parts and a body is read as just these. -/
theorem parts_are_read_back {environment regions logGroups timeRange limit body : String}
    (h : Separable environment regions logGroups timeRange limit body) (now : Int)
    (previousTitle? : Option String) :
    let block :=
      unlines [";".intercalate [environment, regions, logGroups, timeRange, limit], body]
    ((∃ query, read now previousTitle? block = .ok query) ↔
      (∃ piece ∈ splitOn ',' regions, blank piece = false) ∧
      (∃ range, TimeRange.resolve now timeRange = .ok range) ∧
      ∃ limit?, GivesLimit limit limit?) ∧
    (∀ problem, read now previousTitle? block = .error problem →
      problem.toQueryError = .malformedQuery problem.reason ∧
      (problem = .invalidLimit (trim limit) ∧ (¬∃ limit?, GivesLimit limit limit?) ∨
        problem = .noRegions ∧ (¬∃ piece ∈ splitOn ',' regions, blank piece = false) ∨
        ∃ cause, problem = .timeRange cause ∧ TimeRange.resolve now timeRange = .error cause)) ∧
    ∀ query, read now previousTitle? block = .ok query →
      query.environment = trim environment ∧
      FirstOccurrences (((splitOn ',' regions).map trim).filter fun name => !name.isEmpty)
        query.regions ∧
      query.logGroups = trim logGroups ∧
      TimeRange.resolve now timeRange = .ok query.timeRange ∧
      GivesLimit limit query.limit? ∧
      query.body = body ∧ query.source = block ∧ query.title? = previousTitle? ∧
      query.fieldNames? = none := by
  intro block
  have told := h.ofContents now
  by_cases given : ∃ limit?, GivesLimit limit limit?
  · obtain ⟨limit?, gives⟩ := given
    rw [readLimit_eq_ok_iff.mpr gives] at told
    cases known : ofSettings now ⟨trimStart environment, regions, logGroups, timeRange, limit?⟩
        (lines body) with
    | error problem =>
        apply verdict_of_error (read_of_error (told.trans known))
        · rintro ⟨named, ⟨range, resolved⟩, -⟩
          rcases ofSettings_eq_error_iff.mp known with ⟨unnamed, -⟩ | ⟨-, cause, unresolved, -⟩
          · exact distinct_namesOf_ne_nil_iff.mpr named unnamed
          · cases resolved.symm.trans unresolved
        · refine ⟨rfl, .inr ?_⟩
          rcases ofSettings_eq_error_iff.mp known with ⟨unnamed, rfl⟩ | ⟨-, cause, unresolved,
            rfl⟩
          · exact .inl ⟨rfl, fun named => distinct_namesOf_ne_nil_iff.mpr named unnamed⟩
          · exact .inr ⟨cause, rfl, unresolved⟩
    | ok query =>
        obtain ⟨named, range, resolved, rfl⟩ := ofSettings_eq_ok_iff.mp known
        apply verdict_of_ok (read_of_ok (told.trans known))
        · exact ⟨distinct_namesOf_ne_nil_iff.mp named, ⟨range, resolved⟩, limit?, gives⟩
        · refine ⟨trim_trimStart environment, firstOccurrences_distinct _, rfl, resolved, gives,
            unlines_lines h.full fun line hmem => (h.plain line hmem).2, rfl, ?_, rfl⟩
          rw [h.ownTitle?, Option.or_none]
  · rw [readLimit_of_not_gives (not_exists.mp given)] at told
    apply verdict_of_error (read_of_error told)
    · exact fun accepted => given accepted.2.2
    · exact ⟨rfl, .inl ⟨rfl, given⟩⟩

theorem parts_are_read_back_twoRegions :
    let block := unlines
      [";".intercalate ["dev ", "us-east-1, us-west-2,us-east-1", " /svc/*", "1h", " 50"],
        "fields @message\n| limit 5"]
    Separable "dev " "us-east-1, us-west-2,us-east-1" " /svc/*" "1h" " 50"
        "fields @message\n| limit 5" ∧
      ∃ query, read 1700000000000 (some "Errors") block = .ok query ∧ query.environment = "dev" ∧
        query.logGroups = "/svc/*" ∧ query.body = "fields @message\n| limit 5" ∧
        query.title? = some "Errors" := by
  intro block
  have h : Separable "dev " "us-east-1, us-west-2,us-east-1" " /svc/*" "1h" " 50"
      "fields @message\n| limit 5" :=
    ⟨by decide, by decide, by decide, by rintro c ⟨⟩; decide⟩
  obtain ⟨accepted, -, told⟩ := parts_are_read_back h 1700000000000 (some "Errors")
  have writes : WritesInt32 (strip " 50".toList) 50 :=
    ⟨[], "50".toList, by decide, by decide, List.all_eq_true.mp (by decide), by decide⟩
  obtain ⟨query, read⟩ :=
    accepted.mpr ⟨⟨"us-east-1", by decide, by decide⟩, ⟨_, rfl⟩, some 50, writes⟩
  obtain ⟨environment, -, logGroups, -, -, body, -, title, -⟩ := told query read
  exact ⟨h, query, read, environment, logGroups, body, title⟩

end LogQuery.Query
