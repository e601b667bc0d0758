import LogQuery.Columns
import LogQuery.Proofs.Text.Joined

namespace LogQuery.Columns

open Text

/-- The columns of a query in which no clause declares any. -/
def undeclared : Columns where
  names := defaultNames
  aliases := []
  source := .default

def ofClause (clause : ColumnKeyword × List ColumnEntry) : Columns where
  names := clause.2.map ColumnEntry.shownName
  aliases := aliasesOf clause.2
  source := match clause.1 with
    | .fields => .fields
    | .display => .display

/-- Which of two queries, one behind the other, decides what is shown. -/
def deciding (first second : Columns) : Columns :=
  if second.source = .display then second
  else if first.source = .display ∨ first.source = .fields then first
  else second

/-- The columns of two queries, one behind the other. -/
def followedBy (first second : Columns) : Columns :=
  { deciding first second with aliases := second.aliases ++ first.aliases }

theorem addClause_eq (columns : Columns) (clause : ColumnKeyword × List ColumnEntry) :
    columns.addClause clause = columns.followedBy (ofClause clause) := by
  obtain ⟨names, aliases, source⟩ := columns
  obtain ⟨keyword, entries⟩ := clause
  cases keyword <;> cases source <;> rfl

theorem followedBy_assoc (first second third : Columns) :
    (first.followedBy second).followedBy third = first.followedBy (second.followedBy third) := by
  obtain ⟨names, aliases, source⟩ := first
  obtain ⟨names', aliases', source'⟩ := second
  obtain ⟨names'', aliases'', source''⟩ := third
  -- which query decides depends on the sources alone
  cases source <;> cases source' <;> cases source'' <;> simp [followedBy, deciding]

theorem ofClause_followedBy_undeclared (clause : ColumnKeyword × List ColumnEntry) :
    (ofClause clause).followedBy undeclared = ofClause clause := by
  obtain ⟨keyword, entries⟩ := clause
  cases keyword <;> rfl

/-- The columns of some clauses, one behind the other. -/
def ofClauses (clauses : List (ColumnKeyword × List ColumnEntry)) : Columns :=
  clauses.foldl addClause undeclared

variable {clauses : List (ColumnKeyword × List ColumnEntry)}

theorem ofClauses_append_singleton (clauses : List (ColumnKeyword × List ColumnEntry))
    (clause : ColumnKeyword × List ColumnEntry) :
    ofClauses (clauses ++ [clause]) = (ofClauses clauses).followedBy (ofClause clause) := by
  rw [ofClauses, List.foldl_append, ← ofClauses, List.foldl_cons, List.foldl_nil, addClause_eq]

theorem ofClauses_followedBy_undeclared (clauses : List (ColumnKeyword × List ColumnEntry)) :
    (ofClauses clauses).followedBy undeclared = ofClauses clauses := by
  induction clauses using List.reverseRecOn with
  | nil => rfl
  | append_singleton clauses clause =>
      rw [ofClauses_append_singleton, followedBy_assoc, ofClause_followedBy_undeclared]

theorem ofClauses_append (clauses further : List (ColumnKeyword × List ColumnEntry)) :
    ofClauses (clauses ++ further) = (ofClauses clauses).followedBy (ofClauses further) := by
  induction further using List.reverseRecOn with
  | nil =>
      rw [List.append_nil]
      exact (ofClauses_followedBy_undeclared clauses).symm
  | append_singleton further clause ih =>
      rw [← List.append_assoc, ofClauses_append_singleton, ih, followedBy_assoc,
        ofClauses_append_singleton]

def clausesOf (query : String) : List (ColumnKeyword × List ColumnEntry) :=
  (cut '|' query.toList).filterMap readClause

theorem clausesOf_append (first second : String) :
    clausesOf (first ++ "|" ++ second) = clausesOf first ++ clausesOf second := by
  have joined : (first ++ "|" ++ second).toList = first.toList ++ '|' :: second.toList := by simp
  rw [clausesOf, joined, cut_append_sep, List.filterMap_append, clausesOf, clausesOf]

theorem ofQuery_append (first second : String) :
    ofQuery (first ++ "|" ++ second) = (ofQuery first).followedBy (ofQuery second) := by
  have read (query : String) : ofQuery query = ofClauses (clausesOf query) := rfl
  rw [read, clausesOf_append, ofClauses_append, read, read]

/-- The names under which the clauses with a keyword show their columns, clause by clause. -/
def shownBy (keyword : ColumnKeyword) (clauses : List (ColumnKeyword × List ColumnEntry)) :
    List (List String) :=
  (clauses.filter fun clause => clause.1 = keyword).map fun clause =>
    clause.2.map ColumnEntry.shownName

/-- What some clauses show: the columns of the last `display` clause, else those of the first
`fields` clause, else the time and the message. -/
def shownOf (clauses : List (ColumnKeyword × List ColumnEntry)) : ColumnSource × List String :=
  match (shownBy .display clauses).getLast?, (shownBy .fields clauses).head? with
  | some names, _ => (.display, names)
  | none, some names => (.fields, names)
  | none, none => (.default, ["@timestamp", "@message"])

theorem shownOf_append_display (clauses : List (ColumnKeyword × List ColumnEntry))
    (entries : List ColumnEntry) :
    shownOf (clauses ++ [(.display, entries)]) =
      (.display, entries.map ColumnEntry.shownName) := by
  simp [shownOf, shownBy]

theorem shownOf_append_fields (clauses : List (ColumnKeyword × List ColumnEntry))
    (entries : List ColumnEntry) :
    shownOf (clauses ++ [(.fields, entries)]) =
      if (shownOf clauses).1 = .default then (.fields, entries.map ColumnEntry.shownName)
      else shownOf clauses := by
  have displays : shownBy .display (clauses ++ [(.fields, entries)]) =
      shownBy .display clauses := by
    simp [shownBy]
  have fields : shownBy .fields (clauses ++ [(.fields, entries)]) =
      shownBy .fields clauses ++ [entries.map ColumnEntry.shownName] := by
    simp [shownBy]
  rw [shownOf, shownOf, displays, fields, List.head?_append]
  cases (shownBy .display clauses).getLast? <;> cases (shownBy .fields clauses).head? <;> rfl

theorem shown_ofClauses (clauses : List (ColumnKeyword × List ColumnEntry)) :
    ((ofClauses clauses).source, (ofClauses clauses).names) = shownOf clauses := by
  induction clauses using List.reverseRecOn with
  | nil => rfl
  | append_singleton clauses clause ih =>
      obtain ⟨keyword, entries⟩ := clause
      rw [ofClauses_append_singleton]
      cases keyword with
      | display =>
          rw [shownOf_append_display]
          rfl
      | fields =>
          rw [shownOf_append_fields, ← ih]
          generalize ofClauses clauses = columns
          obtain ⟨names, aliases, source⟩ := columns
          cases source <;> rfl

/-- Of all the clauses of a query the last `display` clause decides what is shown, else the first
`fields` clause. Aliases of later clauses stand in place of those before. -/
theorem clauses_take_precedence (first second : String) :
    let before := ofQuery first
    let behind := ofQuery second
    let whole := ofQuery (first ++ "|" ++ second)
    (∀ name, whole.aliases.lookup name =
      (behind.aliases.lookup name).or (before.aliases.lookup name)) ∧
    (whole.source, whole.names) =
      (if behind.source = .display then (.display, behind.names)
      else if before.source = .display ∨ before.source = .fields then
        (before.source, before.names)
      else (behind.source, behind.names)) ∧
    ∀ query, ((ofQuery query).source, (ofQuery query).names) = shownOf (clausesOf query) := by
  intro before behind whole
  have joined : whole = before.followedBy behind := ofQuery_append first second
  refine ⟨fun name => ?_, ?_, fun query => shown_ofClauses (clausesOf query)⟩
  · rw [joined, followedBy, List.lookup_append]
  · rw [joined, followedBy, deciding]
    split
    · next displays => rw [displays]
    · split <;> rfl

end LogQuery.Columns
