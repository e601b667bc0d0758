import LogQuery.Proofs.Execution.Polling
import LogQuery.Proofs.Transcript
import Mathlib.Data.List.Forall2

/-!
What is heard of a query: the pages that its regions have answered. Whatever the regions answer
and whenever they come to their end, all that is kept of them is made of these pages.
-/

namespace LogQuery

/-- What has been heard of a query in one region: the pages of its results, oldest first. -/
structure Heard where
  query : StartedQuery
  pages : List ResultsPage

namespace Heard

def nothing (query : StartedQuery) : Heard where
  query := query
  pages := []

def hear (heard : Heard) (page : ResultsPage) : Heard where
  query := heard.query
  pages := heard.pages ++ [page]

/-- Whether some page says that the query has ended. -/
def ended (heard : Heard) : Bool :=
  heard.pages.any fun page => page.status.isTerminal

/-- The number of rounds up to the first page that says so. -/
def rounds (heard : Heard) : Nat :=
  heard.pages.findIdx (fun page => page.status.isTerminal) + 1

/-- Whether the first page that says so says that the query is not complete. -/
def failed (heard : Heard) : Bool :=
  (heard.pages.find? fun page => page.status.isTerminal).any fun page =>
    decide (page.status ≠ .complete)

/-- The rows of the latest page. Those that are bare values come last, named by the columns. -/
def rows (columns : Columns) (heard : Heard) : List Row :=
  match heard.pages.getLast? with
  | some page => page.rows ++ columns.nameRows page.valueRows
  | none => []

def statistics? (heard : Heard) : Option Statistics :=
  heard.pages.reverse.findSome? ResultsPage.statistics?

def state (heard : Heard) : RegionState :=
  match heard.pages.getLast? with
  | some page => .ofStatus page.status
  | none => .scheduled

def poll (columns : Columns) (heard : Heard) : RegionPoll where
  query := heard.query
  state := heard.state
  rows := heard.rows columns
  statistics? := heard.statistics?

def region (heard : Heard) : String :=
  heard.query.site.region

def snapshot (columns : Columns) (heard : Heard) : Snapshot where
  region := heard.region
  rows := heard.rows columns

/-- Whether at most the latest page says that the query has ended. -/
def Orderly (heard : Heard) : Prop :=
  ∀ page ∈ heard.pages.dropLast, ¬page.status.isTerminal

/-- The pages of a round go in turn to the regions where the query is not over. -/
def handOut : List Heard → List ResultsPage → List Heard
  | [], _ => []
  | heard :: others, pages =>
    if heard.ended then heard :: handOut others pages
    else match pages with
      | [] => heard :: others
      | page :: pages => heard.hear page :: handOut others pages

def unfinished (all : List Heard) : List StartedQuery :=
  (all.filter fun heard => !heard.ended).map query

end Heard

namespace Exchange

def pages : Exchange → List ResultsPage
  | ⟨.results _, answers⟩ => (List.ofFn answers).filterMap Except.toOption
  | _ => []

def isRound : Exchange → Bool
  | ⟨.results _, _⟩ => true
  | _ => false

/-- Whether no call for results has failed and nobody has said to stop. -/
def calm : Exchange → Bool
  | ⟨.results _, answers⟩ => (List.ofFn answers).all Except.isOk
  | ⟨.cancelled, told⟩ => !told
  | _ => true

end Exchange

namespace Heard

def after (all : List Heard) (transcript : List Exchange) : List Heard :=
  transcript.foldl (fun all exchange => handOut all exchange.pages) all

/-- Every call for results asks the queries that are not over by then, each once and in order. -/
def AsksUnfinished : List Heard → List Exchange → Prop
  | _, [] => True
  | all, exchange :: transcript =>
    (∀ queries, exchange.call = .results queries → queries = unfinished all) ∧
      AsksUnfinished (handOut all exchange.pages) transcript

variable {columns : Columns} {heard : Heard} {all : List Heard}

@[simp] theorem ended_hear (page : ResultsPage) :
    (heard.hear page).ended = (heard.ended || page.status.isTerminal) := by
  simp [ended, hear]

theorem orderly_hear (page : ResultsPage) (h : heard.ended = false) :
    (heard.hear page).Orderly := by
  simpa [Orderly, Heard.hear, ended] using h

theorem Orderly.eq_nothing_or_hear (h : heard.Orderly) :
    (∃ query, heard = nothing query) ∨
      ∃ (earlier : Heard) (page : ResultsPage), earlier.ended = false ∧
      heard = earlier.hear page := by
  obtain ⟨query, pages⟩ := heard
  rcases List.eq_nil_or_concat pages with rfl | ⟨earlier, page, rfl⟩
  · exact .inl ⟨query, rfl⟩
  · exact .inr ⟨⟨query, earlier⟩, page, by simpa [Orderly, ended] using h, by simp [hear]⟩

theorem statistics?_hear (page : ResultsPage) :
    (heard.hear page).statistics? = (page.statistics? <|> heard.statistics?) := by
  simp only [statistics?, hear, List.reverse_append, List.reverse_singleton,
    List.singleton_append,
    List.findSome?_cons]
  cases page.statistics? <;> rfl

theorem poll_hear (page : ResultsPage) :
    (heard.hear page).poll columns = (heard.poll columns).receive columns page := by
  simp only [poll, RegionPoll.receive, statistics?_hear]
  simp [hear, state, rows]

theorem settled_ofStatus (status : QueryStatus) :
    (RegionState.ofStatus status).settled = status.isTerminal := by
  cases status <;> rfl

theorem Orderly.settled_poll (h : heard.Orderly) :
    (heard.poll columns).settled = heard.ended := by
  rcases h.eq_nothing_or_hear with ⟨query, rfl⟩ | ⟨earlier, page, running, rfl⟩
  · rfl
  · rw [poll_hear, ended_hear, running, Bool.false_or]
    exact settled_ofStatus page.status

theorem start_regions (shown? : Option (List String)) (queries : List StartedQuery) :
    (Polling.start columns shown? queries).regions =
      (queries.map nothing).map (poll columns) := by
  rw [List.map_map]
  rfl

theorem handOut_nil (all : List Heard) : handOut all [] = all := by
  induction all with
  | nil => rfl
  | cons heard others ih => simp [handOut, ih]

theorem handOut_query (all : List Heard) (pages : List ResultsPage) :
    (handOut all pages).map query = all.map query := by
  fun_induction handOut all pages with
  | case1 => rfl
  | case2 heard others pages ended ih => simp [ih]
  | case3 heard others ended => rfl
  | case4 heard others ended page pages ih => simp [ih, hear]

theorem handOut_of_ended {i : Nat} (h : all[i]? = some heard) (ended : heard.ended = true)
    (pages : List ResultsPage) : (handOut all pages)[i]? = some heard := by
  fun_induction handOut all pages generalizing i with
  | case1 => exact h
  | case3 first others running => exact h
  | case2 first others pages ended' ih =>
      cases i with
      | zero => exact h
      | succ i => exact ih h
  | case4 first others running page pages ih =>
      cases i with
      | succ i => exact ih h
      | zero =>
          cases h
          exact absurd ended running

theorem receiveAll_poll (orderly : ∀ heard ∈ all, heard.Orderly) (pages : List ResultsPage) :
    RegionPoll.receiveAll columns (all.map (poll columns)) (pages.map .ok) =
      .ok ((handOut all pages).map (poll columns)) := by
  fun_induction handOut all pages with
  | case1 => rfl
  | case2 heard others pages ended ih =>
      obtain ⟨first, orderly⟩ := List.forall_mem_cons.mp orderly
      simp only [List.map_cons, RegionPoll.receiveAll, first.settled_poll]
      rw [if_pos ended, ih orderly]
      rfl
  | case3 heard others ended =>
      obtain ⟨first, orderly⟩ := List.forall_mem_cons.mp orderly
      simp only [List.map_cons, RegionPoll.receiveAll, first.settled_poll]
      rw [if_neg ended]
      rfl
  | case4 heard others ended page pages ih =>
      obtain ⟨first, orderly⟩ := List.forall_mem_cons.mp orderly
      simp only [List.map_cons, RegionPoll.receiveAll, first.settled_poll]
      rw [if_neg ended, ih orderly, poll_hear]
      rfl

theorem unsettled_poll (orderly : ∀ heard ∈ all, heard.Orderly) :
    ((all.map (poll columns)).filter fun region => !region.settled).map RegionPoll.query =
      unfinished all := by
  rw [List.filter_map, List.map_map, unfinished]
  have same : all.filter ((fun region : RegionPoll => !region.settled) ∘ poll columns) =
      all.filter fun heard => !heard.ended :=
    List.filter_congr fun heard hmem => congrArg not (orderly heard hmem).settled_poll
  rw [same]
  rfl

/-- What a round leaves of what has been heard: a page comes in unless the query is over. -/
inductive Hears (earlier : Heard) : Heard → Prop
  | kept (ended : earlier.ended = true) : Hears earlier earlier
  | heard (page : ResultsPage) (running : earlier.ended = false) :
      Hears earlier (earlier.hear page)

theorem handOut_hears {pages : List ResultsPage} (full : pages.length = (unfinished all).length) :
    List.Forall₂ Hears all (handOut all pages) := by
  fun_induction handOut all pages with
  | case1 => exact .nil
  | case2 heard others pages ended ih =>
      exact .cons (.kept ended) (ih (by simpa [unfinished, ended] using full))
  | case3 heard others ended =>
      rw [Bool.not_eq_true] at ended
      simp [unfinished, ended] at full
  | case4 heard others ended page pages ih =>
      rw [Bool.not_eq_true] at ended
      exact .cons (.heard page ended) (ih (by simpa [unfinished, ended] using full))

/-- What has been heard after a number of rounds: a page for each round until the query is
over. -/
structure Rounded (rounds : Nat) (heard : Heard) : Prop where
  orderly : heard.Orderly
  length_le : heard.pages.length ≤ rounds
  length_eq : heard.ended = false → heard.pages.length = rounds

theorem Rounded.hears {rounds : Nat} {later : Heard} (h : heard.Rounded rounds)
    (hears : heard.Hears later) : later.Rounded (rounds + 1) := by
  cases hears with
  | kept ended => exact ⟨h.orderly, by have := h.length_le; omega, by simp [ended]⟩
  | heard page running =>
      have length : (heard.hear page).pages.length = rounds + 1 := by
        simp [hear, h.length_eq running]
      exact ⟨orderly_hear page running, Nat.le_of_eq length, fun _ => length⟩

section

variable {later : List Heard} (hears : List.Forall₂ Hears all later)

include hears

theorem rounded_of_hears {rounds : Nat} (rounded : ∀ heard ∈ all, heard.Rounded rounds) :
    ∀ heard ∈ later, heard.Rounded (rounds + 1) := by
  induction hears with
  | nil => simp
  | cons first others ih =>
      obtain ⟨rounded, others⟩ := List.forall_mem_cons.mp rounded
      exact List.forall_mem_cons.mpr ⟨rounded.hears first, ih others⟩

theorem exists_length_of_hears {rounds : Nat} (rounded : ∀ heard ∈ all, heard.Rounded rounds)
    (running : ∃ heard ∈ all, heard.ended = false) :
    ∃ heard ∈ later, heard.pages.length = rounds + 1 := by
  induction hears with
  | nil => simp at running
  | cons first others ih =>
      obtain ⟨rounded, hothers⟩ := List.forall_mem_cons.mp rounded
      rw [List.exists_mem_cons_iff] at running
      refine List.exists_mem_cons_iff .. |>.mpr ?_
      cases first with
      | heard page running =>
          refine .inl ?_
          simp [hear, rounded.length_eq running]
      | kept ended =>
          refine .inr (ih hothers (running.resolve_left ?_))
          rw [ended]
          exact Bool.noConfusion

end

theorem rounded_nothing (queries : List StartedQuery) :
    ∀ heard ∈ queries.map nothing, heard.Rounded 0 := by
  simp only [List.forall_mem_map]
  exact fun query _ => ⟨by simp [Orderly, nothing], Nat.le_refl 0, fun _ => rfl⟩

theorem Orderly.rounds_eq (h : heard.Orderly) (ended : heard.ended = true) :
    heard.rounds = heard.pages.length := by
  rcases h.eq_nothing_or_hear with ⟨query, rfl⟩ | ⟨earlier, page, running, rfl⟩
  · cases ended
  · have last : page.status.isTerminal = true := by simpa [running] using ended
    have before : ∀ page ∈ earlier.pages, page.status.isTerminal = false := by
      simpa [Heard.ended] using running
    simp [rounds, hear, List.findIdx_append, List.findIdx_eq_length_of_false before, last]

theorem Orderly.failed_eq (h : heard.Orderly) :
    heard.failed = decide ((heard.poll columns).state = .failed) := by
  rcases h.eq_nothing_or_hear with ⟨query, rfl⟩ | ⟨earlier, page, running, rfl⟩
  · rfl
  · have before : earlier.pages.find? (fun page => page.status.isTerminal) = none := by
      simpa [ended] using running
    rw [poll_hear]
    simp only [RegionPoll.receive, failed, hear, List.find?_append, before]
    obtain ⟨status, rows, valueRows, statistics?⟩ := page
    cases status <;> rfl

@[simp] theorem after_nil (all : List Heard) : after all [] = all := rfl

@[simp] theorem after_cons (all : List Heard) (exchange : Exchange) (transcript : List Exchange) :
    after all (exchange :: transcript) = after (handOut all exchange.pages) transcript := rfl

theorem after_append (all : List Heard) (earlier later : List Exchange) :
    after all (earlier ++ later) = after (after all earlier) later :=
  List.foldl_append

theorem after_query (all : List Heard) (transcript : List Exchange) :
    (after all transcript).map query = all.map query := by
  induction transcript generalizing all with
  | nil => rfl
  | cons exchange transcript ih => rw [after_cons, ih, handOut_query]

theorem after_of_ended {i : Nat} (h : all[i]? = some heard) (ended : heard.ended = true)
    (transcript : List Exchange) : (after all transcript)[i]? = some heard := by
  induction transcript generalizing all with
  | nil => exact h
  | cons exchange transcript ih => exact ih (handOut_of_ended h ended exchange.pages)

theorem asksUnfinished_append {earlier later : List Exchange} :
    AsksUnfinished all (earlier ++ later) ↔
      AsksUnfinished all earlier ∧ AsksUnfinished (after all earlier) later := by
  induction earlier generalizing all with
  | nil => simp [AsksUnfinished]
  | cons exchange earlier ih => simp [AsksUnfinished, ih, and_assoc]

end Heard

theorem Exchange.pages_eq_nil {exchange : Exchange} (h : ¬exchange.isRound) :
    exchange.pages = [] := by
  obtain ⟨c, answer⟩ := exchange
  cases c <;> first | rfl | exact absurd rfl h

theorem Heard.after_of_not_isRound {transcript : List Exchange}
    (h : ∀ exchange ∈ transcript, ¬exchange.isRound) (all : List Heard) :
    after all transcript = all ∧ AsksUnfinished all transcript := by
  induction transcript with
  | nil => exact ⟨rfl, trivial⟩
  | cons exchange transcript ih =>
      obtain ⟨first, later⟩ := List.forall_mem_cons.mp h
      rw [after_cons, AsksUnfinished, Exchange.pages_eq_nil first, handOut_nil]
      refine ⟨(ih later).1, fun queries asked => ?_, (ih later).2⟩
      obtain ⟨c, answer⟩ := exchange
      cases asked
      exact absurd rfl first

theorem eq_map_ok {answers : List (Except CallFailure ResultsPage)}
    (h : answers.all Except.isOk = true) :
    answers = (answers.filterMap Except.toOption).map .ok := by
  induction answers with
  | nil => rfl
  | cons answer answers ih =>
      cases answer with
      | error failure => cases h
      | ok page => exact congrArg (List.cons _) (ih h)

end LogQuery
