import LogQuery.Files.QueryFiles
import LogQuery.Proofs.Files.Tree
import LogQuery.Proofs.Text.Digits
import LogQuery.Proofs.Text.Joined

namespace LogQuery

open Files Text

namespace QueryFiles

variable {files : QueryFiles} {name : String}

/-! ### Names and paths -/

theorem isNameChar_iff {c : Char} :
    isNameChar c = true ↔ c.isAlphanum = true ∨ c = '_' ∨ c = '-' := by
  have upper : c.isUpper = true ↔ 'A' ≤ c ∧ c ≤ 'Z' := decide_eq_true_iff
  have lower : c.isLower = true ↔ 'a' ≤ c ∧ c ≤ 'z' :=
    Bool.and_eq_true_iff.trans (and_congr decide_eq_true_iff decide_eq_true_iff)
  have letter : c.isAlpha = true ↔ c.isUpper = true ∨ c.isLower = true := Bool.or_eq_true_iff
  have word : c.isAlphanum = true ↔ c.isAlpha = true ∨ c.isDigit = true := Bool.or_eq_true_iff
  simp only [isNameChar, isDigit_eq, Bool.or_eq_true, Bool.and_eq_true,
    decide_eq_true_eq, beq_iff_eq]
  rw [word, letter, upper, lower]
  simp only [or_assoc, or_left_comm, or_comm]

theorem isName_iff :
    isName name = true ↔
      name ≠ "" ∧ ∀ c ∈ name.toList, c.isAlphanum = true ∨ c = '_' ∨ c = '-' := by
  simp [isName, isNameChar_iff]

theorem not_mem_of_isName (fit : isName name = true) {c : Char} (other : isNameChar c = false) :
    c ∉ name.toList := by
  intro hmem
  rw [isName, Bool.and_eq_true, List.all_eq_true] at fit
  rw [fit.2 c hmem] at other
  cases other

theorem splitOn_path (fit : isName name = true) :
    splitOn '/' (files.path name) = splitOn '/' files.folder ++ [name] ∨
      ∃ front, splitOn '/' files.folder = front ++ [""] ∧
        splitOn '/' (files.path name) = front ++ [name] := by
  have unbroken : cut '/' name.toList = [name.toList] :=
    cut_of_not_mem (not_mem_of_isName fit rfl)
  have relative : ¬name.startsWith "/" = true := by
    rw [String.startsWith_string_iff]
    intro starts
    exact not_mem_of_isName fit (c := '/') rfl (starts.subset (by simp))
  rw [path, Path.join, if_neg relative]
  split
  · next ends =>
    right
    rcases Bool.or_eq_true_iff.mp ends with empty | slash
    · refine ⟨[], ?_⟩
      rw [String.isEmpty_iff] at empty
      simp [empty, splitOn, cut, unbroken]
    · obtain ⟨front, same⟩ :=
        (String.Slice.endsWith_string_iff (s := files.folder.toSlice)).mp slash
      rw [String.copy_toSlice] at same
      refine ⟨(cut '/' front).map String.ofList, ?_⟩
      simp only [splitOn, String.toList_append, ← same, List.append_assoc]
      simp [cut_append_sep, unbroken, cut]
  · left
    simp [splitOn, cut_append_sep, unbroken]

/-- The way of the folder, where it can be walked. -/
def home? (files : QueryFiles) (root : Node) : Except FileFault (List String) :=
  (splitOn '/' files.folder).foldlM root.step []

theorem home?_of_locate {root : Node} {way : List String}
    (located : root.locate files.folder = .ok way) :
    files.home? root = .ok way := by
  rw [Node.locate] at located
  split at located
  · cases located
  · exact located

theorem step_name {root : Node} {home way : List String} (fit : isName name = true)
    (steps : root.step home name = .ok way) : way = home ++ [name] := by
  have full : name.isEmpty = false := by simpa using (isName_iff.mp fit).1
  have pointless : '.' ∉ name.toList := not_mem_of_isName fit rfl
  have differs (points : String) (hmem : '.' ∈ points.toList) : (name == points) = false := by
    rw [beq_eq_false_iff_ne]
    rintro rfl
    exact pointless hmem
  rw [Node.step_of_folder (Node.thing?_of_step steps)] at steps
  simp only [full, differs "." (by decide), differs ".." (by decide), Bool.or_self,
    Bool.false_eq_true, if_false] at steps
  split_ifs at steps
  exact (Except.ok.inj steps).symm

theorem locate_path {root : Node} {way : List String} (fit : isName name = true)
    (located : root.locate (files.path name) = .ok way) :
    ∃ home, files.home? root = .ok home ∧ root.thing? home = some .folder ∧
    way = home ++ [name] := by
  rw [Node.locate] at located
  split at located
  · cases located
  · have last (front : List String)
        (walk : (front ++ [name]).foldlM root.step [] = .ok way) :
        ∃ home, front.foldlM root.step [] = .ok home ∧ root.step home name = .ok way := by
      rw [List.foldlM_append] at walk
      cases reached : front.foldlM root.step [] with
      | error fault => rw [reached] at walk; cases walk
      | ok home =>
          rw [reached] at walk
          refine ⟨home, rfl, ?_⟩
          cases steps : root.step home name with
          | error fault => simp [Bind.bind, Except.bind, steps] at walk
          | ok other => simpa [Bind.bind, Except.bind, Pure.pure, Except.pure, steps] using walk
    rcases @splitOn_path files name fit with parts | ⟨front, folder, parts⟩
    · rw [parts] at located
      obtain ⟨home, reached, steps⟩ := last _ located
      exact ⟨home, reached, Node.thing?_of_step steps, step_name fit steps⟩
    · rw [parts] at located
      obtain ⟨home, reached, steps⟩ := last _ located
      have leads := Node.thing?_of_step steps
      refine ⟨home, ?_, leads, step_name fit steps⟩
      have stays : root.step home "" = .ok home := Node.step_of_folder leads ""
      rw [home?, folder, List.foldlM_append, reached]
      simp [Bind.bind, Except.bind, Pure.pure, Except.pure, stays]

/-! ### Operations in a tree -/

def inTree {α : Type} (operation : ExceptT QueryFileError (StateM Node) α) (root : Node) :
    Except QueryFileError α × Node :=
  (operation.run.run root).run

section InTree

variable {α β : Type} {operation : ExceptT QueryFileError (StateM Node) α} {root after : Node}

theorem inTree_bind (operation : ExceptT QueryFileError (StateM Node) α)
    (next : α → ExceptT QueryFileError (StateM Node) β) (root : Node) :
    inTree (operation >>= next) root =
      match inTree operation root with
      | (.ok a, middle) => inTree (next a) middle
      | (.error problem, middle) => (.error problem, middle) := by
  simp only [inTree, ExceptT.run_bind, StateT.run_bind, Id.run_bind]
  rcases (operation.run.run root).run with ⟨_ | _, _⟩ <;> rfl

@[simp] theorem inTree_pure (a : α) (root : Node) : inTree (pure a) root = (.ok a, root) :=
  rfl

@[simp] theorem inTree_throw (problem : QueryFileError) (root : Node) :
    inTree (throw problem : ExceptT QueryFileError (StateM Node) α) root =
      (.error problem, root) :=
  rfl

@[simp] theorem inTree_lift (operation : StateM Node α) (root : Node) :
    inTree (liftM operation) root =
      (.ok (operation.run root).run.1, (operation.run root).run.2) :=
  rfl

theorem inTree_map (f : α → β) (operation : ExceptT QueryFileError (StateM Node) α)
    (root : Node) :
    inTree (f <$> operation) root =
      ((inTree operation root).1.map f, (inTree operation root).2) := by
  rw [map_eq_pure_bind, inTree_bind]
  rcases inTree operation root with ⟨_ | _, _⟩ <;> rfl

@[simp] theorem inTree_attempt (problem : FileFault → QueryFileError)
    (operation : StateM Node (Except FileFault α)) (root : Node) :
    inTree (attempt problem operation) root =
      ((operation.run root).run.1.mapError problem, (operation.run root).run.2) := by
  rw [attempt, inTree_bind, inTree_lift]
  cases (operation.run root).run.1 <;> rfl

/-- The second part of an operation is done if the first one goes well. -/
theorem inTree_bind_cases {next : α → ExceptT QueryFileError (StateM Node) β}
    {answer : Except QueryFileError β}
    (runs : inTree (operation >>= next) root = (answer, after)) :
    (∃ problem, inTree operation root = (.error problem, after) ∧ answer = .error problem) ∨
      ∃ a middle, inTree operation root = (.ok a, middle) ∧
      inTree (next a) middle = (answer, after) := by
  rw [inTree_bind] at runs
  split at runs
  · next a middle first => exact .inr ⟨a, middle, first, runs⟩
  · next problem middle first =>
    cases runs
    exact .inl ⟨problem, first, rfl⟩

/-- A change that is attempted is made, or the tree stays as it is. -/
theorem inTree_change {problem : FileFault → QueryFileError}
    {operation : StateM Node (Except FileFault Unit)} {change : Except FileFault Node}
    (changes : (operation.run root).run = root.outcome change)
    {answer : Except QueryFileError Unit}
    (runs : inTree (attempt problem operation) root = (answer, after)) :
    (∃ fault, answer = .error (problem fault) ∧ after = root) ∨ answer = .ok () ∧
    change = .ok after := by
  rw [inTree_attempt, changes] at runs
  cases change with
  | error fault =>
      cases runs
      exact .inl ⟨fault, rfl, rfl⟩
  | ok tree =>
      cases runs
      exact .inr ⟨rfl, rfl⟩

end InTree

/-- A tree is as before, or the folder was missing and folders on the path to it are added. -/
def Opened (files : QueryFiles) (before after : Node) : Prop :=
  after = before ∨
    (∀ node, before.find files.folder ≠ .ok node) ∧
      before.AddsFolders after [] (splitOn '/' files.folder)

theorem mem_of_list {tree : Node} {entries : List FolderEntry}
    (listed : tree.list files.folder = .ok entries) :
    ∃ home, files.home? tree = .ok home ∧ tree.thing? home = some .folder ∧
      ∀ name text, tree.thing? (home ++ [name]) = some (.file text) →
        name ∈ ((entries.filter FolderEntry.isFile).map FolderEntry.name).mergeSort
          fun a b => decide (a ≤ b) := by
  obtain ⟨home, within, located, here, rfl⟩ := Node.list_eq_ok listed
  refine ⟨home, home?_of_locate located, Node.thing?_eq_folder_iff.mpr ⟨within, here⟩, ?_⟩
  intro name text seen
  rw [Node.thing?_eq_file_iff, Node.at?_append, here, Option.bind_some] at seen
  obtain ⟨node, found, same⟩ := Option.bind_eq_some_iff.mp seen
  cases same
  obtain ⟨front, back, rfl, -⟩ := List.lookup_eq_some_iff.mp found
  rw [List.mem_mergeSort, List.mem_map]
  exact ⟨⟨name, true⟩, by simp [Node.isFile], rfl⟩

theorem Opened.keeps {before after : Node} {way : List String} {seen : Node.Thing}
    (opened : files.Opened before after) (found : before.thing? way = some seen) :
    after.thing? way = some seen := by
  rcases opened with rfl | ⟨-, adds⟩
  · exact found
  · exact adds.keeps found

theorem Opened.missing {before after : Node} {way : List String}
    (opened : files.Opened before after) (unseen : after.thing? way = none) :
    before.thing? way = none := by
  cases found : before.thing? way with
  | none => rfl
  | some seen => exact absurd (opened.keeps found) (by simp [unseen])

theorem Opened.file {before after : Node} {way : List String} {text : String}
    (opened : files.Opened before after) (seen : after.thing? way = some (.file text)) :
    before.thing? way = some (.file text) := by
  rcases opened with rfl | ⟨-, adds⟩
  · exact seen
  · rcases adds way with same | ⟨-, made, -⟩
    · rw [← same, seen]
    · rw [made] at seen
      cases seen

theorem inTree_entries {α : Type} {tree after : Node} {answer : Except QueryFileError α}
    {result : List FolderEntry → α}
    (runs : inTree (do
      let entries ← attempt (.cannotRead files.folder) (Node.fileSystem.entries files.folder)
      pure (result entries)) tree = (answer, after)) :
    after = tree ∧
      ∀ a, answer = .ok a → ∃ entries, tree.list files.folder = .ok entries ∧
      a = result entries := by
  rw [inTree_bind, inTree_attempt, Node.run_entries] at runs
  cases listed : tree.list files.folder with
  | error fault =>
      rw [listed] at runs
      cases runs
      exact ⟨rfl, nofun⟩
  | ok entries =>
      rw [listed] at runs
      cases runs
      exact ⟨rfl, fun a same => ⟨entries, rfl, (Except.ok.inj same).symm⟩⟩

theorem inTree_list {root after : Node} {answer : Except QueryFileError (List String)}
    (runs : inTree (files.list Node.fileSystem) root = (answer, after)) :
    files.Opened root after ∧
      ∀ names, answer = .ok names → ∃ home, files.home? after = .ok home ∧
        after.thing? home = some .folder ∧
        ∀ name text, after.thing? (home ++ [name]) = some (.file text) → name ∈ names := by
  have known (names : List String)
      (given : ∃ entries, after.list files.folder = .ok entries ∧
        names = ((entries.filter FolderEntry.isFile).map FolderEntry.name).mergeSort
          fun a b => decide (a ≤ b)) :
      ∃ home, files.home? after = .ok home ∧ after.thing? home = some .folder ∧
        ∀ name text, after.thing? (home ++ [name]) = some (.file text) → name ∈ names := by
    obtain ⟨entries, listed, rfl⟩ := given
    exact mem_of_list listed
  rw [list, inTree_bind, inTree_lift, Node.run_isPresent] at runs
  cases found : root.find files.folder with
  | ok node =>
      simp only [found, if_true] at runs
      obtain ⟨rfl, names⟩ := inTree_entries runs
      exact ⟨.inl rfl, fun a same => known a (names a same)⟩
  | error fault =>
      -- the folder is made before it is read
      have opened : files.Opened root (root.createFolders files.folder).2 :=
        .inr ⟨by simp [found], Node.addsFolders_createFolders _ _⟩
      simp only [found, Bool.false_eq_true, if_false] at runs
      rcases inTree_bind_cases runs with ⟨problem, made, rfl⟩ | ⟨_, middle, made, runs⟩
      · rw [inTree_attempt, Node.run_createFolders] at made
        exact ⟨(Prod.mk.inj made).2 ▸ opened, nofun⟩
      · rw [inTree_attempt, Node.run_createFolders] at made
        obtain ⟨rfl, names⟩ := inTree_entries runs
        exact ⟨(Prod.mk.inj made).2 ▸ opened, fun a same => known a (names a same)⟩

/-- A name that has been checked can be one, and no file has it but the file that is to be
renamed. -/
theorem inTree_validate {root after : Node} {answer : Except QueryFileError Unit}
    {existing? : Option String}
    (runs : inTree (files.validate Node.fileSystem name existing?) root = (answer, after)) :
    files.Opened root after ∧
      (answer = .ok () → isName name = true ∧ (existing? = some name ∨
        ∃ home, files.home? after = .ok home ∧ after.thing? home = some .folder ∧
          ∀ text, after.thing? (home ++ [name]) ≠ some (.file text))) := by
  rw [validate] at runs
  by_cases fit : isName name = true
  · rw [if_pos fit] at runs
    by_cases same : existing? = some name
    · simp only [same, if_true, inTree_pure] at runs
      cases runs
      exact ⟨.inl rfl, fun _ => ⟨fit, .inl same⟩⟩
    · simp only [same, if_false] at runs
      rcases inTree_bind_cases runs with ⟨problem, listed, rfl⟩ | ⟨names, middle, listed, runs⟩
      · exact ⟨(inTree_list listed).1, nofun⟩
      · obtain ⟨opened, known⟩ := inTree_list listed
        by_cases used : names.contains name = true
        · simp only [used, if_true, inTree_throw] at runs
          cases runs
          exact ⟨opened, nofun⟩
        · simp only [used] at runs
          cases runs
          obtain ⟨home, reached, leads, all⟩ := known names rfl
          refine ⟨opened, fun _ => ⟨fit, .inr ⟨home, reached, leads, fun text seen => used ?_⟩⟩⟩
          exact List.contains_iff_mem.mpr (all name text seen)
  · rw [if_neg fit, inTree_bind, inTree_throw] at runs
    cases runs
    exact ⟨.inl rfl, nofun⟩

theorem inTree_existingPath {root after : Node} {answer : Except QueryFileError String}
    (runs : inTree (files.existingPath Node.fileSystem name) root = (answer, after)) :
    after = root ∧ ∀ path, answer = .ok path → path = files.path name ∧ isName name = true := by
  rw [existingPath] at runs
  by_cases fit : isName name = true
  · simp only [fit, if_true, inTree_bind, inTree_lift, Node.run_isFile] at runs
    split at runs
    · cases runs
      exact ⟨rfl, fun path same => ⟨(Except.ok.inj same).symm, fit⟩⟩
    · cases runs
      exact ⟨rfl, nofun⟩
  · rw [if_neg fit, inTree_bind, inTree_throw] at runs
    cases runs
    exact ⟨rfl, nofun⟩

/-- An operation in a folder, with what it is about. -/
inductive Operation where
  | list
  | validate (name : String) (existing? : Option String)
  | create (name : String)
  | rename (old new : String)
  | delete (name : String)
  | read (name : String)
deriving DecidableEq, Repr

/-- What an operation gives. -/
inductive Result where
  | done
  | path (path : String)
  | names (names : List String)
  | text (text : String)
deriving DecidableEq, Repr

namespace Operation

def perform (files : QueryFiles) : Operation → ExceptT QueryFileError (StateM Node) Result
  | list => .names <$> files.list Node.fileSystem
  | validate name existing? => (fun _ => .done) <$> files.validate Node.fileSystem name existing?
  | create name => .path <$> files.create Node.fileSystem name
  | rename old new => .path <$> files.rename Node.fileSystem old new
  | delete name => (fun _ => .done) <$> files.delete Node.fileSystem name
  | read name => .text <$> files.read Node.fileSystem name

/-- What an operation does to what is seen in a tree, by its answer. -/
def Effect (files : QueryFiles) (before after : Node) :
    Operation → Except QueryFileError Result → Prop
  | list, _ | validate _ _, _ | create _, .error _ | rename _ _, .error _ =>
    files.Opened before after
  | read _, _ | delete _, .error _ => after = before
  | create name, .ok _ =>
    isName name = true ∧ ∃ opened home, files.Opened before opened ∧
      opened.locate (files.path name) = .ok (home ++ [name]) ∧
      opened.thing? (home ++ [name]) = none ∧
      after.thing? = Function.update opened.thing? (home ++ [name]) (some (.file ""))
  | rename old new, .ok _ =>
    isName new = true ∧ ∃ opened home text, files.Opened before opened ∧
      opened.locate (files.path old) = .ok (home ++ [old]) ∧
      opened.locate (files.path new) = .ok (home ++ [new]) ∧
      opened.thing? (home ++ [old]) = some (.file text) ∧
      (new ≠ old → opened.thing? (home ++ [new]) = none) ∧
      after.thing? = Function.update (Function.update opened.thing? (home ++ [old]) none)
        (home ++ [new]) (some (.file text))
  | delete name, .ok _ =>
    ∃ home text, before.locate (files.path name) = .ok (home ++ [name]) ∧
      before.thing? (home ++ [name]) = some (.file text) ∧
      after.thing? = Function.update before.thing? (home ++ [name]) none

end Operation

section Effects

variable {root after : Node} {answer : Except QueryFileError String}

theorem inTree_create (runs : inTree (files.create Node.fileSystem name) root = (answer, after)) :
    (∀ problem, answer = .error problem → files.Opened root after) ∧
      ∀ path, answer = .ok path → isName name = true ∧ ∃ opened home, files.Opened root opened ∧
        opened.locate (files.path name) = .ok (home ++ [name]) ∧
        opened.thing? (home ++ [name]) = none ∧
        after.thing? = Function.update opened.thing? (home ++ [name]) (some (.file "")) := by
  rw [create] at runs
  rcases inTree_bind_cases runs with ⟨problem, checked, rfl⟩ | ⟨_, opened, checked, runs⟩
  · exact ⟨fun _ _ => (inTree_validate checked).1, nofun⟩
  obtain ⟨opens, fits⟩ := inTree_validate checked
  obtain ⟨fit, other | ⟨home, reached, leads, unused⟩⟩ := fits rfl
  · cases other
  rcases inTree_bind_cases runs with ⟨problem, writes, rfl⟩ | ⟨_, tree, writes, runs⟩
  · rcases inTree_change (Node.run_write ..) writes with ⟨fault, -, rfl⟩ | ⟨done, -⟩
    · exact ⟨fun _ _ => opens, nofun⟩
    · cases done
  · rcases inTree_change (Node.run_write ..) writes with ⟨fault, fails, -⟩ | ⟨-, written⟩
    · cases fails
    cases runs
    obtain ⟨way, old?, located, seen, rfl⟩ := Node.write_eq_ok written
    obtain ⟨place, walked, -, rfl⟩ := locate_path fit located
    -- the folder that is written to is the one in which the name was looked for
    obtain rfl : place = home := Except.ok.inj (walked.symm.trans reached)
    have free : opened.thing? (place ++ [name]) = none := by
      cases old? with
      | none => exact seen
      | some text => exact absurd seen (unused text)
    exact ⟨nofun, fun path same => ⟨fit, opened, place, opens, located, free,
      Node.thing?_put leads (by simp [free]) rfl⟩⟩

theorem inTree_rename {old new : String}
    (runs : inTree (files.rename Node.fileSystem old new) root = (answer, after)) :
    (∀ problem, answer = .error problem → files.Opened root after) ∧
      ∀ path, answer = .ok path → isName new = true ∧
      ∃ opened home text, files.Opened root opened ∧
        opened.locate (files.path old) = .ok (home ++ [old]) ∧
        opened.locate (files.path new) = .ok (home ++ [new]) ∧
        opened.thing? (home ++ [old]) = some (.file text) ∧
        (new ≠ old → opened.thing? (home ++ [new]) = none) ∧
        after.thing? = Function.update (Function.update opened.thing? (home ++ [old]) none)
          (home ++ [new]) (some (.file text)) := by
  rw [rename] at runs
  rcases inTree_bind_cases runs with ⟨problem, checked, rfl⟩ | ⟨_, opened, checked, runs⟩
  · exact ⟨fun _ _ => (inTree_validate checked).1, nofun⟩
  obtain ⟨opens, fits⟩ := inTree_validate checked
  obtain ⟨fit, unused⟩ := fits rfl
  rcases inTree_bind_cases runs with ⟨problem, found, rfl⟩ | ⟨path, middle, found, runs⟩
  · obtain ⟨rfl, -⟩ := inTree_existingPath found
    exact ⟨fun _ _ => opens, nofun⟩
  obtain ⟨rfl, known⟩ := inTree_existingPath found
  obtain ⟨rfl, fitted⟩ := known path rfl
  rcases inTree_bind_cases runs with ⟨problem, renames, rfl⟩ | ⟨_, tree, renames, runs⟩
  · rcases inTree_change (Node.run_rename ..) renames with ⟨fault, -, rfl⟩ | ⟨done, -⟩
    · exact ⟨fun _ _ => opens, nofun⟩
    · cases done
  · rcases inTree_change (Node.run_rename ..) renames with ⟨fault, fails, -⟩ | ⟨-, renamed⟩
    · cases fails
    cases runs
    obtain ⟨origin, goal, text, old?, located, aimed, seen, there, rfl⟩ :=
      Node.rename_eq_ok renamed
    obtain ⟨home, reached, leads, rfl⟩ := locate_path fitted located
    obtain ⟨place, walked, -, rfl⟩ := locate_path fit aimed
    -- both names are in the same folder
    obtain rfl : place = home := Except.ok.inj (walked.symm.trans reached)
    have free (differ : new ≠ old) : middle.thing? (place ++ [new]) = none := by
      rcases unused with same | ⟨folder, arrived, -, none'⟩
      · exact absurd (Option.some.inj same).symm differ
      · obtain rfl : folder = place := Except.ok.inj (arrived.symm.trans reached)
        cases old? with
        | none => exact there
        | some other => exact absurd there (none' other)
    have erased := @Node.thing?_erase middle place old leads (by simp [seen])
    refine ⟨nofun, fun path same =>
      ⟨fit, middle, place, text, opens, located, aimed, seen, free, ?_⟩⟩
    rw [← erased]
    refine Node.thing?_put ?_ ?_ rfl
    · rw [erased, Function.update_of_ne (by simp), leads]
    · rw [erased]
      by_cases same : new = old
      · simp [same]
      · rw [Function.update_of_ne (by simpa using same), free same]
        simp

theorem inTree_delete {answer : Except QueryFileError Unit}
    (runs : inTree (files.delete Node.fileSystem name) root = (answer, after)) :
    (∀ problem, answer = .error problem → after = root) ∧
      (answer = .ok () → ∃ home text, root.locate (files.path name) = .ok (home ++ [name]) ∧
        root.thing? (home ++ [name]) = some (.file text) ∧
        after.thing? = Function.update root.thing? (home ++ [name]) none) := by
  rw [delete] at runs
  rcases inTree_bind_cases runs with ⟨problem, found, rfl⟩ | ⟨path, middle, found, runs⟩
  · obtain ⟨rfl, -⟩ := inTree_existingPath found
    exact ⟨fun _ _ => rfl, nofun⟩
  obtain ⟨rfl, known⟩ := inTree_existingPath found
  obtain ⟨rfl, fit⟩ := known path rfl
  rcases inTree_change (Node.run_remove ..) runs with ⟨fault, rfl, rfl⟩ | ⟨rfl, removed⟩
  · exact ⟨fun _ _ => rfl, nofun⟩
  obtain ⟨way, text, located, seen, rfl⟩ := Node.remove_eq_ok removed
  obtain ⟨home, -, leads, rfl⟩ := locate_path fit located
  exact ⟨nofun, fun _ => ⟨home, text, located, seen, Node.thing?_erase leads (by simp [seen])⟩⟩

theorem inTree_read (runs : inTree (files.read Node.fileSystem name) root = (answer, after)) :
    after = root := by
  rw [read] at runs
  rcases inTree_bind_cases runs with ⟨problem, found, rfl⟩ | ⟨path, middle, found, reads⟩
  · exact (inTree_existingPath found).1
  · obtain ⟨rfl, -⟩ := inTree_existingPath found
    rw [inTree_attempt, Node.run_read] at reads
    exact (Prod.mk.inj reads).2.symm

end Effects

namespace Operation

variable {root before after : Node} {operation : Operation}
    {answer : Except QueryFileError Result}

theorem effect_perform (runs : inTree (operation.perform files) root = (answer, after)) :
    operation.Effect files root after answer := by
  cases operation with
  | list =>
      rw [perform, inTree_map] at runs
      cases runs
      exact (inTree_list rfl).1
  | validate name existing? =>
      rw [perform, inTree_map] at runs
      cases runs
      exact (inTree_validate rfl).1
  | create name =>
      rw [perform, inTree_map] at runs
      obtain ⟨failed, done⟩ := @inTree_create files name root _ _ rfl
      cases runs
      cases given : (inTree (files.create Node.fileSystem name) root).1 with
      | error problem => exact failed problem given
      | ok path => exact done path given
  | rename old new =>
      rw [perform, inTree_map] at runs
      obtain ⟨failed, done⟩ := @inTree_rename files root _ _ old new rfl
      cases runs
      cases given : (inTree (files.rename Node.fileSystem old new) root).1 with
      | error problem => exact failed problem given
      | ok path => exact done path given
  | delete name =>
      rw [perform, inTree_map] at runs
      obtain ⟨failed, done⟩ := @inTree_delete files name root _ _ rfl
      cases runs
      cases given : (inTree (files.delete Node.fileSystem name) root).1 with
      | error problem => exact failed problem given
      | ok path => exact done given
  | read name =>
      rw [perform, inTree_map] at runs
      cases runs
      exact inTree_read rfl

/-- What was there stays, but for the file that is to be deleted and the file that is to be
renamed. The text of the latter goes to a name that nothing had. -/
theorem Effect.spares {way : List String} {seen : Node.Thing}
    (effect : operation.Effect files before after answer)
    (found : before.thing? way = some seen) :
    after.thing? way = some seen ∨
      (∃ name home text, operation = .delete name ∧ way = home ++ [name] ∧ seen = .file text) ∨
      ∃ old new home text, operation = .rename old new ∧ way = home ++ [old] ∧ seen = .file text ∧
        before.thing? (home ++ [new]) = none ∧
        after.thing? (home ++ [new]) = some (.file text) := by
  rcases operation with _ | _ | name | ⟨old, new⟩ | name | _ <;> cases answer
  case list.error | list.ok | validate.error | validate.ok | create.error | rename.error =>
    exact .inl (effect.keeps found)
  case delete.error | read.error | read.ok =>
    exact .inl (effect ▸ found)
  case create.ok =>
    obtain ⟨-, opened, home, opens, -, free, changes⟩ := effect
    have kept := opens.keeps found
    have other : way ≠ home ++ [name] := by
      rintro rfl
      simp [free] at kept
    exact .inl (by rw [changes, Function.update_of_ne other, kept])
  case rename.ok =>
    obtain ⟨-, opened, home, text, opens, -, -, there, free, changes⟩ := effect
    have kept := opens.keeps found
    by_cases target : way = home ++ [new]
    · by_cases same : new = old
      · subst target same
        exact .inl (by rw [changes, Function.update_self, ← there, kept])
      · rw [target, free same] at kept
        cases kept
    · by_cases source : way = home ++ [old]
      · subst source
        have differ : new ≠ old := fun same => target (by rw [same])
        rw [there] at kept
        exact .inr (.inr ⟨old, new, home, text, rfl, rfl, (Option.some.inj kept).symm,
          opens.missing (free differ), by rw [changes, Function.update_self]⟩)
      · exact .inl
          (by rw [changes, Function.update_of_ne target, Function.update_of_ne source, kept])
  case delete.ok =>
    obtain ⟨home, text, -, there, changes⟩ := effect
    by_cases source : way = home ++ [name]
    · subst source
      rw [there] at found
      exact .inr (.inl ⟨name, home, text, rfl, rfl, (Option.some.inj found).symm⟩)
    · exact .inl (by rw [changes, Function.update_of_ne source, found])

/-- A file that was not there before has a name that can be one, and nothing had the name
before. -/
theorem Effect.names {home : List String} {name text : String}
    (effect : operation.Effect files before after answer)
    (seen : after.thing? (home ++ [name]) = some (.file text)) :
    before.thing? (home ++ [name]) = some (.file text) ∨
      before.thing? (home ++ [name]) = none ∧ isName name = true := by
  rcases operation with _ | _ | made | ⟨old, new⟩ | gone | _ <;> cases answer
  case list.error | list.ok | validate.error | validate.ok | create.error | rename.error =>
    exact .inl (effect.file seen)
  case delete.error | read.error | read.ok =>
    exact .inl (effect ▸ seen)
  case create.ok =>
    obtain ⟨fit, opened, place, opens, -, free, changes⟩ := effect
    by_cases here : home ++ [name] = place ++ [made]
    · obtain ⟨rfl, same⟩ := List.append_inj' here rfl
      cases same
      exact .inr ⟨opens.missing free, fit⟩
    · rw [changes, Function.update_of_ne here] at seen
      exact .inl (opens.file seen)
  case rename.ok =>
    obtain ⟨fit, opened, place, moved, opens, -, -, there, free, changes⟩ := effect
    by_cases target : home ++ [name] = place ++ [new]
    · obtain ⟨rfl, same⟩ := List.append_inj' target rfl
      cases same
      by_cases stays : name = old
      · subst stays
        rw [changes, Function.update_self, ← there] at seen
        exact .inl (opens.file seen)
      · exact .inr ⟨opens.missing (free stays), fit⟩
    · rw [changes, Function.update_of_ne target] at seen
      by_cases source : home ++ [name] = place ++ [old]
      · rw [source, Function.update_self] at seen
        cases seen
      · rw [Function.update_of_ne source] at seen
        exact .inl (opens.file seen)
  case delete.ok =>
    obtain ⟨place, lost, -, -, changes⟩ := effect
    by_cases source : home ++ [name] = place ++ [gone]
    · rw [changes, source, Function.update_self] at seen
      cases seen
    · rw [changes, Function.update_of_ne source] at seen
      exact .inl seen

end Operation

/-! ### Sequences of operations -/

/-- What happens to a tree: an operation on the query files, or a change by others. -/
inductive Event where
  | operation (operation : Operation)
  | change (tree : Node)

/-- An operation that was done, with the tree before and after it and its answer. -/
structure Turn where
  before : Node
  operation : Operation
  answer : Except QueryFileError Result
  after : Node

/-- The operations that are done while events happen to a tree. -/
def course (files : QueryFiles) : Node → List Event → List Turn
  | _, [] => []
  | _, .change tree :: events => files.course tree events
  | root, .operation operation :: events =>
    let (answer, after) := inTree (operation.perform files) root
    ⟨root, operation, answer, after⟩ :: files.course after events

theorem effect_of_mem_course {root : Node} {events : List Event} {turn : Turn}
    (hmem : turn ∈ files.course root events) :
    turn.operation.Effect files turn.before turn.after turn.answer := by
  induction events generalizing root with
  | nil => cases hmem
  | cons event events ih =>
      cases event with
      | change tree => exact ih hmem
      | operation operation =>
          rcases List.mem_cons.mp hmem with rfl | later
          · exact Operation.effect_perform rfl
          · exact ih later

/-- Whatever others put into the folder, each operation does what it is for and nothing else:
nothing that is there is written over, and new files have names that nothing had. -/
theorem operations_overwrite_nothing (files : QueryFiles) (root : Node) (events : List Event) :
    ∀ turn ∈ files.course root events,
      turn.operation.Effect files turn.before turn.after turn.answer ∧
      (∀ way seen, turn.before.thing? way = some seen →
        turn.after.thing? way = some seen ∨
        (∃ name home text, turn.operation = .delete name ∧ way = home ++ [name] ∧
          seen = .file text) ∨
        ∃ old new home text, turn.operation = .rename old new ∧ way = home ++ [old] ∧
          seen = .file text ∧ turn.before.thing? (home ++ [new]) = none ∧
          turn.after.thing? (home ++ [new]) = some (.file text)) ∧
      ∀ home name text, turn.after.thing? (home ++ [name]) = some (.file text) →
        turn.before.thing? (home ++ [name]) = some (.file text) ∨
        turn.before.thing? (home ++ [name]) = none ∧ name ≠ "" ∧
          ∀ c ∈ name.toList, c.isAlphanum = true ∨ c = '_' ∨ c = '-' := by
  intro turn hmem
  have effect := effect_of_mem_course hmem
  refine ⟨effect, fun way seen found => effect.spares found, fun home name text seen => ?_⟩
  rcases effect.names seen with kept | ⟨free, fit⟩
  · exact .inl kept
  · exact .inr ⟨free, isName_iff.mp fit⟩

theorem operations_overwrite_nothing_beside_folder :
    ∃ turn ∈ course ⟨"q"⟩ (.folder [])
        [.change (.folder [("q", .folder [("taken", .folder []), ("old", .file "text")])]),
          .operation (.rename "old" "new")],
      turn.answer = .ok (.path "q/new") ∧
      turn.operation.Effect ⟨"q"⟩ turn.before turn.after turn.answer ∧
      turn.before.thing? ["q", "new"] = none ∧
      turn.after.thing? ["q", "new"] = some (.file "text") ∧
      turn.after.thing? ["q", "taken"] = some .folder := by
  have hmem := List.mem_singleton_self (Turn.mk
    (.folder [("q", .folder [("taken", .folder []), ("old", .file "text")])])
      (.rename "old" "new")
    (inTree (Operation.perform ⟨"q"⟩ (.rename "old" "new"))
      (.folder [("q", .folder [("taken", .folder []), ("old", .file "text")])])).1
    (inTree (Operation.perform ⟨"q"⟩ (.rename "old" "new"))
      (.folder [("q", .folder [("taken", .folder []), ("old", .file "text")])])).2)
  have sound := operations_overwrite_nothing ⟨"q"⟩ (.folder []) [.change _, .operation _] _ hmem
  exact ⟨_, hmem, by decide +kernel, sound.1, rfl, by decide +kernel, by decide +kernel⟩

end QueryFiles

end LogQuery
