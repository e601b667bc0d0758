import LogQuery.Files.Tree
import Mathlib.Data.List.Infix
import Mathlib.Logic.Function.Basic

/-!
What can be seen in a tree of files, and how its operations change what can be seen.
-/

namespace LogQuery.Files.Node

/-- What can be seen at the end of a way. -/
inductive Thing where
  | file (text : String)
  | folder
deriving DecidableEq, Repr

def thing : Node → Thing
  | file text => .file text
  | folder _ => .folder

def thing? (root : Node) (way : List String) : Option Thing :=
  (root.at? way).map thing

section Ways

variable {root node new : Node} {home way other : List String} {name : String}

theorem at?_append (root : Node) (front back : List String) :
    root.at? (front ++ back) = (root.at? front).bind (at? back) := by
  induction front generalizing root with
  | nil => rfl
  | cons name front ih =>
      rw [List.cons_append, at?, at?, Option.bind_assoc]
      exact Option.bind_congr fun node _ => ih node

theorem thing?_eq_folder_iff :
    root.thing? way = some .folder ↔ ∃ entries, root.at? way = some (folder entries) := by
  rw [thing?, Option.map_eq_some_iff]
  constructor
  · rintro ⟨node, found, seen⟩
    cases node with
    | file text => cases seen
    | folder entries => exact ⟨entries, found⟩
  · rintro ⟨entries, found⟩
    exact ⟨folder entries, found, rfl⟩

theorem thing?_eq_file_iff {text : String} :
    root.thing? way = some (.file text) ↔ root.at? way = some (file text) := by
  rw [thing?, Option.map_eq_some_iff]
  constructor
  · rintro ⟨node, found, seen⟩
    cases node with
    | file other => rwa [← Thing.file.inj seen]
    | folder entries => cases seen
  · intro found
    exact ⟨file text, found, rfl⟩

theorem thing?_eq_none_iff : root.thing? way = none ↔ root.at? way = none :=
  Option.map_eq_none_iff

theorem thing?_of_concat {seen : Thing} (found : root.thing? (home ++ [name]) = some seen) :
    root.thing? home = some .folder := by
  rw [thing?, at?_append] at found
  cases here : root.at? home with
  | none => simp [here] at found
  | some node =>
      cases node with
      | file text => simp [here, at?, entries] at found
      | folder entries => simp [thing?, here, thing]

theorem thing?_dropLast (found : root.thing? way = some .folder) :
    root.thing? way.dropLast = some .folder := by
  rcases List.eq_nil_or_concat way with rfl | ⟨front, last, rfl⟩
  · exact found
  · rw [List.concat_eq_append] at found ⊢
    rw [List.dropLast_concat]
    exact thing?_of_concat found

@[simp] theorem thing?_nil (root : Node) : root.thing? [] = some root.thing :=
  rfl

theorem thing?_cons (root : Node) (name : String) (way : List String) :
    root.thing? (name :: way) = (root.entries.lookup name).bind (thing? · way) := by
  rw [thing?, at?, Option.map_bind]
  rfl

theorem entries_of_thing (bare : node.thing ≠ .folder) : node.entries = [] := by
  cases node with
  | file text => rfl
  | folder entries => exact absurd rfl bare

theorem thing?_cons_of_bare (bare : node.entries = []) (name : String) (way : List String) :
    node.thing? (name :: way) = none := by
  simp [thing?_cons, bare]

theorem thing_of_thing?_cons {seen : Thing} (found : root.thing? (name :: way) = some seen) :
    root.thing = .folder := by
  by_contra bare
  simp [thing?_cons_of_bare (entries_of_thing bare)] at found

/-- A folder whose entry `name` leads to something else, or to nothing, where only the end of the
way was seen before and is seen then. -/
theorem thing?_folder_of_lookup {entries : List (String × Node)} {seen? : Option Thing}
    (here : root.thing = .folder) (free : root.thing? [name] ≠ some .folder)
    (others : ∀ other, other ≠ name → entries.lookup other = root.entries.lookup other)
    (itself : ∀ way,
      (entries.lookup name).bind (thing? · way) = if way = [] then seen? else none) :
    (folder entries).thing? = Function.update root.thing? [name] seen? := by
  funext way
  cases way with
  | nil => rw [Function.update_of_ne (by simp), thing?_nil, thing?_nil, here]; rfl
  | cons first way =>
      rw [thing?_cons, Node.entries]
      by_cases same : first = name
      · subst same
        rw [itself way]
        by_cases ends : way = []
        · simp [ends]
        · have below : root.thing? (first :: way) = none := by
            rw [thing?_cons]
            cases found : root.entries.lookup first with
            | none => rfl
            | some node =>
                have bare : node.thing ≠ .folder := by
                  simpa [thing?_cons, found] using free
                obtain ⟨next, rest, rfl⟩ := List.exists_cons_of_ne_nil ends
                exact thing?_cons_of_bare (entries_of_thing bare) next rest
          rw [if_neg ends, Function.update_of_ne (by simpa using ends), below]
      · rw [others first same, Function.update_of_ne (by simp [same]), thing?_cons]

theorem thing?_put_entry {changed : Node} {seen? : Option Thing} {next : Node}
    (here : root.thing = .folder) (found : root.entries.lookup name = some next)
    (below : changed.thing? = Function.update next.thing? way seen?) :
    (folder (Keyed.put name changed root.entries)).thing? =
      Function.update root.thing? (name :: way) seen? := by
  funext other
  cases other with
  | nil => rw [Function.update_of_ne (by simp), thing?_nil, thing?_nil, here]; rfl
  | cons first rest =>
      rw [thing?_cons, Node.entries]
      by_cases same : first = name
      · subst same
        rw [Keyed.lookup_put_self, Option.bind_some, below]
        by_cases ends : rest = way
        · simp [ends]
        · rw [Function.update_of_ne ends, Function.update_of_ne (by simpa using ends),
            thing?_cons, found, Option.bind_some]
      · rw [Keyed.lookup_put_of_ne same, Function.update_of_ne (by simp [same]), thing?_cons]

/-- A file or an empty folder that is put into a folder is seen there, and nothing else
changes. -/
theorem thing?_put (leads : root.thing? home = some .folder)
    (free : root.thing? (home ++ [name]) ≠ some .folder) (bare : new.entries = []) :
    (root.put (home ++ [name]) new).thing? =
      Function.update root.thing? (home ++ [name]) (some new.thing) := by
  induction home generalizing root with
  | nil =>
      rw [List.nil_append, put, put]
      refine thing?_folder_of_lookup (by simpa using leads) free
        (fun other differ => Keyed.lookup_put_of_ne differ _ _) fun way => ?_
      rw [Keyed.lookup_put_self, Option.bind_some]
      cases way with
      | nil => rfl
      | cons first way => rw [thing?_cons_of_bare bare, if_neg (by simp)]
  | cons first home ih =>
      have here := thing_of_thing?_cons leads
      rw [thing?_cons] at leads
      obtain ⟨next, found, leads⟩ := Option.bind_eq_some_iff.mp leads
      rw [List.cons_append, thing?_cons, found, Option.bind_some] at free
      rw [List.cons_append, put, found, Option.getD_some]
      exact thing?_put_entry here found (ih leads free)

theorem erase_cons (further : way ≠ []) (name : String) (node : Node) :
    node.erase (name :: way) =
      folder (Keyed.put name (((node.entries.lookup name).getD (folder [])).erase way)
        node.entries) := by
  cases way with
  | nil => exact absurd rfl further
  | cons => rfl

/-- What is taken away from a folder is not seen any more, and nothing else changes. -/
theorem thing?_erase (leads : root.thing? home = some .folder)
    (free : root.thing? (home ++ [name]) ≠ some .folder) :
    (root.erase (home ++ [name])).thing? = Function.update root.thing? (home ++ [name]) none := by
  induction home generalizing root with
  | nil =>
      rw [List.nil_append, erase]
      refine thing?_folder_of_lookup (by simpa using leads) free
        (fun other differ => Keyed.lookup_erase_of_ne differ _) fun way => ?_
      simp [Keyed.lookup_erase_self]
  | cons first home ih =>
      have here := thing_of_thing?_cons leads
      rw [thing?_cons] at leads
      obtain ⟨next, found, leads⟩ := Option.bind_eq_some_iff.mp leads
      rw [List.cons_append, thing?_cons, found, Option.bind_some] at free
      rw [List.cons_append, erase_cons (by simp), found, Option.getD_some]
      exact thing?_put_entry here found (ih leads free)

/-! ### Steps along a path -/

theorem step_of_folder (leads : root.thing? way = some .folder) (part : String) :
    root.step way part =
      if part.isEmpty || part == "." then .ok way
      else if part == ".." then .ok way.dropLast
      else if maxNameBytes < part.utf8ByteSize then .error .nameTooLong
      else .ok (way ++ [part]) := by
  obtain ⟨entries, found⟩ := thing?_eq_folder_iff.mp leads
  rw [step, found]

theorem thing?_of_step {part : String} (steps : root.step way part = .ok other) :
    root.thing? way = some .folder := by
  rw [step] at steps
  split at steps
  · cases steps
  · cases steps
  · next entries found => exact thing?_eq_folder_iff.mpr ⟨entries, found⟩

theorem step_eq_ok {part : String} (steps : root.step way part = .ok other) :
    root.thing? other = some .folder ∨ other = way ++ [part] := by
  have leads := thing?_of_step steps
  rw [step_of_folder leads] at steps
  split_ifs at steps
  · exact .inl (Except.ok.inj steps ▸ leads)
  · exact .inl (Except.ok.inj steps ▸ thing?_dropLast leads)
  · exact .inr (Except.ok.inj steps).symm

/-- Steps stay as they are while folders are added. -/
theorem step_of_keeps {grown : Node} {part : String}
    (keeps : root.thing? way = some .folder → grown.thing? way = some .folder)
    (steps : root.step way part = .ok other) : grown.step way part = .ok other := by
  have leads := thing?_of_step steps
  rw [step_of_folder (keeps leads), ← steps, step_of_folder leads]

/-! ### Folders that are made -/

/-- A tree is as another one but for folders that are added on the parts of a path. -/
def AddsFolders (root grown : Node) (start parts : List String) : Prop :=
  ∀ way, grown.thing? way = root.thing? way ∨
    root.thing? way = none ∧ grown.thing? way = some .folder ∧
      ∃ front, front <+: parts ∧ front.foldlM grown.step start = .ok way

theorem AddsFolders.refl (root : Node) (start parts : List String) :
    root.AddsFolders root start parts :=
  fun _ => .inl rfl

theorem AddsFolders.keeps {grown : Node} {start parts : List String} {seen : Thing}
    (adds : root.AddsFolders grown start parts) (found : root.thing? way = some seen) :
    grown.thing? way = some seen := by
  rcases adds way with same | ⟨missing, -⟩
  · rw [same, found]
  · rw [missing] at found
    cases found

theorem AddsFolders.cons {middle grown : Node} {part : String} {parts : List String}
    (steps : root.step way part = .ok other)
    (first : ∀ place, middle.thing? place = root.thing? place ∨
      place = other ∧ root.thing? place = none ∧ middle.thing? place = some .folder)
    (adds : middle.AddsFolders grown other parts) :
    root.AddsFolders grown way (part :: parts) := by
  have held {place : List String} {seen : Thing} (found : root.thing? place = some seen) :
      grown.thing? place = some seen := by
    refine adds.keeps ?_
    rcases first place with same | ⟨-, missing, -⟩
    · rw [same, found]
    · rw [missing] at found
      cases found
  have goes : grown.step way part = .ok other := step_of_keeps held steps
  intro place
  rcases first place with same | ⟨rfl, missing, made⟩
  · rcases adds place with kept | ⟨missing, made, front, leading, reached⟩
    · exact .inl (kept.trans same)
    · refine .inr
        ⟨same ▸ missing, made, part :: front, List.cons_prefix_cons.mpr ⟨rfl, leading⟩, ?_⟩
      rw [List.foldlM_cons, goes]
      exact reached
  · refine .inr ⟨missing, adds.keeps made, [part],
      List.cons_prefix_cons.mpr ⟨rfl, List.nil_prefix⟩, ?_⟩
    rw [List.foldlM_cons, goes]
    rfl

theorem addsFolders_makeFolders (root : Node) (way parts : List String) :
    root.AddsFolders (root.makeFolders way parts).2 way parts := by
  induction parts generalizing root way with
  | nil => exact .refl _ _ _
  | cons part parts ih =>
      rw [makeFolders]
      split
      · exact .refl _ _ _
      · next other steps =>
        split
        · next missing =>
          refine .cons steps (fun place => ?_) (ih _ _)
          have unseen : root.thing? other = none := thing?_eq_none_iff.mpr missing
          obtain rfl : other = way ++ [part] := by
            refine (step_eq_ok steps).resolve_left ?_
            simp [unseen]
          rw [thing?_put (thing?_of_step steps) (by simp [unseen]) rfl]
          by_cases here : place = way ++ [part]
          · exact .inr ⟨here, here ▸ unseen, by rw [here, Function.update_self]; rfl⟩
          · exact .inl (Function.update_of_ne here ..)
        · exact .cons steps (fun place => .inl rfl) (ih _ _)
        · exact .refl _ _ _

/-- Making a folder adds folders on its path, and does nothing else, also where it fails. -/
theorem addsFolders_createFolders (root : Node) (path : String) :
    root.AddsFolders (root.createFolders path).2 [] (Text.splitOn '/' path) := by
  rw [createFolders]
  split
  · exact .refl _ _ _
  · split
    · exact .refl _ _ _
    · exact addsFolders_makeFolders _ _ _

/-! ### Files -/

theorem list_eq_ok {path : String} {entries : List FolderEntry}
    (listed : root.list path = .ok entries) :
    ∃ way within, root.locate path = .ok way ∧ root.at? way = some (folder within) ∧
      entries = within.map fun (name, node) => ⟨name, node.isFile⟩ := by
  rw [list, find] at listed
  cases located : root.locate path with
  | error fault => rw [located] at listed; cases listed
  | ok way =>
      cases found : root.at? way with
      | none => simp only [located, Bind.bind, Except.bind, found] at listed; cases listed
      | some node =>
          simp only [located, Bind.bind, Except.bind, found] at listed
          cases node with
          | file text => cases listed
          | folder within => exact ⟨way, within, rfl, found, (Except.ok.inj listed).symm⟩

theorem fileAt_eq_ok_iff {path : String} {old? : Option String} :
    root.fileAt path = .ok (way, old?) ↔
      root.locate path = .ok way ∧ root.thing? way = old?.map .file := by
  rw [fileAt]
  cases located : root.locate path with
  | error fault => exact iff_of_false nofun (fun h => nomatch h.1)
  | ok place =>
      simp only [Bind.bind, Except.bind]
      constructor
      · intro reads
        split at reads
        · cases reads
        · next text found =>
          cases reads
          exact ⟨rfl, thing?_eq_file_iff.mpr found⟩
        · next missing =>
          cases reads
          exact ⟨rfl, thing?_eq_none_iff.mpr missing⟩
      · rintro ⟨same, seen⟩
        cases same
        cases old? with
        | none => rw [thing?_eq_none_iff.mp seen]
        | some text => rw [thing?_eq_file_iff.mp seen]

theorem write_eq_ok {path text : String} {after : Node}
    (writes : root.write path text = .ok after) :
    ∃ way old?, root.locate path = .ok way ∧ root.thing? way = Option.map .file old? ∧
      after = root.put way (file text) := by
  rw [write] at writes
  cases found : root.fileAt path with
  | error fault => rw [found] at writes; cases writes
  | ok place =>
      obtain ⟨way, old?⟩ := place
      rw [found] at writes
      obtain ⟨located, seen⟩ := fileAt_eq_ok_iff.mp found
      exact ⟨way, old?, located, seen, (Except.ok.inj writes).symm⟩

theorem remove_eq_ok {path : String} {after : Node} (removes : root.remove path = .ok after) :
    ∃ way text, root.locate path = .ok way ∧ root.thing? way = some (.file text) ∧
      after = root.erase way := by
  rw [remove] at removes
  cases found : root.fileAt path with
  | error fault => rw [found] at removes; cases removes
  | ok place =>
      obtain ⟨way, old?⟩ := place
      rw [found] at removes
      obtain ⟨located, seen⟩ := fileAt_eq_ok_iff.mp found
      cases old? with
      | none => cases removes
      | some text => exact ⟨way, text, located, seen, (Except.ok.inj removes).symm⟩

theorem rename_eq_ok {source target : String} {after : Node}
    (renames : root.rename source target = .ok after) :
    ∃ origin goal text old?, root.locate source = .ok origin ∧ root.locate target = .ok goal ∧
      root.thing? origin = some (.file text) ∧ root.thing? goal = Option.map .file old? ∧
      after = (root.erase origin).put goal (file text) := by
  rw [rename] at renames
  cases found : root.fileAt source with
  | error fault => rw [found] at renames; cases renames
  | ok place =>
      obtain ⟨origin, text?⟩ := place
      rw [found] at renames
      obtain ⟨located, seen⟩ := fileAt_eq_ok_iff.mp found
      cases text? with
      | none => cases renames
      | some text =>
          cases aimed : root.fileAt target with
          | error fault => simp only [aimed] at renames; cases renames
          | ok place =>
              obtain ⟨goal, old?⟩ := place
              simp only [aimed] at renames
              obtain ⟨reached, there⟩ := fileAt_eq_ok_iff.mp aimed
              exact ⟨origin, goal, text, old?, located, reached, seen, there,
                (Except.ok.inj renames).symm⟩

/-! ### The tree as a file system -/

section FileSystem

variable (root : Node) (path text : String)

@[simp] theorem run_isPresent :
    ((fileSystem.isPresent path).run root).run = (root.find path matches .ok _, root) :=
  rfl

@[simp] theorem run_isFile :
    ((fileSystem.isFile path).run root).run = (root.find path matches .ok (file _), root) :=
  rfl

@[simp] theorem run_createFolders :
    ((fileSystem.createFolders path).run root).run = root.createFolders path :=
  rfl

@[simp] theorem run_entries : ((fileSystem.entries path).run root).run = (root.list path, root) :=
  rfl

@[simp] theorem run_read : ((fileSystem.read path).run root).run = (root.read path, root) :=
  rfl

@[simp] theorem run_write :
    ((fileSystem.write path text).run root).run = root.outcome (root.write path text) :=
  rfl

@[simp] theorem run_rename (source target : String) :
    ((fileSystem.rename source target).run root).run = root.outcome (root.rename source target) :=
  rfl

@[simp] theorem run_remove :
    ((fileSystem.remove path).run root).run = root.outcome (root.remove path) :=
  rfl

end FileSystem

end Ways

end LogQuery.Files.Node
