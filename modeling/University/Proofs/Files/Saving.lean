import Mathlib.Data.List.Induction
import University.Proofs.Files.Staging

/-! # Files that are saved

As long as the names of staged files are free, a call leaves its file in the directory and nothing
else; where a directory is in the place of the file, it leaves nothing. So a directory that had no files
in it has, after any number of calls, the files that calls succeeded for, each as the last of these calls
left it.
-/

namespace University.Files

/-! ## Paths of single files -/

/-- The path, cut at its slashes, is a name and then only empty pieces and single dots. -/
def Names (path name : String) : Prop :=
  ∃ rest, path.toList.splitOn '/' = name.toList :: rest ∧ name ≠ "" ∧ name ≠ "." ∧ name ≠ ".." ∧
    ∀ piece ∈ rest, piece = [] ∨ piece = ['.']

theorem splitAtSlashes_eq (cs : List Char) : splitAtSlashes cs = cs.splitOn '/' := by
  rw [List.splitOn_eq_splitOnP]
  induction cs with
  | nil => simp [splitAtSlashes]
  | cons c cs ih =>
      obtain ⟨piece, pieces, split⟩ := List.exists_cons_of_ne_nil (List.splitOnP_ne_nil (· == '/') cs)
      rw [splitAtSlashes, ih, List.splitOnP_cons_eq_if_modifyHead, split]
      simp

theorem names_iff {path name : String} :
    Names path name ↔ ∃ rest, pieces path = name :: rest ∧ name ≠ "" ∧ name ≠ "." ∧ name ≠ ".." ∧
      ∀ piece ∈ rest, piece = "" ∨ piece = "." := by
  have texts : pieces path = (path.toList.splitOn '/').map String.ofList := by
    rw [pieces, splitAtSlashes_eq]
  constructor
  · rintro ⟨rest, split, named, no_dot, no_dots, nowhere⟩
    refine ⟨rest.map String.ofList, by simp [texts, split], named, no_dot, no_dots, ?_⟩
    intro piece hpiece
    obtain ⟨cs, hcs, rfl⟩ := List.mem_map.mp hpiece
    rcases nowhere cs hcs with rfl | rfl
    · exact .inl rfl
    · exact .inr rfl
  · rintro ⟨rest, split, named, no_dot, no_dots, nowhere⟩
    rw [texts, List.map_eq_cons_iff] at split
    obtain ⟨cs, css, split, rfl, rfl⟩ := split
    refine ⟨css, by simp [split], named, no_dot, no_dots, ?_⟩
    intro piece hpiece
    simpa [← String.toList_inj] using nowhere _ (List.mem_map_of_mem hpiece)

theorem ofPiece?_eq_none_iff {piece : String} :
    Component.ofPiece? piece = none ↔ piece = "" ∨ piece = "." := by
  rw [Component.ofPiece?]
  grind

theorem ofPiece?_eq_name_iff {piece name : String} :
    Component.ofPiece? piece = some (.name name) ↔
      piece = name ∧ name ≠ "" ∧ name ≠ "." ∧ name ≠ ".." := by
  rw [Component.ofPiece?]
  grind

theorem components_eq_name_iff {path name : String} :
    components path = [.name name] ↔ Names path name := by
  rw [names_iff, components]
  split
  · simp_all
  · grind
  · grind
  · grind
  · rename_i no_root no_here
    cases split : pieces path with
    | nil => simp
    | cons first rest =>
        have leads : Component.ofPiece? first ≠ none := by
          intro nothing
          rcases ofPiece?_eq_none_iff.mp nothing with rfl | rfl
          · exact no_root rest split
          · exact no_here rest split
        obtain ⟨component, made⟩ := Option.ne_none_iff_exists'.mp leads
        have named : component = .name name ↔
            first = name ∧ name ≠ "" ∧ name ≠ "." ∧ name ≠ ".." := by
          rw [← ofPiece?_eq_name_iff, made, Option.some_inj]
        have nowhere : rest.filterMap Component.ofPiece? = [] ↔
            ∀ piece ∈ rest, piece = "" ∨ piece = "." := by
          simp only [List.filterMap_eq_nil_iff, ofPiece?_eq_none_iff]
        rw [List.filterMap_cons_some made, List.cons.injEq, named, nowhere]
        simp [and_assoc]

theorem bareName?_eq_some_iff {path name : String} :
    bareName? path = some name ↔ Names path name := by
  rw [← components_eq_name_iff, bareName?]
  split <;> simp_all

theorem Names.unique {path name name' : String} (h : Names path name) (h' : Names path name') :
    name = name' := by
  rw [← bareName?_eq_some_iff] at h h'
  exact Option.some.inj (h.symm.trans h')

theorem bareName?_eq_none_iff {path : String} :
    bareName? path = none ↔ ∀ name, ¬Names path name := by
  simp [Option.eq_none_iff_forall_ne_some, bareName?_eq_some_iff]

variable {w : Writer} {t t' : FileTree} {place : Place} {path contents : String}

/-! ## A single call -/

/-- The file that a call stages, if it stages one, can have its name. -/
def StagesFreely (w : Writer) (place : Place) (path : String) (s : Storage) : Prop :=
  ∀ name ∈ bareName? path, s.tree.Free place (w.stagingName name s.number)

instance (w : Writer) (place : Place) (path : String) (s : Storage) :
    Decidable (StagesFreely w place path s) :=
  inferInstanceAs (Decidable (∀ _ ∈ _, _))

/-- What a call does, by the name that its path consists of and by what bears this name. -/
structure SaveOutcome (place : Place) (t : FileTree) (path contents : String)
    (result : Except OutputError Unit) (t' : FileTree) : Prop where
  /-- The file has the contents, and all else is as it was. -/
  accepted : ∀ name, Names path name → t.lookup (place ++ [name]) ≠ some .directory →
    result = .ok () ∧ t'.lookup (place ++ [name]) = some (.file contents) ∧
      ∀ other ≠ place ++ [name], t'.lookup other = t.lookup other
  obstructed : ∀ name, Names path name → t.lookup (place ++ [name]) = some .directory →
    result = .error (.write path .isDirectory) ∧ t' = t
  refused : (∀ name, ¬Names path name) → result = .error (.write path .notFileName) ∧ t' = t

/-- A call that does not succeed leaves the tree as it was, and its error has the path as given. -/
theorem SaveOutcome.of_not_accepted {result : Except OutputError Unit}
    (h : SaveOutcome place t path contents result t')
    (hname : ∀ name, Names path name → t.lookup (place ++ [name]) = some .directory) :
    (∃ fault, result = .error (.write path fault)) ∧ t' = t := by
  by_cases named : ∃ name, Names path name
  · obtain ⟨name, named⟩ := named
    obtain ⟨failed, same⟩ := h.obstructed name named (hname name named)
    exact ⟨⟨_, failed⟩, same⟩
  · obtain ⟨failed, same⟩ := h.refused (not_exists.mp named)
    exact ⟨⟨_, failed⟩, same⟩

theorem save_outcome (contents : String) {s : Storage} (h : StagesFreely w place path s) :
    SaveOutcome place s.tree path contents ((save w place path contents).run s).1
      ((save w place path contents).run s).2.tree := by
  obtain ⟨t, number⟩ := s
  refine ⟨?_, ?_, ?_⟩
  · intro name named free
    have bare := bareName?_eq_some_iff.mpr named
    have below : place ++ [name] ≠ [] := by simp
    rw [run_save_file bare (h name bare) free]
    exact ⟨rfl, t.lookup_put_self below _, fun other hne => t.lookup_put_of_ne hne _⟩
  · intro name named there
    have bare := bareName?_eq_some_iff.mpr named
    rw [run_save_onto_directory bare (h name bare) there]
    exact ⟨rfl, rfl⟩
  · intro no_name
    rw [run_save_of_no_name (bareName?_eq_none_iff.mpr no_name)]
    exact ⟨rfl, rfl⟩

/-! ## Calls one after the other -/

/-- Calls with their results, the latest first. -/
abbrev Log := List ((String × String) × Except OutputError Unit)

/-- The last call that succeeded for a name, and what it wrote. -/
inductive LastSaved (name contents : String) : Log → Prop where
  | latest {path : String} {log : Log} : Names path name →
    LastSaved name contents (((path, contents), .ok ()) :: log)
  | earlier {path other : String} {result : Except OutputError Unit} {log : Log} :
    (result = .ok () → ¬Names path name) → LastSaved name contents log →
    LastSaved name contents (((path, other), result) :: log)

namespace LastSaved

variable {name c : String} {log : Log}

theorem cons_of_names (h : Names path name) :
    LastSaved name c (((path, contents), .ok ()) :: log) ↔ c = contents := by
  constructor
  · intro last
    cases last with
    | latest => rfl
    | earlier other => exact absurd h (other rfl)
  · rintro rfl
    exact .latest h

theorem cons_of_not {result : Except OutputError Unit} (h : result = .ok () → ¬Names path name) :
    LastSaved name c (((path, contents), result) :: log) ↔ LastSaved name c log := by
  constructor
  · intro last
    cases last with
    | latest named => exact absurd named (h rfl)
    | earlier _ older => exact older
  · exact .earlier h

end LastSaved

/-- Directories, and no files. -/
def FileTree.ofDirectories (directories : List Place) : FileTree := ⟨directories.map (·, .directory)⟩

/-- Directories and no files, and the running number of the next staged file. -/
def Storage.ofDirectories (directories : List Place) (number : Nat) : Storage :=
  ⟨.ofDirectories directories, number⟩

theorem lookup_ofDirectories_iff {directories : List Place} {e : Entry} :
    (FileTree.ofDirectories directories).lookup place = some e ↔
      (place = [] ∨ place ∈ directories) ∧ e = .directory := by
  by_cases root : place = []
  · simp [root, eq_comm]
  · simp only [FileTree.lookup, FileTree.ofDirectories, root, if_false, false_or]
    induction directories with
    | nil => simp
    | cons first rest ih =>
        by_cases here : first = place
        · simp [here, eq_comm]
        · simp only [List.map_cons, List.find?_cons, here, decide_false, ih, List.mem_cons,
            Ne.symm here, false_or]

/-- The tree after the calls of a log: the directories of the start, and the files of the log. -/
structure SavedFrom (directories : List Place) (place : Place) (log : Log) (t : FileTree) : Prop where
  file_iff : ∀ p contents, t.lookup p = some (.file contents) ↔
    ∃ name, p = place ++ [name] ∧ LastSaved name contents log
  directory_iff : ∀ p, t.lookup p = some .directory ↔ p = [] ∨ p ∈ directories

namespace SavedFrom

variable {directories : List Place} {log : Log}

theorem start (directories : List Place) (place : Place) :
    SavedFrom directories place [] (.ofDirectories directories) where
  file_iff p contents := by
    simp only [lookup_ofDirectories_iff, reduceCtorEq, and_false, false_iff]
    rintro ⟨name, -, nothing⟩
    cases nothing
  directory_iff p := by simp [lookup_ofDirectories_iff]

/-- A file with the contents of the latest call is where its name leads. -/
theorem succeed (h : SavedFrom directories place log t) {name : String} (hname : Names path name)
    (hfree : t.lookup (place ++ [name]) ≠ some .directory)
    (there : t'.lookup (place ++ [name]) = some (.file contents))
    (elsewhere : ∀ other ≠ place ++ [name], t'.lookup other = t.lookup other) :
    SavedFrom directories place (((path, contents), .ok ()) :: log) t' where
  file_iff p c := by
    by_cases own : p = place ++ [name]
    · subst own
      simp [there, LastSaved.cons_of_names hname, eq_comm]
    · rw [elsewhere p own, h.file_iff p c]
      apply exists_congr
      intro other
      apply and_congr_right
      rintro rfl
      rw [LastSaved.cons_of_not]
      rintro - hother
      exact own (by rw [hname.unique hother])
  directory_iff p := by
    by_cases own : p = place ++ [name]
    · subst own
      have no_directory : ¬(place ++ [name] = [] ∨ place ++ [name] ∈ directories) := by
        rwa [← h.directory_iff]
      rw [there]
      exact iff_of_false nofun no_directory
    · rw [elsewhere p own, h.directory_iff]

theorem fail (h : SavedFrom directories place log t) (e : OutputError) :
    SavedFrom directories place (((path, contents), .error e) :: log) t where
  file_iff p c := by
    rw [h.file_iff p c]
    apply exists_congr
    intro name
    have failed : Except.error e = Except.ok () → ¬Names path name := nofun
    rw [LastSaved.cons_of_not failed]
  directory_iff := h.directory_iff

theorem save (h : SavedFrom directories place log t)
    {result : Except OutputError Unit} (outcome : SaveOutcome place t path contents result t') :
    SavedFrom directories place (((path, contents), result) :: log) t' := by
  by_cases obstructed : ∀ name, Names path name → t.lookup (place ++ [name]) = some .directory
  · obtain ⟨⟨fault, rfl⟩, rfl⟩ := outcome.of_not_accepted obstructed
    exact h.fail _
  · obtain ⟨name, hname, hfree⟩ : ∃ name, Names path name ∧
        t.lookup (place ++ [name]) ≠ some .directory := by simpa using obstructed
    obtain ⟨rfl, there, elsewhere⟩ := outcome.accepted name hname hfree
    exact h.succeed hname hfree there elsewhere

end SavedFrom

/-- Every call that stages a file finds a free name for it. -/
def AllStageFreely (w : Writer) (place : Place) : List (String × String) → Storage → Prop
  | [], _ => True
  | (path, contents) :: rest, s =>
    StagesFreely w place path s ∧
      AllStageFreely w place rest ((save w place path contents).run s).2

instance decidableAllStageFreely (w : Writer) (place : Place) :
    (writes : List (String × String)) → (s : Storage) → Decidable (AllStageFreely w place writes s)
  | [], _ => .isTrue trivial
  | (path, contents) :: rest, s =>
    have := decidableAllStageFreely w place rest ((save w place path contents).run s).2
    inferInstanceAs (Decidable (StagesFreely w place path s ∧ _))

section Sequences

variable (w) (place) (s : Storage) (before after writes : List (String × String))

theorem run_saveAll_cons :
    (saveAll w place ((path, contents) :: writes)).run s =
      let first := (save w place path contents).run s
      let rest := (saveAll w place writes).run first.2
      (first.1 :: rest.1, rest.2) := by
  rw [saveAll, List.mapM_cons]
  rfl

/-- Calls one after the other, the first ones first. -/
theorem run_saveAll_append :
    (saveAll w place (before ++ after)).run s =
      let first := (saveAll w place before).run s
      let rest := (saveAll w place after).run first.2
      (first.1 ++ rest.1, rest.2) := by
  rw [saveAll, List.mapM_append]
  rfl

theorem length_run_saveAll : ((saveAll w place writes).run s).1.length = writes.length := by
  induction writes generalizing s with
  | nil => rfl
  | cons call writes ih =>
      obtain ⟨path, contents⟩ := call
      rw [run_saveAll_cons]
      exact congrArg (· + 1) (ih _)

theorem allStageFreely_append :
    AllStageFreely w place (before ++ after) s ↔
      AllStageFreely w place before s ∧
        AllStageFreely w place after ((saveAll w place before).run s).2 := by
  induction before generalizing s with
  | nil => exact (and_iff_right trivial).symm
  | cons call before ih =>
      obtain ⟨path, contents⟩ := call
      rw [List.cons_append, AllStageFreely, AllStageFreely, ih, run_saveAll_cons, and_assoc]

/-- The calls with their results, the latest first. -/
def logOf : Log := (writes.zip ((saveAll w place writes).run s).1).reverse

theorem logOf_concat (path contents : String) :
    logOf w place s (before ++ [(path, contents)]) =
      ((path, contents), ((save w place path contents).run ((saveAll w place before).run s).2).1) ::
        logOf w place s before := by
  rw [logOf, run_saveAll_append, List.zip_append (length_run_saveAll w place s before).symm,
    List.reverse_append, run_saveAll_cons]
  rfl

end Sequences

theorem savedFrom_saveAll (directories : List Place) (writes : List (String × String)) {number : Nat}
    (h : AllStageFreely w place writes (.ofDirectories directories number)) :
    SavedFrom directories place (logOf w place (.ofDirectories directories number) writes)
      ((saveAll w place writes).run (.ofDirectories directories number)).2.tree := by
  induction writes using List.reverseRecOn with
  | nil => exact .start directories place
  | append_singleton before call ih =>
      obtain ⟨path, contents⟩ := call
      obtain ⟨earlier, latest⟩ := (allStageFreely_append ..).mp h
      rw [logOf_concat, run_saveAll_append]
      exact (ih earlier).save (save_outcome contents latest.1)

/-- What calls do from a directory that holds directories only: each does what its path and the
directories ask for, and in the end the files are the names that were written successfully, as they were
last written; the directories are those of the start. -/
structure SaveAllOutcome (w : Writer) (directories : List Place) (place : Place) (number : Nat)
    (writes : List (String × String)) : Prop where
  call : ∀ before path contents after, writes = before ++ (path, contents) :: after →
    ∃ result,
      ((saveAll w place writes).run (.ofDirectories directories number)).1[before.length]? =
        some result ∧
      SaveOutcome place ((saveAll w place before).run (.ofDirectories directories number)).2.tree
        path contents result
        ((saveAll w place (before ++ [(path, contents)])).run
          (.ofDirectories directories number)).2.tree
  file_iff : ∀ p contents,
    ((saveAll w place writes).run (.ofDirectories directories number)).2.tree.lookup p =
        some (.file contents) ↔
      ∃ name, p = place ++ [name] ∧
        LastSaved name contents (logOf w place (.ofDirectories directories number) writes)
  directory_iff : ∀ p,
    ((saveAll w place writes).run (.ofDirectories directories number)).2.tree.lookup p =
        some .directory ↔
      p = [] ∨ p ∈ directories

/-- Calls in a directory without files do what they should, if they can stage their files. -/
theorem saveAll_outcome (directories : List Place) (writes : List (String × String)) {number : Nat}
    (h : AllStageFreely w place writes (.ofDirectories directories number)) :
    SaveAllOutcome w directories place number writes := by
  have saved := savedFrom_saveAll directories writes h
  refine ⟨?_, saved.file_iff, saved.directory_iff⟩
  rintro before path contents after rfl
  obtain ⟨-, latest⟩ := (allStageFreely_append ..).mp h
  refine ⟨((save w place path contents).run
    ((saveAll w place before).run (.ofDirectories directories number)).2).1, ?_, ?_⟩
  · rw [run_saveAll_append, List.getElem?_append_right (Nat.le_of_eq (length_run_saveAll ..)),
      length_run_saveAll, run_saveAll_cons, Nat.sub_self]
    rfl
  · rw [run_saveAll_append]
    exact save_outcome contents latest.1

/-- A process whose clock stands still. -/
def slowWriter : Writer := ⟨7, fun _ => 0⟩

theorem saveAll_outcome_sample :
    let writes := [("a", "1"), ("d/", "2"), ("a/.", "3"), ("../b", "4")]
    AllStageFreely slowWriter [] writes (.ofDirectories [["d"]] 20) ∧
      SaveAllOutcome slowWriter [["d"]] [] 20 writes :=
  ⟨by decide +kernel, saveAll_outcome _ _ (by decide +kernel)⟩

example :
    Id.run ((saveAll slowWriter [] [("a", "1"), ("d/", "2"), ("a/.", "3"), ("../b", "4")]).run
        (.ofDirectories [["d"]] 20)) =
      ([.ok (), .error (.write "d/" .isDirectory), .ok (), .error (.write "../b" .notFileName)],
        ⟨⟨[(["a"], .file "3"), (["d"], .directory)]⟩, 23⟩) := by
  decide +kernel

end University.Files
