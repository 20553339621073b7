import University.Files.Tree

/-! # What operations leave of a tree

Where steps lead to depends only on which places are directories. Opening a directory makes the
directories that are missing and nothing else, so a directory that was opened once is found again in
every tree that has kept the directories, and opening it changes nothing there.
-/

namespace University.Files.FileTree

/-- Every directory is one in the other tree as well. -/
def DirectoriesIn (t t' : FileTree) : Prop :=
  ∀ place, t.lookup place = some .directory → t'.lookup place = some .directory

/-- The other tree has more directories, where nothing was, and is otherwise the same. -/
def GainsDirectories (t t' : FileTree) : Prop :=
  ∀ place, t'.lookup place = t.lookup place ∨
    t.lookup place = none ∧ t'.lookup place = some .directory

namespace GainsDirectories

variable {t t' t'' : FileTree}

theorem refl (t : FileTree) : t.GainsDirectories t := fun _ => .inl rfl

theorem trans (h : t.GainsDirectories t') (h' : t'.GainsDirectories t'') :
    t.GainsDirectories t'' := by
  intro place
  rcases h' place with kept | ⟨missing, made⟩
  · rw [kept]
    exact h place
  · rcases h place with kept | ⟨-, there⟩
    · exact .inr ⟨kept ▸ missing, made⟩
    · rw [missing] at there
      cases there

theorem put {place : Place} (h : t.lookup place = none) :
    t.GainsDirectories (t.put place .directory) := by
  intro other
  have below : place ≠ [] := by
    rintro rfl
    simp at h
  by_cases same : other = place
  · subst same
    exact .inr ⟨h, t.lookup_put_self below _⟩
  · exact .inl (t.lookup_put_of_ne same _)

theorem directoriesIn (h : t.GainsDirectories t') : t.DirectoriesIn t' := by
  intro place there
  rcases h place with kept | ⟨missing, -⟩
  · rw [kept, there]
  · rw [there] at missing
    cases missing

theorem file_iff (h : t.GainsDirectories t') (place : Place) (contents : String) :
    t'.lookup place = some (.file contents) ↔ t.lookup place = some (.file contents) := by
  rcases h place with kept | ⟨missing, made⟩
  · rw [kept]
  · rw [missing, made]
    simp

end GainsDirectories

section Following

variable {t t' : FileTree}

/-- Steps lead to the same place wherever all directories are kept. -/
theorem follow_of_directoriesIn (h : t.DirectoriesIn t') {here place : Place} {steps : List String}
    (hfollow : t.follow here steps = .ok place) : t'.follow here steps = .ok place := by
  induction steps generalizing here with
  | nil => exact hfollow
  | cons step rest ih =>
      rw [follow] at hfollow ⊢
      cases found : t.lookup here with
      | none => simp [found] at hfollow
      | some entry =>
          cases entry with
          | file contents => simp [found] at hfollow
          | directory =>
              simp only [found, h here found] at hfollow ⊢
              split at hfollow
              · cases hfollow
              · rename_i short
                rw [if_neg short]
                exact ih hfollow

/-- Steps lead to a directory. -/
def LeadTo (t : FileTree) (steps : List String) (place : Place) : Prop :=
  t.follow [] steps = .ok place ∧ t.lookup place = some .directory

theorem LeadTo.of_directoriesIn {steps : List String} {place : Place} (h : t.LeadTo steps place)
    (hkept : t.DirectoriesIn t') : t'.LeadTo steps place :=
  ⟨follow_of_directoriesIn hkept h.1, hkept place h.2⟩

theorem isDirectory_iff {steps : List String} :
    t.isDirectory steps = true ↔ ∃ place, t.LeadTo steps place := by
  unfold isDirectory LeadTo
  cases t.follow [] steps with
  | ok place => simp
  | error fault => simp

end Following

section Opening

variable {t t' : FileTree} {steps : List String}

theorem makeDirectory_ok (h : t.makeDirectory steps = .ok t') :
    t.GainsDirectories t' ∧ ∃ place, t'.LeadTo steps place := by
  unfold makeDirectory at h
  cases followed : t.follow [] steps with
  | error fault => simp [followed, bind, Except.bind] at h
  | ok place =>
      simp only [followed, bind, Except.bind] at h
      cases found : t.lookup place with
      | some entry => simp [found] at h
      | none =>
          rw [found] at h
          cases h
          have gains : t.GainsDirectories (t.put place .directory) := .put found
          have below : place ≠ [] := by
            rintro rfl
            simp at found
          exact ⟨gains, place, follow_of_directoriesIn gains.directoriesIn followed,
            t.lookup_put_self below _⟩

theorem makeDirectory_of_leadTo {place : Place} (h : t.LeadTo steps place) :
    t.makeDirectory steps = .error .taken := by
  simp only [makeDirectory, h.1, h.2, bind, Except.bind]
  rfl

theorem ensureDirectory_gains (t : FileTree) (steps : List String) :
    t.GainsDirectories (t.ensureDirectory steps).2 := by
  unfold ensureDirectory
  split
  · rename_i made hmade
    exact (makeDirectory_ok hmade).1
  · exact .refl t

theorem ensureDirectory_ok (h : t.ensureDirectory steps = (.ok (), t')) :
    ∃ place, t'.LeadTo steps place := by
  unfold ensureDirectory at h
  split at h
  · rename_i made hmade
    cases h
    exact (makeDirectory_ok hmade).2
  · rename_i fault _
    cases there : t.isDirectory steps with
    | true =>
        rw [there] at h
        cases h
        exact isDirectory_iff.mp there
    | false =>
        rw [there] at h
        cases h

theorem ensureDirectory_of_leadTo {place : Place} (h : t.LeadTo steps place) :
    t.ensureDirectory steps = (.ok (), t) := by
  rw [ensureDirectory, makeDirectory_of_leadTo h, isDirectory_iff.mpr ⟨place, h⟩]
  rfl

theorem makeDirectories_gains (t : FileTree) (steps : List String) :
    t.GainsDirectories (t.makeDirectories steps).2 := by
  fun_induction makeDirectories t steps with
  | case1 => exact .refl _
  | case2 steps some_step left nothing_there made hmade ih =>
      rw [hmade] at ih
      exact ih.trans (ensureDirectory_gains made steps)
  | case3 steps some_step left nothing_there fault made hmade ih =>
      rw [hmade] at ih
      exact ih
  | case4 steps => exact ensureDirectory_gains t steps

theorem makeDirectories_ok (h : t.makeDirectories steps = (.ok (), t')) :
    ∃ place, t'.LeadTo steps place := by
  rw [makeDirectories] at h
  split at h
  · rename_i no_step
    cases h
    exact ⟨[], by rw [no_step]; rfl, t.lookup_root⟩
  · split at h
    · split at h
      · exact ensureDirectory_ok h
      · cases h
    · exact ensureDirectory_ok h

theorem makeDirectories_of_leadTo {place : Place} (h : t.LeadTo steps place) :
    t.makeDirectories steps = (.ok (), t) := by
  rw [makeDirectories]
  split
  · rfl
  · rw [ensureDirectory_of_leadTo h]

variable {here place : Place} {path : String}

/-- What a directory needs to be opened where it exists. -/
structure Opens (t : FileTree) (here : Place) (path : String) (place : Place) : Prop where
  ne_empty : path ≠ ""
  no_nul : path.toList.contains '\x00' = false
  short : path.utf8ByteSize ≤ longestPath
  leads : t.LeadTo (stepsFrom here path) place

theorem Opens.openDirectory_eq (h : t.Opens here path place) :
    t.openDirectory here path = (.ok place, t) := by
  rw [openDirectory, if_neg h.ne_empty, h.no_nul, if_neg Bool.false_ne_true,
    if_neg (Nat.not_lt.mpr h.short), makeDirectories_of_leadTo h.leads]
  exact congrArg (·, t) h.leads.1

theorem Opens.of_directoriesIn (h : t.Opens here path place) (hkept : t.DirectoriesIn t') :
    t'.Opens here path place :=
  { h with leads := h.leads.of_directoriesIn hkept }

/-- A directory that was opened can be opened again. -/
theorem opens_of_openDirectory (h : t.openDirectory here path = (.ok place, t')) :
    t'.Opens here path place ∧ t.GainsDirectories t' := by
  unfold openDirectory at h
  split at h
  · cases h
  · rename_i ne_empty
    split at h
    · cases h
    · rename_i no_nul
      split at h
      · cases h
      · rename_i short
        have gains := t.makeDirectories_gains (stepsFrom here path)
        cases made : t.makeDirectories (stepsFrom here path) with
        | mk outcome left =>
            rw [made] at h gains
            cases outcome with
            | error fault => cases h
            | ok _ =>
                obtain ⟨found, leads⟩ := makeDirectories_ok made
                have same : found = place ∧ left = t' := by
                  simpa [leads.1] using h
                obtain ⟨rfl, rfl⟩ := same
                exact ⟨⟨ne_empty, by simpa using no_nul, Nat.not_lt.mp short, leads⟩, gains⟩

end Opening

section Places

variable {t : FileTree} {place : Place}

theorem remove_of_lookup_eq_none (hplace : place ≠ []) (h : t.lookup place = none) :
    t.remove place = t := by
  have nowhere : ∀ e ∈ t.entries, e.1 ≠ place := by simpa [lookup, hplace] using h
  have kept : t.entries.filter (·.1 ≠ place) = t.entries := by simpa using nowhere
  rw [remove, kept]

@[simp]
theorem remove_put (t : FileTree) (place : Place) (e : Entry) :
    (t.put place e).remove place = t.remove place := by
  simp [remove, put]

end Places

section Files

variable {t : FileTree} {directory place source target : Place} {name contents : String}

theorem create_of_free (h : t.Free directory name) (contents : String) :
    t.create directory name contents =
      (.ok (), t.put (directory ++ [name]) (.file contents)) := by
  obtain ⟨no_nul, short, nothing⟩ := h
  rw [create, no_nul, if_neg Bool.false_ne_true, if_neg (Nat.not_lt.mpr short), nothing]

/-- Where no new file can have the name, none is made. -/
theorem create_of_not_free (h : ¬t.Free directory name) (contents : String) :
    ∃ fault, t.create directory name contents = (.error fault, t) := by
  rw [create]
  split
  · exact ⟨_, rfl⟩
  · rename_i no_nul
    split
    · exact ⟨_, rfl⟩
    · rename_i short
      cases there : t.lookup (directory ++ [name]) with
      | some entry => exact ⟨_, rfl⟩
      | none => exact absurd ⟨by simpa using no_nul, Nat.not_lt.mp short, there⟩ h

theorem discard_file (h : t.lookup place = some (.file contents)) :
    t.discard place = t.remove place := by
  rw [discard, h]

theorem move_file (hsource : t.lookup source = some (.file contents))
    (htarget : t.lookup target ≠ some .directory) :
    t.move source target = .ok ((t.remove source).put target (.file contents)) := by
  rw [move, hsource]
  cases found : t.lookup target with
  | none => rfl
  | some entry =>
      cases entry with
      | file old => rfl
      | directory => exact absurd found htarget

theorem replace_onto_directory (hsource : t.lookup source = some (.file contents))
    (htarget : t.lookup target = some .directory) :
    t.replace source target = (.error .isDirectory, t) := by
  rw [replace, move, hsource, htarget]

theorem replace_file (hsource : t.lookup source = some (.file contents))
    (htarget : t.lookup target ≠ some .directory) :
    t.replace source target = (.ok (), (t.remove source).put target (.file contents)) := by
  rw [replace, move_file hsource htarget]

end Files

end University.Files.FileTree
