import University.Files.Staging
import University.Proofs.Decimal.Padded
import University.Proofs.Files.Tree
import University.Proofs.Seeding.Writes
import University.Proofs.Text.Cut

/-! # Staged files

The name of a staged file ends with its running number, so two files that are staged share a name only
after the numbers have started again. The name is hidden and longer than that of the target. A write
whose staged file can have its name leaves the target behind and nothing else, or fails and leaves
nothing; one whose staged file cannot have its name fails as well.
-/

namespace University.Files

open Text Decimal

section Names

variable {name name' : String} {process process' nanos nanos' number number' : Nat}

theorem toList_stagingName (name : String) (process nanos number : Nat) :
    (stagingName name process nanos number).toList =
      ('.' :: (name.toList ++ '.' :: ((toString process).toList ++ '-' :: (toString nanos).toList)) ++
        '-' :: (toString (number % sequenceLimit)).toList) ++ ".partial".toList := by
  have dot : ".".toList = ['.'] := rfl
  have dash : "-".toList = ['-'] := rfl
  unfold stagingName
  simp only [String.toList_append, dot, dash, List.append_assoc, List.cons_append, List.nil_append]

/-- The name of a staged file tells its running number. -/
theorem sequence_of_stagingName_eq
    (h : stagingName name process nanos number = stagingName name' process' nanos' number') :
    number % sequenceLimit = number' % sequenceLimit := by
  rw [← String.toList_inj, toList_stagingName, toList_stagingName] at h
  -- The number stands between the last dash and the ending.
  have cut := congrArg (cutLast? '-') (List.append_cancel_right h)
  rw [cutLast?_of_not_mem (not_mem_toString (by decide) _),
    cutLast?_of_not_mem (not_mem_toString (by decide) _)] at cut
  simp only [Option.some.injEq, Prod.mk.injEq, String.toList_inj] at cut
  exact toString_injective cut.2

theorem head?_stagingName (name : String) (process nanos number : Nat) :
    (stagingName name process nanos number).toList.head? = some '.' := by
  rw [toList_stagingName]
  rfl

theorem stagingName_ne (name : String) (process nanos number : Nat) :
    stagingName name process nanos number ≠ name := by
  intro same
  have lengths := congrArg (fun s => s.toList.length) same
  simp only [toList_stagingName, List.length_append, List.length_cons] at lengths
  omega

theorem nul_not_mem_stagingName (h : '\x00' ∉ name.toList) (process nanos number : Nat) :
    '\x00' ∉ (stagingName name process nanos number).toList := by
  have digits (n : Nat) : '\x00' ∉ (toString n).toList := not_mem_toString (by decide) n
  rw [toList_stagingName]
  simp only [List.mem_append, List.mem_cons, not_or]
  exact ⟨⟨⟨by decide, h, by decide, digits _, by decide, digits _⟩, by decide, digits _⟩, by decide⟩

/-- What is added to the name of the target takes 81 bytes at most. -/
theorem utf8ByteSize_stagingName_le (w : Writer) (name : String) (number : Nat) :
    (w.stagingName name number).utf8ByteSize ≤ name.utf8ByteSize + 81 := by
  have process : (toString w.process.toNat).utf8ByteSize ≤ 10 :=
    utf8ByteSize_toString_le (Nat.lt_trans w.process.toNat_lt (by decide))
  have nanos : (toString (w.clock number).toNat).utf8ByteSize ≤ 39 :=
    utf8ByteSize_toString_le (Nat.lt_trans (w.clock number).isLt (by decide))
  have sequence : (toString (number % sequenceLimit)).utf8ByteSize ≤ 20 :=
    utf8ByteSize_toString_le (Nat.lt_trans (Nat.mod_lt _ (by decide)) (by decide))
  have dot : ".".utf8ByteSize = 1 := rfl
  have dash : "-".utf8ByteSize = 1 := rfl
  have ending : ".partial".utf8ByteSize = 8 := rfl
  simp only [Writer.stagingName, stagingName, String.utf8ByteSize_append, dot, dash, ending]
  omega

/-- Names that are not too long leave room for staged files. -/
theorem free_stagingName {w : Writer} {t : FileTree} {place : Place} (hnul : '\x00' ∉ name.toList)
    (hname : name.utf8ByteSize + 81 ≤ longestStep)
    (h : t.lookup (place ++ [w.stagingName name number]) = none) :
    t.Free place (w.stagingName name number) := by
  have no_nul : '\x00' ∉ (w.stagingName name number).toList := nul_not_mem_stagingName hnul _ _ _
  exact ⟨by simpa using no_nul, (utf8ByteSize_stagingName_le w name number).trans hname, h⟩

end Names

/-! ## The steps of a write -/

section Steps

variable {w : Writer} {t : FileTree} {number : Nat} {place staging target : Place}
  {path name hidden contents : String}

theorem turn_saveTask (h : bareName? path = some name) :
    (saveTask w place path contents).turn ⟨t, number⟩ =
      (stageTask place path name (w.stagingName name number) contents, ⟨t, number + 1⟩) := by
  rw [saveTask, h]
  rfl

theorem turn_stageTask (h : t.Free place hidden) :
    (stageTask place path name hidden contents).turn ⟨t, number⟩ =
      (settleTask path (place ++ [hidden]) (place ++ [name]),
        ⟨t.put (place ++ [hidden]) (.file contents), number⟩) := by
  simp only [stageTask, Task.turn, Storage.onTree, StateT.run, FileTree.create_of_free h]

theorem turn_stageTask_of_not_free (h : ¬t.Free place hidden) :
    ∃ fault, (stageTask place path name hidden contents).turn ⟨t, number⟩ =
      (giveUp (place ++ [hidden]) (.write hidden fault), ⟨t, number⟩) := by
  obtain ⟨fault, created⟩ := FileTree.create_of_not_free h contents
  refine ⟨fault, ?_⟩
  simp only [stageTask, Task.turn, Storage.onTree, StateT.run, created]

theorem turn_settleTask (hstaging : t.lookup staging = some (.file contents))
    (htarget : t.lookup target ≠ some .directory) :
    (settleTask path staging target).turn ⟨t, number⟩ =
      (.done (.ok ()), ⟨(t.remove staging).put target (.file contents), number⟩) := by
  simp only [settleTask, Task.turn, Storage.onTree, StateT.run,
    FileTree.replace_file hstaging htarget]

theorem turn_settleTask_onto_directory (hstaging : t.lookup staging = some (.file contents))
    (htarget : t.lookup target = some .directory) :
    (settleTask path staging target).turn ⟨t, number⟩ =
      (giveUp staging (.write path .isDirectory), ⟨t, number⟩) := by
  simp only [settleTask, Task.turn, Storage.onTree, StateT.run,
    FileTree.replace_onto_directory hstaging htarget]

theorem run_giveUp (e : OutputError) :
    (giveUp staging e).finish.run ⟨t, number⟩ = (.error e, ⟨t.discard staging, number⟩) := rfl

/-! ## A whole write -/

theorem run_save_of_no_name (h : bareName? path = none) (s : Storage) :
    (save w place path contents).run s = (.error (.write path .notFileName), s) := by
  rw [save, saveTask, h]
  rfl

/-- What is staged has another place than the file that is written. -/
theorem staging_ne_target (w : Writer) (place : Place) (name : String) (number : Nat) :
    place ++ [w.stagingName name number] ≠ place ++ [name] := by
  intro same
  have names : w.stagingName name number = name := by simpa using same
  exact stagingName_ne name _ _ _ names

/-- Where the staged file can have its name, all that is left is to move it over its target. -/
theorem run_save_of_free (hname : bareName? path = some name)
    (hfree : t.Free place (w.stagingName name number)) :
    (save w place path contents).run ⟨t, number⟩ =
      (settleTask path (place ++ [w.stagingName name number]) (place ++ [name])).finish.run
        ⟨t.put (place ++ [w.stagingName name number]) (.file contents), number + 1⟩ := by
  rw [save, Task.run_finish, turn_saveTask hname, Task.run_finish, turn_stageTask hfree]

theorem run_save_file (hname : bareName? path = some name)
    (hfree : t.Free place (w.stagingName name number))
    (htarget : t.lookup (place ++ [name]) ≠ some .directory) :
    (save w place path contents).run ⟨t, number⟩ =
      (.ok (), ⟨t.put (place ++ [name]) (.file contents), number + 1⟩) := by
  have below : place ++ [w.stagingName name number] ≠ [] := by simp
  have staged := t.lookup_put_self below (.file contents)
  have target := t.lookup_put_of_ne (staging_ne_target w place name number).symm (.file contents)
  rw [run_save_of_free hname hfree, Task.run_finish, turn_settleTask staged (by rwa [target]),
    FileTree.remove_put, FileTree.remove_of_lookup_eq_none below hfree.2.2]
  rfl

/-- What was staged for the place of a directory is taken away again. -/
theorem run_save_onto_directory (hname : bareName? path = some name)
    (hfree : t.Free place (w.stagingName name number))
    (htarget : t.lookup (place ++ [name]) = some .directory) :
    (save w place path contents).run ⟨t, number⟩ =
      (.error (.write path .isDirectory), ⟨t, number + 1⟩) := by
  have below : place ++ [w.stagingName name number] ≠ [] := by simp
  have staged := t.lookup_put_self below (.file contents)
  have target := t.lookup_put_of_ne (staging_ne_target w place name number).symm (.file contents)
  rw [run_save_of_free hname hfree, Task.run_finish,
    turn_settleTask_onto_directory staged (target.trans htarget), run_giveUp,
    FileTree.discard_file staged, FileTree.remove_put,
    FileTree.remove_of_lookup_eq_none below hfree.2.2]

/-- A write whose staged file cannot have its name fails, and its error has this name. A file that
has the name already goes away, whoever staged it. -/
theorem run_save_of_not_free (hname : bareName? path = some name)
    (hfree : ¬t.Free place (w.stagingName name number)) :
    ∃ fault, (save w place path contents).run ⟨t, number⟩ =
      (.error (.write (w.stagingName name number) fault),
        ⟨t.discard (place ++ [w.stagingName name number]), number + 1⟩) := by
  obtain ⟨fault, turned⟩ := turn_stageTask_of_not_free hfree
  refine ⟨fault, ?_⟩
  rw [save, Task.run_finish, turn_saveTask hname, Task.run_finish, turned, run_giveUp]

end Steps

end University.Files
