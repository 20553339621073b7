import University.Files.Document
import University.Proofs.Dataset.Distinct
import University.Proofs.Dataset.Rows
import University.Proofs.Files.Staging

/-! # Documents in one directory

All documents are written side by side into one directory. Each is staged under a name that no document
bears, and the names end with running numbers, which no two writes share. So no step of one write is in
the way of another: in whatever order the steps are done, the directory holds every document in the end,
and all else is as it was.
-/

namespace University

open Files

namespace Table

/-- The place of the document of a table in a directory. -/
def target (place : Place) (table : Table) : Place := place ++ [table.schema.fileName]

/-- Where the document is staged by a write that has a running number. -/
def staging (w : Writer) (place : Place) (table : Table) (number : Nat) : Place :=
  place ++ [w.stagingName table.schema.fileName number]

theorem bareName?_fileName (table : Table) :
    bareName? table.schema.fileName = some table.schema.fileName := by
  cases table <;> rfl

theorem fileName_batch (d : Dataset) (table : Table) :
    (d.batch table).fileName = table.schema.fileName := rfl

theorem target_ne_nil (place : Place) (table : Table) : table.target place ≠ [] := by
  simp [target]

theorem staging_ne_nil (w : Writer) (place : Place) (table : Table) (number : Nat) :
    table.staging w place number ≠ [] := by
  simp [staging]

theorem target_injective (place : Place) : Function.Injective (target place) := by
  intro table other same
  have names : table.schema.name = other.schema.name := by
    simpa [target, Schema.fileName] using same
  exact name_injective names

theorem staging_ne_target (w : Writer) (place : Place) (table other : Table) (number : Nat) :
    table.staging w place number ≠ other.target place := by
  intro same
  have names : w.stagingName table.schema.fileName number = other.schema.fileName := by
    simpa [staging, target] using same
  -- What is staged is hidden, and documents are not.
  have hidden := head?_stagingName table.schema.fileName w.process.toNat (w.clock number).toNat number
  rw [Writer.stagingName] at names
  rw [names] at hidden
  revert hidden
  cases other <;> decide

/-- The names of documents leave room for those of staged files. -/
theorem free_staging {w : Writer} {place : Place} {t : FileTree} {number : Nat} (table : Table)
    (h : t.lookup (table.staging w place number) = none) :
    t.Free place (w.stagingName table.schema.fileName number) := by
  apply free_stagingName _ _ h
  · cases table <;> decide
  · cases table <;> decide

/-- Where a document is staged tells the running number. -/
theorem sequence_of_staging_eq {w : Writer} {place : Place} {table other : Table} {number number' : Nat}
    (h : table.staging w place number = other.staging w place number') :
    number % sequenceLimit = number' % sequenceLimit := by
  have names : w.stagingName table.schema.fileName number =
      w.stagingName other.schema.fileName number' := by
    simpa [staging] using h
  exact sequence_of_stagingName_eq names

end Table

/-- How far the write of a document is. -/
inductive WritePhase where
  | waiting
  /-- The directory is open. -/
  | opened
  /-- The write has its running number. -/
  | named (number : Nat)
  | staged (number : Nat)
  | written

namespace WritePhase

def task (w : Writer) (here : Place) (directory : String) (place : Place) (b : Batch) :
    WritePhase → DocumentTask
  | waiting => documentTask w here directory b
  | opened => (saveTask w place b.fileName b.document).map (documentResult directory b)
  | named number =>
    (stageTask place b.fileName b.fileName (w.stagingName b.fileName number) b.document).map
      (documentResult directory b)
  | staged number =>
    (settleTask b.fileName (place ++ [w.stagingName b.fileName number]) (place ++ [b.fileName])).map
      (documentResult directory b)
  | written => .done (.ok (join directory b.fileName))

/-- Where the document of the table is, if it is in the directory already. -/
def place? (w : Writer) (place : Place) (table : Table) : WritePhase → Option Place
  | waiting | opened | named _ => none
  | staged number => some (table.staging w place number)
  | written => some (table.target place)

/-- The running number of a write that has one and is not over. -/
def number? : WritePhase → Option Nat
  | named number | staged number => some number
  | waiting | opened | written => none

/-- Whether the write has not asked for its running number yet. -/
def isEarly : WritePhase → Bool
  | waiting | opened => true
  | named _ | staged _ | written => false

theorem place?_of_isEarly {phase : WritePhase} (h : phase.isEarly = true) (w : Writer) (place : Place)
    (table : Table) : phase.place? w place table = none := by
  cases phase with
  | waiting | opened => rfl
  | named | staged | written => cases h

theorem of_place? {phase : WritePhase} {w : Writer} {place p : Place} {table : Table}
    (h : phase.place? w place table = some p) :
    (∃ number, phase = .staged number ∧ p = table.staging w place number) ∨
      phase = .written ∧ p = table.target place := by
  cases phase with
  | waiting | opened | named => cases h
  | staged number => exact .inl ⟨number, rfl, (Option.some.inj h).symm⟩
  | written => exact .inr ⟨rfl, (Option.some.inj h).symm⟩

end WritePhase

section Numbers

variable {first number : Nat} {order : List Table} {phase : Table → WritePhase} {k : Table}
  {next : WritePhase}

/-- The writes that have asked for their running numbers, in this order, got one number after the other;
`number` is the next. -/
structure NumbersGiven (first : Nat) (order : List Table) (phase : Table → WritePhase) (number : Nat) :
    Prop where
  nodup : order.Nodup
  next_eq : number = first + order.length
  not_early : ∀ table ∈ order, (phase table).isEarly = false
  own : ∀ table n, (phase table).number? = some n → ∃ i, order[i]? = some table ∧ n = first + i

namespace NumbersGiven

theorem start (first : Nat) : NumbersGiven first [] (fun _ => .waiting) first where
  nodup := .nil
  next_eq := rfl
  not_early := nofun
  own := nofun

/-- A write goes on without a new number. -/
theorem keep (h : NumbersGiven first order phase number)
    (hnumber : ∀ n, next.number? = some n → (phase k).number? = some n)
    (hearly : next.isEarly = true → (phase k).isEarly = true) :
    NumbersGiven first order (Function.update phase k next) number where
  nodup := h.nodup
  next_eq := h.next_eq
  not_early := by
    intro table asked
    have before := h.not_early table asked
    by_cases own : table = k
    · subst own
      rw [Function.update_self, Bool.eq_false_iff]
      exact fun early => absurd (hearly early) (by simp [before])
    · rwa [Function.update_of_ne own]
  own := by
    intro table n hn
    by_cases own : table = k
    · subst own
      rw [Function.update_self] at hn
      exact h.own table n (hnumber n hn)
    · rw [Function.update_of_ne own] at hn
      exact h.own table n hn

theorem not_mem (h : NumbersGiven first order phase number) (hk : (phase k).isEarly = true) :
    k ∉ order := by
  intro asked
  rw [h.not_early k asked] at hk
  cases hk

/-- A write asks for its number. -/
theorem take (h : NumbersGiven first order phase number) (hk : (phase k).isEarly = true) :
    NumbersGiven first (order ++ [k]) (Function.update phase k (.named number)) (number + 1) where
  nodup := by
    rw [List.nodup_append_comm]
    exact List.nodup_cons.mpr ⟨h.not_mem hk, h.nodup⟩
  next_eq := by rw [h.next_eq, List.length_append]; rfl
  not_early := by
    intro table asked
    by_cases own : table = k
    · rw [own, Function.update_self]
      rfl
    · rw [Function.update_of_ne own]
      have before : table ∈ order := by simpa [own] using asked
      exact h.not_early table before
  own := by
    intro table n hn
    by_cases own : table = k
    · subst own
      rw [Function.update_self] at hn
      cases hn
      exact ⟨order.length, by simp, h.next_eq⟩
    · rw [Function.update_of_ne own] at hn
      obtain ⟨i, at_i, rfl⟩ := h.own table n hn
      obtain ⟨bound, -⟩ := List.getElem?_eq_some_iff.mp at_i
      exact ⟨i, by rwa [List.getElem?_append_left bound], rfl⟩

theorem length_le (h : NumbersGiven first order phase number) : order.length ≤ Table.all.length :=
  (List.subperm_of_subset h.nodup fun table _ => Table.mem_all table).length_le

theorem own_lt (h : NumbersGiven first order phase number) {table : Table} {n : Nat}
    (hn : (phase table).number? = some n) : ∃ i < Table.all.length, n = first + i := by
  obtain ⟨i, at_i, rfl⟩ := h.own table n hn
  obtain ⟨bound, -⟩ := List.getElem?_eq_some_iff.mp at_i
  exact ⟨i, Nat.lt_of_lt_of_le bound h.length_le, rfl⟩

/-- Two writes under way have different numbers, even when the numbers start again. -/
theorem unique (h : NumbersGiven first order phase number) {table other : Table} {n n' : Nat}
    (hn : (phase table).number? = some n) (hn' : (phase other).number? = some n')
    (hsame : n % sequenceLimit = n' % sequenceLimit) : table = other := by
  obtain ⟨i, at_i, rfl⟩ := h.own table n hn
  obtain ⟨j, at_j, rfl⟩ := h.own other n' hn'
  obtain ⟨bound, -⟩ := List.getElem?_eq_some_iff.mp at_i
  obtain ⟨bound', -⟩ := List.getElem?_eq_some_iff.mp at_j
  have few : order.length ≤ 21 := h.length_le
  have same : i = j := by
    simp only [sequenceLimit] at hsame
    omega
  rw [same, at_j] at at_i
  exact (Option.some.inj at_i).symm

variable {w : Writer} {place p : Place}

/-- Documents that are in the directory have places of their own. -/
theorem apart (h : NumbersGiven first order phase number) {table other : Table}
    (there : (phase table).place? w place table = some p)
    (there' : (phase other).place? w place other = some p) : table = other := by
  rcases WritePhase.of_place? there with ⟨n, staged, rfl⟩ | ⟨-, rfl⟩
  · rcases WritePhase.of_place? there' with ⟨n', staged', same⟩ | ⟨-, same⟩
    · have hn : (phase table).number? = some n := by rw [staged]; rfl
      have hn' : (phase other).number? = some n' := by rw [staged']; rfl
      exact h.unique hn hn' (Table.sequence_of_staging_eq same)
    · exact absurd same (Table.staging_ne_target w place table other n)
  · rcases WritePhase.of_place? there' with ⟨n', -, same⟩ | ⟨-, same⟩
    · exact absurd same.symm (Table.staging_ne_target w place other table n')
    · exact Table.target_injective place same

/-- No other document is where one write brings its own. -/
theorem nobody_else (h : NumbersGiven first order (Function.update phase k next) number)
    (new : next.place? w place k = some p) {table : Table} (other : table ≠ k) :
    (phase table).place? w place table ≠ some p := by
  intro there
  apply other
  apply h.apart (w := w) (p := p)
  · rwa [Function.update_of_ne other]
  · rwa [Function.update_self]

end NumbersGiven

end Numbers

/-- No directory is where a document belongs. -/
def Unobstructed (t : FileTree) (place : Place) : Prop :=
  ∀ table : Table, t.lookup (table.target place) ≠ some .directory

/-- Nothing has the names of the staged files that get the next running numbers, from `first` on. -/
def Stageable (w : Writer) (t : FileTree) (place : Place) (first : Nat) : Prop :=
  ∀ i < Table.all.length, ∀ table : Table, t.lookup (table.staging w place (first + i)) = none

section Progress

variable {w : Writer} {opened : FileTree} {place : Place} {d : Dataset} {first : Nat}
  {phase : Table → WritePhase} {s : Storage}

/-- The storage while documents are written: those that are there have places of their own, running
numbers are given out one after the other, and all else is as it was when the directory was opened. -/
structure Progress (w : Writer) (opened : FileTree) (place : Place) (d : Dataset) (first : Nat)
    (phase : Table → WritePhase) (s : Storage) : Prop where
  document : ∀ table p, (phase table).place? w place table = some p →
    s.tree.lookup p = some (.file (d.batch table).document)
  elsewhere : ∀ p, (∀ table, (phase table).place? w place table ≠ some p) →
    s.tree.lookup p = opened.lookup p
  numbered : ∃ order, NumbersGiven first order phase s.number

namespace Progress

/-- Nothing is done yet but the opening of the directory. -/
theorem start (w : Writer) (opened : FileTree) (place : Place) (d : Dataset) (first : Nat) :
    Progress w opened place d first (fun _ => .waiting) ⟨opened, first⟩ where
  document := nofun
  elsewhere := fun _ _ => rfl
  numbered := ⟨[], .start first⟩

/-- One write goes on: its document leaves the old place for the new one, nothing else changes. -/
theorem advance (h : Progress w opened place d first phase s) (k : Table) (next : WritePhase)
    {t : FileTree} {number : Nat} {order : List Table}
    (hnumbered : NumbersGiven first order (Function.update phase k next) number)
    (hnew : ∀ p, next.place? w place k = some p → t.lookup p = some (.file (d.batch k).document))
    (hold : ∀ p, (phase k).place? w place k = some p → next.place? w place k ≠ some p →
      t.lookup p = opened.lookup p)
    (hsame : ∀ p, (phase k).place? w place k ≠ some p → next.place? w place k ≠ some p →
      t.lookup p = s.tree.lookup p) :
    Progress w opened place d first (Function.update phase k next) ⟨t, number⟩ where
  document := by
    intro table p there
    by_cases own : table = k
    · subst own
      rw [Function.update_self] at there
      exact hnew p there
    · -- The place of another table's document is neither the old nor the new one of `k`.
      obtain ⟨_, numbered⟩ := h.numbered
      rw [Function.update_of_ne own] at there
      rw [hsame p, h.document table p there]
      · exact fun old => own (numbered.apart there old)
      · exact fun new => hnumbered.nobody_else new own there
  elsewhere := by
    intro p nobody
    have other : ∀ table ≠ k, (phase table).place? w place table ≠ some p := by
      intro table own
      have there := nobody table
      rwa [Function.update_of_ne own] at there
    have new := nobody k
    rw [Function.update_self] at new
    by_cases old : (phase k).place? w place k = some p
    · exact hold p old new
    · rw [hsame p old new]
      apply h.elsewhere
      intro table
      by_cases own : table = k
      · rwa [own]
      · exact other table own
  numbered := ⟨order, hnumbered⟩

/-- Where a document is, nothing was before, unless it is the place where the document belongs. -/
theorem occupied (h : Progress w opened place d first phase s) (hstage : Stageable w opened place first)
    {table : Table} {p : Place} (there : (phase table).place? w place table = some p) :
    (opened.lookup p = none ∧ ∀ other : Table, p ≠ other.target place) ∨
      phase table = .written ∧ p = table.target place := by
  rcases WritePhase.of_place? there with ⟨n, staged, rfl⟩ | written
  · obtain ⟨_, numbered⟩ := h.numbered
    have own : (phase table).number? = some n := by rw [staged]; rfl
    obtain ⟨i, bound, rfl⟩ := numbered.own_lt own
    exact .inl ⟨hstage i bound table, fun other => Table.staging_ne_target w place table other _⟩
  · exact .inr written

theorem directoriesIn (h : Progress w opened place d first phase s)
    (hstage : Stageable w opened place first) (hfree : Unobstructed opened place) :
    opened.DirectoriesIn s.tree := by
  intro p hp
  rw [h.elsewhere p, hp]
  intro table there
  rcases h.occupied hstage there with ⟨unused, -⟩ | ⟨-, rfl⟩
  · rw [unused] at hp
    cases hp
  · exact hfree table hp

theorem lookup_target (h : Progress w opened place d first phase s)
    (hstage : Stageable w opened place first) {table : Table} (hphase : phase table ≠ .written) :
    s.tree.lookup (table.target place) = opened.lookup (table.target place) := by
  apply h.elsewhere
  intro other there
  rcases h.occupied hstage there with ⟨-, visible⟩ | ⟨hother, same⟩
  · exact visible table rfl
  · rw [Table.target_injective place same] at hphase
    exact hphase hother

/-- A write that is not in the directory yet changes nothing there. -/
theorem prepare (h : Progress w opened place d first phase s) {k : Table} {next : WritePhase}
    (hk : (phase k).isEarly = true) (hnext : next.place? w place k = none) {number : Nat}
    {order : List Table} (hnumbered : NumbersGiven first order (Function.update phase k next) number) :
    Progress w opened place d first (Function.update phase k next) ⟨s.tree, number⟩ := by
  apply h.advance k next hnumbered
  · intro p new
    rw [hnext] at new
    cases new
  · intro p old
    rw [WritePhase.place?_of_isEarly hk] at old
    cases old
  · exact fun _ _ _ => rfl

theorem stage (h : Progress w opened place d first phase s) (hstage : Stageable w opened place first)
    {k : Table} {n : Nat} (hk : phase k = .named n) :
    s.tree.Free place (w.stagingName k.schema.fileName n) ∧
      Progress w opened place d first (Function.update phase k (.staged n))
        ⟨s.tree.put (k.staging w place n) (.file (d.batch k).document), s.number⟩ := by
  obtain ⟨order, numbered⟩ := h.numbered
  have own : (phase k).number? = some n := by rw [hk]; rfl
  have nowhere : (phase k).place? w place k = none := by rw [hk]; rfl
  have numbered' : NumbersGiven first order (Function.update phase k (.staged n)) s.number := by
    apply numbered.keep
    · intro m hm
      rw [own]
      exact hm
    · exact nofun
  have nobody : ∀ table, (phase table).place? w place table ≠ some (k.staging w place n) := by
    intro table
    by_cases same : table = k
    · rw [same, nowhere]
      exact nofun
    · exact numbered'.nobody_else rfl same
  obtain ⟨i, bound, rfl⟩ := numbered.own_lt own
  refine ⟨k.free_staging ((h.elsewhere _ nobody).trans (hstage i bound k)), ?_⟩
  apply h.advance k (.staged _) numbered'
  · rintro p new
    cases new
    exact s.tree.lookup_put_self (k.staging_ne_nil w place _) _
  · intro p old
    rw [nowhere] at old
    cases old
  · intro p _ new
    exact s.tree.lookup_put_of_ne (fun same => new (congrArg some same.symm)) _

/-- What is moved into its place leaves nothing behind. -/
theorem settle (h : Progress w opened place d first phase s) (hstage : Stageable w opened place first)
    {k : Table} {n : Nat} (hk : phase k = .staged n) :
    Progress w opened place d first (Function.update phase k .written)
      ⟨(s.tree.remove (k.staging w place n)).put (k.target place) (.file (d.batch k).document),
        s.number⟩ := by
  obtain ⟨order, numbered⟩ := h.numbered
  have own : (phase k).place? w place k = some (k.staging w place n) := by rw [hk]; rfl
  have below := k.staging_ne_nil w place n
  obtain ⟨unused, visible⟩ : opened.lookup (k.staging w place n) = none ∧
      ∀ other : Table, k.staging w place n ≠ other.target place := by
    rcases h.occupied hstage own with free | ⟨-, same⟩
    · exact free
    · exact absurd same (Table.staging_ne_target w place k k n)
  apply h.advance k .written (numbered.keep (fun _ => nofun) nofun)
  · rintro p new
    cases new
    exact FileTree.lookup_put_self _ (k.target_ne_nil place) _
  · intro p old _
    obtain rfl : k.staging w place n = p := Option.some.inj (own.symm.trans old)
    rw [FileTree.lookup_put_of_ne _ (visible k), FileTree.lookup_remove_self _ below, unused]
  · intro p old new
    have other : p ≠ k.target place := fun same => new (same ▸ rfl)
    have other' : p ≠ k.staging w place n := fun same => old (same ▸ own)
    rw [FileTree.lookup_put_of_ne _ other, FileTree.lookup_remove_of_ne _ other']

end Progress

end Progress

section Turns

variable {w : Writer} {opened : FileTree} {here place : Place} {directory : String} {d : Dataset}
  {first : Nat} {phase : Table → WritePhase} {s : Storage}

theorem Task.turn_map {σ α β : Type} (f : α → β) (task : Task (StateM σ) α) (s : σ) :
    (task.map f).turn s = ((task.turn s).1.map f, (task.turn s).2) := by
  cases task <;> rfl

theorem turn_documentTask {t : FileTree} {number : Nat}
    (h : t.openDirectory here directory = (.ok place, opened)) (b : Batch) :
    (documentTask w here directory b).turn ⟨t, number⟩ =
      (WritePhase.opened.task w here directory place b, ⟨opened, number⟩) := by
  simp only [documentTask, Task.turn, Storage.onTree, StateT.run, h]
  rfl

theorem WritePhase.eq_written {phase : WritePhase} {table : Table}
    {answer : Except DocumentSinkError String}
    (h : phase.task w here directory place (d.batch table) = .done answer) : phase = .written := by
  cases phase with
  | opened =>
      rw [task, Table.fileName_batch, saveTask, table.bareName?_fileName] at h
      cases h
  | waiting | named | staged => cases h
  | written => rfl

/-- A turn brings one write on, and all others stay where they are. -/
theorem Progress.turn (h : Progress w opened place d first phase s)
    (hopens : opened.Opens here directory place) (hfree : Unobstructed opened place)
    (hstage : Stageable w opened place first) (k : Table) :
    ∃ next s', ((phase k).task w here directory place (d.batch k)).turn s =
        (next.task w here directory place (d.batch k), s') ∧
      Progress w opened place d first (Function.update phase k next) s' := by
  obtain ⟨t, number⟩ := s
  obtain ⟨order, numbered⟩ := h.numbered
  cases hk : phase k with
  | waiting =>
      have early : (phase k).isEarly = true := by rw [hk]; rfl
      have again := (hopens.of_directoriesIn (h.directoriesIn hstage hfree)).openDirectory_eq
      exact ⟨.opened, ⟨t, number⟩, turn_documentTask again _,
        h.prepare early rfl (numbered.keep (fun _ => nofun) fun _ => early)⟩
  | opened =>
      have early : (phase k).isEarly = true := by rw [hk]; rfl
      refine ⟨.named number, ⟨t, number + 1⟩, ?_,
        h.prepare early rfl (numbered.take early)⟩
      rw [WritePhase.task, Task.turn_map, Table.fileName_batch, turn_saveTask k.bareName?_fileName]
      rfl
  | named n =>
      obtain ⟨free, progress⟩ := h.stage hstage hk
      refine ⟨.staged n, _, ?_, progress⟩
      rw [WritePhase.task, Task.turn_map, Table.fileName_batch, turn_stageTask free]
      rfl
  | staged n =>
      have document := h.document k (k.staging w place n) (by rw [hk]; rfl)
      have visible : t.lookup (k.target place) ≠ some .directory := by
        rw [h.lookup_target hstage (by rw [hk]; exact nofun)]
        exact hfree k
      refine ⟨.written, _, ?_, h.settle hstage hk⟩
      rw [WritePhase.task, Task.turn_map, Table.fileName_batch, ← Table.staging, ← Table.target,
        turn_settleTask document visible]
      rfl
  | written =>
      refine ⟨.written, ⟨t, number⟩, rfl, ?_⟩
      rwa [← hk, Function.update_eq_self]

/-- The writes and the storage on the way: either nothing is done yet, or the directory is open. -/
inductive Underway (w : Writer) (here : Place) (directory : String) (s : Storage) (opened : FileTree)
    (place : Place) (d : Dataset) : (Table → DocumentTask) → Storage → Prop where
  | waiting : Underway w here directory s opened place d
      (fun table => documentTask w here directory (d.batch table)) s
  | opened {phase : Table → WritePhase} {left : Storage} :
      Progress w opened place d s.number phase left →
      Underway w here directory s opened place d
        (fun table => (phase table).task w here directory place (d.batch table)) left

theorem underway_preserved (hopen : s.tree.openDirectory here directory = (.ok place, opened))
    (hfree : Unobstructed opened place) (hstage : Stageable w opened place s.number) :
    Task.TurnsPreserve (Underway w here directory s opened place d) := by
  have advance : ∀ (phase : Table → WritePhase) (k : Table) (next : WritePhase),
      Function.update (fun table => (phase table).task w here directory place (d.batch table)) k
          (next.task w here directory place (d.batch k)) = fun table =>
        (Function.update phase k next table).task w here directory place (d.batch table) := by
    intro phase k next
    funext table
    exact (Function.apply_update
      (fun table phase => WritePhase.task w here directory place (d.batch table) phase) ..).symm
  intro tasks left underway k
  cases underway with
  | waiting =>
      -- Whichever write comes first makes the directory; the others find it open.
      have first : (documentTask w here directory (d.batch k)).turn s =
          (WritePhase.opened.task w here directory place (d.batch k), ⟨opened, s.number⟩) :=
        turn_documentTask hopen _
      rw [first]
      have numbered : NumbersGiven s.number [] (Function.update (fun _ => .waiting) k .opened)
          s.number :=
        (NumbersGiven.start s.number).keep (fun _ => nofun) fun _ => rfl
      have begun := (Progress.start w opened place d s.number).prepare rfl rfl numbered
      have going : Underway w here directory s opened place d _ ⟨opened, s.number⟩ := .opened begun
      rw [← advance] at going
      exact going
  | opened progress =>
      obtain ⟨next, left', turned, progress'⟩ :=
        progress.turn (FileTree.opens_of_openDirectory hopen).1 hfree hstage k
      rw [turned, advance]
      exact .opened progress'

end Turns

section Seeding

variable {c : Config} {d : Dataset} {w : Writer} {s : Storage} {t opened : FileTree}
  {here place : Place} {directory : String}

/-- The tree when all documents are written in a directory that was opened in `t`. -/
structure Documented (t opened : FileTree) (place : Place) (d : Dataset) (final : FileTree) :
    Prop where
  document : ∀ table : Table,
    final.lookup (table.target place) = some (.file (d.batch table).document)
  /-- No other file is changed, and none is left behind. -/
  files : ∀ p, (∀ table : Table, p ≠ table.target place) → ∀ contents,
    (final.lookup p = some (.file contents) ↔ t.lookup p = some (.file contents))
  directories : ∀ p, final.lookup p = some .directory ↔ opened.lookup p = some .directory

theorem Progress.documented {final : Storage} {first : Nat} {phase : Table → WritePhase}
    (h : Progress w opened place d first phase final) (hwritten : ∀ table, phase table = .written)
    (hgains : t.GainsDirectories opened) (hfree : Unobstructed opened place) :
    Documented t opened place d final.tree := by
  have document : ∀ table : Table,
      final.tree.lookup (table.target place) = some (.file (d.batch table).document) := by
    intro table
    apply h.document
    rw [hwritten]
    rfl
  have elsewhere : ∀ p, (∀ table : Table, p ≠ table.target place) →
      final.tree.lookup p = opened.lookup p := by
    intro p other
    apply h.elsewhere
    intro table there
    rw [hwritten] at there
    exact other table (Option.some.inj there).symm
  refine ⟨document, ?_, ?_⟩
  · intro p other contents
    rw [elsewhere p other]
    exact hgains.file_iff p contents
  · intro p
    by_cases target : ∃ table : Table, p = table.target place
    · obtain ⟨table, rfl⟩ := target
      simp [document, hfree table]
    · rw [elsewhere p fun table same => target ⟨table, same⟩]

theorem countWritten_ok (path : Table → String) (tables : List Table) :
    countWritten (tables.map fun table => .ok (path table)) = tables.length := by
  simp [countWritten, List.countP_map, Function.comp_def]

theorem writeErrors_ok (path : Table → String) (tables : List Table) :
    writeErrors (tables.map fun table => .ok (path table)) = [] := by
  simp [writeErrors, List.filterMap_map]

/-- However the steps of the writes are scheduled, all documents are in the directory in the end. -/
theorem together_documentTasks (d : Dataset)
    (hopen : s.tree.openDirectory here directory = (.ok place, opened))
    (hfree : Unobstructed opened place) (hstage : Stageable w opened place s.number)
    (schedule : List Nat) :
    ∃ final, (Task.together schedule
        (Table.all.map fun table => documentTask w here directory (d.batch table))).run s =
          (Table.all.map fun table => .ok (join directory (d.batch table).fileName), final) ∧
      Documented s.tree opened place d final.tree := by
  have once : Table.all.Nodup := by decide
  obtain ⟨ended, underway, ended_eq⟩ :=
    Task.together_preserves (underway_preserved (d := d) hopen hfree hstage) once schedule .waiting
  generalize (Task.together schedule (Table.all.map fun table =>
    documentTask w here directory (d.batch table))).run s = result at underway ended_eq ⊢
  obtain ⟨answers, final⟩ := result
  have each_done : ∀ table, ∃ answer, ended table = .done answer := by
    intro table
    have mem : ended table ∈ Table.all.map ended := List.mem_map_of_mem (Table.mem_all table)
    rw [ended_eq] at mem
    obtain ⟨answer, -, same⟩ := List.mem_map.mp mem
    exact ⟨answer, same.symm⟩
  cases underway with
  | waiting =>
      obtain ⟨answer, done⟩ := each_done .faculties
      cases done
  | @opened phase _ progress =>
      have written : ∀ table, phase table = .written := by
        intro table
        obtain ⟨answer, done⟩ := each_done table
        exact WritePhase.eq_written done
      refine ⟨final, Prod.ext ?_ rfl, progress.documented written
        (FileTree.opens_of_openDirectory hopen).2 hfree⟩
      have done_injective : Function.Injective
          (Task.done : Except DocumentSinkError String → DocumentTask) := by
        intro x y same
        cases same
        rfl
      apply List.map_injective_iff.mpr done_injective
      rw [← ended_eq, List.map_map]
      apply List.map_congr_left
      intro table _
      simp only [written]
      rfl

/-- A dataset is delivered to a directory as one document for each table, whatever the schedule. -/
theorem Delivery.seed_documents (h : c.generate = .ok d)
    (hopen : s.tree.openDirectory here directory = (.ok place, opened))
    (hfree : Unobstructed opened place) (hstage : Stageable w opened place s.number)
    (schedule : List Nat) :
    ∃ final, ((Delivery.mk (some (documentTask w here directory)) none).seed schedule c).run s =
        (.ok (d, { tables := 21, documentsWritten := 21, failures := [], rowsInserted := 0 }),
          final) ∧
      Documented s.tree opened place d final.tree := by
  obtain ⟨final, run_eq, documented⟩ := together_documentTasks d hopen hfree hstage schedule
  refine ⟨final, ?_, documented⟩
  have tasks : d.batches.map (documentTask w here directory) =
      Table.all.map fun table => documentTask w here directory (d.batch table) := List.map_map
  have written := countWritten_ok (fun table => join directory (d.batch table).fileName) Table.all
  have failed := writeErrors_ok (fun table => join directory (d.batch table).fileName) Table.all
  simp only [seed, h, run, run_bind, writeAll, insertAll, tasks, run_eq, run_pure, written, failed]
  rfl

/-- A directory with an older document, with notes and with a file that an earlier process staged. -/
def usedDirectory : FileTree :=
  ⟨[(["data"], .directory), (["data", "faculties.json"], .file "[]"),
    (["data", "notes.txt"], .file ""), (["data", ".majors.json.6-1-0.partial"], .file "[")]⟩

/-- A process whose clock goes on by a second with every running number. -/
def steadyWriter : Writer := ⟨7, fun number => .ofNat 128 (number * 1000000000)⟩

/-- What is staged in the used directory is hidden, and has another running number than what is left
there. -/
theorem stageable_usedDirectory : Stageable steadyWriter usedDirectory ["data"] 3 := by
  intro i hi table
  have hidden := head?_stagingName table.schema.fileName 7 (steadyWriter.clock (3 + i)).toNat (3 + i)
  have older : steadyWriter.stagingName table.schema.fileName (3 + i) ≠
      ".majors.json.6-1-0.partial" := by
    intro same
    have left : ".majors.json.6-1-0.partial" = stagingName "majors.json" 6 1 0 := by decide +kernel
    have sequence := sequence_of_stagingName_eq (same.trans left)
    have few : i < 21 := hi
    simp only [sequenceLimit] at sequence
    omega
  have named (name : String) (h : name.toList.head? ≠ some '.') :
      steadyWriter.stagingName table.schema.fileName (3 + i) ≠ name := by
    rintro rfl
    exact h hidden
  have faculties := named "faculties.json" (by decide)
  have notes := named "notes.txt" (by decide)
  simp [FileTree.lookup, usedDirectory, Table.staging, older.symm, faculties.symm, notes.symm]

theorem Delivery.seed_documents_sample :
    ∃ d final, Config.sample.generate = .ok d ∧
      usedDirectory.openDirectory [] "data" = (.ok ["data"], usedDirectory) ∧
      Unobstructed usedDirectory ["data"] ∧ Stageable steadyWriter usedDirectory ["data"] 3 ∧
      ((Delivery.mk (some (documentTask steadyWriter [] "data")) none).seed [20, 0, 20, 0]
          Config.sample).run ⟨usedDirectory, 3⟩ =
        (.ok (d, { tables := 21, documentsWritten := 21, failures := [], rowsInserted := 0 }),
          final) ∧
      Documented usedDirectory usedDirectory ["data"] d final.tree := by
  obtain ⟨d, h, -⟩ := Config.sample_distinct
  have opens : usedDirectory.Opens [] "data" ["data"] :=
    ⟨by decide, by decide, by decide, rfl, rfl⟩
  have free : Unobstructed usedDirectory ["data"] := by
    intro table
    cases table <;> decide
  obtain ⟨final, run_eq, documented⟩ :=
    seed_documents (s := ⟨usedDirectory, 3⟩) h opens.openDirectory_eq free stageable_usedDirectory
      [20, 0, 20, 0]
  exact ⟨d, final, h, opens.openDirectory_eq, free, stageable_usedDirectory, run_eq, documented⟩

end Seeding

end University
