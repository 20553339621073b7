import University.Proofs.Dataset.Distinct
import University.Proofs.Dataset.Stages

/-! # Configurations that agree for a while

Two runs with the same seed go through the same stages as long as their configurations agree. What
later stages do keeps the tables of earlier ones, and adds users only behind those that are there.
So a table depends on the parameters up to that of its stage and on no later one.
-/

namespace University

namespace Stage

def upTo (last : Stage) : List Stage := all.take (all.idxOf last + 1)

def behind (last : Stage) : List Stage := all.drop (all.idxOf last + 1)

theorem upTo_append_behind (last : Stage) : upTo last ++ behind last = all :=
  List.take_append_drop ..

theorem mem_all (stage : Stage) : stage ∈ all := by
  cases stage <;> decide

theorem upTo_prefix {stage last : Stage} (h : stage ∈ upTo last) : upTo stage <+: upTo last := by
  have earlier := (List.mem_take_iff_idxOf_lt (mem_all stage)).mp h
  exact List.take_prefix_take_left earlier

theorem not_mem_behind {stage last : Stage} (h : stage ∈ upTo last) : stage ∉ behind last := by
  have once : (upTo last ++ behind last).Nodup := by
    rw [upTo_append_behind]
    decide
  exact fun later => List.disjoint_of_nodup_append once h later

end Stage

/-- The stages that fill a table. -/
def Table.stages : Table → List Stage
  | faculties => [.faculties]
  | curriculums => [.curriculumsPerFaculty]
  | majors => [.majorsPerCurriculum]
  | creditRequirements => [.creditRequirementsPerMajor]
  | academicYears | semesters => [.academicYears]
  | users => [.admins, .professors, .students]
  | professors => [.professors]
  | students => [.students]
  | buildings | rooms => [.buildings]
  | subjects => [.subjects]
  | subjectSchedules | gradingCriterias | gradingCriteriaGrades | forumCategories =>
    [.schedulesPerSubject]
  | forumPosts | forumPostReplies | forumPostViews | forumPostVotes | forumPostReplyVotes =>
    [.posts]

namespace Config

/-- The configurations have the same value for the parameter of a stage. -/
def SameAt (c c' : Config) : Stage → Prop
  | .faculties => c'.faculties = c.faculties
  | .curriculumsPerFaculty => c'.curriculumsPerFaculty = c.curriculumsPerFaculty
  | .majorsPerCurriculum => c'.majorsPerCurriculum = c.majorsPerCurriculum
  | .creditRequirementsPerMajor => c'.creditRequirementsPerMajor = c.creditRequirementsPerMajor
  | .academicYears =>
    c'.firstAcademicYear = c.firstAcademicYear ∧ c'.endAcademicYear = c.endAcademicYear
  | .admins => c'.admins = c.admins
  | .professors => c'.professors = c.professors
  | .students => c'.students = c.students
  | .buildings => c'.buildings = c.buildings
  | .subjects => c'.subjects = c.subjects
  | .schedulesPerSubject => c'.schedulesPerSubject = c.schedulesPerSubject
  | .posts => c'.postVolumes = c.postVolumes

/-- The configurations begin alike and have the same parameters up to that of `last`. -/
structure AgreeUpTo (c c' : Config) (last : Stage) : Prop where
  seed : c'.seed = c.seed
  now : c'.now = c.now
  idLength : c'.idLength = c.idLength
  center : c'.center = c.center
  parameters : ∀ stage ∈ Stage.upTo last, c.SameAt c' stage

/-- How many users a stage adds. -/
def accounts (c : Config) : Stage → Nat
  | .admins => c.admins
  | .professors => c.professors
  | .students => c.students
  | _ => 0

/-- How many users there are behind a stage. -/
def accountsUpTo (c : Config) (last : Stage) : Nat := ((Stage.upTo last).map c.accounts).sum

theorem accountsUpTo_le (c : Config) {stage last : Stage} (h : stage ∈ Stage.upTo last) :
    c.accountsUpTo stage ≤ c.accountsUpTo last := by
  obtain ⟨later, split⟩ := Stage.upTo_prefix h
  rw [accountsUpTo, accountsUpTo, ← split, List.map_append, List.sum_append]
  exact Nat.le_add_right ..

theorem accountsUpTo_admins (c : Config) : c.accountsUpTo .admins = c.admins := by
  simp [accountsUpTo, Stage.upTo, Stage.all, accounts]

theorem accountsUpTo_professors (c : Config) :
    c.accountsUpTo .professors = c.admins + c.professors := by
  simp [accountsUpTo, Stage.upTo, Stage.all, accounts]

section Same

variable {c c' : Config} {last : Stage}

theorem AgreeUpTo.run_eq (h : AgreeUpTo c c' last) : c'.run = c.run := by
  rw [run, run, h.now, h.idLength]

theorem AgreeUpTo.stream_eq (h : AgreeUpTo c c' last) : c'.stream = c.stream := by
  rw [stream, stream, h.seed]

/-- A stage reads no other parameter than its own. -/
theorem AgreeUpTo.step_eq (h : AgreeUpTo c c' last) {stage : Stage}
    (hstage : stage ∈ Stage.upTo last) (d : Dataset) : c'.step stage d = c.step stage d := by
  have same := h.parameters stage hstage
  have run := h.run_eq
  have center := h.center
  cases stage <;> simp only [SameAt] at same <;> simp only [step, run, center, same]

theorem AgreeUpTo.runStages_eq (h : AgreeUpTo c c' last) {stages : List Stage}
    (hstages : ∀ stage ∈ stages, stage ∈ Stage.upTo last) (d : Dataset) :
    c'.runStages stages d = c.runStages stages d := by
  induction stages generalizing d with
  | nil => rw [runStages_nil, runStages_nil]
  | cons stage stages ih =>
      obtain ⟨here, later⟩ := List.forall_mem_cons.mp hstages
      rw [runStages_cons, runStages_cons, h.step_eq here]
      exact bind_congr (ih later)

end Same

/-- What stages leave of the dataset that they go on with. -/
structure Keeps (c : Config) (stages : List Stage) (d d' : Dataset) : Prop where
  records : ∀ t : Table, (∀ stage ∈ t.stages, stage ∉ stages) → d'.records t = d.records t
  users : ∃ new, new.length = (stages.map c.accounts).sum ∧ d'.users = d.users ++ new

namespace Keeps

variable {c : Config} {stages : List Stage} {stage : Stage} {d d' d'' : Dataset}

theorem nil (d : Dataset) : c.Keeps [] d d :=
  ⟨fun _ _ => rfl, [], rfl, (List.append_nil _).symm⟩

theorem append (h : c.Keeps stages d d') (hstage : c.Keeps [stage] d' d'') :
    c.Keeps (stages ++ [stage]) d d'' where
  records := by
    intro t ht
    rw [hstage.records t fun s hs => ?_, h.records t fun s hs => ?_]
    · exact fun mem => ht s hs (List.mem_append_left _ mem)
    · exact fun mem => ht s hs (List.mem_append_right _ mem)
  users := by
    obtain ⟨new, count, users⟩ := h.users
    obtain ⟨newer, count', users'⟩ := hstage.users
    refine ⟨new ++ newer, ?_, ?_⟩
    · rw [List.length_append, count, count', List.map_append, List.sum_append]
    · rw [users', users, List.append_assoc]

/-- A stage without accounts keeps the users. -/
theorem begin (hcount : c.accounts stage = 0) (d : Dataset) : c.Keeps [stage] d d :=
  ⟨fun _ _ => rfl, [], by simp [hcount], (List.append_nil _).symm⟩

theorem enrol (hstage : stage ∈ Table.stages .users) {new : List User}
    (hcount : new.length = c.accounts stage) (d : Dataset) :
    c.Keeps [stage] d { d with users := d.users ++ new } where
  records := by
    intro t ht
    have other : t ≠ .users := by
      rintro rfl
      exact ht stage hstage (List.mem_singleton_self _)
    exact d.records_replace_of_ne other (d.users ++ new)
  users := ⟨new, by simp [hcount], rfl⟩

theorem fill (h : c.Keeps [stage] d d') (t : Table) (ht : t.stages = [stage])
    (rs : List t.Entry) : c.Keeps [stage] d (d'.replace t rs) where
  records := by
    intro u hu
    have other : u ≠ t := by
      rintro rfl
      exact hu stage (by simp [ht]) (List.mem_singleton_self _)
    rw [Dataset.records_replace_of_ne _ other, h.records u hu]
  users := by
    have other : Table.users ≠ t := by
      rintro rfl
      cases ht
    have kept : (d'.replace t rs).users = d'.users := d'.records_replace_of_ne other rs
    rw [kept]
    exact h.users

end Keeps

open Generate (Ends)

variable {c c' : Config} {d d' : Dataset}

theorem step_keeps (c : Config) (stage : Stage) (d : Dataset) :
    (c.step stage d).Ends (c.Keeps [stage] d) fun _ => True := by
  have begun : c.accounts stage = 0 → c.Keeps [stage] d d := fun none_new => .begin none_new d
  cases stage with
  | faculties =>
      apply Ends.anyhow
      intro faculties
      exact .pure ((begun rfl).fill .faculties rfl faculties)
  | curriculumsPerFaculty =>
      apply Ends.anyhow
      intro curriculums
      exact .pure ((begun rfl).fill .curriculums rfl curriculums)
  | majorsPerCurriculum =>
      apply Ends.anyhow
      intro majors
      exact .pure ((begun rfl).fill .majors rfl majors)
  | creditRequirementsPerMajor =>
      apply Ends.anyhow
      intro creditRequirements
      exact .pure ((begun rfl).fill .creditRequirements rfl creditRequirements)
  | academicYears =>
      apply Ends.anyhow
      intro years
      apply Ends.anyhow
      intro semesters
      exact .pure (((begun rfl).fill .academicYears rfl years).fill .semesters rfl semesters)
  | admins =>
      apply ((generateAdmins_ends c.run c.admins).weaken fun _ _ => trivial).bind
      intro admins hadmins
      exact .pure (.enrol (by decide) hadmins.1 d)
  | professors =>
      apply ((generateProfessors_ends c.run c.professors).weaken fun _ _ => trivial).bind
      intro made hmade
      have enrolled : c.Keeps [.professors] d { d with users := d.users ++ made.map (·.1) } :=
        .enrol (by decide) ((List.length_map _).trans hmade.1) d
      exact .pure (enrolled.fill .professors rfl (made.map Prod.snd))
  | students =>
      apply ((generateStudents_ends c.run d.majors d.academicYears d.professors c.students).weaken
        fun _ _ => trivial).bind
      intro made hmade
      have enrolled : c.Keeps [.students] d { d with users := d.users ++ made.map (·.1) } :=
        .enrol (by decide) ((List.length_map _).trans hmade.1) d
      exact .pure (enrolled.fill .students rfl (made.map Prod.snd))
  | buildings =>
      apply Ends.anyhow
      intro buildings
      apply Ends.anyhow
      intro rooms
      exact .pure (((begun rfl).fill .buildings rfl buildings).fill .rooms rfl rooms)
  | subjects =>
      apply Ends.anyhow
      intro subjects
      exact .pure ((begun rfl).fill .subjects rfl subjects)
  | schedulesPerSubject =>
      apply Ends.anyhow
      intro schedules
      apply Ends.anyhow
      intro criterias
      apply Ends.anyhow
      intro grades
      apply Ends.anyhow
      intro categories
      have graded := (((begun rfl).fill .subjectSchedules rfl schedules).fill .gradingCriterias rfl
        criterias).fill .gradingCriteriaGrades rfl grades
      exact .pure (graded.fill .forumCategories rfl categories)
  | posts =>
      apply Ends.anyhow
      intro provisional
      apply Ends.anyhow
      intro backpatched
      apply Ends.anyhow
      intro replies
      apply Ends.anyhow
      intro views
      apply Ends.anyhow
      intro votes
      apply Ends.anyhow
      intro replyVotes
      have posted : c.Keeps [.posts] d
          { d with forumPosts := backpatched.2, forumPostReplies := replies } :=
        ((begun rfl).fill .forumPosts rfl backpatched.2).fill .forumPostReplies rfl replies
      have read : c.Keeps [.posts] d { d with
          forumPosts := backpatched.2, forumPostReplies := replies, forumPostViews := views
          forumPostVotes := votes } :=
        (posted.fill .forumPostViews rfl views).fill .forumPostVotes rfl votes
      exact .pure (read.fill .forumPostReplyVotes rfl replyVotes)

theorem runStages_keeps (c : Config) (stages : List Stage) (d : Dataset) :
    (c.runStages stages d).Ends (c.Keeps stages d) fun _ => True := by
  apply (Generate.ending _).foldlM (fun done d' => c.Keeps done d d') stages (.nil d)
  intro before stage _ d' _ kept
  exact (step_keeps c stage d').imp fun _ => kept.append

/-- A run that ends with a dataset had the tables of the first stages before. -/
theorem exists_between (h : c.generate = .ok d) (last : Stage) : ∃ between,
    ((c.runStages (Stage.upTo last) .empty).run c.stream).1 = .ok between ∧
    c.Keeps (Stage.upTo last) .empty between ∧ c.Keeps (Stage.behind last) between d := by
  unfold generate at h
  rw [generateTables_eq, ← Stage.upTo_append_behind last, runStages_append] at h
  obtain ⟨between, rest, first, second⟩ := Generate.exists_of_bind h
  have first : ((c.runStages (Stage.upTo last) .empty).run c.stream).1 = .ok between := by
    rw [first]
  exact ⟨between, first, (runStages_keeps c _ _).of_ok first, (runStages_keeps c _ _).of_ok second⟩

/-- The datasets are the same as far as the stages up to `last` go. The users are complete with the
students. -/
structure SameUpTo (c : Config) (last : Stage) (d d' : Dataset) : Prop where
  records : ∀ t : Table, (∀ stage ∈ t.stages, stage ∈ Stage.upTo last) → d'.records t = d.records t
  admins : .admins ∈ Stage.upTo last → d'.users.take c.admins = d.users.take c.admins
  professors : .professors ∈ Stage.upTo last →
    (d'.users.drop c.admins).take c.professors = (d.users.drop c.admins).take c.professors

/-- Where configurations agree for the first stages, so do their datasets, whatever comes later. -/
theorem generate_sameUpTo {last : Stage} (h : c.generate = .ok d) (h' : c'.generate = .ok d')
    (agree : AgreeUpTo c c' last) : c.SameUpTo last d d' := by
  obtain ⟨between, first, begun, kept⟩ := exists_between h last
  obtain ⟨between', first', -, kept'⟩ := exists_between h' last
  rw [agree.runStages_eq fun _ hstage => hstage, agree.stream_eq, first] at first'
  cases first'
  have count : between.users.length = c.accountsUpTo last := by
    obtain ⟨new, count, users⟩ := begun.users
    rw [users, List.length_append, count]
    exact Nat.zero_add _
  -- Both lists of users begin with those that were there behind `last`.
  have same : ∀ n ≤ c.accountsUpTo last, d'.users.take n = d.users.take n := by
    intro n hn
    obtain ⟨more, -, users⟩ := kept.users
    obtain ⟨more', -, users'⟩ := kept'.users
    rw [users, users', List.take_append_of_le_length (count ▸ hn),
      List.take_append_of_le_length (count ▸ hn)]
  constructor
  · intro t ht
    have settled : ∀ stage ∈ t.stages, stage ∉ Stage.behind last :=
      fun stage hstage => Stage.not_mem_behind (ht stage hstage)
    rw [kept'.records t settled, kept.records t settled]
  · intro passed
    exact same _ (c.accountsUpTo_admins ▸ c.accountsUpTo_le passed)
  · intro passed
    rw [List.take_drop, List.take_drop]
    rw [same _ (c.accountsUpTo_professors ▸ c.accountsUpTo_le passed)]

/-- A larger university that begins as the small one does. -/
def enlarged : Config :=
  { sample with professors := 2, students := 5, buildings := 3, subjects := 4, posts := 7 }

theorem generate_sameUpTo_enlarged : ∃ d d', sample.generate = .ok d ∧ enlarged.generate = .ok d' ∧
    AgreeUpTo sample enlarged .admins ∧ sample.SameUpTo .admins d d' := by
  obtain ⟨d, h, -⟩ := sample_distinct
  have memory : enlarged.FitsMemory := by
    constructor <;> decide
  obtain ⟨d', h'⟩ := exists_of_outcome memory (nodup_of_one memory rfl) (by decide) (by decide)
    (by decide) (by rfl)
  have agree : AgreeUpTo sample enlarged .admins := by
    refine ⟨rfl, rfl, rfl, rfl, ?_⟩
    intro stage hstage
    cases stage <;> first | exact rfl | exact ⟨rfl, rfl⟩ | exact absurd hstage (by decide)
  exact ⟨d, d', h, h', agree, generate_sameUpTo h h' agree⟩

end Config

end University
