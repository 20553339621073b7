import Mathlib.Order.Interval.Set.Defs
import University.Proofs.Dataset.Distinct

/-! # How many rows there are

The counts of a configuration tell how many rows most tables have, and bound what is drawn for
every parent. Rows are counted by the parent that they name: where no identifier is repeated, the
rows that name a parent are the block that was made for it.
-/

namespace University

section Children

variable {α β : Type} {P : α → List β → Prop} {parents : List α} {children : List β}
  {key : α → String} {parent : β → String} {n : Nat}

/-- Every parent has `n` children, which stand together in the order of the parents. -/
structure EachHas (n : Nat) (parents : List α) (key : α → String) (children : List β)
    (parent : β → String) : Prop where
  in_order : children.map parent = parents.flatMap fun x => List.replicate n (key x)
  count_eq : ∀ x ∈ parents, children.countP (parent · == key x) = n

theorem Blocks.countP_mem (h : Blocks P parents children) (bounds : α → Set Nat)
    (hkeys : (parents.map key).Nodup)
    (hparent : ∀ x block, P x block → ∀ y ∈ block, parent y = key x)
    (hbounds : ∀ x ∈ parents, ∀ block, P x block → block.length ∈ bounds x) :
    ∀ x ∈ parents, children.countP (parent · == key x) ∈ bounds x := by
  intro x hx
  rw [List.countP_eq_length_filter]
  exact hbounds x hx _ (h.block_of_filter hkeys hparent hx)

theorem Blocks.eachHas (h : Blocks P parents children) (hkeys : (parents.map key).Nodup)
    (hparent : ∀ x block, P x block → ∀ y ∈ block, parent y = key x)
    (hn : ∀ x block, P x block → block.length = n) : EachHas n parents key children parent where
  in_order := h.map_parent_eq hn hparent
  count_eq := h.countP_mem (fun _ => {n}) hkeys hparent fun x _ block hblock =>
    hn x block hblock

end Children

/-- The numbers of rows in a dataset. -/
structure Census (c : Config) (d : Dataset) : Prop where
  faculties : d.faculties.length = c.faculties
  curriculums : EachHas c.curriculumsPerFaculty d.faculties (·.id) d.curriculums (·.facultyId)
  majors : EachHas c.majorsPerCurriculum d.curriculums (·.id) d.majors (·.curriculumId)
  creditRequirements :
    EachHas c.creditRequirementsPerMajor d.majors (·.id) d.creditRequirements (·.majorId)
  semesters : ∀ year ∈ d.academicYears,
    d.semesters.countP (·.academicYearId == year.id) ∈ Set.Icc 2 4
  /-- The users are administrators, then professors, then students. -/
  roles : d.users.map (·.role) = List.replicate c.admins .admin ++
    List.replicate c.professors .professor ++ List.replicate c.students .student
  professors :
    d.professors.map (·.id) = ((d.users.drop c.admins).take c.professors).map (·.id)
  students : d.students.map (·.id) = (d.users.drop (c.admins + c.professors)).map (·.id)
  buildings : d.buildings.length = c.buildings
  /-- The floors of a building are numbered from one on, and each of them has as many rooms. -/
  rooms : ∀ building ∈ d.buildings, ∃ floors ∈ Set.Icc 1 11, ∃ roomsPerFloor ∈ Set.Icc 10 31,
    (d.rooms.filter (·.buildingId == building.id)).map (·.floor) =
      (oneTo floors).flatMap fun floor => List.replicate roomsPerFloor (Int32.ofNat floor)
  subjects : d.subjects.length = c.subjects
  gradingCriterias : d.gradingCriterias.length = 1
  gradingCriteriaGrades : d.gradingCriteriaGrades.length = 8
  forumCategories : d.forumCategories.length = 6
  forumPosts : d.forumPosts.length ∈ Set.Icc
    (c.posts + c.deactivatedCategoryAnnouncements + c.deactivatedGlobalAnnouncements + 7)
    (c.posts + c.deactivatedCategoryAnnouncements + c.deactivatedGlobalAnnouncements + 35)
  replies : ∀ post ∈ d.forumPosts, d.forumPostReplies.countP (·.postId == post.id) ∈
    Set.Icc (min 2 d.users.length) (min 10 d.users.length)
  views : ∀ post ∈ d.forumPosts, d.forumPostViews.countP (·.postId == post.id) ∈
    Set.Icc (min 20 d.users.length) (min 50 d.users.length)
  votes : ∀ post ∈ d.forumPosts, d.forumPostVotes.countP (·.postId == post.id) ∈
    Set.Icc (min 2 (d.forumPostViews.countP (·.postId == post.id)))
      (min 5 (d.forumPostViews.countP (·.postId == post.id)))
  replyVotes : ∀ reply ∈ d.forumPostReplies,
    d.forumPostReplyVotes.countP (·.replyId == reply.id) ∈
      Set.Icc (min 2 d.users.length) (min 5 d.users.length)

section Accounts

variable {c : Config} {majors : List Major} {years : List AcademicYear} {users : List User}
  {professors : List Professor} {students : List Student}

namespace AccountsOf

theorem roles_eq (h : AccountsOf c majors years users professors students) :
    users.map (·.role) = List.replicate c.admins .admin ++
      List.replicate c.professors .professor ++ List.replicate c.students .student := by
  obtain ⟨admins, professorAccounts, studentAccounts, accounts, rfl, -, -⟩ := h
  have first : admins.map (·.role) = List.replicate c.admins .admin := by
    simpa [List.eq_replicate_iff, accounts.length_admins] using fun u hu => (accounts.admin u hu).1
  have second : (professorAccounts.map (·.1)).map (·.role) =
      List.replicate c.professors .professor := by
    rw [List.eq_replicate_iff]
    simpa [accounts.length_professors] using
      fun role u p he hrole => hrole ▸ (accounts.professor (u, p) he).role_eq
  have third : (studentAccounts.map (·.1)).map (·.role) = List.replicate c.students .student := by
    rw [List.eq_replicate_iff]
    simpa [accounts.length_students] using
      fun role u s he hrole => hrole ▸ (accounts.student (u, s) he).role_eq
  rw [List.map_append, List.map_append, first, second, third]

theorem professorIds_eq (h : AccountsOf c majors years users professors students) :
    professors.map (·.id) = ((users.drop c.admins).take c.professors).map (·.id) := by
  obtain ⟨admins, professorAccounts, studentAccounts, accounts, rfl, rfl, -⟩ := h
  have count : (professorAccounts.map (·.1)).length = c.professors := by
    rw [List.length_map, accounts.length_professors]
  rw [List.append_assoc, List.drop_left' accounts.length_admins, List.take_left' count, List.map_map,
    List.map_map]
  exact List.map_congr_left fun e he => (accounts.professor e he).id_eq

theorem studentIds_eq (h : AccountsOf c majors years users professors students) :
    students.map (·.id) = (users.drop (c.admins + c.professors)).map (·.id) := by
  obtain ⟨admins, professorAccounts, studentAccounts, accounts, rfl, -, rfl⟩ := h
  have count : (admins ++ professorAccounts.map (·.1)).length = c.admins + c.professors := by
    rw [List.length_append, List.length_map, accounts.length_admins, accounts.length_professors]
  rw [List.drop_left' count, List.map_map, List.map_map]
  exact List.map_congr_left fun e he => (accounts.student e he).id_eq

end AccountsOf

end Accounts

section Tables

variable {c : Config} {d : Dataset}

theorem PeopleGenerated.countP_semesters (h : PeopleGenerated c d) (hids : d.drawnIds.Nodup) :
    ∀ year ∈ d.academicYears, d.semesters.countP (·.academicYearId == year.id) ∈ Set.Icc 2 4 := by
  refine h.semesters.countP_mem (fun _ => Set.Icc 2 4)
    (Dataset.nodup_idColumn hids (by simp [Dataset.idColumns])) (fun _ _ block => block.parent) ?_
  intro year hyear block hblock
  obtain ⟨number, hnumber, made⟩ := exists_of_forall₂ h.academicYears hyear
  obtain ⟨-, -, -, hlast⟩ := mem_academicYearNumbers.mp hnumber
  exact ⟨hblock.le_length (made.leaves_year hlast), hblock.length_le⟩

theorem TeachingGenerated.floors_eq (h : TeachingGenerated c d) (hids : d.drawnIds.Nodup) :
    ∀ building ∈ d.buildings, ∃ floors ∈ Set.Icc 1 11, ∃ roomsPerFloor ∈ Set.Icc 10 31,
      (d.rooms.filter (·.buildingId == building.id)).map (·.floor) =
        (oneTo floors).flatMap fun floor => List.replicate roomsPerFloor (Int32.ofNat floor) := by
  intro building hbuilding
  have block := h.rooms.block_of_filter (Dataset.nodup_idColumn hids (by simp [Dataset.idColumns]))
    (fun _ _ block => block.parent) hbuilding
  obtain ⟨floors, roomsPerFloor, hfloors, hrooms, numbers⟩ := block.floors_eq
  exact ⟨floors, hfloors, roomsPerFloor, hrooms, numbers⟩

theorem TeachingGenerated.length_grades (h : TeachingGenerated c d) :
    d.gradingCriterias.length = 1 ∧ d.gradingCriteriaGrades.length = 8 := by
  have grades := h.gradingCriteriaGrades.length_eq fun _ _ block => block.length_eq.symm
  obtain ⟨criteria, single, -⟩ := h.gradingCriterias
  rw [single] at grades ⊢
  exact ⟨rfl, grades⟩

namespace ForumGenerated

theorem length_categories (h : ForumGenerated c d) : d.forumCategories.length = 6 :=
  h.categories.length_eq.symm

theorem length_posts (h : ForumGenerated c d) : d.forumPosts.length ∈
    Set.Icc (c.postVolumes.total + 7) (c.postVolumes.total + 35) := by
  have count := h.length_categories
  obtain ⟨provisional, drawn, -, settled⟩ := h.posts
  have least := drawn.le_length
  have most := drawn.length_le
  rw [settled.length_eq, count] at least most
  exact ⟨least, most⟩

theorem countP_replies (h : ForumGenerated c d) (hids : d.drawnIds.Nodup) :
    ∀ post ∈ d.forumPosts, d.forumPostReplies.countP (·.postId == post.id) ∈
      Set.Icc (min 2 d.users.length) (min 10 d.users.length) := by
  refine h.replies.countP_mem (fun _ => Set.Icc _ _)
    (Dataset.nodup_idColumn hids (by simp [Dataset.idColumns])) ?_ ?_
  · intro post block hblock reply hreply
    obtain ⟨_, -, made⟩ := hblock.exists_author hreply
    exact made.post_eq
  · rintro post - block ⟨authors, sampled, made⟩
    rw [← made.length_eq]
    exact ⟨sampled.least_le, sampled.length_le (by decide)⟩

theorem countP_views (h : ForumGenerated c d) (hids : d.drawnIds.Nodup) :
    ∀ post ∈ d.forumPosts, d.forumPostViews.countP (·.postId == post.id) ∈
      Set.Icc (min 20 d.users.length) (min 50 d.users.length) := by
  refine h.views.countP_mem (fun _ => Set.Icc _ _)
    (Dataset.nodup_idColumn hids (by simp [Dataset.idColumns])) ?_ ?_
  · exact fun post block hblock view hview => (hblock.exists_viewer hview).1
  · rintro post - block ⟨viewers, sampled, rfl⟩
    rw [List.length_map]
    exact ⟨sampled.least_le, sampled.length_le (by decide)⟩

theorem countP_votes (h : ForumGenerated c d) (hids : d.drawnIds.Nodup) :
    ∀ post ∈ d.forumPosts, d.forumPostVotes.countP (·.postId == post.id) ∈
      Set.Icc (min 2 (d.forumPostViews.countP (·.postId == post.id)))
        (min 5 (d.forumPostViews.countP (·.postId == post.id))) := by
  refine h.votes.countP_mem (fun _ => Set.Icc (min 2 (List.countP _ _)) _)
    (Dataset.nodup_idColumn hids (by simp [Dataset.idColumns])) ?_ ?_
  · intro post block hblock vote hvote
    obtain ⟨_, -, -, made⟩ := hblock.exists_view hvote
    exact made.post_eq
  · rintro post - block ⟨voters, sampled, made⟩
    rw [← made.length_eq, List.countP_eq_length_filter]
    exact ⟨sampled.least_le, sampled.length_le (by decide)⟩

theorem countP_replyVotes (h : ForumGenerated c d) (hids : d.drawnIds.Nodup) :
    ∀ reply ∈ d.forumPostReplies, d.forumPostReplyVotes.countP (·.replyId == reply.id) ∈
      Set.Icc (min 2 d.users.length) (min 5 d.users.length) := by
  refine h.replyVotes.countP_mem (fun _ => Set.Icc _ _)
    (Dataset.nodup_idColumn hids (by simp [Dataset.idColumns])) ?_ ?_
  · intro reply block hblock vote hvote
    obtain ⟨_, -, made⟩ := hblock.exists_voter hvote
    exact made.reply_eq
  · rintro reply - block ⟨voters, sampled, made⟩
    rw [← made.length_eq]
    exact ⟨sampled.least_le, sampled.length_le (by decide)⟩

end ForumGenerated

end Tables

/-- The counts of a configuration tell the numbers of rows, whatever is drawn. -/
theorem Config.generate_census {c : Config} {d : Dataset} (h : c.generate = .ok d)
    (hids : d.drawnIds.Nodup) : Census c d := by
  have generated := generated_of_generate h
  obtain ⟨faculties, curriculums, people, teaching, forum⟩ := generated
  exact {
    faculties := faculties.1
    curriculums := curriculums.eachHas
      (Dataset.nodup_idColumn hids (by simp [Dataset.idColumns])) (fun _ _ block => block.parent)
      fun _ _ block => block.length_eq
    majors := people.majors.blocks.eachHas
      (Dataset.nodup_idColumn hids (by simp [Dataset.idColumns])) (fun _ _ block => block.parent)
      fun _ _ block => block.length_eq
    creditRequirements := people.creditRequirements.eachHas
      (Dataset.nodup_idColumn hids (by simp [Dataset.idColumns])) (fun _ _ block => block.parent)
      fun _ _ block => block.length_eq
    semesters := people.countP_semesters hids
    roles := people.accounts.roles_eq
    professors := people.accounts.professorIds_eq
    students := people.accounts.studentIds_eq
    buildings := teaching.buildings.1
    rooms := teaching.floors_eq hids
    subjects := teaching.subjects.1
    gradingCriterias := teaching.length_grades.1
    gradingCriteriaGrades := teaching.length_grades.2
    forumCategories := forum.length_categories
    forumPosts := forum.length_posts
    replies := forum.countP_replies hids
    views := forum.countP_views hids
    votes := forum.countP_votes hids
    replyVotes := forum.countP_replyVotes hids }

theorem Config.generate_census_sample :
    ∃ d, sample.generate = .ok d ∧ d.drawnIds.Nodup ∧ Census sample d := by
  obtain ⟨d, h, hids⟩ := sample_distinct
  exact ⟨d, h, hids, generate_census h hids⟩

end University
