import University.Proofs.Dataset.Distinct
import University.Proofs.Dataset.Rows

/-! # Foreign keys

Every row refers to rows of earlier tables only, so that the rows inserted so far never refer to one
that is missing, wherever the insertion stops. Identifiers need not be distinct for this: a key refers
to the row that it was taken from.
-/

namespace University

/-- A column whose values are keys of another table. -/
structure ForeignKey where
  child : Table
  column : String
  parent : Table
  key : String

namespace ForeignKey

/-- The rows of the child refer to rows of the parent that are there. -/
def HoldsIn (k : ForeignKey) (rows : List InsertedRow) : Prop :=
  ∀ row ∈ rows, row.schema.name = k.child.name → ∃ v, row.value? k.column = some v ∧
    ∃ found ∈ rows, found.schema.name = k.parent.name ∧ found.value? k.key = some v

/-- The records of the child refer to records of the parent. -/
def Refers (k : ForeignKey) (d : Dataset) : Prop :=
  ∀ row ∈ d.tableRows k.child, ∃ v, row.value? k.column = some v ∧
    ∃ found ∈ d.tableRows k.parent, found.value? k.key = some v

variable {d : Dataset}

theorem Refers.holdsIn {k : ForeignKey} (h : k.Refers d) (order : k.parent ∈ k.child.before)
    {pre : List InsertedRow} (hpre : pre <+: d.insertedRows) : k.HoldsIn pre := by
  intro row hrow hname
  have there := Dataset.mem_tableRows_of_name (hpre.subset hrow) hname
  obtain ⟨v, hv, found, hfound, hkey⟩ := h row there
  have earlier := Dataset.tableRows_subset_of_prefix hpre hrow hname order
  exact ⟨v, hv, found, earlier found hfound, Dataset.name_of_mem_tableRows hfound, hkey⟩

/-- A key that is read from one field of the records and refers to another. -/
theorem refers_of_field {k : ForeignKey} (field : k.child.Entry → String)
    (key : k.parent.Entry → String)
    (found : ∀ r ∈ d.records k.child, ∃ s ∈ d.records k.parent, field r = key s)
    (hfield : ∀ r : k.child.Entry, InsertedRow.value? ⟨k.child.schema, Record.row r⟩ k.column =
      some (.text (field r)) := by exact fun _ => rfl)
    (hkey : ∀ r : k.parent.Entry, InsertedRow.value? ⟨k.parent.schema, Record.row r⟩ k.key =
      some (.text (key r)) := by exact fun _ => rfl) : k.Refers d := by
  intro row hrow
  obtain ⟨r, hr, rfl⟩ := Dataset.mem_tableRows.mp hrow
  obtain ⟨s, hs, same⟩ := found r hr
  refine ⟨_, hfield r, _, Dataset.mem_tableRows.mpr ⟨s, hs, rfl⟩, ?_⟩
  rw [hkey, same]

/-- The keys of programmes and terms. -/
def ofProgrammes : List ForeignKey :=
  [⟨.curriculums, "faculty_id", .faculties, "faculty_id"⟩,
   ⟨.majors, "curriculum_id", .curriculums, "curriculum_id"⟩,
   ⟨.creditRequirements, "major_id", .majors, "major_id"⟩,
   ⟨.semesters, "academic_year_id", .academicYears, "academic_year_id"⟩]

def ofProfiles : List ForeignKey :=
  [⟨.professors, "professor_id", .users, "user_id"⟩,
   ⟨.students, "student_id", .users, "user_id"⟩,
   ⟨.students, "major_id", .majors, "major_id"⟩,
   ⟨.students, "professor_id", .professors, "professor_id"⟩,
   ⟨.students, "first_academic_year_id", .academicYears, "academic_year_id"⟩]

/-- The keys of rooms, schedules and grading schemes. -/
def ofTeaching : List ForeignKey :=
  [⟨.rooms, "building_id", .buildings, "building_id"⟩,
   ⟨.subjectSchedules, "subject_id", .subjects, "subject_id"⟩,
   ⟨.gradingCriterias, "user_id", .users, "user_id"⟩,
   ⟨.gradingCriteriaGrades, "grading_criteria_id", .gradingCriterias, "grading_criteria_id"⟩]

/-- The keys of categories, posts and replies. -/
def ofPosts : List ForeignKey :=
  [⟨.forumCategories, "user_id", .users, "user_id"⟩,
   ⟨.forumPosts, "user_id", .users, "user_id"⟩,
   ⟨.forumPosts, "forum_category_id", .forumCategories, "forum_category_id"⟩,
   ⟨.forumPostReplies, "forum_post_id", .forumPosts, "forum_post_id"⟩,
   ⟨.forumPostReplies, "user_id", .users, "user_id"⟩]

/-- The keys of views and votes. -/
def ofEngagement : List ForeignKey :=
  [⟨.forumPostViews, "forum_post_id", .forumPosts, "forum_post_id"⟩,
   ⟨.forumPostViews, "user_id", .users, "user_id"⟩,
   ⟨.forumPostVotes, "forum_post_id", .forumPosts, "forum_post_id"⟩,
   ⟨.forumPostVotes, "user_id", .users, "user_id"⟩,
   ⟨.forumPostReplyVotes, "forum_post_reply_id", .forumPostReplies, "forum_post_reply_id"⟩,
   ⟨.forumPostReplyVotes, "user_id", .users, "user_id"⟩]

def all : List ForeignKey :=
  ofProgrammes ++ ofProfiles ++ ofTeaching ++ ofPosts ++ ofEngagement

theorem parent_before_child : ∀ k ∈ all, k.parent ∈ k.child.before := by
  decide

end ForeignKey

section Keys

variable {c : Config} {d : Dataset}

theorem refers_ofProgrammes (h : Generated c d) : ∀ k ∈ ForeignKey.ofProgrammes, k.Refers d := by
  have curriculums := h.curriculums.exists_parent fun _ _ block => block.parent
  have majors := h.people.majors.blocks.exists_parent fun _ _ block => block.parent
  have creditRequirements :=
    h.people.creditRequirements.exists_parent fun _ _ block => block.parent
  have semesters := h.people.semesters.exists_parent fun _ _ block => block.parent
  simp only [ForeignKey.ofProgrammes, List.forall_mem_cons, List.not_mem_nil, false_implies,
    implies_true, and_true]
  refine ⟨?_, ?_, ?_, ?_⟩
  · exact ForeignKey.refers_of_field (·.facultyId) (·.id) curriculums
  · exact ForeignKey.refers_of_field (·.curriculumId) (·.id) majors
  · exact ForeignKey.refers_of_field (·.majorId) (·.id) creditRequirements
  · exact ForeignKey.refers_of_field (·.academicYearId) (·.id) semesters

theorem refers_ofProfiles (h : PeopleGenerated c d) : ∀ k ∈ ForeignKey.ofProfiles, k.Refers d := by
  simp only [ForeignKey.ofProfiles, List.forall_mem_cons, List.not_mem_nil, false_implies,
    implies_true, and_true]
  refine ⟨?_, ?_, ?_, ?_, ?_⟩
  · exact ForeignKey.refers_of_field (·.id) (·.id) h.professor_user
  · refine ForeignKey.refers_of_field (·.id) (·.id) ?_
    intro s hs
    obtain ⟨u, hu, account⟩ := h.exists_account hs
    exact ⟨u, hu, account.id_eq⟩
  · refine ForeignKey.refers_of_field (·.majorId) (·.id) ?_
    intro s hs
    obtain ⟨u, hu, account⟩ := h.exists_account hs
    exact account.major
  · refine ForeignKey.refers_of_field (·.professorId) (·.id) ?_
    intro s hs
    obtain ⟨u, hu, account⟩ := h.exists_account hs
    exact account.professor
  · refine ForeignKey.refers_of_field (·.firstAcademicYearId) (·.id) ?_
    intro s hs
    obtain ⟨u, hu, account⟩ := h.exists_account hs
    exact account.firstAcademicYear

theorem refers_ofTeaching (h : TeachingGenerated c d) :
    ∀ k ∈ ForeignKey.ofTeaching, k.Refers d := by
  have rooms := h.rooms.exists_parent fun _ _ block => block.parent
  have schedules := h.subjectSchedules.exists_parent fun _ _ parent => parent
  have grades := h.gradingCriteriaGrades.exists_parent fun _ _ block => block.parent
  have owner : ∀ g ∈ d.gradingCriterias, ∃ u ∈ d.users, g.userId = u.id := by
    intro g hg
    obtain ⟨criteria, only, -, howner⟩ := h.gradingCriterias
    rw [only, List.mem_singleton] at hg
    rwa [hg]
  simp only [ForeignKey.ofTeaching, List.forall_mem_cons, List.not_mem_nil, false_implies,
    implies_true, and_true]
  refine ⟨?_, ?_, ?_, ?_⟩
  · exact ForeignKey.refers_of_field (·.buildingId) (·.id) rooms
  · exact ForeignKey.refers_of_field (·.subjectId) (·.id) schedules
  · exact ForeignKey.refers_of_field (·.userId) (·.id) owner
  · exact ForeignKey.refers_of_field (·.gradingCriteriaId) (·.id) grades

theorem refers_ofPosts (h : ForumGenerated c d) : ∀ k ∈ ForeignKey.ofPosts, k.Refers d := by
  simp only [ForeignKey.ofPosts, List.forall_mem_cons, List.not_mem_nil, false_implies,
    implies_true, and_true]
  refine ⟨?_, ?_, ?_, ?_, ?_⟩
  · exact ForeignKey.refers_of_field (·.userId) (·.id) h.category_author
  · exact ForeignKey.refers_of_field (·.userId) (·.id) h.post_author
  · exact ForeignKey.refers_of_field (·.categoryId) (·.id) h.post_category
  · refine ForeignKey.refers_of_field (·.postId) (·.id) ?_
    intro r hr
    obtain ⟨p, hp, u, hu, made⟩ := h.reply_parents hr
    exact ⟨p, hp, made.post_eq⟩
  · refine ForeignKey.refers_of_field (·.userId) (·.id) ?_
    intro r hr
    obtain ⟨p, hp, u, hu, made⟩ := h.reply_parents hr
    exact ⟨u, hu, made.author_eq⟩

theorem refers_ofEngagement (h : ForumGenerated c d) :
    ∀ k ∈ ForeignKey.ofEngagement, k.Refers d := by
  simp only [ForeignKey.ofEngagement, List.forall_mem_cons, List.not_mem_nil, false_implies,
    implies_true, and_true]
  refine ⟨?_, ?_, ?_, ?_, ?_, ?_⟩
  · refine ForeignKey.refers_of_field (·.postId) (·.id) ?_
    intro v hv
    obtain ⟨p, hp, same, -⟩ := h.view_parents hv
    exact ⟨p, hp, same⟩
  · refine ForeignKey.refers_of_field (·.userId) (·.id) ?_
    intro v hv
    obtain ⟨p, hp, -, viewer⟩ := h.view_parents hv
    exact viewer
  · refine ForeignKey.refers_of_field (·.postId) (·.id) ?_
    intro v hv
    obtain ⟨p, hp, w, hw, made⟩ := h.vote_parents hv
    exact ⟨p, hp, made.post_eq⟩
  · -- Votes are cast by viewers, and viewers are users.
    refine ForeignKey.refers_of_field (·.userId) (·.id) ?_
    intro v hv
    obtain ⟨p, hp, w, hw, made⟩ := h.vote_parents hv
    obtain ⟨_, -, -, u, hu, same⟩ := h.view_parents hw
    exact ⟨u, hu, made.voter_eq.trans same⟩
  · refine ForeignKey.refers_of_field (·.replyId) (·.id) ?_
    intro v hv
    obtain ⟨r, hr, u, hu, made⟩ := h.replyVote_parents hv
    exact ⟨r, hr, made.reply_eq⟩
  · refine ForeignKey.refers_of_field (·.userId) (·.id) ?_
    intro v hv
    obtain ⟨r, hr, u, hu, made⟩ := h.replyVote_parents hv
    exact ⟨u, hu, made.voter_eq⟩

/-- The records of every child refer to records of its parent. -/
theorem refers_all (h : Generated c d) : ∀ k ∈ ForeignKey.all, k.Refers d := by
  simp only [ForeignKey.all, List.forall_mem_append]
  refine ⟨⟨⟨⟨?_, ?_⟩, ?_⟩, ?_⟩, ?_⟩
  · exact refers_ofProgrammes h
  · exact refers_ofProfiles h.people
  · exact refers_ofTeaching h.teaching
  · exact refers_ofPosts h.forum
  · exact refers_ofEngagement h.forum

end Keys

/-- Wherever the insertion of a dataset stops, no row refers to one that is missing. -/
theorem Config.holdsIn_prefix {c : Config} {d : Dataset} (h : c.generate = .ok d)
    {pre : List InsertedRow} (hpre : pre <+: d.insertedRows) :
    ∀ k ∈ ForeignKey.all, k.HoldsIn pre := by
  intro k hk
  have refers : k.Refers d := refers_all (generated_of_generate h) k hk
  exact refers.holdsIn (ForeignKey.parent_before_child k hk) hpre

theorem Config.holdsIn_prefix_sample : ∃ d, sample.generate = .ok d ∧
    ∀ n, ∀ k ∈ ForeignKey.all, k.HoldsIn (d.insertedRows.take n) := by
  obtain ⟨d, h, -⟩ := sample_distinct
  exact ⟨d, h, fun n => holdsIn_prefix h (List.take_prefix n _)⟩

end University
