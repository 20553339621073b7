import University.Proofs.Dataset.Distinct
import University.Proofs.Dataset.Rows

/-! # The order of events

A post is replied to after it was made, and its latest reply is its last activity. It is deactivated
after that and voted on before. Nothing but academic years and semesters lies beyond the reference
time, unless that is in a leap second.
-/

namespace University

open Time

namespace ForumGenerated

variable {c : Config} {d : Dataset} {post : ForumPost}

theorem post_created_le (h : ForumGenerated c d) (hpost : post ∈ d.forumPosts) :
    post.createdAt ≤ c.now := by
  obtain ⟨drawn, provisional, settled⟩ := h.exists_provisional hpost
  rw [settled.createdAt_eq]
  exact provisional.created_le

/-- In no leap second at the reference time, no moment around a post is in one. -/
theorem post_not_isLeap (h : ForumGenerated c d) (ordinary : ¬c.now.IsLeap)
    (hpost : post ∈ d.forumPosts) : ¬post.createdAt.IsLeap := by
  obtain ⟨drawn, provisional, settled⟩ := h.exists_provisional hpost
  rw [settled.createdAt_eq]
  exact provisional.not_isLeap ordinary

theorem reply_created_le (h : ForumGenerated c d) (ordinary : ¬c.now.IsLeap) :
    ∀ r ∈ d.forumPostReplies, r.createdAt ≤ c.now := by
  apply RepliesOf.forall_created (P := (· ≤ c.now)) h.replies
  intro p hp t drawn
  exact drawn.le_stop (Instant.not_leapLost ordinary) (h.post_created_le hp)

theorem reply_not_isLeap (h : ForumGenerated c d) (ordinary : ¬c.now.IsLeap) :
    ∀ r ∈ d.forumPostReplies, ¬r.createdAt.IsLeap := by
  apply RepliesOf.forall_created (P := (¬Instant.IsLeap ·)) h.replies
  intro p hp t drawn
  exact drawn.not_isLeap (h.post_not_isLeap ordinary hp)

theorem lastActive_le (h : ForumGenerated c d) (ordinary : ¬c.now.IsLeap)
    (hpost : post ∈ d.forumPosts) : post.lastActiveAt ≤ c.now := by
  obtain ⟨drawn, -, settled⟩ := h.exists_provisional hpost
  rw [settled.lastActiveAt_eq]
  exact lastActivity_of (P := (· ≤ c.now)) (h.post_created_le hpost) (h.reply_created_le ordinary)

theorem lastActive_not_isLeap (h : ForumGenerated c d) (ordinary : ¬c.now.IsLeap)
    (hpost : post ∈ d.forumPosts) : ¬post.lastActiveAt.IsLeap := by
  obtain ⟨drawn, -, settled⟩ := h.exists_provisional hpost
  rw [settled.lastActiveAt_eq]
  exact lastActivity_of (P := (¬Instant.IsLeap ·)) (h.post_not_isLeap ordinary hpost)
    (h.reply_not_isLeap ordinary)

/-- Every post gets a reply, since there is at least one user: its author. -/
theorem exists_reply (h : ForumGenerated c d) (hpost : post ∈ d.forumPosts) :
    ∃ r ∈ d.forumPostReplies, ∃ author, ReplyTo c.run post author r := by
  obtain ⟨drawn, provisional, -⟩ := h.exists_provisional hpost
  obtain ⟨user, huser, -⟩ := provisional.author
  obtain ⟨block, ⟨authors, sampled, replies⟩, inside⟩ := h.replies.exists_block hpost
  have some_authors := sampled.ne_nil (by decide) (List.ne_nil_of_mem huser)
  cases replies with
  | nil => exact absurd rfl some_authors
  | @cons author reply _ _ made _ => exact ⟨reply, inside reply (by simp), author, made⟩

/-- The last activity of a post is the latest reply to it. -/
theorem max?_replyTimes (h : ForumGenerated c d) (hpost : post ∈ d.forumPosts) :
    (replyTimes d.forumPostReplies post.id).max? = some post.lastActiveAt := by
  obtain ⟨drawn, -, settled⟩ := h.exists_provisional hpost
  obtain ⟨reply, hreply, author, made⟩ := h.exists_reply hpost
  have replied : reply.createdAt ∈ replyTimes d.forumPostReplies post.id :=
    mem_replyTimes.mpr ⟨reply, hreply, made.post_eq, rfl⟩
  rw [settled.lastActiveAt_eq, lastActivity_eq]
  cases latest : (replyTimes d.forumPostReplies post.id).max? with
  | none =>
      rw [List.max?_eq_none_iff] at latest
      rw [latest] at replied
      cases replied
  | some t => rfl

theorem le_lastActive (h : ForumGenerated c d) (hpost : post ∈ d.forumPosts)
    {reply : ForumPostReply} (hreply : reply ∈ d.forumPostReplies) (hid : reply.postId = post.id) :
    reply.createdAt ≤ post.lastActiveAt := by
  have replied : reply.createdAt ∈ replyTimes d.forumPostReplies post.id :=
    mem_replyTimes.mpr ⟨reply, hreply, hid, rfl⟩
  exact (List.max?_eq_some_iff.mp (h.max?_replyTimes hpost)).2 _ replied

theorem created_le_lastActive (h : ForumGenerated c d) (hpost : post ∈ d.forumPosts) :
    post.createdAt ≤ post.lastActiveAt := by
  obtain ⟨reply, hreply, author, made⟩ := h.exists_reply hpost
  exact made.created.start_le.trans (h.le_lastActive hpost hreply made.post_eq)

theorem isSome_deactivatedAt (h : ForumGenerated c d) (hpost : post ∈ d.forumPosts) :
    post.deactivatedAt.isSome ↔ post.isActive = false := by
  obtain ⟨drawn, -, settled⟩ := h.exists_provisional hpost
  exact settled.isSome_deactivatedAt

theorem le_deactivated (h : ForumGenerated c d) (hpost : post ∈ d.forumPosts) {stop : Instant}
    (hstop : post.deactivatedAt = some stop) : post.lastActiveAt ≤ stop := by
  obtain ⟨drawn, -, settled⟩ := h.exists_provisional hpost
  exact settled.le_deactivated hstop

theorem deactivated_within (h : ForumGenerated c d) (ordinary : ¬c.now.IsLeap)
    (hpost : post ∈ d.forumPosts) {stop : Instant} (hstop : post.deactivatedAt = some stop) :
    ∃ nextDay, post.lastActiveAt.after? day = some nextDay ∧ stop ≤ min nextDay c.now := by
  obtain ⟨drawn, -, settled⟩ := h.exists_provisional hpost
  obtain ⟨nextDay, later, within⟩ :=
    settled.deactivated_within (h.lastActive_le ordinary hpost) hstop
  exact ⟨nextDay, later, within ordinary⟩

theorem deactivated_le (h : ForumGenerated c d) (ordinary : ¬c.now.IsLeap)
    (hpost : post ∈ d.forumPosts) {stop : Instant} (hstop : post.deactivatedAt = some stop) :
    stop ≤ c.now := by
  obtain ⟨nextDay, -, within⟩ := h.deactivated_within ordinary hpost hstop
  exact within.trans (min_le_right _ _)

theorem votingEnd_eq (h : ForumGenerated c d) (hpost : post ∈ d.forumPosts) :
    post.votingEnd c.run = post.deactivatedAt.getD c.now := by
  have only_inactive := h.isSome_deactivatedAt hpost
  unfold ForumPost.votingEnd
  cases deactivated : post.deactivatedAt with
  | none =>
      cases post.isActive with
      | true => rfl
      | false => rfl
  | some stop =>
      rw [deactivated] at only_inactive
      rw [only_inactive.mp rfl]
      rfl

theorem created_le_votingEnd (h : ForumGenerated c d) (hpost : post ∈ d.forumPosts) :
    post.createdAt ≤ post.deactivatedAt.getD c.now := by
  cases deactivated : post.deactivatedAt with
  | none => exact h.post_created_le hpost
  | some stop =>
      exact (h.created_le_lastActive hpost).trans (h.le_deactivated hpost deactivated)

/-- Where the reference time is in no leap second, none is lost until the voting on a post ends. -/
theorem votingEnd_not_isLeap (h : ForumGenerated c d) (ordinary : ¬c.now.IsLeap)
    (hpost : post ∈ d.forumPosts) : ¬(post.deactivatedAt.getD c.now).IsLeap := by
  cases deactivated : post.deactivatedAt with
  | none => exact ordinary
  | some stop =>
      obtain ⟨drawn, -, settled⟩ := h.exists_provisional hpost
      obtain ⟨limit, earliest, hlimit, hearliest, between⟩ := settled.exists_drawn deactivated
      exact not_isLeap_deactivation ordinary (h.lastActive_not_isLeap ordinary hpost) hlimit hearliest
        between

section Distinct

variable {reply : ForumPostReply}

theorem le_reply (h : ForumGenerated c d) (hids : d.drawnIds.Nodup) (hpost : post ∈ d.forumPosts)
    (hreply : reply ∈ d.forumPostReplies) (hid : reply.postId = post.id) :
    post.createdAt ≤ reply.createdAt := by
  obtain ⟨parent, hparent, author, -, made⟩ := h.reply_parents hreply
  obtain rfl : parent = post :=
    List.inj_on_of_nodup_map (Dataset.nodup_idColumn hids (by simp [Dataset.idColumns])) hparent hpost
      (made.post_eq.symm.trans hid)
  exact made.created.start_le

theorem vote_within (h : ForumGenerated c d) (hids : d.drawnIds.Nodup) (hpost : post ∈ d.forumPosts)
    {vote : ForumPostVote} (hvote : vote ∈ d.forumPostVotes) (hid : vote.postId = post.id) :
    post.createdAt ≤ vote.createdAt ∧
      (¬c.now.IsLeap → vote.createdAt ≤ post.deactivatedAt.getD c.now) := by
  obtain ⟨parent, hparent, view, -, made⟩ := h.vote_parents hvote
  obtain rfl : parent = post :=
    List.inj_on_of_nodup_map (Dataset.nodup_idColumn hids (by simp [Dataset.idColumns])) hparent hpost
      (made.post_eq.symm.trans hid)
  have created := made.created
  rw [h.votingEnd_eq hpost] at created
  exact ⟨created.start_le, fun ordinary => created.le_stop
    (Instant.not_leapLost (h.votingEnd_not_isLeap ordinary hpost)) (h.created_le_votingEnd hpost)⟩

theorem replyVote_within (h : ForumGenerated c d) (hids : d.drawnIds.Nodup)
    (hreply : reply ∈ d.forumPostReplies) {vote : ForumPostReplyVote}
    (hvote : vote ∈ d.forumPostReplyVotes) (hid : vote.replyId = reply.id) :
    reply.createdAt ≤ vote.createdAt ∧ (¬c.now.IsLeap → vote.createdAt ≤ c.now) := by
  obtain ⟨parent, hparent, voter, -, made⟩ := h.replyVote_parents hvote
  obtain rfl : parent = reply :=
    List.inj_on_of_nodup_map (Dataset.nodup_idColumn hids (by simp [Dataset.idColumns])) hparent hreply
      (made.reply_eq.symm.trans hid)
  exact ⟨made.created.start_le, fun ordinary =>
    made.created.le_stop (Instant.not_leapLost ordinary) (h.reply_created_le ordinary _ hparent)⟩

end Distinct

end ForumGenerated

section Recorded

/-- The columns of moments that are planned ahead. -/
def plannedColumns : List String :=
  ["academic_year_start_timestamp", "academic_year_end_timestamp", "semester_start_timestamp",
   "semester_end_timestamp"]

/-- The moment that a value holds. -/
def Value.instant? : Value → Option Instant
  | timestamp t => some t
  | nullableTimestamp t => t
  | _ => none

/-- All moments in a row but those that are planned ahead. -/
def InsertedRow.recordedMoments (row : InsertedRow) : List Instant :=
  (row.cells.filter (·.1 ∉ plannedColumns)).filterMap (·.2.instant?)

variable {c : Config} {d : Dataset} {t : Table} {now : Instant}

theorem recorded_le_of_moments (moments : t.Entry → List Instant)
    (h : ∀ r ∈ d.records t, ∀ m ∈ moments r, m ≤ now)
    (hmoments : ∀ r : t.Entry, InsertedRow.recordedMoments ⟨t.schema, Record.row r⟩ = moments r) :
    ∀ row ∈ d.tableRows t, ∀ m ∈ row.recordedMoments, m ≤ now := by
  intro row hrow
  obtain ⟨r, hr, rfl⟩ := Dataset.mem_tableRows.mp hrow
  rw [hmoments]
  exact h r hr

/-- Records of tables with one moment. -/
theorem recorded_le_of_field (field : t.Entry → Instant) (h : ∀ r ∈ d.records t, field r ≤ now)
    (hfield : ∀ r : t.Entry, InsertedRow.recordedMoments ⟨t.schema, Record.row r⟩ = [field r]) :
    ∀ row ∈ d.tableRows t, ∀ m ∈ row.recordedMoments, m ≤ now := by
  have single : ∀ r ∈ d.records t, ∀ m ∈ [field r], m ≤ now := by
    intro r hr m hm
    rw [List.mem_singleton.mp hm]
    exact h r hr
  exact recorded_le_of_moments (fun r => [field r]) single hfield

/-- Records of tables without moments. -/
theorem recorded_le_of_none
    (hnone : ∀ r : t.Entry, InsertedRow.recordedMoments ⟨t.schema, Record.row r⟩ = []) :
    ∀ row ∈ d.tableRows t, ∀ m ∈ row.recordedMoments, m ≤ now :=
  recorded_le_of_moments (fun _ => []) (fun _ _ _ hm => nomatch hm) hnone

theorem PeopleGenerated.year_created_le (h : PeopleGenerated c d) :
    ∀ year ∈ d.academicYears, year.createdAt ≤ c.now := by
  intro year hyear
  obtain ⟨number, -, made⟩ := exists_of_forall₂ h.academicYears hyear
  exact made.created_eq.le

theorem TeachingGenerated.criteria_created_le (h : TeachingGenerated c d) :
    ∀ criteria ∈ d.gradingCriterias, criteria.createdAt ≤ c.now := by
  obtain ⟨only, single, created_le, -⟩ := h.gradingCriterias
  intro criteria hcriteria
  rw [single] at hcriteria
  rw [List.mem_singleton.mp hcriteria]
  exact created_le

theorem ForumGenerated.category_created_le (h : ForumGenerated c d) :
    ∀ category ∈ d.forumCategories, category.createdAt ≤ c.now := by
  intro category hcategory
  obtain ⟨entry, -, made⟩ := exists_of_forall₂ h.categories hcategory
  exact made.created_le

theorem ForumGenerated.post_moments_le (h : ForumGenerated c d) (ordinary : ¬c.now.IsLeap)
    {post : ForumPost} (hpost : post ∈ d.forumPosts) :
    ∀ m ∈ [post.createdAt, post.lastActiveAt] ++ post.deactivatedAt.toList, m ≤ c.now := by
  intro m hm
  rcases List.mem_append.mp hm with hm | hm
  · rcases List.mem_cons.mp hm with rfl | hm
    · exact h.post_created_le hpost
    · obtain rfl := List.mem_singleton.mp hm
      exact h.lastActive_le ordinary hpost
  · exact h.deactivated_le ordinary hpost (Option.mem_toList.mp hm)

theorem ForumGenerated.vote_created_le (h : ForumGenerated c d) (ordinary : ¬c.now.IsLeap) :
    ∀ v ∈ d.forumPostVotes, v.createdAt ≤ c.now := by
  intro vote hvote
  obtain ⟨post, hpost, view, -, made⟩ := h.vote_parents hvote
  have created := made.created
  rw [h.votingEnd_eq hpost] at created
  apply (created.le_stop (Instant.not_leapLost (h.votingEnd_not_isLeap ordinary hpost))
    (h.created_le_votingEnd hpost)).trans
  cases deactivated : post.deactivatedAt with
  | none => exact le_rfl
  | some stop => exact h.deactivated_le ordinary hpost deactivated

theorem ForumGenerated.replyVote_created_le (h : ForumGenerated c d) (ordinary : ¬c.now.IsLeap) :
    ∀ v ∈ d.forumPostReplyVotes, v.createdAt ≤ c.now := by
  intro vote hvote
  obtain ⟨reply, hreply, voter, -, made⟩ := h.replyVote_parents hvote
  exact made.created.le_stop (Instant.not_leapLost ordinary) (h.reply_created_le ordinary reply hreply)

theorem recordedMoments_post (post : ForumPost) :
    InsertedRow.recordedMoments ⟨Table.forumPosts.schema, Record.row post⟩ =
      [post.createdAt, post.lastActiveAt] ++ post.deactivatedAt.toList := by
  obtain ⟨id, name, content, userId, categoryId, isActive, createdAt, lastActiveAt, isCategory,
    deactivatedAt, isGlobal⟩ := post
  cases deactivatedAt with
  | none => rfl
  | some stop => rfl

/-- The tables whose moments are drawn from the making of a post on. -/
def followingPosts : List Table := [.forumPosts, .forumPostReplies, .forumPostVotes, .forumPostReplyVotes]

theorem Generated.recorded_le (h : Generated c d) (t : Table)
    (kept : t ∈ followingPosts → ¬c.now.IsLeap) :
    ∀ row ∈ d.tableRows t, ∀ m ∈ row.recordedMoments, m ≤ c.now := by
  cases t with
  | faculties => exact recorded_le_of_field (·.createdAt) h.faculties.2 fun _ => rfl
  | curriculums =>
      exact recorded_le_of_field (·.createdAt)
        (h.curriculums.forall_mem fun _ _ block => block.created_le) fun _ => rfl
  | majors =>
      exact recorded_le_of_field (·.createdAt)
        (h.people.majors.blocks.forall_mem fun _ _ block => block.created_le) fun _ => rfl
  | creditRequirements =>
      exact recorded_le_of_field (·.createdAt)
        (h.people.creditRequirements.forall_mem fun _ _ block => block.created_le) fun _ => rfl
  | academicYears => exact recorded_le_of_field (·.createdAt) h.people.year_created_le fun _ => rfl
  | semesters =>
      exact recorded_le_of_field (·.createdAt)
        (h.people.semesters.forall_mem fun _ _ block s hs => (block.created_eq s hs).le) fun _ => rfl
  | users => exact recorded_le_of_field (·.createdAt) h.people.accounts.created_le fun _ => rfl
  | professors =>
      exact recorded_le_of_field (·.birthdate) h.people.accounts.professors_birthdate_le fun _ => rfl
  | students =>
      exact recorded_le_of_field (·.birthdate) h.people.accounts.students_birthdate_le fun _ => rfl
  | buildings => exact recorded_le_of_field (·.createdAt) h.teaching.buildings.2 fun _ => rfl
  | rooms => exact recorded_le_of_none fun _ => rfl
  | subjects => exact recorded_le_of_field (·.createdAt) h.teaching.subjects.2 fun _ => rfl
  | subjectSchedules => exact recorded_le_of_none fun _ => rfl
  | gradingCriterias =>
      exact recorded_le_of_field (·.createdAt) h.teaching.criteria_created_le fun _ => rfl
  | gradingCriteriaGrades => exact recorded_le_of_none fun _ => rfl
  | forumCategories => exact recorded_le_of_field (·.createdAt) h.forum.category_created_le fun _ => rfl
  | forumPosts =>
      have ordinary := kept (by decide)
      exact recorded_le_of_moments _ (fun _ => h.forum.post_moments_le ordinary) recordedMoments_post
  | forumPostReplies =>
      exact recorded_le_of_field (·.createdAt) (h.forum.reply_created_le (kept (by decide))) fun _ => rfl
  | forumPostViews => exact recorded_le_of_none fun _ => rfl
  | forumPostVotes =>
      exact recorded_le_of_field (·.createdAt) (h.forum.vote_created_le (kept (by decide))) fun _ => rfl
  | forumPostReplyVotes =>
      exact recorded_le_of_field (·.createdAt) (h.forum.replyVote_created_le (kept (by decide)))
        fun _ => rfl

end Recorded

/-- The order of the events around one post. A reference time in a leap second is not kept to. -/
structure PostChronology (now : Instant) (d : Dataset) (post : ForumPost) : Prop where
  reply : ∀ r ∈ d.forumPostReplies, r.postId = post.id →
    post.createdAt ≤ r.createdAt ∧ r.createdAt ≤ post.lastActiveAt
  lastActive : (replyTimes d.forumPostReplies post.id).max? = some post.lastActiveAt
  lastActive_le : ¬now.IsLeap → post.lastActiveAt ≤ now
  deactivated : post.deactivatedAt.isSome ↔ post.isActive = false
  le_deactivated : ∀ stop, post.deactivatedAt = some stop → post.lastActiveAt ≤ stop
  deactivated_within : ¬now.IsLeap → ∀ stop, post.deactivatedAt = some stop →
    ∃ nextDay, post.lastActiveAt.after? day = some nextDay ∧ stop ≤ min nextDay now
  vote : ∀ v ∈ d.forumPostVotes, v.postId = post.id → post.createdAt ≤ v.createdAt ∧
    (¬now.IsLeap → v.createdAt ≤ post.deactivatedAt.getD now)

/-- The order of all events of a dataset. -/
structure Chronology (now : Instant) (d : Dataset) : Prop where
  post : ∀ p ∈ d.forumPosts, PostChronology now d p
  replyVote : ∀ r ∈ d.forumPostReplies, ∀ v ∈ d.forumPostReplyVotes, v.replyId = r.id →
    r.createdAt ≤ v.createdAt ∧ (¬now.IsLeap → v.createdAt ≤ now)
  recorded : ∀ t, (t ∈ followingPosts → ¬now.IsLeap) →
    ∀ row ∈ d.tableRows t, ∀ m ∈ row.recordedMoments, m ≤ now
  post_created_le : ∀ p ∈ d.forumPosts, p.createdAt ≤ now

theorem ForumGenerated.postChronology {c : Config} {d : Dataset} {post : ForumPost}
    (h : ForumGenerated c d) (hids : d.drawnIds.Nodup) (hpost : post ∈ d.forumPosts) :
    PostChronology c.now d post where
  reply _ hr hid := ⟨h.le_reply hids hpost hr hid, h.le_lastActive hpost hr hid⟩
  lastActive := h.max?_replyTimes hpost
  lastActive_le ordinary := h.lastActive_le ordinary hpost
  deactivated := h.isSome_deactivatedAt hpost
  le_deactivated _ := h.le_deactivated hpost
  deactivated_within ordinary _ := h.deactivated_within ordinary hpost
  vote _ hv hid := h.vote_within hids hpost hv hid

/-- In a dataset without repeated identifiers, everything happens in order, up to the reference time
where that is in no leap second. -/
theorem Config.generate_chronology {c : Config} {d : Dataset} (h : c.generate = .ok d)
    (hids : d.drawnIds.Nodup) : Chronology c.now d := by
  have generated := generated_of_generate h
  constructor
  · intro post hpost
    exact generated.forum.postChronology hids hpost
  · intro reply hreply vote hvote hid
    exact generated.forum.replyVote_within hids hreply hvote hid
  · exact generated.recorded_le
  · exact fun post hpost => generated.forum.post_created_le hpost

theorem Config.generate_chronology_sample :
    ∃ d, sample.generate = .ok d ∧ d.drawnIds.Nodup ∧ Chronology .epoch d := by
  obtain ⟨d, h, hids⟩ := sample_distinct
  exact ⟨d, h, hids, generate_chronology h hids⟩

end University
