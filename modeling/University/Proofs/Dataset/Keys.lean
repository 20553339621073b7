import University.Proofs.Dataset.Distinct
import University.Proofs.Dataset.Rows

/-! # Natural keys

Some columns of a table tell its rows apart without an identifier of their own. Each key holds for a
reason of its own: a sample takes nobody twice, places of rooms have two digits, semesters follow each
other. What they share is that the block of one parent is kept apart from all others by the identifier
of the parent.
-/

namespace University

/-- Columns of a table whose values no two rows share. -/
structure NaturalKey where
  table : Table
  columns : List String

/-- The values of a row in some columns. -/
def InsertedRow.key (row : InsertedRow) (columns : List String) : List (Option Value) :=
  columns.map row.value?

namespace NaturalKey

def DistinctIn (k : NaturalKey) (d : Dataset) : Prop :=
  ((d.tableRows k.table).map (·.key k.columns)).Nodup

/-- The natural keys of the dataset. -/
def all : List NaturalKey :=
  [⟨.forumPostViews, ["forum_post_id", "user_id"]⟩,
   ⟨.forumPostVotes, ["forum_post_id", "user_id"]⟩,
   ⟨.forumPostReplies, ["forum_post_id", "user_id"]⟩,
   ⟨.forumPostReplyVotes, ["forum_post_reply_id", "user_id"]⟩,
   ⟨.rooms, ["building_id", "room_name"]⟩,
   ⟨.semesters, ["academic_year_id", "semester_start_timestamp"]⟩,
   ⟨.gradingCriteriaGrades, ["grading_criteria_id", "grading_criteria_grade_alphabet"]⟩,
   ⟨.forumCategories, ["forum_category_representative_id"]⟩]

variable {d : Dataset}

/-- A key that is read from one value of the records, of which it keeps everything. -/
theorem distinctIn_of_field {k : NaturalKey} {κ : Type} (field : k.table.Entry → κ)
    (shown : κ → List (Option Value)) (hshown : Function.Injective shown)
    (distinct : ((d.records k.table).map field).Nodup)
    (hkey : ∀ r : k.table.Entry, InsertedRow.key ⟨k.table.schema, Record.row r⟩ k.columns =
      shown (field r)) : k.DistinctIn d := by
  have keys : (d.tableRows k.table).map (·.key k.columns) =
      ((d.records k.table).map field).map shown := by
    simp only [Dataset.tableRows, Dataset.batch, Batch.insertedRows, Batch.ofRecords, List.map_map]
    exact List.map_congr_left fun r _ => hkey r
  rw [DistinctIn, keys]
  exact distinct.map hshown

/-- A key of two texts. -/
theorem distinctIn_of_texts {k : NaturalKey} (field : k.table.Entry → String × String)
    (distinct : ((d.records k.table).map field).Nodup)
    (hkey : ∀ r : k.table.Entry, InsertedRow.key ⟨k.table.schema, Record.row r⟩ k.columns =
      [some (.text (field r).1), some (.text (field r).2)] := by exact fun _ => rfl) :
    k.DistinctIn d := by
  refine distinctIn_of_field field (fun e => [some (.text e.1), some (.text e.2)]) ?_ distinct hkey
  rintro ⟨a, b⟩ ⟨a', b'⟩ same
  simpa using same

end NaturalKey

section Blocks

variable {run : Run} {users : List User}

/-- What is made by elements of a sample has keys as distinct as theirs. -/
theorem Fiction.Sampled.nodup_of_forall₂ {α β κ : Type} {items chosen : List α} {made : List β}
    {least most : Nat} {R : α → β → Prop} {key : α → κ} {value : β → κ}
    (h : Fiction.Sampled items least most chosen) (hmade : List.Forall₂ R chosen made)
    (hkeys : (items.map key).Nodup) (hR : ∀ x y, R x y → value y = key x) :
    (made.map value).Nodup := by
  rw [map_eq_of_forall₂ hmade hR]
  exact h.nodup_map hkeys

theorem RepliesOf.nodup_authors {post : ForumPost} {block : List ForumPostReply}
    (h : RepliesOf run users post block) (hids : (users.map (·.id)).Nodup) :
    (block.map (·.userId)).Nodup := by
  obtain ⟨authors, sampled, replies⟩ := h
  exact sampled.nodup_of_forall₂ replies hids fun _ _ made => made.author_eq

theorem ViewsOf.nodup_viewers {post : ForumPost} {block : List ForumPostView}
    (h : ViewsOf users post block) (hids : (users.map (·.id)).Nodup) :
    (block.map (·.userId)).Nodup := by
  obtain ⟨viewers, sampled, rfl⟩ := h
  rw [List.map_map]
  exact sampled.nodup_map hids

/-- The viewers of a post are distinct, so the voters among them are. -/
theorem VotesOf.nodup_voters {views : List ForumPostView} {post : ForumPost}
    {block : List ForumPostVote} (h : VotesOf run views post block)
    (hviews : (views.map fun v => (v.postId, v.userId)).Nodup) :
    (block.map (·.userId)).Nodup := by
  obtain ⟨voters, sampled, votes⟩ := h
  have distinct : (viewsFor views post.id).Nodup := hviews.of_map.filter _
  have viewers : ((viewsFor views post.id).map (·.userId)).Nodup := by
    refine (List.nodup_map_iff_inj_on distinct).mpr ?_
    intro v hv w hw same
    obtain ⟨hv, hpost⟩ := List.mem_filter.mp hv
    obtain ⟨hw, hpost'⟩ := List.mem_filter.mp hw
    have posts : v.postId = w.postId := (beq_iff_eq.mp hpost).trans (beq_iff_eq.mp hpost').symm
    exact List.inj_on_of_nodup_map hviews hv hw (Prod.ext posts same)
  exact sampled.nodup_of_forall₂ votes viewers fun _ _ made => made.voter_eq

theorem ReplyVotesOf.nodup_voters {reply : ForumPostReply} {block : List ForumPostReplyVote}
    (h : ReplyVotesOf run users reply block) (hids : (users.map (·.id)).Nodup) :
    (block.map (·.userId)).Nodup := by
  obtain ⟨voters, sampled, votes⟩ := h
  exact sampled.nodup_of_forall₂ votes hids fun _ _ made => made.voter_eq

end Blocks

/-- Rows that are distinct within the block of each parent, and that tell their parent, are distinct. -/
theorem Blocks.nodup_pairs {α β κ : Type} {P : α → List β → Prop} {parents : List α} {rows : List β}
    {id : α → String} {parent : β → String} {own : β → κ} (h : Blocks P parents rows)
    (hids : (parents.map id).Nodup) (hparent : ∀ x block, P x block → ∀ y ∈ block, parent y = id x)
    (hown : ∀ x block, P x block → (block.map own).Nodup) :
    (rows.map fun y => (parent y, own y)).Nodup := by
  refine h.nodup_map id Prod.fst hids ?_
  intro x block hblock
  refine ⟨?_, hparent x block hblock⟩
  refine List.Nodup.of_map Prod.snd ?_
  rw [List.map_map]
  exact hown x block hblock

section Tables

variable {c : Config} {d : Dataset}

theorem ForumGenerated.nodup_replies (h : ForumGenerated c d) (hids : d.drawnIds.Nodup) :
    (d.forumPostReplies.map fun r => (r.postId, r.userId)).Nodup := by
  have posts : (d.forumPosts.map (·.id)).Nodup :=
    Dataset.nodup_idColumn hids (by simp [Dataset.idColumns])
  have users : (d.users.map (·.id)).Nodup :=
    Dataset.nodup_idColumn hids (by simp [Dataset.idColumns])
  refine h.replies.nodup_pairs posts ?_ ?_
  · intro post block hblock r hr
    obtain ⟨_, -, made⟩ := hblock.exists_author hr
    exact made.post_eq
  · exact fun post block hblock => hblock.nodup_authors users

theorem ForumGenerated.nodup_views (h : ForumGenerated c d) (hids : d.drawnIds.Nodup) :
    (d.forumPostViews.map fun v => (v.postId, v.userId)).Nodup := by
  have posts : (d.forumPosts.map (·.id)).Nodup :=
    Dataset.nodup_idColumn hids (by simp [Dataset.idColumns])
  have users : (d.users.map (·.id)).Nodup :=
    Dataset.nodup_idColumn hids (by simp [Dataset.idColumns])
  refine h.views.nodup_pairs posts ?_ ?_
  · exact fun post block hblock v hv => (hblock.exists_viewer hv).1
  · exact fun post block hblock => hblock.nodup_viewers users

theorem ForumGenerated.nodup_votes (h : ForumGenerated c d) (hids : d.drawnIds.Nodup) :
    (d.forumPostVotes.map fun v => (v.postId, v.userId)).Nodup := by
  have posts : (d.forumPosts.map (·.id)).Nodup :=
    Dataset.nodup_idColumn hids (by simp [Dataset.idColumns])
  refine h.votes.nodup_pairs posts ?_ ?_
  · intro post block hblock v hv
    obtain ⟨_, -, -, made⟩ := hblock.exists_view hv
    exact made.post_eq
  · exact fun post block hblock => hblock.nodup_voters (h.nodup_views hids)

theorem ForumGenerated.nodup_replyVotes (h : ForumGenerated c d) (hids : d.drawnIds.Nodup) :
    (d.forumPostReplyVotes.map fun v => (v.replyId, v.userId)).Nodup := by
  have replies : (d.forumPostReplies.map (·.id)).Nodup :=
    Dataset.nodup_idColumn hids (by simp [Dataset.idColumns])
  have users : (d.users.map (·.id)).Nodup :=
    Dataset.nodup_idColumn hids (by simp [Dataset.idColumns])
  refine h.replyVotes.nodup_pairs replies ?_ ?_
  · intro reply block hblock v hv
    obtain ⟨_, -, made⟩ := hblock.exists_voter hv
    exact made.reply_eq
  · exact fun reply block hblock => hblock.nodup_voters users

theorem TeachingGenerated.nodup_rooms (h : TeachingGenerated c d) (hids : d.drawnIds.Nodup) :
    (d.rooms.map fun r => (r.buildingId, r.name)).Nodup := by
  have buildings : (d.buildings.map (·.id)).Nodup :=
    Dataset.nodup_idColumn hids (by simp [Dataset.idColumns])
  exact h.rooms.nodup_pairs buildings (fun _ _ block => block.parent) fun _ _ block => block.nodup_names

theorem TeachingGenerated.nodup_grades (h : TeachingGenerated c d) (hids : d.drawnIds.Nodup) :
    (d.gradingCriteriaGrades.map fun g => (g.gradingCriteriaId, g.letter)).Nodup := by
  have schemes : (d.gradingCriterias.map (·.id)).Nodup :=
    Dataset.nodup_idColumn hids (by simp [Dataset.idColumns])
  exact h.gradingCriteriaGrades.nodup_pairs schemes (fun _ _ block => block.parent)
    fun _ _ block => block.nodup_letters

theorem PeopleGenerated.nodup_semesters (h : PeopleGenerated c d) (hids : d.drawnIds.Nodup) :
    (d.semesters.map fun s => (s.academicYearId, s.startsAt)).Nodup := by
  have years : (d.academicYears.map (·.id)).Nodup :=
    Dataset.nodup_idColumn hids (by simp [Dataset.idColumns])
  exact h.semesters.nodup_pairs years (fun _ _ block => block.parent)
    fun _ _ block => block.in_order.imp ne_of_lt

/-- The names of the six categories have different slugs. -/
theorem ForumGenerated.nodup_categories (h : ForumGenerated c d) :
    (d.forumCategories.map (·.representativeId)).Nodup := by
  have slugs : d.forumCategories.map (·.representativeId) =
      forumCategories.map fun entry => slugify entry.1 :=
    map_eq_of_forall₂ h.categories fun _ _ made => made.representativeId_eq
  rw [slugs]
  decide

theorem Generated.distinctIn (h : Generated c d) (hids : d.drawnIds.Nodup) :
    ∀ k ∈ NaturalKey.all, k.DistinctIn d := by
  simp only [NaturalKey.all, List.forall_mem_cons, List.not_mem_nil, false_implies,
    implies_true, and_true]
  refine ⟨?_, ?_, ?_, ?_, ?_, ?_, ?_, ?_⟩
  · exact NaturalKey.distinctIn_of_texts _ (h.forum.nodup_views hids)
  · exact NaturalKey.distinctIn_of_texts _ (h.forum.nodup_votes hids)
  · exact NaturalKey.distinctIn_of_texts _ (h.forum.nodup_replies hids)
  · exact NaturalKey.distinctIn_of_texts _ (h.forum.nodup_replyVotes hids)
  · exact NaturalKey.distinctIn_of_texts _ (h.teaching.nodup_rooms hids)
  · refine NaturalKey.distinctIn_of_field _ (fun e => [some (.text e.1), some (.timestamp e.2)]) ?_
      (h.people.nodup_semesters hids) fun _ => rfl
    rintro ⟨year, start⟩ ⟨year', start'⟩ same
    simpa using same
  · exact NaturalKey.distinctIn_of_texts _ (h.teaching.nodup_grades hids)
  · refine NaturalKey.distinctIn_of_field _ (fun slug => [some (.text slug)]) ?_
      h.forum.nodup_categories fun _ => rfl
    intro slug slug' same
    simpa using same

theorem ForumGenerated.voter_viewed (h : ForumGenerated c d) {vote : ForumPostVote}
    (hvote : vote ∈ d.forumPostVotes) :
    ∃ view ∈ d.forumPostViews, view.postId = vote.postId ∧ view.userId = vote.userId := by
  obtain ⟨post, -, block, hblock, hmem⟩ := h.votes.exists_of_mem hvote
  obtain ⟨view, hview, same, made⟩ := hblock.exists_view hmem
  exact ⟨view, hview, same.trans made.post_eq.symm, made.voter_eq.symm⟩

end Tables

/-- In a dataset without repeated identifiers no natural key is repeated either, and only those who have
viewed a post vote on it. -/
theorem Config.generate_distinctIn {c : Config} {d : Dataset} (h : c.generate = .ok d)
    (hids : d.drawnIds.Nodup) :
    (∀ k ∈ NaturalKey.all, k.DistinctIn d) ∧
      ∀ vote ∈ d.forumPostVotes, ∃ view ∈ d.forumPostViews,
        view.postId = vote.postId ∧ view.userId = vote.userId := by
  have generated := generated_of_generate h
  exact ⟨generated.distinctIn hids, fun _ => generated.forum.voter_viewed⟩

theorem Config.generate_distinctIn_sample : ∃ d, sample.generate = .ok d ∧ d.drawnIds.Nodup ∧
    (∀ k ∈ NaturalKey.all, k.DistinctIn d) ∧
      ∀ vote ∈ d.forumPostVotes, ∃ view ∈ d.forumPostViews,
        view.postId = vote.postId ∧ view.userId = vote.userId := by
  obtain ⟨d, h, hids⟩ := sample_distinct
  exact ⟨d, h, hids, generate_distinctIn h hids⟩

end University
