import Mathlib.Data.List.Induction
import University.Forum.Engagement
import University.Proofs.Fiction.Run

/-! # Views and votes

Posts are viewed by different users. Some viewers of a post vote on it while it is open, and some users
vote on a reply after it was made.
-/

namespace University

open Generate (Ends)
open Chance Fiction Time

variable {run : Run} {users : List User} {views : List ForumPostView}

section Views

/-- The views that a post gets. -/
def ViewsOf (users : List User) (post : ForumPost) (block : List ForumPostView) : Prop :=
  ∃ viewers, Sampled users 20 50 viewers ∧ block = viewers.map fun viewer => ⟨post.id, viewer.id⟩

theorem ViewsOf.exists_viewer {post : ForumPost} {block : List ForumPostView}
    (h : ViewsOf users post block) {view : ForumPostView} (hview : view ∈ block) :
    view.postId = post.id ∧ ∃ u ∈ users, view.userId = u.id := by
  obtain ⟨viewers, sampled, rfl⟩ := h
  obtain ⟨viewer, hviewer, rfl⟩ := List.mem_map.mp hview
  exact ⟨rfl, viewer, sampled.mem hviewer, rfl⟩

theorem generateViews_always (users : List User) (posts : List ForumPost) :
    (generateViews users posts).Always (Blocks (ViewsOf users) posts) := by
  apply Draw.Always.concatMap posts
  intro post _
  apply (sample_sampled users 20 50).bind
  intro viewers hviewers
  exact .pure ⟨viewers, hviewers, rfl⟩

def viewsFor (views : List ForumPostView) (id : String) : List ForumPostView :=
  views.filter (·.postId == id)

theorem viewsFor_concat (views : List ForumPostView) (view : ForumPostView) (id : String) :
    viewsFor (views ++ [view]) id =
      viewsFor views id ++ if view.postId = id then [view] else [] := by
  by_cases same : view.postId = id
  · simp [viewsFor, same]
  · simp [viewsFor, same]

theorem viewsByPost_concat (views : List ForumPostView) (view : ForumPostView) :
    viewsByPost (views ++ [view]) =
      (viewsByPost views).alter view.postId fun vs => some ((vs.getD #[]).push view) := by
  rw [viewsByPost, List.foldl_append]
  rfl

/-- The map that is built view by view groups the views, and holds no empty group. -/
theorem getElem?_viewsByPost (views : List ForumPostView) (id : String) :
    (viewsByPost views)[id]? =
      if viewsFor views id = [] then none else some (viewsFor views id).toArray := by
  induction views using List.reverseRecOn with
  | nil => simp [viewsByPost, viewsFor]
  | append_singleton views view ih =>
      rw [viewsByPost_concat, viewsFor_concat, Std.HashMap.getElem?_alter]
      by_cases same : view.postId = id
      · rw [if_pos (beq_iff_eq.mpr same), if_pos same, same, ih]
        by_cases none_before : viewsFor views id = []
        · simp [none_before]
        · simp [none_before]
      · rw [if_neg (beq_iff_eq.not.mpr same), if_neg same, List.append_nil, ih]

end Views

section Votes

/-- A vote of a viewer on a post. -/
structure VoteOn (run : Run) (post : ForumPost) (view : ForumPostView) (vote : ForumPostVote) :
    Prop where
  post_eq : vote.postId = post.id
  voter_eq : vote.userId = view.userId
  increment_eq : vote.increment = 1 ∨ vote.increment = -1
  created : Drawn post.createdAt (post.votingEnd run) vote.createdAt

/-- The votes that a post gets. -/
def VotesOf (run : Run) (views : List ForumPostView) (post : ForumPost)
    (block : List ForumPostVote) : Prop :=
  ∃ voters, Sampled (viewsFor views post.id) 2 5 voters ∧
    List.Forall₂ (VoteOn run post) voters block

theorem VotesOf.exists_view {post : ForumPost} {block : List ForumPostVote}
    (h : VotesOf run views post block) {vote : ForumPostVote} (hvote : vote ∈ block) :
    ∃ view ∈ views, view.postId = post.id ∧ VoteOn run post view vote := by
  obtain ⟨voters, sampled, votes⟩ := h
  obtain ⟨view, hview, made⟩ := exists_of_forall₂ votes hvote
  obtain ⟨hmem, same⟩ := List.mem_filter.mp (sampled.mem hview)
  exact ⟨view, hmem, beq_iff_eq.mp same, made⟩

/-- The votes on a post stop a run only where a leap second is lost at the end of the supported years. -/
def VotesStop (run : Run) (post : ForumPost) (h : Halt) : Prop :=
  Instant.LeapLost post.createdAt (post.votingEnd run) ∧ Beyond (post.votingEnd run) h

theorem ForumPostVote.generate_ends (run : Run) (post : ForumPost) (view : ForumPostView) :
    (ForumPostVote.generate run post view).Ends (VoteOn run post view) (VotesStop run post) := by
  apply (between_ends post.createdAt (post.votingEnd run)).bind
  intro createdAt hcreated
  apply (Ends.lift voteIncrement_mem).bind
  intro increment hincrement
  exact .pure ⟨rfl, rfl, hincrement, hcreated⟩

theorem ForumPost.generateVotes_eq (run : Run) {post : ForumPost}
    (hviews : viewsFor views post.id ≠ []) : post.generateVotes run (viewsByPost views) =
      liftM (sample (viewsFor views post.id) 2 5) >>= fun voters =>
        voters.mapM (ForumPostVote.generate run post) := by
  rw [ForumPost.generateVotes, getElem?_viewsByPost, if_neg hviews]

/-- Some of the viewers of a post vote on it. -/
theorem ForumPost.generateVotes_ends (run : Run) (views : List ForumPostView) (post : ForumPost) :
    (post.generateVotes run (viewsByPost views)).Ends (VotesOf run views post)
      (VotesStop run post) := by
  by_cases none_there : viewsFor views post.id = []
  · rw [ForumPost.generateVotes, getElem?_viewsByPost, if_pos none_there]
    refine .pure ⟨[], ?_, .nil⟩
    rw [none_there]
    exact ⟨⟨[], List.nodup_nil, by simp, rfl⟩, by simp, by simp⟩
  · rw [ForumPost.generateVotes_eq run none_there]
    apply (Ends.lift (sample_sampled (viewsFor views post.id) 2 5)).bind
    intro voters hvoters
    have each := Ends.mapM voters fun view _ => ForumPostVote.generate_ends run post view
    exact each.imp fun block hblock => ⟨voters, hvoters, hblock⟩

theorem generateVotes_ends (run : Run) (posts : List ForumPost) (views : List ForumPostView) :
    (generateVotes run posts views).Ends (Blocks (VotesOf run views) posts)
      (fun h => ∃ post ∈ posts, VotesStop run post h) :=
  .concatMap posts fun post hpost =>
    (post.generateVotes_ends run views).weaken fun _ stopped => ⟨post, hpost, stopped⟩

end Votes

section ReplyVotes

/-- A vote of a user on a reply. -/
structure VoteOnReply (run : Run) (reply : ForumPostReply) (voter : User)
    (vote : ForumPostReplyVote) : Prop where
  reply_eq : vote.replyId = reply.id
  voter_eq : vote.userId = voter.id
  created : Drawn reply.createdAt run.now vote.createdAt

/-- The votes that a reply gets. -/
def ReplyVotesOf (run : Run) (users : List User) (reply : ForumPostReply)
    (block : List ForumPostReplyVote) : Prop :=
  ∃ voters, Sampled users 2 5 voters ∧ List.Forall₂ (VoteOnReply run reply) voters block

theorem ReplyVotesOf.exists_voter {reply : ForumPostReply} {block : List ForumPostReplyVote}
    (h : ReplyVotesOf run users reply block) {vote : ForumPostReplyVote} (hvote : vote ∈ block) :
    ∃ u ∈ users, VoteOnReply run reply u vote := by
  obtain ⟨voters, sampled, votes⟩ := h
  obtain ⟨voter, hvoter, made⟩ := exists_of_forall₂ votes hvote
  exact ⟨voter, sampled.mem hvoter, made⟩

theorem ForumPostReplyVote.generate_ends (run : Run) (reply : ForumPostReply) (voter : User) :
    (ForumPostReplyVote.generate run reply voter).Ends (VoteOnReply run reply voter)
      (Beyond run.now) := by
  apply ((between_ends reply.createdAt run.now).weaken fun _ => And.right).bind
  intro createdAt hcreated
  apply Ends.skip
  intro increment
  exact .pure ⟨rfl, rfl, hcreated⟩

theorem generateReplyVotes_ends (run : Run) (users : List User) (replies : List ForumPostReply) :
    (generateReplyVotes run users replies).Ends (Blocks (ReplyVotesOf run users) replies)
      (Beyond run.now) := by
  apply Ends.concatMap replies
  intro reply _
  apply (Ends.lift (sample_sampled users 2 5)).bind
  intro voters hvoters
  have each := Ends.mapM voters fun voter _ => ForumPostReplyVote.generate_ends run reply voter
  exact each.imp fun block hblock => ⟨voters, hvoters, hblock⟩

end ReplyVotes

end University
