import Std.Data.HashMap
import University.Account.Basic
import University.Fiction.Run
import University.Forum.Basic

/-! # Generating views and votes

Some users view a post, some of these vote on it, and some users vote on a reply.
-/

namespace University

open Chance Fiction Time

/-- The views of a post, by twenty to fifty users. -/
def ForumPost.generateViews (users : List User) (post : ForumPost) : Draw (List ForumPostView) := do
  let viewers ← sample users 20 50
  return viewers.map fun viewer => ⟨post.id, viewer.id⟩

def generateViews (users : List User) (posts : List ForumPost) : Draw (List ForumPostView) :=
  concatMap (ForumPost.generateViews users) posts

/-- The views by post, in their order. -/
def viewsByPost (views : List ForumPostView) : Std.HashMap String (Array ForumPostView) :=
  views.foldl (fun byPost view => byPost.alter view.postId fun vs => some ((vs.getD #[]).push view)) ∅

/-- When voting on a post ends: at its deactivation, or at the reference time while it is active. -/
def ForumPost.votingEnd (run : Run) (post : ForumPost) : Instant :=
  match post.isActive, post.deactivatedAt with
  | false, some t => t
  | _, _ => run.now

/-- A vote on a post by one who has viewed it. -/
def ForumPostVote.generate (run : Run) (post : ForumPost) (view : ForumPostView) :
    Generate ForumPostVote := do
  let createdAt ← between post.createdAt (post.votingEnd run)
  let increment ← voteIncrement
  return ⟨post.id, view.userId, createdAt, increment⟩

/-- The votes on a post: two to five of its viewers vote. No word is drawn for a post without
views. -/
def ForumPost.generateVotes (run : Run) (byPost : Std.HashMap String (Array ForumPostView))
    (post : ForumPost) : Generate (List ForumPostVote) :=
  match byPost[post.id]? with
  | none => return []
  | some views => do
    let voters ← sample views.toList 2 5
    voters.mapM (ForumPostVote.generate run post)

def generateVotes (run : Run) (posts : List ForumPost) (views : List ForumPostView) :
    Generate (List ForumPostVote) :=
  concatMap (ForumPost.generateVotes run (viewsByPost views)) posts

def ForumPostReplyVote.generate (run : Run) (reply : ForumPostReply) (voter : User) :
    Generate ForumPostReplyVote := do
  let createdAt ← between reply.createdAt run.now
  let increment ← voteIncrement
  return ⟨reply.id, voter.id, createdAt, increment⟩

/-- The votes on a reply, by two to five users. -/
def ForumPostReply.generateVotes (run : Run) (users : List User) (reply : ForumPostReply) :
    Generate (List ForumPostReplyVote) := do
  let voters ← sample users 2 5
  voters.mapM (ForumPostReplyVote.generate run reply)

def generateReplyVotes (run : Run) (users : List User) (replies : List ForumPostReply) :
    Generate (List ForumPostReplyVote) :=
  concatMap (ForumPostReply.generateVotes run users) replies

end University
