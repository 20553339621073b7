import Std.Data.HashMap
import University.Account.Basic
import University.Fiction.Body
import University.Fiction.Run
import University.Forum.Basic
import University.Generation

/-! # Generating replies and settling activity

Every post gets replies from some users. Then the activity of the posts is settled: a post was
last active at its latest reply, and an inactive post was deactivated soon after that.
-/

namespace University

open Chance Fiction Time

def ForumPostReply.generate (run : Run) (post : ForumPost) (author : User) :
    Generate ForumPostReply := do
  let createdAt ← between post.createdAt run.now
  let id ← run.identifier
  let content ← blockquoteContent
  return ⟨id, post.id, author.id, content, createdAt⟩

/-- The replies to a post, from two to ten users. -/
def ForumPost.generateReplies (run : Run) (users : List User) (post : ForumPost) :
    Generate (List ForumPostReply) := do
  let authors ← sample users 2 10
  authors.mapM (ForumPostReply.generate run post)

def generateAllReplies (run : Run) (users : List User) (posts : List ForumPost) :
    Generate (List ForumPostReply) :=
  concatMap (ForumPost.generateReplies run users) posts

/-- The moment of the latest reply to each post that has one. -/
def latestReplies (replies : List ForumPostReply) : Std.HashMap String Instant :=
  replies.foldl
    (fun latest reply =>
      match latest[reply.postId]? with
      | some t => latest.insert reply.postId (max t reply.createdAt)
      | none => latest.insert reply.postId reply.createdAt)
    ∅

/-- The last moment at which a post that was last active at `lastActive` may be deactivated: a
day later, but not after the reference time, and not before the last activity. -/
def latestDeactivation? (run : Run) (lastActive : Instant) : Option Instant :=
  (lastActive.after? day).map fun t => max (min t run.now) lastActive

/-- The first such moment: a minute after the last activity, where that is not too late. -/
def earliestDeactivation? (lastActive latest : Instant) : Option Instant :=
  (lastActive.after? minute).map fun t => min t latest

/-- Draws when a post that was last active at `lastActive` was deactivated. -/
def drawDeactivation (run : Run) (lastActive : Instant) : Generate Instant := do
  let latest ← Generate.orOverflow (latestDeactivation? run lastActive)
  let earliest ← Generate.orOverflow (earliestDeactivation? lastActive latest)
  between earliest latest

/-- Settles the activity of a post. Its last activity is set in any case; where that is too late for
a deactivation, the one that it had stays. -/
def ForumPost.settle (run : Run) (latest : Std.HashMap String Instant) (post : ForumPost) :
    Draw (Except Halt Unit × ForumPost) := do
  let active := { post with lastActiveAt := latest.getD post.id post.createdAt }
  if post.isActive then
    return (.ok (), { active with deactivatedAt := none })
  else
    match ← (drawDeactivation run active.lastActiveAt).run with
    | .ok t => return (.ok (), { active with deactivatedAt := some t })
    | .error h => return (.error h, active)

/-- Settles the activity of posts in order, up to the first whose deactivation cannot be drawn. The
posts behind that one stay as they were. -/
def settleEach (run : Run) (latest : Std.HashMap String Instant) :
    List ForumPost → Draw (Except Halt Unit × List ForumPost)
  | [] => return (.ok (), [])
  | post :: rest => do
    match ← post.settle run latest with
    | (.ok (), settled) =>
      let (outcome, others) ← settleEach run latest rest
      return (outcome, settled :: others)
    | (.error h, active) => return (.error h, active :: rest)

/-- Settles the activity of all posts by the replies to them. -/
def settlePosts (run : Run) (posts : List ForumPost) (replies : List ForumPostReply) :
    Draw (Except Halt Unit × List ForumPost) :=
  settleEach run (latestReplies replies) posts

/-- The replies to all posts, and the posts with their activity settled as far as it goes. There are
no replies where not all posts can be settled. -/
def generateReplies (run : Run) (users : List User) (posts : List ForumPost) :
    Draw (Except Halt (List ForumPostReply) × List ForumPost) := do
  match ← (generateAllReplies run users posts).run with
  | .error h => return (.error h, posts)
  | .ok replies =>
    let (outcome, settled) ← settlePosts run posts replies
    return (outcome.map fun () => replies, settled)

end University
