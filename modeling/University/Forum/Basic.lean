import University.Table.Record

/-! # The forum

Categories hold posts; users reply to posts, view them and vote on posts and replies.
-/

namespace University

open FieldType (member?)
open Time

/-- A category of the forum. Its representative ID is a slug. -/
structure ForumCategory where
  id : String
  name : String
  representativeId : String
  description : String
  userId : String
  colorTheme : String
  createdAt : Instant
  deriving DecidableEq

instance : Record ForumCategory where
  table := "forum_categories"
  fields :=
    [.of "forum_category_id" .text (·.id),
     .of "forum_category_name" .text (·.name),
     .of "forum_category_representative_id" .text (·.representativeId),
     .of "forum_category_description" .text (·.description),
     .of "user_id" .text (·.userId),
     .of "forum_category_color_theme" .text (·.colorTheme),
     .of "forum_category_created_timestamp" .timestamp (·.createdAt)]
  ofMembers?
    | [id, name, representativeId, description, userId, colorTheme, createdAt] => do
      return ⟨← member? id, ← member? name, ← member? representativeId, ← member? description,
        ← member? userId, ← member? colorTheme, ← member? createdAt⟩
    | _ => none

/-- A post of the forum, or an announcement of a category or of the whole forum. An inactive post
tells when it was deactivated. -/
structure ForumPost where
  id : String
  name : String
  userId : String
  categoryId : String
  content : String
  isActive : Bool
  createdAt : Instant
  lastActiveAt : Instant
  isCategoryAnnouncement : Bool
  deactivatedAt : Option Instant
  isGlobalAnnouncement : Bool
  deriving DecidableEq

instance : Record ForumPost where
  table := "forum_posts"
  fields :=
    [.of "forum_post_id" .text (·.id),
     .of "forum_post_name" .text (·.name),
     .of "user_id" .text (·.userId),
     .of "forum_category_id" .text (·.categoryId),
     .of "forum_post_content" .text (·.content),
     .of "forum_post_is_active" .boolean (·.isActive),
     .of "forum_post_created_timestamp" .timestamp (·.createdAt),
     .of "forum_post_last_active_timestamp" .timestamp (·.lastActiveAt),
     .of "forum_post_is_category_based_announcement" .boolean (·.isCategoryAnnouncement),
     .of "forum_post_deactivated_timestamp" .nullableTimestamp (·.deactivatedAt),
     .of "forum_post_is_global_announcement" .boolean (·.isGlobalAnnouncement)]
  ofMembers?
    | [id, name, userId, categoryId, content, isActive, createdAt, lastActiveAt,
       isCategoryAnnouncement, deactivatedAt, isGlobalAnnouncement] => do
      return ⟨← member? id, ← member? name, ← member? userId, ← member? categoryId,
        ← member? content, ← member? isActive, ← member? createdAt, ← member? lastActiveAt,
        ← member? isCategoryAnnouncement, ← member? deactivatedAt, ← member? isGlobalAnnouncement⟩
    | _ => none

/-- A reply to a post. -/
structure ForumPostReply where
  id : String
  postId : String
  userId : String
  content : String
  createdAt : Instant
  deriving DecidableEq

instance : Record ForumPostReply where
  table := "forum_post_replies"
  fields :=
    [.of "forum_post_reply_id" .text (·.id),
     .of "forum_post_id" .text (·.postId),
     .of "user_id" .text (·.userId),
     .of "forum_post_reply_content" .text (·.content),
     .of "forum_post_reply_created_timestamp" .timestamp (·.createdAt)]
  ofMembers?
    | [id, postId, userId, content, createdAt] => do
      return ⟨← member? id, ← member? postId, ← member? userId, ← member? content,
        ← member? createdAt⟩
    | _ => none

/-- A user has viewed a post. -/
structure ForumPostView where
  postId : String
  userId : String
  deriving DecidableEq

instance : Record ForumPostView where
  table := "forum_post_views"
  fields :=
    [.of "forum_post_id" .text (·.postId),
     .of "user_id" .text (·.userId)]
  ofMembers?
    | [postId, userId] => do
      return ⟨← member? postId, ← member? userId⟩
    | _ => none

/-- A vote for a post, one, or against it, minus one. -/
structure ForumPostVote where
  postId : String
  userId : String
  createdAt : Instant
  increment : Int32
  deriving DecidableEq

instance : Record ForumPostVote where
  table := "forum_post_votes"
  fields :=
    [.of "forum_post_id" .text (·.postId),
     .of "user_id" .text (·.userId),
     .of "forum_post_vote_created_timestamp" .timestamp (·.createdAt),
     .of "forum_post_vote_increment" .integer (·.increment)]
  ofMembers?
    | [postId, userId, createdAt, increment] => do
      return ⟨← member? postId, ← member? userId, ← member? createdAt, ← member? increment⟩
    | _ => none

/-- A vote for a reply, one, or against it, minus one. -/
structure ForumPostReplyVote where
  replyId : String
  userId : String
  createdAt : Instant
  increment : Int32
  deriving DecidableEq

instance : Record ForumPostReplyVote where
  table := "forum_post_reply_votes"
  fields :=
    [.of "forum_post_reply_id" .text (·.replyId),
     .of "user_id" .text (·.userId),
     .of "forum_post_reply_vote_created_timestamp" .timestamp (·.createdAt),
     .of "forum_post_reply_vote_increment" .integer (·.increment)]
  ofMembers?
    | [replyId, userId, createdAt, increment] => do
      return ⟨← member? replyId, ← member? userId, ← member? createdAt, ← member? increment⟩
    | _ => none

end University
