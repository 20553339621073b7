import University.Account.Basic
import University.Fiction.Body
import University.Fiction.Run
import University.Forum.Category

/-! # Generating forum posts

Ordinary posts, then announcements of categories, then global announcements. Their activity is
provisional until replies are known.
-/

namespace University

open Chance Fiction Time

/-- How many posts of each sort there are: ordinary ones, deactivated announcements of categories
and deactivated global announcements. -/
structure PostVolumes where
  ordinary : Nat
  deactivatedCategory : Nat
  deactivatedGlobal : Nat
  deriving DecidableEq, Repr

/-- What a post announces, if anything. -/
inductive Announcement where
  | none
  | category
  | global
  deriving DecidableEq, Repr

/-- A post without identifier and name. -/
structure PostDraft where
  author : User
  category : ForumCategory
  content : String
  isActive : Bool
  createdAt : Instant
  lastActiveAt : Instant
  deactivatedAt : Option Instant
  announcement : Announcement

/-- The post that a draft becomes with an identifier and a name. -/
def PostDraft.post (d : PostDraft) (id name : String) : ForumPost where
  id := id
  name := name
  userId := d.author.id
  categoryId := d.category.id
  content := d.content
  isActive := d.isActive
  createdAt := d.createdAt
  lastActiveAt := d.lastActiveAt
  isCategoryAnnouncement := d.announcement == .category
  deactivatedAt := d.deactivatedAt
  isGlobalAnnouncement := d.announcement == .global

/-- Draws identifier and name of a post. -/
def PostDraft.finish (run : Run) (d : PostDraft) : Generate ForumPost := do
  let id ← run.identifier
  let name ← catchPhrase
  return d.post id name

/-- A random author of a post. -/
def pickAuthor (users : List User) : Generate User :=
  Generate.pickParent "forum_posts" "users" users

/-- A random category of a post. -/
def pickCategory (categories : List ForumCategory) : Generate ForumCategory :=
  Generate.pickParent "forum_posts" "forum_categories" categories

/-- A moment in the years that posts go back to. -/
def postCreation (run : Run) : Generate Instant := run.pastYears 8

/-- An ordinary post, active or not. An inactive one was deactivated at its last activity. -/
def ForumPost.generateOrdinary (run : Run) (users : List User)
    (categories : List ForumCategory) : Generate ForumPost := do
  let author ← pickAuthor users
  let category ← pickCategory categories
  let createdAt ← postCreation run
  let isActive ← Draw.coin
  let lastActiveAt ← between createdAt run.now
  let content ← plainContent 30
  let deactivatedAt := if isActive then none else some lastActiveAt
  PostDraft.finish run
    ⟨author, category, content, isActive, createdAt, lastActiveAt, deactivatedAt, .none⟩

/-- The given number of ordinary posts. -/
def generateOrdinaryPosts (run : Run) (users : List User) (categories : List ForumCategory)
    (count : Nat) : Generate (List ForumPost) :=
  times count (ForumPost.generateOrdinary run users categories)

/-- A deactivated announcement of a random category. -/
def ForumPost.generateDeactivatedCategory (run : Run) (users : List User)
    (categories : List ForumCategory) : Generate ForumPost := do
  let author ← pickAuthor users
  let category ← pickCategory categories
  let createdAt ← postCreation run
  let deactivatedAt ← between createdAt run.now
  let content ← markdownContent
  PostDraft.finish run
    ⟨author, category, content, false, createdAt, createdAt, some deactivatedAt, .category⟩

/-- An active announcement of a category. -/
def ForumPost.generateActive (run : Run) (users : List User) (announcement : Announcement)
    (category : ForumCategory) : Generate ForumPost := do
  let author ← pickAuthor users
  let createdAt ← postCreation run
  let content ← markdownContent
  PostDraft.finish run
    ⟨author, category, content, true, createdAt, createdAt, none, announcement⟩

/-- One to five active announcements of a category. -/
def generateActivePosts (run : Run) (users : List User) (announcement : Announcement)
    (category : ForumCategory) : Generate (List ForumPost) := do
  let count ← number 1 5
  times count (ForumPost.generateActive run users announcement category)

/-- Announcements of categories: the given number of deactivated ones, then active ones for every
category. -/
def generateCategoryAnnouncements (run : Run) (users : List User)
    (categories : List ForumCategory) (deactivated : Nat) : Generate (List ForumPost) := do
  let closed ← times deactivated (ForumPost.generateDeactivatedCategory run users categories)
  let opened ← concatMap (generateActivePosts run users .category) categories
  return closed ++ opened

/-- How long a deactivated global announcement was active, at most. -/
def announcementLifetime : Nat := 365 * day

/-- A deactivated global announcement. -/
def ForumPost.generateDeactivatedGlobal (run : Run) (users : List User)
    (category : ForumCategory) : Generate ForumPost := do
  let author ← pickAuthor users
  let createdAt ← postCreation run
  let horizon ← Generate.orOverflow (createdAt.after? announcementLifetime)
  let lastActiveAt ← between createdAt horizon
  let content ← markdownContent
  PostDraft.finish run
    ⟨author, category, content, false, createdAt, lastActiveAt, some lastActiveAt, .global⟩

/-- Global announcements: the given number of deactivated ones, then one to five active ones, all
in the first category with the slug for them. -/
def generateGlobalAnnouncements (run : Run) (users : List User)
    (categories : List ForumCategory) (deactivated : Nat) : Generate (List ForumPost) :=
  match categories.find? (·.representativeId == globalAnnouncementSlug) with
  | none => Generate.fail (.missingGlobalCategory globalAnnouncementSlug)
  | some category => do
    let closed ← times deactivated (ForumPost.generateDeactivatedGlobal run users category)
    let opened ← generateActivePosts run users .global category
    return closed ++ opened

def generateForumPosts (run : Run) (users : List User) (categories : List ForumCategory)
    (volumes : PostVolumes) : Generate (List ForumPost) := do
  let ordinary ← generateOrdinaryPosts run users categories volumes.ordinary
  let category ← generateCategoryAnnouncements run users categories volumes.deactivatedCategory
  let global ← generateGlobalAnnouncements run users categories volumes.deactivatedGlobal
  return ordinary ++ category ++ global

end University
