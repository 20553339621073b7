import University.Account.Basic
import University.Fiction.Run
import University.Forum.Basic
import University.Generation
import University.Slug

/-! # Generating forum categories

The forum has six fixed categories, each made by a random administrator.
-/

namespace University

open Chance Fiction

/-- The names and descriptions of the categories. -/
def forumCategories : List (String × String) :=
  [("Help", "Get help from your lovely friends."),
   ("Advertisements", "For anyone looking to sell stuff."),
   ("Uncategorized", "For anything that has not found its place yet."),
   ("Memes", "Meme related content."),
   ("Homeworks", "Section for the hopeless."),
   ("Global Announcements", "University-wide announcements for everyone.")]

/-- The slug of the category that holds global announcements. -/
def globalAnnouncementSlug : String := "global-announcements"

/-- A category with the given name and description. -/
def ForumCategory.generate (run : Run) (admins : List User) (entry : String × String) :
    Generate ForumCategory := do
  let author ← Generate.pickParent "forum_categories" "admin users" admins
  let id ← run.identifier
  let color ← hexColor
  let createdAt ← run.pastYears 10
  return ⟨id, entry.1, slugify entry.1, entry.2, author.id, color, createdAt⟩

def generateForumCategories (run : Run) (users : List User) : Generate (List ForumCategory) :=
  forumCategories.mapM (ForumCategory.generate run (users.filter (·.role == .admin)))

end University
