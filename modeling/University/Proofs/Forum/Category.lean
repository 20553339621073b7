import University.Forum.Category
import University.Proofs.Fiction.Run

/-! # Forum categories

All six categories are made by administrators, and one of them has the slug that global announcements
look for.
-/

namespace University

open Generate (Ends)

/-- A category with a given name, made by one of the administrators. -/
structure CategoryOf (run : Run) (admins : List User) (entry : String × String)
    (category : ForumCategory) : Prop where
  representativeId_eq : category.representativeId = slugify entry.1
  author : ∃ u ∈ admins, category.userId = u.id
  created_le : category.createdAt ≤ run.now

theorem ForumCategory.generate_ends (run : Run) (admins : List User) (entry : String × String) :
    (ForumCategory.generate run admins entry).Ends (CategoryOf run admins entry)
      (fun h => Generate.Orphaned "forum_categories" "admin users" admins h ∨ run.Crowded h) := by
  apply (Generate.pickParent_ends fun none_there => .inl ⟨rfl, none_there⟩).bind
  intro author hauthor
  apply (run.identifier_ends.weaken fun _ => .inr).bind
  intro id _
  apply Ends.skip
  intro color
  apply (run.pastYears_le 10).bind
  intro createdAt hcreated
  exact .pure ⟨rfl, ⟨author, hauthor, rfl⟩, hcreated⟩

/-- The administrators among the users. -/
def administrators (users : List User) : List User := users.filter (·.role == .admin)

theorem generateForumCategories_ends (run : Run) (users : List User) :
    (generateForumCategories run users).Ends
      (List.Forall₂ (CategoryOf run (administrators users)) forumCategories)
      (fun h => Generate.Orphaned "forum_categories" "admin users" (administrators users) h ∨
        run.Crowded h) :=
  .mapM forumCategories fun entry _ => ForumCategory.generate_ends run _ entry

theorem slugify_globalAnnouncements : slugify "Global Announcements" = globalAnnouncementSlug := by
  decide

/-- The category of global announcements is always there. -/
theorem exists_globalCategory {run : Run} {admins : List User} {categories : List ForumCategory}
    (h : List.Forall₂ (CategoryOf run admins) forumCategories categories) :
    ∃ c ∈ categories, c.representativeId = globalAnnouncementSlug := by
  have last : ("Global Announcements", "University-wide announcements for everyone.") ∈
      forumCategories := by simp [forumCategories]
  obtain ⟨c, hc, made⟩ := exists_of_forall₂ h.flip last
  exact ⟨c, hc, made.representativeId_eq.trans slugify_globalAnnouncements⟩

end University
