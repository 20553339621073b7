import University.Proofs.Forum.Sorts

/-! # Posts before their replies

Posts of every sort have an author and a category from the lists given and are made before the
reference time. They stop a run where one of the lists is empty, where no category is for global
announcements, or where an announcement could outlive the supported years.
-/

namespace University

open Chance Time

variable {run : Run} {users : List User} {categories : List ForumCategory}

/-- A post as it is drawn, before its activity is settled. -/
structure ProvisionalPost (run : Run) (users : List User) (categories : List ForumCategory)
    (post : ForumPost) : Prop extends ProvisionalMoments run post where
  author : ∃ u ∈ users, post.userId = u.id
  category : ∃ c ∈ categories, post.categoryId = c.id

/-- So many posts as they are drawn. -/
structure ProvisionalPosts (run : Run) (users : List User) (categories : List ForumCategory)
    (least most : Nat) (posts : List ForumPost) : Prop where
  each : ∀ p ∈ posts, ProvisionalPost run users categories p
  le_length : least ≤ posts.length
  length_le : posts.length ≤ most

namespace ProvisionalPosts

variable {least most least' most' : Nat} {posts posts' : List ForumPost}

theorem append (h : ProvisionalPosts run users categories least most posts)
    (h' : ProvisionalPosts run users categories least' most' posts') :
    ProvisionalPosts run users categories (least + least') (most + most') (posts ++ posts') where
  each p hp := (List.mem_append.mp hp).elim (h.each p) (h'.each p)
  le_length := by
    rw [List.length_append]
    exact Nat.add_le_add h.le_length h'.le_length
  length_le := by
    rw [List.length_append]
    exact Nat.add_le_add h.length_le h'.length_le

/-- Posts for every one of some things. -/
theorem of_blocks {α : Type} {xs : List α}
    (h : Blocks (fun _ => ProvisionalPosts run users categories least most) xs posts) :
    ProvisionalPosts run users categories (xs.length * least) (xs.length * most) posts := by
  induction h with
  | nil => exact ⟨by simp, by simp, by simp⟩
  | cons hx _ ih =>
      rw [List.length_cons, Nat.succ_mul, Nat.succ_mul, Nat.add_comm _ least, Nat.add_comm _ most]
      exact hx.append ih

theorem of_times {count : Nat}
    (h : posts.length = count ∧ ∀ p ∈ posts, ProvisionalPost run users categories p) :
    ProvisionalPosts run users categories count count posts :=
  ⟨h.2, h.1.ge, h.1.le⟩

end ProvisionalPosts

/-- Why posts cannot be generated. -/
inductive PostsStop (run : Run) (users : List User) (categories : List ForumCategory) :
    Halt → Prop where
  | crowded {h : Halt} : run.Crowded h → PostsStop run users categories h
  | noUsers : users = [] →
    PostsStop run users categories (.error (.missingParents "forum_posts" "users"))
  | noCategories : categories = [] →
    PostsStop run users categories (.error (.missingParents "forum_posts" "forum_categories"))
  | noGlobal : (∀ c ∈ categories, c.representativeId ≠ globalAnnouncementSlug) →
    PostsStop run users categories (.error (.missingGlobalCategory globalAnnouncementSlug))
  | late {h : Halt} : run.Late h → PostsStop run users categories h

theorem DrawnPost.provisional {announcement : Announcement} {post : ForumPost}
    {among : List ForumCategory} (h : DrawnPost run users among announcement post)
    (hamong : ∀ c ∈ among, c ∈ categories) : ProvisionalPost run users categories post := by
  obtain ⟨c, hc, named⟩ := h.category
  exact ⟨h.toProvisionalMoments, h.author, c, hamong c hc, named⟩

theorem OpenedPosts.provisional {announcement : Announcement} {category : ForumCategory}
    {posts : List ForumPost} (h : OpenedPosts run users announcement category posts)
    (hcategory : category ∈ categories) : ProvisionalPosts run users categories 1 5 posts where
  each p hp := (h.drawn p hp).provisional (by simpa using hcategory)
  le_length := h.one_le
  length_le := h.le_five

theorem ClosedPosts.provisional {announcement : Announcement} {among : List ForumCategory}
    {count : Nat} {posts : List ForumPost}
    (h : ClosedPosts run users among announcement count posts)
    (hamong : ∀ c ∈ among, c ∈ categories) :
    ProvisionalPosts run users categories count count posts :=
  .of_times ⟨h.length_eq, fun p hp => (h.drawn p hp).provisional hamong⟩

/-- The number of posts beside the active announcements. -/
def PostVolumes.total (v : PostVolumes) : Nat :=
  v.ordinary + v.deactivatedCategory + v.deactivatedGlobal

/-- Every category has one to five active announcements, and so has the forum as a whole. -/
theorem SortedPosts.provisional {volumes : PostVolumes}
    (sorts : SortedPosts run users categories volumes) :
    ProvisionalPosts run users categories (volumes.total + (categories.length + 1))
      (volumes.total + 5 * (categories.length + 1)) sorts.all := by
  have ordinary : ProvisionalPosts run users categories volumes.ordinary volumes.ordinary
      sorts.ordinary :=
    .of_times ⟨sorts.length_ordinary, fun p hp => (sorts.ordinary_drawn p hp).provisional fun _ => id⟩
  have closedCategory := sorts.closedCategory_closed.provisional fun _ => id
  have openedCategory := ProvisionalPosts.of_blocks <|
    sorts.openedCategory_opened.imp fun _ hcategory _ opened => opened.provisional hcategory
  have hglobal := sorts.global_first.mem
  have closedGlobal := sorts.closedGlobal_closed.provisional (by simpa using hglobal)
  have openedGlobal := sorts.openedGlobal_opened.provisional hglobal
  have all := (ordinary.append (closedCategory.append openedCategory)).append
    (closedGlobal.append openedGlobal)
  refine ⟨all.each, ?_, ?_⟩
  · refine Nat.le_trans (Nat.le_of_eq ?_) all.le_length
    unfold PostVolumes.total
    omega
  · refine Nat.le_trans all.length_le (Nat.le_of_eq ?_)
    unfold PostVolumes.total
    omega

theorem PostHindered.stop {h : Halt} (hindered : PostHindered run users categories h) :
    PostsStop run users categories h := by
  cases hindered with
  | noUsers none_there => exact .noUsers none_there
  | noCategories _ none_there => exact .noCategories none_there
  | crowded _ _ long => exact .crowded ⟨rfl, by rwa [Nat.one_mul]⟩
  | late too_late => exact .late too_late

theorem generateForumPosts_ends (run : Run) (users : List User) (categories : List ForumCategory)
    (volumes : PostVolumes) :
    (generateForumPosts run users categories volumes).Ends
      (ProvisionalPosts run users categories (volumes.total + (categories.length + 1))
        (volumes.total + 5 * (categories.length + 1)))
      (PostsStop run users categories) := by
  apply (generateForumPosts_sorts run users categories volumes).mono
  · rintro _ ⟨sorts, rfl⟩
    exact sorts.provisional
  · rintro h (⟨-, hindered⟩ | ⟨-, none_global⟩)
    · exact hindered.stop
    · exact .noGlobal none_global

end University
