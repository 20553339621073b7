import University.Forum.Post
import University.Proofs.Fiction.Run

/-! # The sorts of posts

Ordinary posts come first, then announcements of categories, then global announcements; of these the
ones that are not active any more come before the active ones. A post of any sort needs an author, a
category and an identifier that fits into memory, in this order; a run stops at what is missing first.
-/

namespace University

open Generate (Ends)
open Chance Fiction Time

section Drawn

/-- A global announcement that is not active any more. -/
def ForumPost.IsClosedGlobal (post : ForumPost) : Prop :=
  post.isGlobalAnnouncement = true ∧ post.isActive = false

/-- The moments of a post as it is drawn. A deactivated global announcement is active for up to a year,
which may lie partly beyond the reference time. All other moments lie before it, unless it is in a leap
second that is lost. -/
structure ProvisionalMoments (run : Run) (post : ForumPost) : Prop where
  created_le : post.createdAt ≤ run.now
  not_isLeap : ¬run.now.IsLeap → ¬post.createdAt.IsLeap
  le_lastActive : post.createdAt ≤ post.lastActiveAt
  isSome_deactivated : post.deactivatedAt.isSome ↔ post.isActive = false
  le_deactivated : ∀ stop ∈ post.deactivatedAt, post.lastActiveAt ≤ stop
  timely : ¬post.IsClosedGlobal → ¬Instant.LeapLost post.createdAt run.now →
    post.lastActiveAt ≤ run.now ∧ ∀ stop ∈ post.deactivatedAt, stop ≤ run.now
  lifetime : post.IsClosedGlobal → post.deactivatedAt = some post.lastActiveAt ∧
    ∃ horizon, post.createdAt.after? announcementLifetime = some horizon ∧
      post.lastActiveAt ≤ horizon

/-- A post of one sort as it is drawn. -/
structure DrawnPost (run : Run) (users : List User) (categories : List ForumCategory)
    (announcement : Announcement) (post : ForumPost) : Prop extends ProvisionalMoments run post where
  author : ∃ u ∈ users, post.userId = u.id
  category : ∃ c ∈ categories, post.categoryId = c.id
  isCategoryAnnouncement_iff : post.isCategoryAnnouncement = true ↔ announcement = .category
  isGlobalAnnouncement_iff : post.isGlobalAnnouncement = true ↔ announcement = .global
  storable : run.idLength ≤ Generate.memoryLimit

theorem announcementLifetime_eq : announcementLifetime = 31536000 * second := rfl

/-- The supported years end less than a year after the reference time. -/
def Run.Late (run : Run) (h : Halt) : Prop :=
  h = .overflow ∧ run.now.after? announcementLifetime = none

theorem Run.late_of_lt {run : Run} (h : lastSecond < run.now.seconds + 31536000) : run.Late .overflow := by
  rw [Late, announcementLifetime_eq, Instant.after?_eq_none_iff (by decide)]
  exact ⟨rfl, h⟩

theorem Run.late_of_beyond {run : Run} {h : Halt} (hbeyond : Beyond run.now h) : run.Late h := by
  obtain ⟨rfl, last⟩ := hbeyond
  exact Run.late_of_lt (by omega)

/-- What every post needs. -/
structure PostSupplies (run : Run) (users : List User) (categories : List ForumCategory) : Prop where
  users_ne_nil : users ≠ []
  categories_ne_nil : categories ≠ []
  storable : run.idLength ≤ Generate.memoryLimit

/-- What a post is missing first. A deactivated global announcement may also outlive the supported
years. -/
inductive PostHindered (run : Run) (users : List User) (categories : List ForumCategory) :
    Halt → Prop where
  | noUsers : users = [] →
    PostHindered run users categories (.error (.missingParents "forum_posts" "users"))
  | noCategories : users ≠ [] → categories = [] →
    PostHindered run users categories (.error (.missingParents "forum_posts" "forum_categories"))
  | crowded : users ≠ [] → categories ≠ [] → Generate.memoryLimit < run.idLength →
    PostHindered run users categories .overflow
  | late {h : Halt} : run.Late h → PostHindered run users categories h

variable {run : Run} {users : List User} {categories : List ForumCategory} {category : ForumCategory}
  {announcement : Announcement}

theorem DrawnPost.users_ne_nil {post : ForumPost}
    (h : DrawnPost run users categories announcement post) : users ≠ [] := by
  obtain ⟨u, hu, -⟩ := h.author
  exact List.ne_nil_of_mem hu

theorem DrawnPost.supplies {post : ForumPost}
    (h : DrawnPost run users categories announcement post) : PostSupplies run users categories := by
  obtain ⟨c, hc, -⟩ := h.category
  exact ⟨h.users_ne_nil, List.ne_nil_of_mem hc, h.storable⟩

/-- What hinders a post in one of the categories. -/
theorem PostHindered.of_mem (hcategory : category ∈ categories) {h : Halt}
    (hindered : PostHindered run users [category] h) : PostHindered run users categories h := by
  cases hindered with
  | noUsers none_there => exact .noUsers none_there
  | noCategories _ impossible => cases impossible
  | crowded husers _ long => exact .crowded husers (List.ne_nil_of_mem hcategory) long
  | late too_late => exact .late too_late

/-- Nothing hinders a post that has all it needs, a year before the end of the supported years. -/
theorem PostSupplies.not_hindered (h : PostSupplies run users categories)
    (hnow : (run.now.after? announcementLifetime).isSome) (e : Halt) :
    ¬PostHindered run users categories e := by
  rintro (none_there | ⟨-, none_there⟩ | ⟨-, -, long⟩ | too_late)
  · exact h.users_ne_nil none_there
  · exact h.categories_ne_nil none_there
  · exact Nat.not_lt.mpr h.storable long
  · simp [too_late.2] at hnow

theorem PostDraft.finish_drawn {d : PostDraft} (hauthor : d.author ∈ users)
    (hcategory : d.category ∈ categories)
    (moments : ∀ id name, ProvisionalMoments run (d.post id name)) :
    (PostDraft.finish run d).Ends
      (fun p => DrawnPost run users categories d.announcement p ∧ p.isActive = d.isActive)
      (PostHindered run users categories) := by
  have identified : run.identifier.Ends (fun _ => run.idLength ≤ Generate.memoryLimit)
      (PostHindered run users categories) := by
    apply run.identifier_storable.weaken
    rintro e ⟨rfl, long⟩
    exact .crowded (List.ne_nil_of_mem hauthor) (List.ne_nil_of_mem hcategory) long
  apply identified.bind
  intro id storable
  apply Ends.skip
  intro name
  exact .pure ⟨⟨moments id name, ⟨d.author, hauthor, rfl⟩, ⟨d.category, hcategory, rfl⟩, beq_iff_eq,
    beq_iff_eq, storable⟩, rfl⟩

theorem pickAuthor_mem (run : Run) (users : List User) (categories : List ForumCategory) :
    (pickAuthor users).Ends (· ∈ users) (PostHindered run users categories) :=
  Generate.pickParent_ends .noUsers

theorem pickCategory_mem (run : Run) (husers : users ≠ []) (categories : List ForumCategory) :
    (pickCategory categories).Ends (· ∈ categories) (PostHindered run users categories) :=
  Generate.pickParent_ends fun none_there => .noCategories husers none_there

theorem postCreation_ends (run : Run) {Q : Halt → Prop} :
    (postCreation run).Ends (fun t => t ≤ run.now ∧ (¬run.now.IsLeap → ¬t.IsLeap)) Q :=
  run.pastYears_ends 8

theorem between_now_ends (run : Run) (users : List User) (categories : List ForumCategory)
    (start : Instant) :
    (between start run.now).Ends (Drawn start run.now) (PostHindered run users categories) :=
  (between_ends start run.now).weaken fun _ stopped => .late (Run.late_of_beyond stopped.2)

theorem ForumPost.generateOrdinary_drawn (run : Run) (users : List User)
    (categories : List ForumCategory) :
    (ForumPost.generateOrdinary run users categories).Ends (DrawnPost run users categories .none)
      (PostHindered run users categories) := by
  apply (pickAuthor_mem run users categories).bind
  intro author hauthor
  apply (pickCategory_mem run (List.ne_nil_of_mem hauthor) categories).bind
  intro category hcategory
  apply (postCreation_ends run).bind
  rintro createdAt ⟨hcreated, not_isLeap⟩
  apply Ends.skip
  intro isActive
  apply (between_now_ends run users categories createdAt).bind
  intro lastActiveAt hactive
  apply Ends.skip
  intro content
  apply (PostDraft.finish_drawn hauthor hcategory _).imp fun _ => And.left
  intro id name
  refine ⟨hcreated, not_isLeap, hactive.start_le, ?_, ?_, fun _ kept => ?_, ?_⟩
  · cases isActive <;> simp [PostDraft.post]
  · cases isActive <;> simp [PostDraft.post]
  · have timely := hactive.le_stop kept hcreated
    refine ⟨timely, ?_⟩
    cases isActive with
    | true => simp [PostDraft.post]
    | false => simpa [PostDraft.post] using timely
  · rintro ⟨⟨⟩, -⟩

theorem ForumPost.generateDeactivatedCategory_drawn (run : Run) (users : List User)
    (categories : List ForumCategory) :
    (ForumPost.generateDeactivatedCategory run users categories).Ends
      (fun p => DrawnPost run users categories .category p ∧ p.isActive = false)
      (PostHindered run users categories) := by
  apply (pickAuthor_mem run users categories).bind
  intro author hauthor
  apply (pickCategory_mem run (List.ne_nil_of_mem hauthor) categories).bind
  intro category hcategory
  apply (postCreation_ends run).bind
  rintro createdAt ⟨hcreated, not_isLeap⟩
  apply (between_now_ends run users categories createdAt).bind
  intro deactivatedAt hdeactivated
  apply Ends.skip
  intro content
  apply PostDraft.finish_drawn hauthor hcategory
  intro id name
  refine ⟨hcreated, not_isLeap, le_rfl, by simp [PostDraft.post], ?_, fun _ kept => ?_, ?_⟩
  · rintro stop ⟨⟩
    exact hdeactivated.start_le
  · refine ⟨hcreated, ?_⟩
    rintro stop ⟨⟩
    exact hdeactivated.le_stop kept hcreated
  · rintro ⟨⟨⟩, -⟩

theorem ForumPost.generateActive_drawn (run : Run) (users : List User) (announcement : Announcement)
    (category : ForumCategory) :
    (ForumPost.generateActive run users announcement category).Ends
      (fun p => DrawnPost run users [category] announcement p ∧ p.isActive = true)
      (PostHindered run users [category]) := by
  apply (pickAuthor_mem run users [category]).bind
  intro author hauthor
  apply (postCreation_ends run).bind
  rintro createdAt ⟨hcreated, not_isLeap⟩
  apply Ends.skip
  intro content
  apply PostDraft.finish_drawn hauthor (List.mem_singleton_self category)
  intro id name
  refine ⟨hcreated, not_isLeap, le_rfl, by simp [PostDraft.post], by simp [PostDraft.post],
    fun _ _ => ⟨hcreated, by simp [PostDraft.post]⟩, ?_⟩
  rintro ⟨-, ⟨⟩⟩

theorem ForumPost.generateDeactivatedGlobal_drawn (run : Run) (users : List User)
    (category : ForumCategory) :
    (ForumPost.generateDeactivatedGlobal run users category).Ends
      (fun p => DrawnPost run users [category] .global p ∧ p.isActive = false)
      (PostHindered run users [category]) := by
  apply (pickAuthor_mem run users [category]).bind
  intro author hauthor
  apply (postCreation_ends run).bind
  rintro createdAt ⟨hcreated, not_isLeap⟩
  have reached : (Generate.orOverflow (createdAt.after? announcementLifetime)).Ends
      (createdAt.after? announcementLifetime = some ·) (PostHindered run users [category]) :=
    Generate.orOverflow_ends (fun _ h => h) fun none_there => by
      have close := Instant.seconds_mono hcreated
      rw [announcementLifetime_eq, Instant.after?_eq_none_iff (by decide)] at none_there
      exact .late (Run.late_of_lt (by omega))
  apply reached.bind
  intro horizon hhorizon
  obtain ⟨-, -, no_leap⟩ := Instant.of_after?_seconds (by decide) (announcementLifetime_eq ▸ hhorizon)
  apply (between_ordered (Instant.not_leapLost no_leap) (Instant.le_of_after? hhorizon)).bind
  intro lastActiveAt hactive
  apply Ends.skip
  intro content
  apply PostDraft.finish_drawn hauthor (List.mem_singleton_self category)
  intro id name
  refine ⟨hcreated, not_isLeap, hactive.1, by simp [PostDraft.post], ?_, ?_, ?_⟩
  · rintro stop ⟨⟩
    exact le_rfl
  · exact fun isOpen => absurd ⟨rfl, rfl⟩ isOpen
  · exact fun _ => ⟨rfl, horizon, hhorizon, hactive.2⟩

end Drawn

section Groups

/-- So many posts of one sort that are not active any more. -/
structure ClosedPosts (run : Run) (users : List User) (categories : List ForumCategory)
    (announcement : Announcement) (count : Nat) (posts : List ForumPost) : Prop where
  length_eq : posts.length = count
  drawn : ∀ p ∈ posts, DrawnPost run users categories announcement p
  inactive : ∀ p ∈ posts, p.isActive = false

/-- The active announcements of one category. -/
structure OpenedPosts (run : Run) (users : List User) (announcement : Announcement)
    (category : ForumCategory) (posts : List ForumPost) : Prop where
  one_le : 1 ≤ posts.length
  le_five : posts.length ≤ 5
  drawn : ∀ p ∈ posts, DrawnPost run users [category] announcement p
  active : ∀ p ∈ posts, p.isActive = true

/-- The first category for global announcements. -/
def FirstGlobal (categories : List ForumCategory) (category : ForumCategory) : Prop :=
  ∃ before after, categories = before ++ category :: after ∧
    category.representativeId = globalAnnouncementSlug ∧
    ∀ c ∈ before, c.representativeId ≠ globalAnnouncementSlug

variable {run : Run} {users : List User} {categories : List ForumCategory} {category : ForumCategory}
  {announcement : Announcement} {count : Nat} {posts : List ForumPost}

theorem ClosedPosts.of_times (h : posts.length = count ∧
    ∀ p ∈ posts, DrawnPost run users categories announcement p ∧ p.isActive = false) :
    ClosedPosts run users categories announcement count posts :=
  ⟨h.1, fun p hp => (h.2 p hp).1, fun p hp => (h.2 p hp).2⟩

theorem ClosedPosts.supplies (h : ClosedPosts run users categories announcement count posts)
    (hcount : 0 < count) : PostSupplies run users categories := by
  obtain ⟨p, hp⟩ := List.exists_mem_of_length_pos (h.length_eq.symm ▸ hcount)
  exact (h.drawn p hp).supplies

theorem OpenedPosts.supplies (h : OpenedPosts run users announcement category posts)
    (hcategory : category ∈ categories) : PostSupplies run users categories := by
  obtain ⟨p, hp⟩ := List.exists_mem_of_length_pos h.one_le
  have drawn := h.drawn p hp
  exact ⟨drawn.users_ne_nil, List.ne_nil_of_mem hcategory, drawn.storable⟩

theorem FirstGlobal.mem (h : FirstGlobal categories category) : category ∈ categories := by
  obtain ⟨before, after, rfl, -, -⟩ := h
  simp

theorem FirstGlobal.slug (h : FirstGlobal categories category) :
    category.representativeId = globalAnnouncementSlug := by
  obtain ⟨_, _, -, slug, -⟩ := h
  exact slug

theorem ne_slug_of_find?_eq_none
    (h : categories.find? (·.representativeId == globalAnnouncementSlug) = none) :
    ∀ c ∈ categories, c.representativeId ≠ globalAnnouncementSlug := by
  intro c hc
  simpa using List.find?_eq_none.mp h c hc

theorem FirstGlobal.of_find?
    (h : categories.find? (·.representativeId == globalAnnouncementSlug) = some category) :
    FirstGlobal categories category := by
  obtain ⟨slug, before, after, split, earlier⟩ := List.find?_eq_some_iff_append.mp h
  exact ⟨before, after, split, beq_iff_eq.mp slug, fun c hc => by simpa using earlier c hc⟩

theorem generateActivePosts_opened (run : Run) (users : List User) (announcement : Announcement)
    (category : ForumCategory) :
    (generateActivePosts run users announcement category).Ends
      (OpenedPosts run users announcement category) (PostHindered run users [category]) := by
  apply (Ends.lift (number_mem (by decide : 1 ≤ 5))).bind
  intro count hcount
  apply ((ForumPost.generateActive_drawn run users announcement category).times count).imp
  rintro posts ⟨rfl, each⟩
  exact ⟨hcount.1, hcount.2, fun p hp => (each p hp).1, fun p hp => (each p hp).2⟩

/-- Announcements of categories stop a run only where there are any to be made. -/
theorem generateCategoryAnnouncements_sorts {deactivated : Nat} {Q : Halt → Prop}
    (hQ : 0 < deactivated ∨ categories ≠ [] → ∀ h, PostHindered run users categories h → Q h) :
    (generateCategoryAnnouncements run users categories deactivated).Ends
      (fun posts => ∃ closed opened, posts = closed ++ opened ∧
        ClosedPosts run users categories .category deactivated closed ∧
        Blocks (OpenedPosts run users .category) categories opened) Q := by
  have closing := ForumPost.generateDeactivatedCategory_drawn run users categories
  apply (Ends.times_of_pos deactivated fun due => closing.weaken (hQ (.inl due))).bind
  intro closed hclosed
  have opening : ∀ category ∈ categories,
      (generateActivePosts run users .category category).Ends (OpenedPosts run users .category category)
        Q := by
    intro category hcategory
    apply (generateActivePosts_opened run users .category category).weaken
    exact fun h hindered => hQ (.inr (List.ne_nil_of_mem hcategory)) h (hindered.of_mem hcategory)
  apply (Ends.concatMap categories opening).bind
  intro opened hopened
  exact .pure ⟨closed, opened, rfl, .of_times hclosed, hopened⟩

theorem generateGlobalAnnouncements_sorts {deactivated : Nat} {Q : Halt → Prop}
    (hQ : categories ≠ [] → ∀ h, PostHindered run users categories h → Q h)
    (hmissing : (∀ c ∈ categories, c.representativeId ≠ globalAnnouncementSlug) →
      Q (.error (.missingGlobalCategory globalAnnouncementSlug))) :
    (generateGlobalAnnouncements run users categories deactivated).Ends
      (fun posts => ∃ category closed opened, posts = closed ++ opened ∧
        FirstGlobal categories category ∧
        ClosedPosts run users [category] .global deactivated closed ∧
        OpenedPosts run users .global category opened) Q := by
  unfold generateGlobalAnnouncements
  cases found : categories.find? (·.representativeId == globalAnnouncementSlug) with
  | none => exact .fail (hmissing (ne_slug_of_find?_eq_none found))
  | some category =>
      have first := FirstGlobal.of_find? found
      have hindrance : ∀ h, PostHindered run users [category] h → Q h := fun h hindered =>
        hQ (List.ne_nil_of_mem first.mem) h (hindered.of_mem first.mem)
      have closing := (ForumPost.generateDeactivatedGlobal_drawn run users category).weaken hindrance
      apply (closing.times deactivated).bind
      intro closed hclosed
      apply ((generateActivePosts_opened run users .global category).weaken hindrance).bind
      intro opened hopened
      exact .pure ⟨category, closed, opened, rfl, first, .of_times hclosed, hopened⟩

end Groups

section Posts

/-- The posts of a forum, sort by sort. -/
structure SortedPosts (run : Run) (users : List User) (categories : List ForumCategory)
    (volumes : PostVolumes) where
  ordinary : List ForumPost
  closedCategory : List ForumPost
  openedCategory : List ForumPost
  closedGlobal : List ForumPost
  openedGlobal : List ForumPost
  /-- The category of the global announcements. -/
  global : ForumCategory
  length_ordinary : ordinary.length = volumes.ordinary
  ordinary_drawn : ∀ p ∈ ordinary, DrawnPost run users categories .none p
  closedCategory_closed :
    ClosedPosts run users categories .category volumes.deactivatedCategory closedCategory
  openedCategory_opened : Blocks (OpenedPosts run users .category) categories openedCategory
  global_first : FirstGlobal categories global
  closedGlobal_closed : ClosedPosts run users [global] .global volumes.deactivatedGlobal closedGlobal
  openedGlobal_opened : OpenedPosts run users .global global openedGlobal

variable {run : Run} {users : List User} {categories : List ForumCategory} {volumes : PostVolumes}

/-- All posts in the order of their sorts. -/
def SortedPosts.all (sorts : SortedPosts run users categories volumes) : List ForumPost :=
  sorts.ordinary ++ (sorts.closedCategory ++ sorts.openedCategory) ++
    (sorts.closedGlobal ++ sorts.openedGlobal)

/-- Some posts are to be made before the category of global announcements is looked for. -/
def PostVolumes.Due (volumes : PostVolumes) (categories : List ForumCategory) : Prop :=
  0 < volumes.ordinary ∨ 0 < volumes.deactivatedCategory ∨ categories ≠ []

/-- The obstacle that is met first. -/
inductive PostsObstacle (run : Run) (users : List User) (categories : List ForumCategory)
    (volumes : PostVolumes) : Halt → Prop where
  | hindered {h : Halt} : volumes.Due categories → PostHindered run users categories h →
    PostsObstacle run users categories volumes h
  | noGlobal : (volumes.Due categories → PostSupplies run users categories) →
    (∀ c ∈ categories, c.representativeId ≠ globalAnnouncementSlug) →
    PostsObstacle run users categories volumes
      (.error (.missingGlobalCategory globalAnnouncementSlug))

theorem generateForumPosts_sorts (run : Run) (users : List User) (categories : List ForumCategory)
    (volumes : PostVolumes) :
    (generateForumPosts run users categories volumes).Ends
      (fun posts => ∃ sorts : SortedPosts run users categories volumes, sorts.all = posts)
      (PostsObstacle run users categories volumes) := by
  have each := ForumPost.generateOrdinary_drawn run users categories
  apply (Ends.times_of_pos volumes.ordinary fun due => each.weaken fun _ => .hindered (.inl due)).bind
  rintro ordinary ⟨length_ordinary, drawn⟩
  apply (generateCategoryAnnouncements_sorts fun due _ => .hindered (.inr due)).bind
  rintro _ ⟨closedCategory, openedCategory, rfl, hclosed, hopened⟩
  -- Whatever was due up to here has been made, so nothing that it needs is missing.
  have supplied : volumes.Due categories → PostSupplies run users categories := by
    rintro (some_ordinary | some_closed | some_there)
    · obtain ⟨p, hp⟩ := List.exists_mem_of_length_pos (length_ordinary.symm ▸ some_ordinary)
      exact (drawn p hp).supplies
    · exact hclosed.supplies some_closed
    · obtain ⟨category, hcategory⟩ := List.exists_mem_of_ne_nil categories some_there
      obtain ⟨block, opened, -⟩ := hopened.exists_block hcategory
      exact opened.supplies hcategory
  apply (generateGlobalAnnouncements_sorts (fun some_there _ => .hindered (.inr (.inr some_there)))
    (.noGlobal supplied)).bind
  rintro _ ⟨global, closedGlobal, openedGlobal, rfl, first, hclosedGlobal, hopenedGlobal⟩
  exact .pure ⟨⟨ordinary, closedCategory, openedCategory, closedGlobal, openedGlobal, global,
    length_ordinary, drawn, hclosed, hopened, first, hclosedGlobal, hopenedGlobal⟩, rfl⟩

end Posts

end University
