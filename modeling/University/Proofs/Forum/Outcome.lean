import University.Proofs.Forum.Provisional

/-! # How the generation of posts ends

It ends with posts that lie sort by sort, or with the obstacle that is met first. The parents there are
and the numbers asked for decide which one this is. Only identifiers that do not fit into memory come
before it: where there are users and categories, one of them is drawn first.
-/

namespace University

open Chance Time

variable {run : Run} {users : List User} {categories : List ForumCategory} {volumes : PostVolumes}

section Sorted

/-- Nothing is in the way of posts that have all they need, with a category for global announcements and
a year after the reference time. -/
theorem PostsObstacle.not_of_supplies (h : PostSupplies run users categories)
    (hglobal : ∃ c ∈ categories, c.representativeId = globalAnnouncementSlug)
    (hnow : (run.now.after? announcementLifetime).isSome) (e : Halt) :
    ¬PostsObstacle run users categories volumes e := by
  rintro (⟨-, hindered⟩ | ⟨-, none_there⟩)
  · exact h.not_hindered hnow e hindered
  · obtain ⟨c, hc, slug⟩ := hglobal
    exact none_there c hc slug

/-- Posts that are drawn lie sort by sort. -/
theorem generateForumPosts_sorted (run : Run) (users : List User) (categories : List ForumCategory)
    (volumes : PostVolumes) (s : Stream) (posts : List ForumPost)
    (h : ((generateForumPosts run users categories volumes).run s).1 = .ok posts) :
    ∃ sorts : SortedPosts run users categories volumes, sorts.all = posts :=
  (generateForumPosts_sorts run users categories volumes).of_ok h

theorem generateForumPosts_sorted_sample : ∃ posts,
    ((generateForumPosts ⟨.epoch, 1⟩ [.sample] [.sample] ⟨2, 1, 1⟩).run (.ofSeed 30)).1 = .ok posts ∧
      ∃ sorts : SortedPosts ⟨.epoch, 1⟩ [.sample] [.sample] ⟨2, 1, 1⟩, sorts.all = posts := by
  have supplies : PostSupplies ⟨.epoch, 1⟩ [.sample] [.sample] := ⟨by simp, by simp, by decide⟩
  have hglobal : ∃ c ∈ [ForumCategory.sample], c.representativeId = globalAnnouncementSlug :=
    ⟨.sample, by simp, rfl⟩
  have ended := generateForumPosts_sorts ⟨.epoch, 1⟩ [.sample] [.sample] ⟨2, 1, 1⟩
  obtain ⟨posts, drawn, -⟩ | ⟨e, -, obstacle⟩ := ended.of_run (.ofSeed 30)
  · exact ⟨posts, drawn, generateForumPosts_sorted _ _ _ _ _ posts drawn⟩
  · exact absurd obstacle (PostsObstacle.not_of_supplies supplies hglobal (by decide) e)

end Sorted

/-- How the generation of posts ends, as far as parents and volumes decide it. -/
def PostVolumes.verdict (volumes : PostVolumes) (users : List User)
    (categories : List ForumCategory) : Except Halt Unit :=
  if users = [] ∧
      (0 < volumes.ordinary ∨ 0 < volumes.deactivatedCategory ∨ categories ≠ []) then
    .error (.error (.missingParents "forum_posts" "users"))
  else if categories = [] ∧ (0 < volumes.ordinary ∨ 0 < volumes.deactivatedCategory) then
    .error (.error (.missingParents "forum_posts" "forum_categories"))
  else if ∀ c ∈ categories, c.representativeId ≠ globalAnnouncementSlug then
    .error (.error (.missingGlobalCategory globalAnnouncementSlug))
  else
    .ok ()

/-- Posts can be made but for their identifiers, which do not fit into memory. -/
def PostsCrowded (run : Run) (users : List User) (categories : List ForumCategory) : Prop :=
  Generate.memoryLimit < run.idLength ∧ users ≠ [] ∧ categories ≠ []

section Verdict

theorem PostVolumes.verdict_noUsers (husers : users = []) (hdue : volumes.Due categories) :
    volumes.verdict users categories = .error (.error (.missingParents "forum_posts" "users")) :=
  if_pos ⟨husers, hdue⟩

theorem PostVolumes.verdict_noCategories (husers : users ≠ []) (hcategories : categories = [])
    (hdue : volumes.Due categories) : volumes.verdict users categories =
      .error (.error (.missingParents "forum_posts" "forum_categories")) := by
  have due : 0 < volumes.ordinary ∨ 0 < volumes.deactivatedCategory := by
    obtain due | due | some_there := hdue
    · exact .inl due
    · exact .inr due
    · exact absurd hcategories some_there
  rw [verdict, if_neg fun h => husers h.1, if_pos ⟨hcategories, due⟩]

/-- Where everything that is due has been made, the category for global announcements decides. -/
theorem PostVolumes.verdict_supplied
    (h : volumes.Due categories → PostSupplies run users categories) :
    volumes.verdict users categories =
      if ∀ c ∈ categories, c.representativeId ≠ globalAnnouncementSlug then
        .error (.error (.missingGlobalCategory globalAnnouncementSlug))
      else
        .ok () := by
  have no_users : ¬(users = [] ∧ volumes.Due categories) := fun missing =>
    (h missing.2).users_ne_nil missing.1
  have no_categories :
      ¬(categories = [] ∧ (0 < volumes.ordinary ∨ 0 < volumes.deactivatedCategory)) := fun missing =>
    (h (missing.2.imp_right .inl)).categories_ne_nil missing.1
  exact (if_neg no_users).trans (if_neg no_categories)

end Verdict

section Obstacle

variable {e : Halt}

theorem PostsObstacle.eq_overflow (h : PostsObstacle run users categories volumes e)
    (crowded : PostsCrowded run users categories) : e = .overflow := by
  obtain ⟨long, husers, hcategories⟩ := crowded
  cases h with
  | hindered _ hindered =>
      cases hindered with
      | noUsers none_there => exact absurd none_there husers
      | noCategories _ none_there => exact absurd none_there hcategories
      | crowded => rfl
      | late too_late => exact too_late.1
  | noGlobal supplied _ =>
      exact absurd (supplied (.inr (.inr hcategories))).storable (Nat.not_le_of_lt long)

/-- The obstacle that is met first is the one that the verdict names. -/
theorem PostsObstacle.verdict_eq (h : PostsObstacle run users categories volumes e)
    (hnow : (run.now.after? announcementLifetime).isSome)
    (roomy : ¬PostsCrowded run users categories) : volumes.verdict users categories = .error e := by
  cases h with
  | hindered due hindered =>
      cases hindered with
      | noUsers none_there => exact PostVolumes.verdict_noUsers none_there due
      | noCategories husers none_there =>
          exact PostVolumes.verdict_noCategories husers none_there due
      | crowded husers hcategories long => exact absurd ⟨long, husers, hcategories⟩ roomy
      | late too_late => simp [too_late.2] at hnow
  | noGlobal supplied none_there =>
      rw [PostVolumes.verdict_supplied supplied, if_pos none_there]

end Obstacle

/-- How the generation of posts ends, whatever the stream. It succeeds exactly where there are users and
a category for global announcements, and identifiers fit into memory. -/
theorem generateForumPosts_outcome (run : Run) (users : List User) (categories : List ForumCategory)
    (volumes : PostVolumes) (hnow : (run.now.after? announcementLifetime).isSome) (s : Stream) :
    let outcome := ((generateForumPosts run users categories volumes).run s).1
    (PostsCrowded run users categories → outcome = .error .overflow) ∧
      (¬PostsCrowded run users categories →
        outcome.map (fun _ => ()) = volumes.verdict users categories) ∧
      ((∃ posts, outcome = .ok posts) ↔ users ≠ [] ∧
        (∃ c ∈ categories, c.representativeId = globalAnnouncementSlug) ∧
        run.idLength ≤ Generate.memoryLimit) := by
  dsimp only
  obtain ⟨posts, drawn, sorts, -⟩ | ⟨e, stopped, obstacle⟩ :=
    (generateForumPosts_sorts run users categories volumes).of_run s
  · have supplies := sorts.openedGlobal_opened.supplies sorts.global_first.mem
    have hglobal : ∃ c ∈ categories, c.representativeId = globalAnnouncementSlug :=
      ⟨sorts.global, sorts.global_first.mem, sorts.global_first.slug⟩
    have some_there : ¬∀ c ∈ categories, c.representativeId ≠ globalAnnouncementSlug := by
      simpa using hglobal
    rw [drawn]
    refine ⟨?_, ?_, ?_⟩
    · exact fun crowded => absurd supplies.storable (Nat.not_le_of_lt crowded.1)
    · intro _
      rw [PostVolumes.verdict_supplied fun _ => supplies, if_neg some_there]
      rfl
    · exact ⟨fun _ => ⟨supplies.users_ne_nil, hglobal, supplies.storable⟩, fun _ => ⟨posts, rfl⟩⟩
  · rw [stopped]
    refine ⟨?_, ?_, ?_, ?_⟩
    · exact fun crowded => congrArg _ (obstacle.eq_overflow crowded)
    · exact fun roomy => (obstacle.verdict_eq hnow roomy).symm
    · exact nofun
    · rintro ⟨husers, hglobal, storable⟩
      obtain ⟨c, hc, slug⟩ := hglobal
      have supplies : PostSupplies run users categories := ⟨husers, List.ne_nil_of_mem hc, storable⟩
      exact absurd obstacle (PostsObstacle.not_of_supplies supplies ⟨c, hc, slug⟩ hnow e)

theorem generateForumPosts_outcome_sample : (Instant.epoch.after? announcementLifetime).isSome ∧
    (∃ posts, ((generateForumPosts ⟨.epoch, 1⟩ [.sample] [.sample] ⟨2, 1, 1⟩).run (.ofSeed 30)).1 =
      .ok posts) ∧
    ((generateForumPosts ⟨.epoch, 1⟩ [] [.sample] ⟨0, 0, 0⟩).run (.ofSeed 30)).1.map (fun _ => ()) =
      .error (.error (.missingParents "forum_posts" "users")) := by
  have hnow : (Instant.epoch.after? announcementLifetime).isSome := by decide
  have ready := generateForumPosts_outcome ⟨.epoch, 1⟩ [.sample] [.sample] ⟨2, 1, 1⟩ hnow (.ofSeed 30)
  have orphaned := generateForumPosts_outcome ⟨.epoch, 1⟩ [] [.sample] ⟨0, 0, 0⟩ hnow (.ofSeed 30)
  refine ⟨hnow, ready.2.2.mpr ⟨by simp, ⟨.sample, by simp, rfl⟩, by decide⟩, ?_⟩
  rw [orphaned.2.1 fun crowded => crowded.2.1 rfl]
  exact PostVolumes.verdict_noUsers rfl (.inr (.inr (by simp)))

/-- A category for anything but global announcements. -/
def ForumCategory.help : ForumCategory := ⟨"c", "Help", "help", "", "u", "", .epoch⟩

/-- Parents and volumes alone do not decide how the generation of posts ends. -/
theorem not_forall_generateForumPosts_verdict : ¬∀ (run : Run) (users : List User)
    (categories : List ForumCategory) (volumes : PostVolumes) (s : Stream),
    (run.now.after? announcementLifetime).isSome →
    ((generateForumPosts run users categories volumes).run s).1.map (fun _ => ()) =
      volumes.verdict users categories := by
  intro h
  have named := h ⟨.epoch, 9223372036854775808⟩ [.sample] [.help] ⟨0, 0, 0⟩ (.ofSeed 0) (by decide)
  have crowded : PostsCrowded ⟨.epoch, 9223372036854775808⟩ [.sample] [.help] :=
    ⟨by decide, by simp, by simp⟩
  have missing : PostVolumes.verdict ⟨0, 0, 0⟩ [.sample] [.help] =
      .error (.error (.missingGlobalCategory globalAnnouncementSlug)) := by decide
  rw [missing] at named
  obtain ⟨posts, drawn, sorts, -⟩ | ⟨e, stopped, obstacle⟩ :=
    (generateForumPosts_sorts ⟨.epoch, 9223372036854775808⟩ [.sample] [.help] ⟨0, 0, 0⟩).of_run
      (.ofSeed 0)
  · rw [drawn] at named
    cases named
  · rw [stopped, obstacle.eq_overflow crowded] at named
    cases named

end University
