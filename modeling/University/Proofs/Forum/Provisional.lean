import University.Proofs.Forum.Post

/-! # The moments of posts before their replies

A deactivated global announcement is active for up to a year, which may lie partly beyond the reference
time. All other moments of posts as they are drawn lie before it, unless it is in a leap second.
-/

namespace University

open Chance Fiction Time

variable {run : Run} {users : List User} {categories : List ForumCategory}

theorem PostsStop.crowded_of {h : Halt} (hstop : PostsStop run users categories h)
    (husers : users ≠ []) (hglobal : ∃ c ∈ categories, c.representativeId = globalAnnouncementSlug)
    (hnow : (run.now.after? announcementLifetime).isSome) : run.Crowded h := by
  obtain ⟨c, hc, slug⟩ := hglobal
  cases hstop with
  | crowded hcrowded => exact hcrowded
  | noUsers hnone => exact absurd hnone husers
  | noCategories hnone => exact absurd hnone (List.ne_nil_of_mem hc)
  | noGlobal hnone => exact absurd slug (hnone c hc)
  | late hlate => simp [hlate.2] at hnow

/-- Users, a category for global announcements and a year after the reference time are all that posts
need. None of their moments lies beyond the reference time, but for the end of the lifetime of a
deactivated global announcement and for what a lost leap second at the reference time adds. -/
theorem generateForumPosts_moments (run : Run) (husers : users ≠ [])
    (hglobal : ∃ c ∈ categories, c.representativeId = globalAnnouncementSlug)
    (hnow : (run.now.after? announcementLifetime).isSome) (volumes : PostVolumes) :
    (generateForumPosts run users categories volumes).Ends
      (fun posts => ∀ p ∈ posts, ProvisionalMoments run p) run.Crowded := by
  apply (generateForumPosts_ends run users categories volumes).mono
  · exact fun _ drawn p hp => (drawn.each p hp).toProvisionalMoments
  · exact fun _ hstop => hstop.crowded_of husers hglobal hnow

def User.sample : User := ⟨"u", "u", "u", "", .admin, .epoch⟩

def ForumCategory.sample : ForumCategory :=
  ⟨"c", "Global Announcements", globalAnnouncementSlug, "", "u", "", .epoch⟩

theorem generateForumPosts_moments_sample : [User.sample] ≠ [] ∧
    (∃ c ∈ [ForumCategory.sample], c.representativeId = globalAnnouncementSlug) ∧
    (Instant.epoch.after? announcementLifetime).isSome ∧
    ∃ posts, ((generateForumPosts ⟨.epoch, 1⟩ [.sample] [.sample] ⟨2, 1, 1⟩).run (.ofSeed 30)).1 =
      .ok posts ∧ ∀ p ∈ posts, ProvisionalMoments ⟨.epoch, 1⟩ p := by
  have husers : [User.sample] ≠ [] := by simp
  have hglobal : ∃ c ∈ [ForumCategory.sample], c.representativeId = globalAnnouncementSlug :=
    ⟨.sample, by simp, rfl⟩
  have hnow : (Instant.epoch.after? announcementLifetime).isSome := by decide
  have ended := generateForumPosts_moments ⟨.epoch, 1⟩ husers hglobal hnow ⟨2, 1, 1⟩
  refine ⟨husers, hglobal, hnow, ?_⟩
  obtain ⟨posts, drawn, moments⟩ | ⟨_, -, -, crowded⟩ := ended.of_run (.ofSeed 30)
  · exact ⟨posts, drawn, moments⟩
  · exact absurd crowded (by decide)

/-- Some of the posts are active beyond the reference time. -/
def lateActivity (run : Run) : Except Halt (List ForumPost) → Bool
  | .ok posts => posts.any fun p => run.now < p.lastActiveAt
  | .error _ => false

theorem exists_of_lateActivity {run : Run} {outcome : Except Halt (List ForumPost)}
    (h : lateActivity run outcome = true) :
    ∃ posts, outcome = .ok posts ∧ ∃ p ∈ posts, run.now < p.lastActiveAt := by
  cases outcome with
  | ok posts =>
      simp only [lateActivity, List.any_eq_true, decide_eq_true_eq] at h
      exact ⟨posts, rfl, h⟩
  | error e => cases h

/-- Posts as they are drawn can have moments beyond the reference time. -/
theorem not_forall_generateForumPosts_timely : ¬∀ (run : Run) (users : List User)
    (categories : List ForumCategory) (volumes : PostVolumes) (s : Stream) (posts : List ForumPost),
    users ≠ [] → (∃ c ∈ categories, c.representativeId = globalAnnouncementSlug) →
    (run.now.after? announcementLifetime).isSome →
    ((generateForumPosts run users categories volumes).run s).1 = .ok posts →
    ∀ p ∈ posts, p.createdAt ≤ run.now ∧ p.lastActiveAt ≤ run.now ∧
      (p.isActive = false → ∀ stop ∈ p.deactivatedAt, stop ≤ run.now) := by
  intro h
  have found : lateActivity ⟨.epoch, 1⟩
      ((generateForumPosts ⟨.epoch, 1⟩ [.sample] [.sample] ⟨0, 0, 1⟩).run (.ofSeed 30)).1 = true := by
    decide +kernel
  obtain ⟨posts, drawn, p, hp, late⟩ := exists_of_lateActivity found
  have timely := h _ _ _ _ _ posts (by simp) ⟨.sample, by simp, rfl⟩ (by decide) drawn p hp
  exact absurd timely.2.1 (not_le_of_gt late)

end University
