import Mathlib.Data.List.Induction
import University.Forum.Reply
import University.Proofs.Forum.Sorts

/-! # Replies and the activity of posts

Replies follow their post. The activity of a post is settled by the latest of its replies, and an
inactive post is deactivated within a day of it, but not after the reference time.
-/

namespace University

open Generate (Ends)
open Chance Fiction Time

section Replies

variable {run : Run} {users : List User} {post : ForumPost}

/-- A reply of a user to a post. -/
structure ReplyTo (run : Run) (post : ForumPost) (author : User) (reply : ForumPostReply) : Prop where
  post_eq : reply.postId = post.id
  author_eq : reply.userId = author.id
  created : Drawn post.createdAt run.now reply.createdAt

/-- The replies that a post gets. -/
def RepliesOf (run : Run) (users : List User) (post : ForumPost)
    (block : List ForumPostReply) : Prop :=
  ∃ authors, Sampled users 2 10 authors ∧ List.Forall₂ (ReplyTo run post) authors block

theorem RepliesOf.exists_author {block : List ForumPostReply} (h : RepliesOf run users post block)
    {reply : ForumPostReply} (hreply : reply ∈ block) :
    ∃ u ∈ users, ReplyTo run post u reply := by
  obtain ⟨authors, sampled, replies⟩ := h
  obtain ⟨author, hauthor, made⟩ := exists_of_forall₂ replies hreply
  exact ⟨author, sampled.mem hauthor, made⟩

/-- Why replies cannot be generated. -/
def RepliesStop (run : Run) (h : Halt) : Prop := run.Crowded h ∨ run.Late h

theorem ForumPostReply.generate_ends (run : Run) (post : ForumPost) (author : User) :
    (ForumPostReply.generate run post author).Ends (ReplyTo run post author) (RepliesStop run) := by
  apply ((between_ends post.createdAt run.now).weaken fun _ stopped =>
    .inr (Run.late_of_beyond stopped.2)).bind
  intro createdAt hcreated
  apply (run.identifier_ends.weaken fun _ => .inl).bind
  intro id _
  apply Ends.skip
  intro content
  exact .pure ⟨rfl, rfl, hcreated⟩

theorem generateAllReplies_ends (run : Run) (users : List User) (posts : List ForumPost) :
    (generateAllReplies run users posts).Ends (Blocks (RepliesOf run users) posts)
      (RepliesStop run) := by
  apply Ends.concatMap posts
  intro post _
  apply (Ends.lift (sample_sampled users 2 10)).bind
  intro authors hauthors
  have each := Ends.mapM authors fun author _ => ForumPostReply.generate_ends run post author
  exact each.imp fun block hblock => ⟨authors, hauthors, hblock⟩

end Replies

section Latest

/-- When the replies to a post were made. -/
def replyTimes (replies : List ForumPostReply) (id : String) : List Instant :=
  (replies.filter (·.postId == id)).map (·.createdAt)

theorem mem_replyTimes {replies : List ForumPostReply} {id : String} {t : Instant} :
    t ∈ replyTimes replies id ↔ ∃ r ∈ replies, r.postId = id ∧ r.createdAt = t := by
  simp [replyTimes, and_assoc]

theorem replyTimes_concat (replies : List ForumPostReply) (reply : ForumPostReply) (id : String) :
    replyTimes (replies ++ [reply]) id =
      replyTimes replies id ++ if reply.postId = id then [reply.createdAt] else [] := by
  by_cases same : reply.postId = id
  · simp [replyTimes, same]
  · simp [replyTimes, same]

theorem max?_concat (ts : List Instant) (t : Instant) :
    (ts ++ [t]).max? = some (ts.max?.elim t (max · t)) := by
  cases ts with
  | nil => rfl
  | cons s ts =>
      rw [List.cons_append, List.max?_cons', List.foldl_append, List.max?_cons']
      rfl

theorem latestReplies_concat (replies : List ForumPostReply) (reply : ForumPostReply) :
    latestReplies (replies ++ [reply]) = (latestReplies replies).insert reply.postId
      ((latestReplies replies)[reply.postId]?.elim reply.createdAt (max · reply.createdAt)) := by
  rw [latestReplies, List.foldl_append, ← latestReplies, List.foldl_cons, List.foldl_nil]
  cases (latestReplies replies)[reply.postId]? with
  | none => rfl
  | some t => rfl

/-- The map that is built reply by reply holds the latest of all replies to each post. -/
theorem getElem?_latestReplies (replies : List ForumPostReply) (id : String) :
    (latestReplies replies)[id]? = (replyTimes replies id).max? := by
  induction replies using List.reverseRecOn with
  | nil => simp [latestReplies, replyTimes]
  | append_singleton replies reply ih =>
      rw [latestReplies_concat, replyTimes_concat, Std.HashMap.getElem?_insert]
      by_cases same : reply.postId = id
      · rw [if_pos (beq_iff_eq.mpr same), if_pos same, max?_concat, same, ih]
      · rw [if_neg (beq_iff_eq.not.mpr same), if_neg same, List.append_nil, ih]

/-- When a post was last active: at its latest reply, or when it was made. -/
def lastActivity (replies : List ForumPostReply) (post : ForumPost) : Instant :=
  (latestReplies replies).getD post.id post.createdAt

theorem lastActivity_eq (replies : List ForumPostReply) (post : ForumPost) :
    lastActivity replies post = (replyTimes replies post.id).max?.getD post.createdAt := by
  rw [lastActivity, Std.HashMap.getD_eq_getD_getElem?, getElem?_latestReplies]

/-- What holds of the creation of a post and of all replies, holds of its last activity. -/
theorem lastActivity_of {P : Instant → Prop} {replies : List ForumPostReply} {post : ForumPost}
    (hpost : P post.createdAt) (hreplies : ∀ r ∈ replies, P r.createdAt) :
    P (lastActivity replies post) := by
  rw [lastActivity_eq]
  cases latest : (replyTimes replies post.id).max? with
  | none => exact hpost
  | some t =>
      obtain ⟨reply, hreply, -, rfl⟩ := mem_replyTimes.mp (List.max?_mem latest)
      exact hreplies reply hreply

end Latest

section Settling

variable {run : Run} {replies : List ForumPostReply} {posts : List ForumPost}

variable {lastActive earliest limit : Instant}

theorem le_earliestDeactivation (h : latestDeactivation? run lastActive = some limit)
    (h' : earliestDeactivation? lastActive limit = some earliest) :
    lastActive ≤ earliest ∧ earliest ≤ limit := by
  obtain ⟨t, -, rfl⟩ := Option.map_eq_some_iff.mp h
  obtain ⟨s, soon, rfl⟩ := Option.map_eq_some_iff.mp h'
  exact ⟨le_min (Instant.le_of_after? soon) (le_max_right _ _), min_le_right _ _⟩

theorem latestDeactivation_le (h : latestDeactivation? run lastActive = some limit) :
    ∃ nextDay, lastActive.after? day = some nextDay ∧ limit ≤ nextDay ∧
      limit ≤ max run.now lastActive := by
  obtain ⟨nextDay, later, rfl⟩ := Option.map_eq_some_iff.mp h
  exact ⟨nextDay, later, max_le (min_le_left _ _) (Instant.le_of_after? later),
    max_le_max_right _ (min_le_right _ _)⟩

/-- Where the last activity leaves time for a deactivation, there is a first moment for it. -/
theorem exists_earliestDeactivation (h : latestDeactivation? run lastActive = some limit) :
    ∃ earliest, earliestDeactivation? lastActive limit = some earliest := by
  obtain ⟨nextDay, later, -⟩ := latestDeactivation_le h
  obtain ⟨nextMinute, soon⟩ :=
    Instant.exists_after?_of_le (k := 60) (m := secondsPerDay) later le_rfl (by decide) (by decide)
  exact ⟨min nextMinute limit, by rw [earliestDeactivation?, minute, soon]; rfl⟩

/-- A moment a day after another one is in no leap second, so one before it in a leap second is earlier
than it by its seconds already. -/
theorem seconds_lt_of_latestDeactivation (h : latestDeactivation? run lastActive = some limit)
    (leap : limit.IsLeap) : limit.seconds < lastSecond := by
  obtain ⟨nextDay, later, hlimit, -⟩ := latestDeactivation_le h
  obtain ⟨-, -, ordinary⟩ := Instant.of_after?_seconds (by decide : 0 < secondsPerDay) later
  have last := nextDay.le_last
  rw [Instant.le_iff] at hlimit
  unfold Instant.IsLeap at leap ordinary
  omega

/-- Only a leap second that the reference time is in can be lost. -/
theorem not_leapLost_deactivation (ordinary : ¬run.now.IsLeap)
    (h : latestDeactivation? run lastActive = some limit)
    (h' : earliestDeactivation? lastActive limit = some earliest) :
    ¬Instant.LeapLost earliest limit := by
  obtain ⟨first, last⟩ := le_earliestDeactivation h h'
  obtain ⟨nextDay, later, rfl⟩ := Option.map_eq_some_iff.mp h
  obtain ⟨-, -, ordinary'⟩ := Instant.of_after?_seconds (by decide : 0 < secondsPerDay) later
  rcases max_choice (min nextDay run.now) lastActive with capped | kept
  · rw [capped]
    exact Instant.not_leapLost (min_rec' (¬Instant.IsLeap ·) ordinary' ordinary)
  · rw [kept] at last ⊢
    obtain rfl := le_antisymm first last
    exact Instant.not_leapLost_of_clock rfl

/-- What is last active in no leap second, is deactivated in none. -/
theorem not_isLeap_deactivation {stop : Instant} (ordinary : ¬run.now.IsLeap)
    (ordinary' : ¬lastActive.IsLeap) (h : latestDeactivation? run lastActive = some limit)
    (h' : earliestDeactivation? lastActive limit = some earliest) (drawn : Drawn earliest limit stop) :
    ¬stop.IsLeap := by
  obtain ⟨nextDay, later, rfl⟩ := Option.map_eq_some_iff.mp h
  obtain ⟨nextMinute, soon, rfl⟩ := Option.map_eq_some_iff.mp h'
  have latest : ¬(max (min nextDay run.now) lastActive).IsLeap :=
    max_rec' (¬Instant.IsLeap ·)
      (min_rec' (¬Instant.IsLeap ·) (Instant.not_isLeap_of_after? ordinary' later) ordinary) ordinary'
  exact drawn.not_isLeap
    (min_rec' (¬Instant.IsLeap ·) (Instant.not_isLeap_of_after? ordinary' soon) latest)

/-- A post whose activity is settled. -/
structure SettledAt (run : Run) (replies : List ForumPostReply) (post settled : ForumPost) :
    Prop where
  unchanged : settled = { post with
    lastActiveAt := lastActivity replies post
    deactivatedAt := settled.deactivatedAt }
  active : post.isActive = true → settled.deactivatedAt = none
  inactive : post.isActive = false → ∃ limit earliest stop, settled.deactivatedAt = some stop ∧
    latestDeactivation? run (lastActivity replies post) = some limit ∧
    earliestDeactivation? (lastActivity replies post) limit = some earliest ∧
    Drawn earliest limit stop

namespace SettledAt

variable {post settled : ForumPost}

theorem id_eq (h : SettledAt run replies post settled) : settled.id = post.id := by
  rw [h.unchanged]

theorem userId_eq (h : SettledAt run replies post settled) : settled.userId = post.userId := by
  rw [h.unchanged]

theorem categoryId_eq (h : SettledAt run replies post settled) :
    settled.categoryId = post.categoryId := by
  rw [h.unchanged]

theorem isActive_eq (h : SettledAt run replies post settled) :
    settled.isActive = post.isActive := by
  rw [h.unchanged]

theorem createdAt_eq (h : SettledAt run replies post settled) :
    settled.createdAt = post.createdAt := by
  rw [h.unchanged]

/-- Only inactive posts are deactivated. -/
theorem isSome_deactivatedAt (h : SettledAt run replies post settled) :
    settled.deactivatedAt.isSome ↔ settled.isActive = false := by
  rw [h.isActive_eq]
  cases isActive : post.isActive with
  | true =>
      rw [h.active isActive]
      decide
  | false =>
      obtain ⟨limit, earliest, stop, deactivated, -⟩ := h.inactive isActive
      rw [deactivated]
      simp

theorem lastActiveAt_eq (h : SettledAt run replies post settled) :
    settled.lastActiveAt = lastActivity replies settled := by
  rw [lastActivity, h.id_eq, h.createdAt_eq, h.unchanged]
  rfl

/-- How a deactivation was drawn. -/
theorem exists_drawn (h : SettledAt run replies post settled) {stop : Instant}
    (hstop : settled.deactivatedAt = some stop) : ∃ limit earliest,
      latestDeactivation? run settled.lastActiveAt = some limit ∧
      earliestDeactivation? settled.lastActiveAt limit = some earliest ∧
      Drawn earliest limit stop := by
  have inactive : post.isActive = false := by
    rw [← h.isActive_eq, ← h.isSome_deactivatedAt, hstop]
    rfl
  have activity : lastActivity replies post = settled.lastActiveAt := by
    rw [h.unchanged]
  obtain ⟨limit, earliest, _, deactivated, hlimit, hearliest, drawn⟩ := h.inactive inactive
  obtain rfl := Option.some.inj (hstop.symm.trans deactivated)
  exact ⟨limit, earliest, activity ▸ hlimit, activity ▸ hearliest, drawn⟩

theorem le_deactivated (h : SettledAt run replies post settled) {stop : Instant}
    (hstop : settled.deactivatedAt = some stop) : settled.lastActiveAt ≤ stop := by
  obtain ⟨limit, earliest, hlimit, hearliest, drawn⟩ := h.exists_drawn hstop
  exact (le_earliestDeactivation hlimit hearliest).1.trans drawn.start_le

/-- A deactivation comes within a day and before the reference time, unless that is in a leap second. -/
theorem deactivated_within (h : SettledAt run replies post settled)
    (hnow : settled.lastActiveAt ≤ run.now) {stop : Instant}
    (hstop : settled.deactivatedAt = some stop) :
    ∃ nextDay, settled.lastActiveAt.after? day = some nextDay ∧
      (¬run.now.IsLeap → stop ≤ min nextDay run.now) := by
  obtain ⟨limit, earliest, hlimit, hearliest, drawn⟩ := h.exists_drawn hstop
  obtain ⟨nextDay, later, withinDay, timely⟩ := latestDeactivation_le hlimit
  rw [max_eq_left hnow] at timely
  refine ⟨nextDay, later, fun ordinary => ?_⟩
  have kept := not_leapLost_deactivation ordinary hlimit hearliest
  exact (drawn.le_stop kept (le_earliestDeactivation hlimit hearliest).2).trans
    (le_min withinDay timely)

/-- A post whose last activity lies at most in the second after the reference time, is deactivated at most
a second later. -/
theorem deactivated_seconds_le (h : SettledAt run replies post settled)
    (hactivity : (lastActivity replies post).seconds ≤ run.now.seconds + 1) {stop : Instant}
    (hstop : settled.deactivatedAt = some stop) : stop.seconds ≤ run.now.seconds + 2 := by
  have activity : settled.lastActiveAt = lastActivity replies post := by
    rw [h.unchanged]
  obtain ⟨limit, earliest, hlimit, hearliest, drawn⟩ := h.exists_drawn hstop
  have near := drawn.seconds_le
  have ordered := Instant.seconds_mono (le_earliestDeactivation hlimit hearliest).2
  obtain ⟨-, -, -, timely⟩ := latestDeactivation_le hlimit
  rw [activity] at timely
  rcases le_max_iff.mp timely with early | early
  · have := Instant.seconds_mono early
    omega
  · have := Instant.seconds_mono early
    omega

end SettledAt

theorem drawDeactivation_ends (run : Run) (lastActive : Instant) :
    (drawDeactivation run lastActive).Ends
      (fun stop => ∃ limit earliest, latestDeactivation? run lastActive = some limit ∧
        earliestDeactivation? lastActive limit = some earliest ∧ Drawn earliest limit stop)
      (fun h => h = .overflow ∧ lastActive.after? day = none) := by
  refine (Generate.orOverflow_ends (P := (latestDeactivation? run lastActive = some ·)) ?_ ?_).bind
    fun limit hlimit => ?_
  · exact fun _ h => h
  · intro none_there
    exact ⟨rfl, Option.map_eq_none_iff.mp none_there⟩
  · obtain ⟨earliest, hearliest⟩ := exists_earliestDeactivation hlimit
    rw [hearliest]
    apply (between_ends earliest limit).mono
    · exact fun stop drawn => ⟨limit, earliest, hlimit, hearliest, drawn⟩
    · rintro h ⟨lost, -, last⟩
      exact absurd last (seconds_lt_of_latestDeactivation hlimit lost.1).ne

def SettleResult (run : Run) (replies : List ForumPostReply) (post : ForumPost)
    (result : Except Halt Unit × ForumPost) : Prop :=
  (result.1 = .ok () ∧ SettledAt run replies post result.2) ∨
    (result.1 = .error .overflow ∧ (lastActivity replies post).after? day = none)

theorem ForumPost.settle_always (run : Run) (replies : List ForumPostReply) (post : ForumPost) :
    (post.settle run (latestReplies replies)).Always (SettleResult run replies post) := by
  unfold ForumPost.settle
  dsimp only
  by_cases isActive : post.isActive
  · rw [if_pos isActive]
    exact .pure (.inl ⟨rfl, rfl, fun _ => rfl, fun inactive => by simp [isActive] at inactive⟩)
  · rw [if_neg isActive]
    refine Draw.Always.bind (drawDeactivation_ends run (lastActivity replies post)) ?_
    intro outcome houtcome
    cases outcome with
    | ok stop =>
        obtain ⟨limit, earliest, drawn⟩ := houtcome
        refine .pure (.inl ⟨rfl, rfl, fun active => absurd active isActive, fun _ => ?_⟩)
        exact ⟨limit, earliest, stop, rfl, drawn⟩
    | error h =>
        obtain ⟨rfl, late⟩ := houtcome
        exact .pure (.inr ⟨rfl, late⟩)

theorem settleEach_always (run : Run) (replies : List ForumPostReply) (posts : List ForumPost) :
    (settleEach run (latestReplies replies) posts).Always fun result =>
      (result.1 = .ok () ∧ List.Forall₂ (SettledAt run replies) posts result.2) ∨
        (result.1 = .error .overflow ∧
          ∃ post ∈ posts, (lastActivity replies post).after? day = none) := by
  induction posts with
  | nil => exact .pure (.inl ⟨rfl, .nil⟩)
  | cons post rest ih =>
      apply (ForumPost.settle_always run replies post).bind
      intro result hresult
      obtain ⟨outcome, settled⟩ := result
      obtain ⟨rfl, hsettled⟩ | ⟨rfl, late⟩ := hresult
      · apply ih.bind
        intro others hothers
        apply Draw.Always.pure
        obtain ⟨done, hrest⟩ | ⟨failed, late, hlate, hday⟩ := hothers
        · exact .inl ⟨done, .cons hsettled hrest⟩
        · exact .inr ⟨failed, late, List.mem_cons_of_mem _ hlate, hday⟩
      · exact .pure (.inr ⟨rfl, post, by simp, late⟩)

end Settling

section All

variable {run : Run} {users : List User} {posts : List ForumPost} {replies : List ForumPostReply}

/-- What holds of a post, and so of all that can be drawn from it on, holds of its replies. -/
theorem RepliesOf.forall_created {P : Instant → Prop} (h : Blocks (RepliesOf run users) posts replies)
    (hP : ∀ p ∈ posts, ∀ t, Drawn p.createdAt run.now t → P t) : ∀ r ∈ replies, P r.createdAt := by
  intro r hr
  obtain ⟨post, hpost, block, hblock, hmem⟩ := h.exists_of_mem hr
  obtain ⟨_, -, made⟩ := hblock.exists_author hmem
  exact hP post hpost _ made.created

/-- No reply is made later than in the second after the reference time. -/
theorem RepliesOf.seconds_le (hposts : ∀ p ∈ posts, p.createdAt ≤ run.now)
    (h : Blocks (RepliesOf run users) posts replies) :
    ∀ r ∈ replies, r.createdAt.seconds ≤ run.now.seconds + 1 := by
  apply RepliesOf.forall_created (P := (·.seconds ≤ run.now.seconds + 1)) h
  intro p hp t drawn
  have early := Instant.seconds_mono (hposts p hp)
  have := drawn.seconds_le
  omega

/-- Settling a post does not part it from its replies. -/
theorem RepliesOf.of_settled {post settled : ForumPost} {block : List ForumPostReply}
    (h : RepliesOf run users post block) (hs : SettledAt run replies post settled) :
    RepliesOf run users settled block := by
  obtain ⟨authors, sampled, made⟩ := h
  refine ⟨authors, sampled, made.imp fun author reply hreply => ?_⟩
  constructor
  · rw [hs.id_eq]
    exact hreply.post_eq
  · exact hreply.author_eq
  · rw [hs.createdAt_eq]
    exact hreply.created

def RepliesResult (run : Run) (users : List User) (posts : List ForumPost) :
    Except Halt (List ForumPostReply) × List ForumPost → Prop
  | (.ok replies, settled) =>
    Blocks (RepliesOf run users) posts replies ∧ List.Forall₂ (SettledAt run replies) posts settled
  | (.error h, _) => RepliesStop run h

/-- No post is active later than in the second after the reference time. -/
theorem RepliesOf.lastActivity_seconds_le (hposts : ∀ p ∈ posts, p.createdAt ≤ run.now)
    (h : Blocks (RepliesOf run users) posts replies) :
    ∀ p ∈ posts, (lastActivity replies p).seconds ≤ run.now.seconds + 1 := by
  intro p hp
  refine lastActivity_of (P := (·.seconds ≤ run.now.seconds + 1)) ?_ (RepliesOf.seconds_le hposts h)
  exact (Instant.seconds_mono (hposts p hp)).trans (by omega)

theorem generateReplies_always (run : Run) (users : List User)
    (hposts : ∀ p ∈ posts, p.createdAt ≤ run.now) :
    (generateReplies run users posts).Always (RepliesResult run users posts) := by
  apply Draw.Always.bind (generateAllReplies_ends run users posts)
  intro outcome houtcome
  cases outcome with
  | error h => exact .pure houtcome
  | ok replies =>
      apply (settleEach_always run replies posts).bind
      intro result hresult
      apply Draw.Always.pure
      obtain ⟨outcome, settled⟩ := result
      obtain ⟨rfl, hsettled⟩ | ⟨rfl, post, hpost, late⟩ := hresult
      · exact ⟨houtcome, hsettled⟩
      · have activity := RepliesOf.lastActivity_seconds_le hposts houtcome post hpost
        rw [day, Instant.after?_eq_none_iff (by decide), secondsPerDay] at late
        exact .inr (Run.late_of_lt (by omega))

end All

end University
