import University.Proofs.Forum.Reply

/-! # What settling activity depends on

Settling a post overwrites its activity and never reads it: the latest reply decides, whatever the order
of the replies, and with it which words are drawn. All posts are settled exactly if a day can pass after
the last event of every inactive one, also where the reference time would cut off that day.
-/

namespace University

open Chance Fiction Time

section Events

variable {replies replies' : List ForumPostReply} {post : ForumPost}

/-- The last event of a post: the latest reply to it, or its creation where it has none. -/
def ForumPost.lastEvent (post : ForumPost) (replies : List ForumPostReply) : Instant :=
  (replyTimes replies post.id).max?.getD post.createdAt

/-- The post with another activity. -/
def ForumPost.withActivity (post : ForumPost) (lastActiveAt : Instant)
    (deactivatedAt : Option Instant) : ForumPost :=
  { post with lastActiveAt, deactivatedAt }

@[simp]
theorem ForumPost.withActivity_id (lastActiveAt : Instant) (deactivatedAt : Option Instant) :
    (post.withActivity lastActiveAt deactivatedAt).id = post.id := rfl

@[simp]
theorem ForumPost.withActivity_createdAt (lastActiveAt : Instant) (deactivatedAt : Option Instant) :
    (post.withActivity lastActiveAt deactivatedAt).createdAt = post.createdAt := rfl

@[simp]
theorem ForumPost.withActivity_isActive (lastActiveAt : Instant) (deactivatedAt : Option Instant) :
    (post.withActivity lastActiveAt deactivatedAt).isActive = post.isActive := rfl

/-- The other post has another activity, if anything. -/
def ForumPost.SameButActivity (post other : ForumPost) : Prop :=
  ∃ lastActiveAt deactivatedAt, other = post.withActivity lastActiveAt deactivatedAt

theorem sameButActivity_refl (posts : List ForumPost) :
    List.Forall₂ ForumPost.SameButActivity posts posts :=
  List.forall₂_same.mpr fun post _ => ⟨post.lastActiveAt, post.deactivatedAt, rfl⟩

/-- An active post can be settled, an inactive one if a day can pass after its last event. -/
def ForumPost.Settles (post : ForumPost) (replies : List ForumPostReply) : Prop :=
  post.isActive = false → ((post.lastEvent replies).after? day).isSome

instance (post : ForumPost) (replies : List ForumPostReply) : Decidable (post.Settles replies) :=
  inferInstanceAs (Decidable (post.isActive = false → _))

theorem max?_perm {ts ts' : List Instant} (h : ts.Perm ts') : ts.max? = ts'.max? := by
  apply Option.ext
  intro t
  rw [List.max?_eq_some_iff, List.max?_eq_some_iff, h.mem_iff]
  simp only [h.mem_iff]

theorem lastEvent_perm (h : replies'.Perm replies) (post : ForumPost) :
    post.lastEvent replies' = post.lastEvent replies := by
  have times : (replyTimes replies' post.id).Perm (replyTimes replies post.id) :=
    (h.filter _).map _
  rw [ForumPost.lastEvent, max?_perm times, ← ForumPost.lastEvent]

theorem lastActivity_eq_lastEvent (replies : List ForumPostReply) (post : ForumPost) :
    lastActivity replies post = post.lastEvent replies :=
  lastActivity_eq replies post

end Events

section Step

variable {run : Run} {replies replies' : List ForumPostReply} {post other settled : ForumPost}
  {latest : Std.HashMap String Instant} {last : Instant}

theorem ForumPost.settle_active (hlast : latest.getD post.id post.createdAt = last)
    (hactive : post.isActive = true) :
    post.settle run latest = pure (.ok (), post.withActivity last none) := by
  rw [settle, if_pos hactive, hlast]
  rfl

theorem ForumPost.settle_inactive (hlast : latest.getD post.id post.createdAt = last)
    (hactive : post.isActive = false) {stop : Instant} {s rest : Stream}
    (hdrawn : (drawDeactivation run last).run s = (.ok stop, rest)) :
    (post.settle run latest).run s = ((.ok (), post.withActivity last (some stop)), rest) := by
  rw [settle, if_neg (by simp [hactive]), hlast, StateT.run_bind]
  have outcome : StateT.run (drawDeactivation run last).run s = (.ok stop, rest) := hdrawn
  rw [outcome]
  rfl

/-- A post that can be settled is settled, in the same way for every order of the replies and whatever
its activity was. -/
theorem ForumPost.settle_congr (run : Run) (hperm : replies'.Perm replies)
    (same : post.SameButActivity other) (hsettles : post.Settles replies) (s : Stream) :
    ∃ settled rest,
      (post.settle run (latestReplies replies)).run s = ((.ok (), settled), rest) ∧
      (other.settle run (latestReplies replies')).run s = ((.ok (), settled), rest) := by
  obtain ⟨lastActiveAt, deactivatedAt, rfl⟩ := same
  have hlast := lastActivity_eq_lastEvent replies post
  have hlast' : lastActivity replies' (post.withActivity lastActiveAt deactivatedAt) =
      post.lastEvent replies := by
    rw [← lastEvent_perm hperm, lastActivity_eq_lastEvent]
    simp [lastEvent]
  unfold lastActivity at hlast hlast'
  cases hactive : post.isActive with
  | true =>
      rw [settle_active hlast hactive, settle_active hlast' (by simpa using hactive)]
      exact ⟨_, _, rfl, rfl⟩
  | false =>
      obtain ⟨nextDay, later⟩ := Option.isSome_iff_exists.mp (hsettles hactive)
      obtain ⟨stop, hdrawn, -⟩ | ⟨_, -, -, none_there⟩ :=
        (drawDeactivation_ends run (post.lastEvent replies)).of_run s
      · have drawn : (drawDeactivation run (post.lastEvent replies)).run s = (.ok stop, _) :=
          Prod.ext hdrawn rfl
        exact ⟨_, _, settle_inactive hlast hactive drawn,
          settle_inactive hlast' (by simpa using hactive) drawn⟩
      · rw [later] at none_there
        cases none_there

theorem settleEach_cons {rest others : List ForumPost} {outcome : Except Halt Unit}
    {s later last : Stream} (hpost : (post.settle run latest).run s = ((.ok (), settled), later))
    (hrest : (settleEach run latest rest).run later = ((outcome, others), last)) :
    (settleEach run latest (post :: rest)).run s = ((outcome, settled :: others), last) := by
  rw [settleEach, StateT.run_bind, hpost]
  change ((settleEach run latest rest >>= _).run later) = _
  rw [StateT.run_bind, hrest]
  rfl

theorem SettledAt.settles (h : SettledAt run replies post settled) : post.Settles replies := by
  intro inactive
  obtain ⟨limit, earliest, stop, -, hlimit, -⟩ := h.inactive inactive
  obtain ⟨nextDay, later, -⟩ := Option.map_eq_some_iff.mp hlimit
  rw [← lastActivity_eq_lastEvent, later]
  rfl

end Step

section Run

variable {replies replies' : List ForumPostReply} {posts posts' : List ForumPost}

theorem settleEach_congr (run : Run) (hperm : replies'.Perm replies)
    (hposts : List.Forall₂ ForumPost.SameButActivity posts posts')
    (hsettles : ∀ post ∈ posts, post.Settles replies) (s : Stream) :
    ∃ settled rest,
      (settleEach run (latestReplies replies) posts).run s = ((.ok (), settled), rest) ∧
      (settleEach run (latestReplies replies') posts').run s = ((.ok (), settled), rest) := by
  induction hposts generalizing s with
  | nil => exact ⟨[], s, rfl, rfl⟩
  | @cons post other posts posts' same _ ih =>
      obtain ⟨settled, later, first, first'⟩ :=
        ForumPost.settle_congr run hperm same (hsettles post (by simp)) s
      obtain ⟨others, rest, more, more'⟩ :=
        ih (fun p hp => hsettles p (List.mem_cons_of_mem _ hp)) later
      exact ⟨settled :: others, rest, settleEach_cons first more, settleEach_cons first' more'⟩

/-- A run settles all posts exactly if each of them can be settled. -/
theorem settleEach_ok_iff (run : Run) (replies : List ForumPostReply) (posts : List ForumPost)
    (s : Stream) : ((settleEach run (latestReplies replies) posts).run s).1.1 = .ok () ↔
      ∀ post ∈ posts, post.Settles replies := by
  constructor
  · intro done
    obtain ⟨-, settled⟩ | ⟨failed, -⟩ := (settleEach_always run replies posts).from_stream s
    · intro post hpost
      obtain ⟨_, -, made⟩ := exists_of_forall₂ settled.flip hpost
      exact made.settles
    · rw [done] at failed
      cases failed
  · intro hsettles
    obtain ⟨settled, rest, done, -⟩ := settleEach_congr run (.refl replies)
      (sameButActivity_refl posts) hsettles s
    rw [done]

end Run

section Settlement

variable {run : Run} {replies : List ForumPostReply} {post settled : ForumPost}

/-- What becomes of a post. An inactive one is deactivated at least a minute after its last event, but
within a day and before the reference time, as far as that is not too early, and not later unless a leap
second is lost. -/
structure Settlement (run : Run) (replies : List ForumPostReply) (post settled : ForumPost) :
    Prop where
  same : post.SameButActivity settled
  lastActive : settled.lastActiveAt = post.lastEvent replies
  active : post.isActive = true → settled.deactivatedAt = none
  inactive : post.isActive = false → ∃ nextMinute nextDay stop,
    (post.lastEvent replies).after? minute = some nextMinute ∧
    (post.lastEvent replies).after? day = some nextDay ∧
    settled.deactivatedAt = some stop ∧ post.lastEvent replies ≤ stop ∧
    let limit := max (min nextDay run.now) (post.lastEvent replies)
    min nextMinute limit ≤ stop ∧ stop.seconds ≤ limit.seconds + 1 ∧
      (¬Instant.LeapLost (min nextMinute limit) limit → stop ≤ limit)

theorem SettledAt.settlement (h : SettledAt run replies post settled) :
    Settlement run replies post settled where
  same := ⟨_, _, h.unchanged⟩
  lastActive := by
    rw [h.unchanged]
    exact lastActivity_eq_lastEvent replies post
  active := h.active
  inactive := by
    intro inactive
    obtain ⟨limit, earliest, stop, deactivated, hlimit, hearliest, drawn⟩ := h.inactive inactive
    rw [lastActivity_eq_lastEvent] at hlimit hearliest
    obtain ⟨first, last⟩ := le_earliestDeactivation hlimit hearliest
    have near : stop.seconds ≤ limit.seconds + 1 := by
      have := drawn.seconds_le
      have := Instant.seconds_mono last
      omega
    have timely := fun kept => drawn.le_stop kept last
    obtain ⟨nextDay, later, rfl⟩ := Option.map_eq_some_iff.mp hlimit
    obtain ⟨nextMinute, soon, rfl⟩ := Option.map_eq_some_iff.mp hearliest
    exact ⟨nextMinute, nextDay, stop, soon, later, deactivated, first.trans drawn.start_le,
      drawn.start_le, near, timely⟩

end Settlement

section Outcome

variable {replies : List ForumPostReply} {posts : List ForumPost}

/-- The posts and their replies determine the settled posts and the words that are drawn. Neither the
order of the replies nor the activity that the posts had before has an influence. -/
theorem settlePosts_determined (run : Run) (hsettles : ∀ post ∈ posts, post.Settles replies)
    (s : Stream) :
    ∃ settled rest, (settlePosts run posts replies).run s = ((.ok (), settled), rest) ∧
      List.Forall₂ (Settlement run replies) posts settled ∧
      ∀ replies' posts', replies'.Perm replies →
        List.Forall₂ ForumPost.SameButActivity posts posts' →
        (settlePosts run posts' replies').run s = ((.ok (), settled), rest) := by
  obtain ⟨settled, rest, done, -⟩ := settleEach_congr run (.refl replies)
    (sameButActivity_refl posts) hsettles s
  refine ⟨settled, rest, done, ?_, ?_⟩
  · have result := (settleEach_always run replies posts).from_stream s
    rw [done] at result
    obtain ⟨-, made⟩ | ⟨failed, -⟩ := result
    · exact made.imp fun _ _ => SettledAt.settlement
    · cases failed
  · intro replies' posts' hperm hposts
    obtain ⟨settled', rest', done', again⟩ := settleEach_congr run hperm hposts hsettles s
    cases done.symm.trans done'
    exact again

def ForumPost.inactiveSince (createdAt : Instant) : ForumPost where
  id := "p"
  name := ""
  userId := "u"
  categoryId := "c"
  content := ""
  isActive := false
  createdAt := createdAt
  lastActiveAt := createdAt
  isCategoryAnnouncement := false
  deactivatedAt := none
  isGlobalAnnouncement := false

/-- Replies of one moment and an earlier one, and a reply to a post that is not there. -/
def tiedReplies : List ForumPostReply :=
  [⟨"a", "p", "u", "", .epoch⟩, ⟨"b", "q", "u", "", .epoch⟩, ⟨"c", "p", "v", "", .epoch⟩,
    ⟨"d", "p", "w", "", ⟨-86400, 0, by decide, by decide, longSecond_pos⟩⟩]

/-- An hour after the last of these replies. -/
def hourLater : Run := ⟨⟨3600, 0, by decide, by decide, longSecond_pos⟩, 1⟩

theorem settlePosts_determined_reverse : ∃ settled rest,
    (∀ post ∈ [ForumPost.inactiveSince .epoch], post.Settles tiedReplies) ∧
    (settlePosts hourLater [.inactiveSince .epoch] tiedReplies).run (.ofSeed 0) =
      ((.ok (), settled), rest) ∧
    List.Forall₂ (Settlement hourLater tiedReplies) [.inactiveSince .epoch] settled ∧
    (settlePosts hourLater [.inactiveSince .epoch] tiedReplies.reverse).run (.ofSeed 0) =
      ((.ok (), settled), rest) := by
  have settles : ∀ post ∈ [ForumPost.inactiveSince .epoch], post.Settles tiedReplies := by decide
  obtain ⟨settled, rest, done, made, again⟩ :=
    settlePosts_determined hourLater settles (.ofSeed 0)
  exact ⟨settled, rest, settles, done, made,
    again _ _ (List.reverse_perm _) (sameButActivity_refl _)⟩

/-- A post is deactivated within a day of its last event and not behind the reference time, as far as the
last event allows that. -/
def Timely (run : Run) (replies : List ForumPostReply) (post settled : ForumPost) : Prop :=
  ∀ nextDay stop, (post.lastEvent replies).after? day = some nextDay →
    settled.deactivatedAt = some stop → stop ≤ max (min nextDay run.now) (post.lastEvent replies)

/-- A minute before the second that the leap second follows. -/
def Time.Instant.minuteBefore2016 : Instant :=
  ⟨1483228739, 0, by decide, by decide, longSecond_pos⟩

/-- At a reference time in a leap second, a post can be deactivated behind it. -/
theorem not_forall_settlePosts_timely : ¬∀ (run : Run) (posts : List ForumPost)
    (replies : List ForumPostReply) (s rest : Stream) (settled : List ForumPost),
    (∀ post ∈ posts, post.Settles replies) →
    (settlePosts run posts replies).run s = ((.ok (), settled), rest) →
    List.Forall₂ (Timely run replies) posts settled := by
  intro claimed
  have drawn : ((drawDeactivation ⟨.leap2016, 1⟩ .minuteBefore2016).run (.ofSeed 0)).1 =
      .ok .afterLeap2016 := by
    decide +kernel
  have activity := lastActivity_eq_lastEvent [] (.inactiveSince .minuteBefore2016)
  have first := ForumPost.settle_inactive activity rfl (Prod.ext drawn rfl)
  have settles : ∀ post ∈ [ForumPost.inactiveSince .minuteBefore2016], post.Settles [] := by decide
  cases claimed _ _ _ _ _ _ settles (settleEach_cons first rfl) with
  | cons timely _ => exact absurd (timely _ _ rfl rfl) (by decide)

theorem ForumPost.lastEvent_le {post : ForumPost} {bound : Instant} (hpost : post.createdAt ≤ bound)
    (hreplies : ∀ r ∈ replies, r.createdAt ≤ bound) : post.lastEvent replies ≤ bound := by
  rw [← lastActivity_eq_lastEvent]
  exact lastActivity_of (P := (· ≤ bound)) hpost hreplies

/-- An inactive post was deactivated after its last activity and, unless the given moment is in a leap
second, not after that. -/
def ForumPost.ClosedBy (now : Instant) (post : ForumPost) : Prop :=
  post.isActive = false → ∃ stop, post.deactivatedAt = some stop ∧
    post.lastActiveAt ≤ stop ∧ (¬now.IsLeap → stop ≤ now)

theorem SettledAt.closedBy {run : Run} {post settled : ForumPost}
    (h : SettledAt run replies post settled) (hnow : post.lastEvent replies ≤ run.now) :
    settled.ClosedBy run.now := by
  intro inactive
  obtain ⟨stop, deactivated⟩ := Option.isSome_iff_exists.mp (h.isSome_deactivatedAt.mpr inactive)
  rw [← h.settlement.lastActive] at hnow
  obtain ⟨nextDay, -, within⟩ := h.deactivated_within hnow deactivated
  exact ⟨stop, deactivated, h.le_deactivated deactivated,
    fun ordinary => (within ordinary).trans (min_le_right _ _)⟩

theorem ForumPost.settles_of_le {post : ForumPost} {later : Instant}
    (hpost : post.lastEvent replies ≤ later) (hlater : (later.after? day).isSome) :
    post.Settles replies := by
  intro _
  obtain ⟨nextDay, hday⟩ := Option.isSome_iff_exists.mp hlater
  obtain ⟨sooner, found⟩ :=
    Instant.exists_after?_of_le (k := secondsPerDay) hday hpost (by decide) le_rfl
  rw [day, found]
  rfl

/-- Where nothing lies beyond the reference time, inactive posts are deactivated up to it, unless it is
in a leap second or one of them cannot be settled. A day before the end of the supported years they all
can. -/
theorem settlePosts_until_now (run : Run) (hposts : ∀ p ∈ posts, p.createdAt ≤ run.now)
    (hreplies : ∀ r ∈ replies, r.createdAt ≤ run.now) (s : Stream) :
    let (outcome, settled) := ((settlePosts run posts replies).run s).1
    (outcome = .ok () ↔ ∀ post ∈ posts, post.Settles replies) ∧
      (outcome = .ok () ∨ outcome = .error .overflow) ∧
      (outcome = .ok () → List.Forall₂ (fun post settled => settled.isActive = post.isActive ∧
        settled.ClosedBy run.now) posts settled) ∧
      ((run.now.after? day).isSome → outcome = .ok ()) := by
  have early : ∀ p ∈ posts, p.lastEvent replies ≤ run.now :=
    fun p hp => ForumPost.lastEvent_le (hposts p hp) hreplies
  have result := (settleEach_always run replies posts).from_stream s
  have decided := settleEach_ok_iff run replies posts s
  refine ⟨decided, result.imp And.left And.left, ?_, ?_⟩
  · intro done
    obtain ⟨-, made⟩ | ⟨failed, -⟩ := result
    · have timely := (List.forall₂_and_left _ _).mpr ⟨early, made⟩
      exact timely.imp fun post settled h => ⟨h.2.isActive_eq, h.2.closedBy h.1⟩
    · cases done.symm.trans failed
  · intro later
    exact decided.mpr fun post hpost => ForumPost.settles_of_le (early post hpost) later

/-- The last moment of the supported years that is in no leap second. -/
def Time.Instant.final : Instant := ⟨lastSecond, 999999999, by decide, by decide, by decide⟩

theorem settlePosts_until_now_final :
    (∀ p ∈ [ForumPost.inactiveSince .epoch], p.createdAt ≤ Instant.final) ∧
    (Instant.final.after? day).isSome = false ∧
    ((settlePosts ⟨.final, 1⟩ [.inactiveSince .epoch] []).run (.ofSeed 0)).1.1 = .ok () := by
  have early : ∀ p ∈ [ForumPost.inactiveSince .epoch], p.createdAt ≤ Instant.final := by decide
  have none_late : ∀ r ∈ ([] : List ForumPostReply), r.createdAt ≤ Instant.final := by simp
  have settled := settlePosts_until_now ⟨.final, 1⟩ early none_late (.ofSeed 0)
  exact ⟨early, by decide, settled.1.mpr (by decide)⟩

/-- Posts of the last supported day cannot always be settled. -/
theorem not_forall_settlePosts_ok : ¬∀ (run : Run) (posts : List ForumPost)
    (replies : List ForumPostReply) (s : Stream),
    (∀ p ∈ posts, p.createdAt ≤ run.now ∧ p.lastActiveAt ≤ run.now ∧
      ∀ stop ∈ p.deactivatedAt, stop ≤ run.now) →
    (∀ r ∈ replies, r.createdAt ≤ run.now) →
    ((settlePosts run posts replies).run s).1.1 = .ok () := by
  intro h
  have done := h ⟨.final, 6⟩ [.inactiveSince .final] [] (.ofSeed 0) (by decide) (by simp)
  have settles := (settleEach_ok_iff _ _ _ _).mp done
  exact absurd settles (by decide)

end Outcome

end University
