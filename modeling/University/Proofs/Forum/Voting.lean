import University.Proofs.Forum.Activity
import University.Proofs.Forum.Engagement

/-! # Who votes on a post, and when

Two to five of the views of a post bring a vote, as far as there are so many, and no view brings two.
Votes are cast from the making of the post until it is closed, all at once where it is closed before,
and later only where a leap second is lost.
-/

namespace University

open Chance Fiction Time

variable {run : Run} {post : ForumPost} {views : List ForumPostView}

/-- When voting on a post ends. Only an inactive post is closed by its deactivation. -/
inductive VotingCloses (run : Run) (post : ForumPost) : Instant → Prop where
  | deactivated {stop : Instant} : post.isActive = false → post.deactivatedAt = some stop →
    VotingCloses run post stop
  | active : post.isActive = true → VotingCloses run post run.now
  | undated : post.deactivatedAt = none → VotingCloses run post run.now

theorem votingCloses_iff {closes : Instant} :
    VotingCloses run post closes ↔ closes = post.votingEnd run := by
  unfold ForumPost.votingEnd
  constructor
  · rintro (⟨inactive, stop⟩ | active | undated)
    · rw [inactive, stop]
    · rw [active]
    · rw [undated]
      split <;> simp_all
  · rintro rfl
    split
    · rename_i inactive stop
      exact .deactivated inactive stop
    · rename_i other
      cases active : post.isActive with
      | true => exact .active active
      | false =>
          cases stop : post.deactivatedAt with
          | none => exact .undated stop
          | some t => exact absurd stop (other t active)

/-- A vote on a post that comes of a view. -/
structure CastVote (run : Run) (post : ForumPost) (view : ForumPostView) (vote : ForumPostVote) :
    Prop where
  post_eq : vote.postId = post.id
  voter_eq : vote.userId = view.userId
  increment_eq : vote.increment = 1 ∨ vote.increment = -1
  not_before : post.createdAt ≤ vote.createdAt
  created_eq : ∀ closes, VotingCloses run post closes →
    ¬Instant.LeapLost post.createdAt closes → closes ≤ post.createdAt →
      vote.createdAt = post.createdAt
  within : ∀ closes, VotingCloses run post closes →
    ¬Instant.LeapLost post.createdAt closes → post.createdAt ≤ closes → vote.createdAt ≤ closes

theorem VoteOn.cast {view : ForumPostView} {vote : ForumPostVote} (h : VoteOn run post view vote) :
    CastVote run post view vote where
  post_eq := h.post_eq
  voter_eq := h.voter_eq
  increment_eq := h.increment_eq
  not_before := h.created.start_le
  created_eq := by
    intro closes hcloses kept early
    cases votingCloses_iff.mp hcloses
    exact h.created.eq_start kept early
  within := by
    intro closes hcloses kept late
    cases votingCloses_iff.mp hcloses
    exact h.created.le_stop kept late

/-- The votes on a post: they come of views of it at different positions. -/
structure Poll (run : Run) (views : List ForumPostView) (post : ForumPost)
    (votes : List ForumPostVote) : Prop where
  least_le : min 2 (viewsFor views post.id).length ≤ votes.length
  le_most : votes.length ≤ min 5 (viewsFor views post.id).length
  cast : ∃ positions : List Nat, positions.Nodup ∧
    List.Forall₂ (fun i vote => ∃ hi : i < (viewsFor views post.id).length,
      CastVote run post (viewsFor views post.id)[i] vote) positions votes

theorem VotesOf.poll {votes : List ForumPostVote} (h : VotesOf run views post votes) :
    Poll run views post votes := by
  obtain ⟨voters, sampled, made⟩ := h
  have same := made.length_eq
  exact ⟨same ▸ sampled.least_le, same ▸ sampled.length_le (by decide),
    sampled.exists_positions (made.imp fun _ _ => VoteOn.cast)⟩

/-- From every stream, every post has its poll, one behind the other. Only a leap second that is lost at
the end of the supported years stops the votes. -/
theorem generateVotes_polls (run : Run) (posts : List ForumPost) (views : List ForumPostView) :
    (generateVotes run posts views).Ends (Blocks (Poll run views) posts)
      (fun h => h = .overflow ∧ ∃ post ∈ posts, ∃ closes, VotingCloses run post closes ∧
        Instant.LeapLost post.createdAt closes ∧ closes.seconds = lastSecond) := by
  apply (generateVotes_ends run posts views).mono
  · exact fun _ votes => votes.imp fun _ _ _ => VotesOf.poll
  · rintro h ⟨post, hpost, lost, rfl, last⟩
    exact ⟨rfl, post, hpost, _, votingCloses_iff.mpr rfl, lost, last⟩

/-- Until the voting on a post closes in a leap second, votes can be cast that lie behind its end. -/
theorem not_forall_generateVotes_within : ¬∀ (run : Run) (post : ForumPost)
    (views : List ForumPostView) (s : Stream) (votes : List ForumPostVote),
    ((generateVotes run [post] views).run s).1 = .ok votes →
    ∀ closes, VotingCloses run post closes → post.createdAt ≤ closes →
      ∀ vote ∈ votes, vote.createdAt ≤ closes := by
  intro claimed
  have cast : ((generateVotes ⟨.leap2016, 1⟩ [.inactiveSince .beforeLeap2016] [⟨"p", "u"⟩]).run
      (.ofSeed 0)).1 =
      .ok [⟨"p", "u", ⟨1483228800, 95000000, by decide, by decide, by decide⟩, -1⟩] := by
    rw [generateVotes, concatMap, ForumPost.generateVotes_eq _ (by decide)]
    decide +kernel
  have closed := claimed _ _ _ _ _ cast _ (.undated rfl) (by decide) _ (List.mem_singleton_self _)
  exact absurd closed (by decide)

end University
