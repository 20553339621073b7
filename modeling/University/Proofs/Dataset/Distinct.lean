import University.Proofs.Dataset.Outcome

/-! # Runs that draw no identifier twice

The last identifiers that a run draws are those of the replies. Whether identifiers are distinct is known
before activity is settled and before anyone votes.
-/

namespace University

open Chance

/-- Replies that are there were drawn for the posts, whose activity was settled by them. -/
theorem exists_of_generateReplies {run : Run} {users : List User} {posts settled : List ForumPost}
    {replies : List ForumPostReply} {s rest : Stream}
    (h : (generateReplies run users posts).run s = ((.ok replies, settled), rest)) :
    ∃ later, (generateAllReplies run users posts).run s = (.ok replies, later) ∧
      List.Forall₂ (SettledAt run replies) posts settled := by
  unfold generateReplies at h
  rw [StateT.run_bind] at h
  cases drawn : (generateAllReplies run users posts).run s with
  | mk outcome later =>
      have first : StateT.run (generateAllReplies run users posts).run s = (outcome, later) := drawn
      rw [first] at h
      cases outcome with
      | error e => cases h
      | ok drawnReplies =>
          have result := (settleEach_always run drawnReplies posts).from_stream later
          change ((settlePosts run posts drawnReplies >>= _).run later) = _ at h
          rw [StateT.run_bind] at h
          unfold settlePosts at h
          cases settling : (settleEach run (latestReplies drawnReplies) posts).run later with
          | mk result' last =>
              rw [settling] at h result
              obtain ⟨outcome, posts'⟩ := result'
              obtain ⟨rfl, kept⟩ | ⟨rfl, -⟩ := result
              · cases h
                exact ⟨later, rfl, kept⟩
              · cases h

namespace Config

/-- A run up to the last identifier. -/
def drawIds (c : Config) : Generate (List (List String)) := do
  let (faculties, curriculums) ← c.generateOfferings
  let d ← c.addPeople { faculties, curriculums }
  let d ← c.addTeaching d
  let forumCategories ← generateForumCategories c.run d.users
  let forumPosts ← generateForumPosts c.run d.users forumCategories c.postVolumes
  let forumPostReplies ← generateAllReplies c.run d.users forumPosts
  return ({ d with forumCategories, forumPosts, forumPostReplies } : Dataset).idColumns

/-- All identifiers of a dataset are drawn before the activity of its posts is settled. -/
theorem drawIds_of_generate {c : Config} {d : Dataset} (h : c.generate = .ok d) :
    (c.drawIds.run c.stream).1 = .ok d.idColumns := by
  obtain ⟨⟨faculties, curriculums⟩, s₁, offered, h⟩ := Generate.exists_of_bind h
  obtain ⟨d₁, s₂, people, h⟩ := Generate.exists_of_bind h
  obtain ⟨d₂, s₃, teaching, h⟩ := Generate.exists_of_bind h
  obtain ⟨categories, s₄, categorised, h⟩ := Generate.exists_of_bind h
  obtain ⟨posts, s₅, posted, h⟩ := Generate.exists_of_bind h
  obtain ⟨⟨outcome, settled⟩, s₆, replied, h⟩ := Generate.exists_of_bind h
  obtain ⟨replies, s₇, there, h⟩ := Generate.exists_of_bind h
  obtain ⟨views, s₈, -, h⟩ := Generate.exists_of_bind h
  obtain ⟨votes, s₉, -, h⟩ := Generate.exists_of_bind h
  obtain ⟨replyVotes, s₁₀, -, h⟩ := Generate.exists_of_bind h
  cases h
  have draws : (generateReplies c.run d₂.users posts).run s₅ = ((.ok replies, settled), s₆) := by
    cases outcome with
    | error e => cases there
    | ok replies' =>
        cases there
        exact Generate.run_of_lift replied
  obtain ⟨later, drawn, kept⟩ := exists_of_generateReplies draws
  have ids : settled.map (·.id) = posts.map (·.id) := map_eq_of_forall₂ kept fun _ _ h => h.id_eq
  rw [drawIds, Generate.run_bind_of_ok offered]
  dsimp only
  rw [Generate.run_bind_of_ok people, Generate.run_bind_of_ok teaching,
    Generate.run_bind_of_ok categorised, Generate.run_bind_of_ok posted,
    Generate.run_bind_of_ok drawn]
  simp only [Dataset.idColumns, ids]
  rfl

/-- The first student of a major and a year gets the first number. -/
theorem StudentRegistry.assign_empty (year : Int32) (major : String) :
    StudentRegistry.empty.assign year major =
      match studentId? year major 1 with
      | some id => .ok (id, ⟨Std.HashMap.insert ∅ (year, major) 1, Std.HashSet.insert ∅ id⟩)
      | none => .error .overflow := by
  have first : StudentRegistry.empty.nextSequence year major = 1 := by
    simp [StudentRegistry.nextSequence, StudentRegistry.empty]
  rw [StudentRegistry.assign, StudentRegistry.issue, first, if_neg (by decide)]
  cases studentId? year major 1 with
  | none => rfl
  | some id => simp [StudentRegistry.take, StudentRegistry.empty]

/-- The number that the characters of an identifier are the digits of. -/
def idNumber (id : String) : Nat := id.toList.foldl (fun n c => 128 * n + c.toNat) 0

/-- The identifiers of a run are drawn, and no two of them have the same number. -/
def drawsDistinct (c : Config) : Bool :=
  match (c.drawIds.run c.stream).1 with
  | .ok columns => decide (columns.flatten.map idNumber).Nodup
  | .error _ => false

theorem nodup_of_drawsDistinct {c : Config} {d : Dataset} (h : c.generate = .ok d)
    (hdistinct : c.drawsDistinct = true) : d.drawnIds.Nodup := by
  rw [drawsDistinct, drawIds_of_generate h] at hdistinct
  exact List.Nodup.of_map idNumber (of_decide_eq_true hdistinct)

theorem sample_drawsDistinct : sample.drawsDistinct = true := by
  unfold drawsDistinct drawIds addPeople
  rw [show sample.students = 1 from rfl]
  -- The registry of a single student is empty, so nothing has to be looked up in it.
  simp only [generateStudents, studentsFrom, Student.generate, StudentRegistry.assign_empty]
  decide +kernel

theorem sample_distinct : ∃ d, sample.generate = .ok d ∧ d.drawnIds.Nodup := by
  have memory : sample.FitsMemory := by
    constructor <;> decide
  obtain ⟨d, h⟩ := exists_of_outcome memory (nodup_of_one memory rfl) (by decide) (by decide)
    (by decide) rfl
  exact ⟨d, h, nodup_of_drawsDistinct h sample_drawsDistinct⟩

end Config

end University
