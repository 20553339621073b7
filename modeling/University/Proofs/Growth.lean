import University.Proofs.Account.Enrolment
import University.Proofs.Forum.Provisional

/-! # Asking for more

A generator of a list that is asked for more elements makes the same ones first. Where it could not
make the fewer, it cannot make the more, and stops for the same reason.
-/

namespace University

open Chance

namespace Generate

variable {α β : Type} {n m : Nat}

/-- The action ends with lists of one length only. -/
def HasLength (action : Generate (List α)) (n : Nat) : Prop :=
  ∀ s xs, (action.run s).1 = .ok xs → xs.length = n

namespace HasLength

theorem nil : HasLength (pure [] : Generate (List α)) 0 := by
  rintro s _ ⟨⟩
  rfl

theorem cons (x : α) {action : Generate (List α)} (h : HasLength action n) :
    HasLength (do return x :: (← action)) (n + 1) := by
  intro s xs made
  obtain ⟨others, rest, run, made⟩ := exists_of_bind made
  cases made
  exact congrArg (· + 1) (h s others (congrArg Prod.fst run))

theorem bind (action : Generate α) {next : α → Generate (List β)} (h : ∀ x, HasLength (next x) n) :
    HasLength (action >>= next) n := by
  intro s xs made
  obtain ⟨x, rest, -, made⟩ := exists_of_bind made
  exact h x rest xs made

end HasLength

/-- From every stream `longer` ends with a list of `m` elements that begins with the `n` elements that
`shorter` ends with, and stops for the reason that `shorter` stops for. -/
structure Prolongs (m n : Nat) (longer shorter : Generate (List α)) : Prop where
  length_longer : HasLength longer m
  length_shorter : HasLength shorter n
  take : ∀ s xs, (longer.run s).1 = .ok xs → (shorter.run s).1 = .ok (xs.take n)
  stop : ∀ s h, (shorter.run s).1 = .error h → (longer.run s).1 = .error h

namespace Prolongs

/-- Every list goes on behind the empty one. -/
theorem nil {longer : Generate (List α)} (h : HasLength longer m) : Prolongs m 0 longer (pure []) where
  length_longer := h
  length_shorter := .nil
  take _ _ _ := rfl
  stop _ _ h := by cases h

/-- Both lists get the same first element. -/
theorem cons (x : α) {longer shorter : Generate (List α)} (h : Prolongs m n longer shorter) :
    Prolongs (m + 1) (n + 1) (do return x :: (← longer)) (do return x :: (← shorter)) where
  length_longer := h.length_longer.cons x
  length_shorter := h.length_shorter.cons x
  take s xs made := by
    rw [run_bind_pure] at made ⊢
    cases others : (longer.run s).1 with
    | error e =>
        rw [others] at made
        cases made
    | ok rest =>
        rw [others] at made
        cases made
        rw [h.take s rest others]
        rfl
  stop s e stopped := by
    rw [run_bind_pure] at stopped ⊢
    cases others : (shorter.run s).1 with
    | ok rest =>
        rw [others] at stopped
        cases stopped
    | error e' =>
        rw [others] at stopped
        cases stopped
        rw [h.stop s e others]
        rfl

/-- Both generators begin with the same action. -/
theorem same (action : Generate α) {longer shorter : α → Generate (List β)}
    (h : ∀ x, Prolongs m n (longer x) (shorter x)) :
    Prolongs m n (action >>= longer) (action >>= shorter) where
  length_longer := .bind action fun x => (h x).length_longer
  length_shorter := .bind action fun x => (h x).length_shorter
  take s xs made := by
    obtain ⟨x, rest, first, made⟩ := exists_of_bind made
    rw [run_bind_of_ok first]
    exact (h x).take rest xs made
  stop s e stopped := by
    cases first : action.run s with
    | mk outcome rest =>
        cases outcome with
        | error e' =>
            rw [run_bind_of_error first] at stopped ⊢
            exact stopped
        | ok x =>
            rw [run_bind_of_ok first] at stopped ⊢
            exact (h x).stop rest e stopped

end Prolongs

theorem times_hasLength (action : Generate α) (n : Nat) : HasLength (times n action) n := by
  induction n with
  | zero => exact .nil
  | succ n ih => exact .bind action fun x => ih.cons x

theorem times_prolongs (action : Generate α) (h : n ≤ m) :
    Prolongs m n (times m action) (times n action) := by
  induction n generalizing m with
  | zero => exact .nil (times_hasLength action m)
  | succ n ih =>
      obtain ⟨m, rfl⟩ := Nat.exists_eq_succ_of_ne_zero (Nat.ne_zero_of_lt h)
      exact .same action fun x => (ih (Nat.le_of_succ_le_succ h)).cons x

end Generate

variable (run : Run) (majors : List Major) (years : List AcademicYear) (professors : List Professor)
  (users : List User) (categories : List ForumCategory) {n m : Nat}

theorem studentsFrom_hasLength (registry : StudentRegistry) (n : Nat) :
    Generate.HasLength (studentsFrom run majors years professors registry n) n := by
  induction n generalizing registry with
  | zero => exact .nil
  | succ n ih => exact .bind _ fun generated => (ih generated.2).cons generated.1

/-- The registry of one student is where the next ones go on, however many these are. -/
theorem studentsFrom_prolongs (registry : StudentRegistry) (h : n ≤ m) :
    Generate.Prolongs m n (studentsFrom run majors years professors registry m)
      (studentsFrom run majors years professors registry n) := by
  induction n generalizing m registry with
  | zero => exact .nil (studentsFrom_hasLength run majors years professors registry m)
  | succ n ih =>
      obtain ⟨m, rfl⟩ := Nat.exists_eq_succ_of_ne_zero (Nat.ne_zero_of_lt h)
      exact .same _ fun generated => (ih generated.2 (Nat.le_of_succ_le_succ h)).cons generated.1

/-- More students or ordinary posts are made behind those that fewer would be, and what stops fewer of
them stops more. -/
theorem students_posts_prolongs (h : n ≤ m) :
    Generate.Prolongs m n (generateStudents run majors years professors m)
        (generateStudents run majors years professors n) ∧
      Generate.Prolongs m n (generateOrdinaryPosts run users categories m)
        (generateOrdinaryPosts run users categories n) :=
  ⟨studentsFrom_prolongs run majors years professors .empty h, Generate.times_prolongs _ h⟩

theorem students_posts_prolongs_two : 1 ≤ 2 ∧
    ((generateStudents ⟨.epoch, 1⟩ [.sample] [.sample] [] 2).run (.ofSeed 0)).1 =
      .error (.error (.missingParents "students" "professors")) ∧
    ∃ posts, ((generateOrdinaryPosts ⟨.epoch, 1⟩ [.sample] [.sample] 2).run (.ofSeed 0)).1 =
        .ok posts ∧ posts.length = 2 ∧
      ((generateOrdinaryPosts ⟨.epoch, 1⟩ [.sample] [.sample] 1).run (.ofSeed 0)).1 =
        .ok (posts.take 1) := by
  obtain ⟨students, posts⟩ := students_posts_prolongs ⟨.epoch, 1⟩ [.sample] [.sample] [] [.sample]
    [.sample] (by decide : 1 ≤ 2)
  have stopped : ((generateStudents ⟨.epoch, 1⟩ [.sample] [.sample] [] 1).run (.ofSeed 0)).1 =
      .error (.error (.missingParents "students" "professors")) := by decide +kernel
  refine ⟨by decide, students.stop _ _ stopped, ?_⟩
  have supplies : PostSupplies ⟨.epoch, 1⟩ [.sample] [.sample] := ⟨by simp, by simp, by decide⟩
  have ended := (ForumPost.generateOrdinary_drawn ⟨.epoch, 1⟩ [.sample] [.sample]).times 2
  obtain ⟨made, drawn, -⟩ | ⟨e, -, hindered⟩ := ended.of_run (.ofSeed 0)
  · exact ⟨made, drawn, posts.length_longer _ _ drawn, posts.take _ _ drawn⟩
  · exact absurd hindered (supplies.not_hindered (by decide) e)

end University
