import University.Proofs.Account.Registry

/-! # Refusals are final

A year and a major that are refused an ID are refused every later one for the same reason. A refusal
leaves their sequence where it is, no other call moves it, and IDs that are taken stay taken.
-/

namespace University

namespace StudentRegistry

variable {r later : StudentRegistry} {year : Int32} {major : String} {h : Halt}

/-- Why the next ID of a year and a major is refused. -/
inductive Refused (r : StudentRegistry) (year : Int32) (major : String) : Halt → Prop where
  | exhausted : lastSequence < r.nextSequence year major →
    Refused r year major (.error (.studentSequenceExhausted major year))
  | overflow : r.nextSequence year major ≤ lastSequence →
    studentId? year major (r.nextSequence year major) = none → Refused r year major .overflow
  | duplicate (id : String) : r.nextSequence year major ≤ lastSequence →
    studentId? year major (r.nextSequence year major) = some id → id ∈ r.assigned →
    Refused r year major (.error (.duplicateStudentId id))

theorem Refused.issue_eq (refused : r.Refused year major h) : r.issue year major = (.error h, r) := by
  unfold issue
  cases refused with
  | exhausted full => simp only [if_pos full]
  | overflow room made => simp only [if_neg (Nat.not_lt.mpr room), made]
  | duplicate id room made used =>
      obtain ⟨-, outcome⟩ | ⟨free, -⟩ := r.take_cases id
      · simp only [if_neg (Nat.not_lt.mpr room), made, outcome]
      · exact absurd used free

theorem refused_of_issue (refusal : (r.issue year major).1 = .error h) : r.Refused year major h := by
  unfold issue at refusal
  dsimp only at refusal
  split at refusal
  · rename_i full
    cases refusal
    exact .exhausted full
  · rename_i below
    have room := Nat.not_lt.mp below
    cases made : studentId? year major (r.nextSequence year major) with
    | none =>
        simp only [made] at refusal
        cases refusal
        exact .overflow room made
    | some id =>
        obtain ⟨used, outcome⟩ | ⟨-, outcome⟩ := r.take_cases id
        · simp only [made, outcome] at refusal
          cases refusal
          exact .duplicate id room made used
        · simp only [made, outcome, reduceCtorEq] at refusal

/-- Where the sequence stays and IDs are only added, the reason stays the same. -/
theorem Refused.of_grown (refused : r.Refused year major h)
    (same : later.nextSequence year major = r.nextSequence year major)
    (grown : ∀ id ∈ r.assigned, id ∈ later.assigned) : later.Refused year major h := by
  cases refused with
  | exhausted full => exact .exhausted (same ▸ full)
  | overflow room made => exact .overflow (same ▸ room) (same ▸ made)
  | duplicate id room made used => exact .duplicate id (same ▸ room) (same ▸ made) (grown id used)

theorem mem_insert_of_mem {id other : String} (h : other ∈ r.assigned) :
    other ∈ r.assigned.insert id :=
  Std.HashSet.mem_insert.mpr (.inr h)

/-- No call puts an end to a refusal. -/
theorem Refused.perform (refused : r.Refused year major h) (call : RegistryCall) :
    (r.perform call).2.Refused year major h := by
  cases call with
  | assign year' major' =>
      obtain ⟨h', outcome⟩ | ⟨id, -, -, -, outcome⟩ := r.issue_cases year' major'
      · rwa [StudentRegistry.perform, outcome]
      · -- What is issued is issued for another year or another major.
        have different : ((year', major') == (year, major)) = false := by
          rw [beq_eq_false_iff_ne]
          rintro ⟨⟩
          cases refused.issue_eq.symm.trans outcome
        rw [StudentRegistry.perform, outcome]
        refine refused.of_grown ?_ fun _ => mem_insert_of_mem
        simp only [nextSequence, Std.HashMap.getD_insert, different, Bool.false_eq_true, if_false]
  | claim id =>
      obtain ⟨-, outcome⟩ | ⟨-, outcome⟩ := r.take_cases id
      · simpa only [StudentRegistry.perform, outcome]
      · simp only [StudentRegistry.perform, outcome]
        exact refused.of_grown rfl fun _ => mem_insert_of_mem

/-- Whatever is called, a year and a major that are refused get one answer. -/
theorem Refused.answers (refused : r.Refused year major h) (calls : List RegistryCall)
    {answer : Except Halt String} (hanswer : (.assign year major, answer) ∈ (r.performAll calls).1) :
    answer = .error h := by
  induction calls generalizing r with
  | nil => cases hanswer
  | cons call rest ih =>
      rcases List.mem_cons.mp hanswer with now | later
      · cases now
        exact congrArg Prod.fst refused.issue_eq
      · exact ih (refused.perform call) later

/-- Once a year and a major are refused, the rest of the run refuses them with the same error, whatever
else is called in between. -/
theorem refusal_final (r : StudentRegistry) (calls : List RegistryCall) (before after : RegistryLog)
    (year : Int32) (major : String) (h : Halt)
    (hlog : (r.performAll calls).1 = before ++ (.assign year major, .error h) :: after) :
    ∀ answer, (.assign year major, answer) ∈ after → answer = .error h := by
  induction calls generalizing r before with
  | nil => simp [performAll] at hlog
  | cons call rest ih =>
      rw [performAll] at hlog
      cases before with
      | nil =>
          obtain ⟨first, rfl⟩ := List.cons.inj hlog
          obtain ⟨rfl, refusal⟩ := Prod.mk.inj first
          have refused := refused_of_issue refusal
          exact fun answer => (refused.perform _).answers rest
      | cons entry before => exact ih _ before (List.cons.inj hlog).2

theorem refusal_final_claimed :
    let calls := [.claim "43010001", .assign 2000 "01", .claim "", .assign 2000 "01"]
    let refusal : Except Halt String := .error (.error (.duplicateStudentId "43010001"))
    ∃ between answer, (empty.performAll calls).1 =
      [(.claim "43010001", .ok "43010001")] ++ (.assign 2000 "01", refusal) ::
        [between, (.assign 2000 "01", answer)] ∧ answer = refusal := by
  intro calls refusal
  have claimed : (empty.perform (.claim "43010001")).1 = .ok "43010001" := by
    simp [perform, take, empty]
  have refused : (empty.perform (.claim "43010001")).2.Refused 2000 "01"
      (.error (.duplicateStudentId "43010001")) := by
    have next : (empty.perform (.claim "43010001")).2.nextSequence 2000 "01" = 1 := by
      simp [perform, take, empty, nextSequence]
    refine .duplicate _ ?_ ?_ ?_
    · rw [next]
      decide
    · rw [next]
      decide +kernel
    · simp [perform, take, empty]
  obtain ⟨between, answer, log⟩ : ∃ between answer, (empty.performAll calls).1 =
      [(.claim "43010001", (empty.perform (.claim "43010001")).1)] ++
        (.assign 2000 "01", ((empty.perform (.claim "43010001")).2.issue 2000 "01").1) ::
          [between, (.assign 2000 "01", answer)] := ⟨_, _, rfl⟩
  rw [claimed, refused.issue_eq] at log
  exact ⟨between, answer, log, refusal_final _ _ _ _ _ _ _ log answer (by simp)⟩

end StudentRegistry

end University
