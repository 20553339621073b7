import Mathlib.Data.List.Nodup
import University.Account.Registry

/-! # Runs of the student registry

A run is a list of calls, each of which asks for the next ID of a year and a major or claims an ID that
was made elsewhere. The log of the run tells everything about the registry after it: which IDs are
taken, how far every sequence has come, and what the next call is answered. A call that fails leaves
the registry as it was.
-/

namespace University

/-- A call to the registry. -/
inductive RegistryCall where
  | assign (gregorianYear : Int32) (majorRepresentativeId : String)
  | claim (id : String)
  deriving DecidableEq

/-- Calls with their answers. A call that succeeds is answered with the ID that it takes. -/
abbrev RegistryLog := List (RegistryCall × Except Halt String)

namespace StudentRegistry

/-- The answer to a call and the registry after it. -/
def perform (r : StudentRegistry) : RegistryCall → Except Halt String × StudentRegistry
  | .assign year major => r.issue year major
  | .claim id =>
    match r.take id with
    | (.ok (), taken) => (.ok id, taken)
    | (.error e, taken) => (.error (.error e), taken)

/-- The log of a run and the registry after it. -/
def performAll (r : StudentRegistry) : List RegistryCall → RegistryLog × StudentRegistry
  | [] => ([], r)
  | call :: rest =>
    let answered := r.perform call
    let continued := answered.2.performAll rest
    ((call, answered.1) :: continued.1, continued.2)

end StudentRegistry

namespace RegistryLog

/-- The IDs that are taken. -/
def taken (log : RegistryLog) : List String := log.filterMap fun entry => entry.2.toOption

def issued (log : RegistryLog) (year : Int32) (major : String) : List String :=
  taken (log.filter fun entry => entry.1 = .assign year major)

/-- What the next call for a year and a major is answered. -/
def nextAnswer (log : RegistryLog) (year : Int32) (major : String) : Except Halt String :=
  let count := (log.issued year major).length
  if count = lastSequence then
    .error (.error (.studentSequenceExhausted major year))
  else
    match studentId? year major (count + 1) with
    | none => .error .overflow
    | some id => if id ∈ log.taken then .error (.error (.duplicateStudentId id)) else .ok id

section Append

variable (log : RegistryLog) (call : RegistryCall) (year : Int32) (major id : String)

theorem taken_append (more : RegistryLog) :
    taken (log ++ more) = log.taken ++ more.taken :=
  List.filterMap_append

theorem issued_append (more : RegistryLog) :
    issued (log ++ more) year major = log.issued year major ++ more.issued year major := by
  rw [issued, List.filter_append, taken_append]
  rfl

@[simp]
theorem taken_error (h : Halt) : taken [(call, .error h)] = [] := rfl

@[simp]
theorem taken_ok : taken [(call, .ok id)] = [id] := rfl

@[simp]
theorem issued_error (h : Halt) : issued [(call, .error h)] year major = [] := by
  by_cases same : call = .assign year major
  · simp [issued, same]
  · simp [issued, same, taken]

theorem issued_ok : issued [(call, .ok id)] year major =
    if call = .assign year major then [id] else [] := by
  by_cases same : call = .assign year major
  · simp [issued, same]
  · simp [issued, same, taken]

end Append

end RegistryLog

namespace StudentRegistry

variable {r : StudentRegistry} {log : RegistryLog} {year : Int32} {major id : String}

/-- What the log of a run tells about the registry after it. -/
structure Records (r : StudentRegistry) (log : RegistryLog) : Prop where
  nodup : log.taken.Nodup
  mem_assigned : ∀ id, id ∈ r.assigned ↔ id ∈ log.taken
  size_eq : r.size = log.taken.length
  sequence_eq : ∀ year major, r.sequences[(year, major)]? =
    if log.issued year major = [] then none else some (log.issued year major).length
  length_le : ∀ year major, (log.issued year major).length ≤ lastSequence
  issued_eq : ∀ year major, (log.issued year major).map some =
    (List.range (log.issued year major).length).map fun k => studentId? year major (k + 1)

theorem empty_records : empty.Records [] where
  nodup := List.nodup_nil
  mem_assigned _ := by simp [empty, RegistryLog.taken]
  size_eq := rfl
  sequence_eq _ _ := by simp [empty, RegistryLog.issued, RegistryLog.taken]
  length_le _ _ := Nat.zero_le _
  issued_eq _ _ := rfl

section Step

/-- What taking an ID does. -/
theorem take_cases (r : StudentRegistry) (id : String) :
    (id ∈ r.assigned ∧ r.take id = (.error (.duplicateStudentId id), r)) ∨
      (id ∉ r.assigned ∧ r.take id = (.ok (), { r with assigned := r.assigned.insert id })) := by
  unfold take
  split
  · rename_i taken
    exact .inl ⟨taken, rfl⟩
  · rename_i free
    exact .inr ⟨free, rfl⟩

/-- What issuing an ID does. -/
theorem issue_cases (r : StudentRegistry) (year : Int32) (major : String) :
    (∃ h, r.issue year major = (.error h, r)) ∨
      ∃ id, r.nextSequence year major ≤ lastSequence ∧
        studentId? year major (r.nextSequence year major) = some id ∧ id ∉ r.assigned ∧
        r.issue year major = (.ok id,
          ⟨r.sequences.insert (year, major) (r.nextSequence year major), r.assigned.insert id⟩) := by
  unfold issue
  dsimp only
  split
  · exact .inl ⟨_, rfl⟩
  · rename_i room
    cases made : studentId? year major (r.nextSequence year major) with
    | none => exact .inl ⟨_, rfl⟩
    | some id =>
        obtain ⟨-, outcome⟩ | ⟨free, outcome⟩ := r.take_cases id
        · exact .inl ⟨_, by simp only [outcome]; rfl⟩
        · exact .inr ⟨id, by omega, rfl, free, by simp only [outcome]⟩

theorem Records.of_error (hr : r.Records log) (call : RegistryCall) (h : Halt) :
    r.Records (log ++ [(call, .error h)]) := by
  obtain ⟨nodup, mem_assigned, size_eq, sequence_eq, length_le, issued_eq⟩ := hr
  constructor
  all_goals
    simpa only [RegistryLog.taken_append, RegistryLog.issued_append, RegistryLog.taken_error,
      RegistryLog.issued_error, List.append_nil]

theorem Records.nextSequence_eq (hr : r.Records log) (year : Int32) (major : String) :
    r.nextSequence year major = (log.issued year major).length + 1 := by
  rw [nextSequence, Std.HashMap.getD_eq_getD_getElem?, hr.sequence_eq]
  split
  · rename_i none_issued
    rw [none_issued]
    rfl
  · rfl

theorem Records.nodup_concat (hr : r.Records log) (free : id ∉ r.assigned) :
    (log.taken ++ [id]).Nodup := by
  refine hr.nodup.append (by simp) ?_
  simpa using (hr.mem_assigned id).not.mp free

theorem Records.mem_insert (hr : r.Records log) (id other : String) :
    other ∈ r.assigned.insert id ↔ other ∈ log.taken ++ [id] := by
  rw [Std.HashSet.mem_insert, hr.mem_assigned, List.mem_append, List.mem_singleton, beq_iff_eq,
    eq_comm, or_comm]

theorem Records.size_insert (hr : r.Records log) (free : id ∉ r.assigned) :
    (r.assigned.insert id).size = (log.taken ++ [id]).length := by
  rw [Std.HashSet.size_insert, if_neg free, List.length_append]
  exact congrArg (· + 1) hr.size_eq

theorem Records.of_claim (hr : r.Records log) (free : id ∉ r.assigned) :
    Records { r with assigned := r.assigned.insert id } (log ++ [(.claim id, .ok id)]) := by
  have none_issued : ∀ year major, RegistryLog.issued [(.claim id, .ok id)] year major = [] := by
    intro year major
    rw [RegistryLog.issued_ok, if_neg nofun]
  constructor
  · rw [RegistryLog.taken_append]
    exact hr.nodup_concat free
  · intro other
    rw [RegistryLog.taken_append]
    exact hr.mem_insert id other
  · rw [RegistryLog.taken_append]
    exact hr.size_insert free
  all_goals
    intro year major
    rw [RegistryLog.issued_append, none_issued, List.append_nil]
  · exact hr.sequence_eq year major
  · exact hr.length_le year major
  · exact hr.issued_eq year major

theorem Records.of_assign (hr : r.Records log) (room : r.nextSequence year major ≤ lastSequence)
    (made : studentId? year major (r.nextSequence year major) = some id) (free : id ∉ r.assigned) :
    Records ⟨r.sequences.insert (year, major) (r.nextSequence year major), r.assigned.insert id⟩
      (log ++ [(.assign year major, .ok id)]) := by
  rw [hr.nextSequence_eq] at *
  constructor
  · rw [RegistryLog.taken_append]
    exact hr.nodup_concat free
  · intro other
    rw [RegistryLog.taken_append]
    exact hr.mem_insert id other
  · rw [RegistryLog.taken_append]
    exact hr.size_insert free
  all_goals
    intro otherYear otherMajor
    rw [RegistryLog.issued_append, RegistryLog.issued_ok]
    by_cases same : RegistryCall.assign year major = .assign otherYear otherMajor
  · cases same
    simp
  · have different : ((year, major) == (otherYear, otherMajor)) = false := by
      simpa using same
    rw [if_neg same, List.append_nil, Std.HashMap.getElem?_insert, different]
    exact hr.sequence_eq otherYear otherMajor
  · cases same
    simpa using room
  · rw [if_neg same, List.append_nil]
    exact hr.length_le otherYear otherMajor
  · cases same
    simp [hr.issued_eq, List.range_succ, made]
  · rw [if_neg same, List.append_nil]
    exact hr.issued_eq otherYear otherMajor

/-- A call is recorded with its answer. -/
theorem Records.perform (hr : r.Records log) (call : RegistryCall) :
    (r.perform call).2.Records (log ++ [(call, (r.perform call).1)]) := by
  cases call with
  | assign year major =>
      obtain ⟨h, outcome⟩ | ⟨id, room, made, free, outcome⟩ := r.issue_cases year major
      · rw [StudentRegistry.perform, outcome]
        exact hr.of_error _ h
      · rw [StudentRegistry.perform, outcome]
        exact hr.of_assign room made free
  | claim id =>
      obtain ⟨-, outcome⟩ | ⟨free, outcome⟩ := r.take_cases id
      · simp only [StudentRegistry.perform, outcome]
        exact hr.of_error _ _
      · simp only [StudentRegistry.perform, outcome]
        exact hr.of_claim free

end Step

section Run

theorem Records.performAll (hr : r.Records log) (calls : List RegistryCall) :
    (r.performAll calls).2.Records (log ++ (r.performAll calls).1) := by
  induction calls generalizing r log with
  | nil =>
      rw [StudentRegistry.performAll, List.append_nil]
      exact hr
  | cons call rest ih =>
      have continued := ih (hr.perform call)
      rw [List.append_assoc] at continued
      exact continued

theorem map_performAll (r : StudentRegistry) (calls : List RegistryCall) :
    (r.performAll calls).1.map (·.1) = calls := by
  induction calls generalizing r with
  | nil => rfl
  | cons call rest ih =>
      rw [performAll, List.map_cons, ih]

/-- Calls that fail change nothing. -/
theorem perform_succeeds_or_unchanged (r : StudentRegistry) (call : RegistryCall) :
    (∃ id, (r.perform call).1 = .ok id) ∨ (r.perform call).2 = r := by
  cases call with
  | assign year major =>
      obtain ⟨h, outcome⟩ | ⟨id, -, -, -, outcome⟩ := r.issue_cases year major
      · exact .inr (congrArg Prod.snd outcome)
      · exact .inl ⟨id, congrArg Prod.fst outcome⟩
  | claim id =>
      obtain ⟨-, outcome⟩ | ⟨-, outcome⟩ := r.take_cases id
      · exact .inr (by simp only [perform, outcome])
      · exact .inl ⟨id, by simp only [perform, outcome]⟩

/-- The log decides what the next call for a year and a major is answered. -/
theorem Records.issue_eq (hr : r.Records log) (year : Int32) (major : String) :
    (r.issue year major).1 = log.nextAnswer year major := by
  have below := hr.length_le year major
  unfold issue RegistryLog.nextAnswer
  rw [hr.nextSequence_eq]
  dsimp only
  by_cases full : (log.issued year major).length = lastSequence
  · rw [if_pos (by omega), if_pos full]
  · rw [if_neg (by omega), if_neg full]
    cases made : studentId? year major ((log.issued year major).length + 1) with
    | none => rfl
    | some id =>
        obtain ⟨used, outcome⟩ | ⟨free, outcome⟩ := r.take_cases id
        · simp only [outcome, if_pos ((hr.mem_assigned id).mp used)]
        · simp only [outcome, if_neg ((hr.mem_assigned id).not.mp free)]

/-- Every run of a registry that starts empty, with any calls in any order. -/
theorem run_recorded (calls : List RegistryCall) :
    let (log, r) := empty.performAll calls
    log.map (·.1) = calls ∧ r.Records log ∧
      (∀ year major, (r.perform (.assign year major)).1 = log.nextAnswer year major) ∧
      ∀ call, (∃ id, (r.perform call).1 = .ok id) ∨ (r.perform call).2 = r := by
  have recorded := empty_records.performAll calls
  rw [List.nil_append] at recorded
  exact ⟨map_performAll _ _, recorded, recorded.issue_eq, perform_succeeds_or_unchanged _⟩

end Run

end StudentRegistry

end University
