import Mathlib.Data.List.Pairwise
import University.Proofs.Account.StudentId

/-! # Runs that only admit students

Two years that are whole centuries apart write the same two digits, so that their IDs for one major
coincide. The first of such years for which an ID of the major is issued keeps all of them: in the other
years already the first ID is taken. Where no IDs come from elsewhere, this is the only way in which an
ID can be taken before it is issued.
-/

namespace University

/-- The calls that ask for an ID for every year and major of a list. -/
def admissions (keys : List (Int32 × String)) : List RegistryCall :=
  keys.map fun key => .assign key.1 key.2

namespace RegistryLog

variable {log : RegistryLog} {call call' : RegistryCall} {year : Int32} {major id : String}

/-- Another year with the same two digits has IDs of the major. -/
def Preempted (log : RegistryLog) (year : Int32) (major : String) : Prop :=
  ∃ year' ≠ year, year'.toInt % 100 = year.toInt % 100 ∧ log.issued year' major ≠ []

theorem toOption_eq_some {answer : Except Halt String} :
    answer.toOption = some id ↔ answer = .ok id := by
  cases answer with
  | ok found => simp [Except.toOption]
  | error h => simp [Except.toOption]

theorem mem_taken : id ∈ log.taken ↔ ∃ call, (call, .ok id) ∈ log := by
  simp [taken, toOption_eq_some]

theorem mem_issued : id ∈ log.issued year major ↔ (.assign year major, .ok id) ∈ log := by
  simp [issued, mem_taken]

/-- No two calls are answered with the same ID. -/
theorem call_eq_of_nodup (h : log.taken.Nodup) (hcall : (call, .ok id) ∈ log)
    (hcall' : (call', .ok id) ∈ log) : call = call' := by
  by_contra different
  have symmetric : Std.Symm fun entry entry' : RegistryCall × Except Halt String =>
      ∀ x, entry.2.toOption = some x → ∀ y, entry'.2.toOption = some y → x ≠ y :=
    ⟨fun _ _ apart x hx y hy => (apart y hy x hx).symm⟩
  have apart := (List.pairwise_filterMap.mp h).forall hcall hcall' (by simpa using different)
  exact apart id rfl id rfl rfl

end RegistryLog

namespace StudentRegistry

variable {r : StudentRegistry} {log : RegistryLog} {year year' : Int32} {major id : String}

theorem Records.getElem_issued (hr : r.Records log) {k : Nat}
    (hk : k < (log.issued year major).length) :
    studentId? year major (k + 1) = some (log.issued year major)[k] := by
  have issued := congrArg (·[k]?) (hr.issued_eq year major)
  simpa [hk] using issued.symm

theorem Records.exists_first (hr : r.Records log) (h : log.issued year major ≠ []) :
    ∃ id, studentId? year major 1 = some id ∧ (.assign year major, .ok id) ∈ log := by
  have begun := List.length_pos_iff.mpr h
  exact ⟨_, hr.getElem_issued begun, RegistryLog.mem_issued.mp (List.getElem_mem begun)⟩

/-- Of years that write the same digits, one at most has IDs of a major. -/
theorem Records.year_eq (hr : r.Records log) (century : year'.toInt % 100 = year.toInt % 100)
    (h : log.issued year major ≠ []) (h' : log.issued year' major ≠ []) : year' = year := by
  obtain ⟨id, made, first⟩ := hr.exists_first h
  obtain ⟨id', made', first'⟩ := hr.exists_first h'
  rw [studentId?_congr century made made'] at first
  cases RegistryLog.call_eq_of_nodup hr.nodup first first'
  rfl

theorem Records.issued_eq_nil (hr : r.Records log) (h : log.Preempted year major) :
    log.issued year major = [] := by
  obtain ⟨year', different, century, begun⟩ := h
  by_contra issued
  exact different (hr.year_eq century issued begun)

section Admissions

variable (hr : r.Records log) (hassign : ∀ entry ∈ log, ∃ year major, entry.1 = .assign year major)
include hr hassign

/-- The next ID of a year and a major is taken where the year is preempted, and nowhere else. -/
theorem Records.mem_taken_iff
    (made : studentId? year major ((log.issued year major).length + 1) = some id)
    (room : (log.issued year major).length < lastSequence) :
    id ∈ log.taken ↔ log.Preempted year major := by
  constructor
  · intro used
    obtain ⟨call, hcall⟩ := RegistryLog.mem_taken.mp used
    obtain ⟨year', major', rfl⟩ := hassign _ hcall
    obtain ⟨k, hk, found⟩ := List.getElem_of_mem (RegistryLog.mem_issued.mpr hcall)
    have made' := hr.getElem_issued hk
    rw [found] at made'
    have below := hr.length_le year' major'
    obtain ⟨century, rfl, position⟩ := studentId?_injective made made' (by omega) (by omega)
    refine ⟨year', ?_, century.symm, List.ne_nil_of_mem (RegistryLog.mem_issued.mpr hcall)⟩
    -- The year itself has not come as far as the number in question.
    rintro rfl
    omega
  · intro preempted
    rw [hr.issued_eq_nil preempted] at made
    obtain ⟨year', -, century, begun⟩ := preempted
    obtain ⟨first, made', issued⟩ := hr.exists_first begun
    rw [studentId?_congr century made made']
    exact RegistryLog.mem_taken.mpr ⟨_, issued⟩

end Admissions

theorem assigned_of_admissions (r : StudentRegistry) (keys : List (Int32 × String)) :
    ∀ entry ∈ (r.performAll (admissions keys)).1, ∃ year major, entry.1 = .assign year major := by
  intro entry hentry
  have asked := List.mem_map_of_mem (f := (·.1)) hentry
  rw [map_performAll] at asked
  obtain ⟨key, -, same⟩ := List.mem_map.mp asked
  exact ⟨key.1, key.2, same.symm⟩

/-- What a run that only admits students is answered next. A year and a major get the next ID up to the
last one; only where another year has preempted the digits, the first ID is taken already. -/
theorem issue_after_admissions (keys : List (Int32 × String)) (year : Int32) (major : String)
    (hyear : year.toInt + buddhistOffset ≤ 2147483647) :
    let (log, r) := empty.performAll (admissions keys)
    let count := (log.issued year major).length
    let answer := (r.issue year major).1
    count ≤ lastSequence ∧
      (count = lastSequence → answer = .error (.error (.studentSequenceExhausted major year))) ∧
      (count < lastSequence → ¬log.Preempted year major →
        ∃ id, studentId? year major (count + 1) = some id ∧ answer = .ok id) ∧
      (log.Preempted year major → count = 0 ∧
        ∃ id, studentId? year major 1 = some id ∧
          answer = .error (.error (.duplicateStudentId id))) := by
  dsimp only
  have hr := empty_records.performAll (admissions keys)
  have hassign := assigned_of_admissions empty keys
  rw [List.nil_append] at hr
  generalize empty.performAll (admissions keys) = run at *
  obtain ⟨log, r⟩ := run
  dsimp only at *
  obtain ⟨id, made⟩ :
      ∃ id, studentId? year major ((log.issued year major).length + 1) = some id :=
    ⟨_, studentId?_eq_some.mpr ⟨hyear, rfl⟩⟩
  refine ⟨hr.length_le year major, ?_, ?_, ?_⟩
  all_goals rw [hr.issue_eq, RegistryLog.nextAnswer]
  · intro full
    exact if_pos full
  · intro room own
    refine ⟨id, made, ?_⟩
    have free := (hr.mem_taken_iff hassign made room).not.mpr own
    simp only [if_neg (Nat.ne_of_lt room), made, if_neg free]
  · intro preempted
    have none_issued : (log.issued year major).length = 0 := by
      rw [hr.issued_eq_nil preempted]
      rfl
    have room : (log.issued year major).length < lastSequence := by
      rw [none_issued]
      decide
    have used := (hr.mem_taken_iff hassign made room).mpr preempted
    refine ⟨none_issued, id, by rwa [none_issued] at made, ?_⟩
    simp only [if_neg (Nat.ne_of_lt room), made, if_pos used]

theorem log_of_one (year : Int32) (major : String) :
    (empty.performAll (admissions [(year, major)])).1 =
      [(.assign year major, RegistryLog.nextAnswer [] year major)] :=
  congrArg (fun answer => [(RegistryCall.assign year major, answer)])
    (empty_records.issue_eq year major)

theorem issue_after_admissions_century :
    let (log, r) := empty.performAll (admissions [(2000, "01")])
    (2100 : Int32).toInt + buddhistOffset ≤ 2147483647 ∧ log.Preempted 2100 "01" ∧
      (r.issue 2100 "01").1 = .error (.error (.duplicateStudentId "43010001")) := by
  have hyear : (2100 : Int32).toInt + buddhistOffset ≤ 2147483647 := by decide
  have preempted : (empty.performAll (admissions [(2000, "01")])).1.Preempted 2100 "01" := by
    refine ⟨2000, by decide, by decide, ?_⟩
    rw [log_of_one]
    decide +kernel
  obtain ⟨-, -, -, later⟩ := issue_after_admissions [(2000, "01")] 2100 "01" hyear
  obtain ⟨-, id, made, answer⟩ := later preempted
  have first : studentId? 2100 "01" 1 = some "43010001" := by decide +kernel
  cases first.symm.trans made
  exact ⟨hyear, preempted, answer⟩

/-- A sequence number that is left does not always bring an ID. -/
theorem not_forall_issue_of_room : ¬∀ (keys : List (Int32 × String)) (year : Int32) (major : String),
    (∀ key ∈ keys, key.1.toInt + buddhistOffset ≤ 2147483647) →
    year.toInt + buddhistOffset ≤ 2147483647 →
    let (log, r) := empty.performAll (admissions keys)
    (log.issued year major).length < lastSequence → ∃ id, (r.issue year major).1 = .ok id := by
  intro h
  have recorded := empty_records.performAll (admissions [(2000, "01")])
  have found := h [(2000, "01")] 2100 "01" (by decide) (by decide)
  dsimp only at found
  rw [recorded.issue_eq, List.nil_append, log_of_one] at found
  obtain ⟨id, answer⟩ := found (by decide +kernel)
  have refused : RegistryLog.nextAnswer
      [(.assign 2000 "01", RegistryLog.nextAnswer [] 2000 "01")] 2100 "01" =
        .error (.error (.duplicateStudentId "43010001")) := by
    decide +kernel
  cases refused.symm.trans answer

end StudentRegistry

end University
