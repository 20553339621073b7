import Mathlib.Data.List.Nodup
import University.Proofs.Table.Fields

/-! # Documents read back

A document holds its records as they are shown: reading it gives exactly the list that it was made from,
unless a record of the list has a leap second inside a minute. Different lists without such seconds have
different documents.
-/

namespace University

open Time

/-- Where no key is repeated, the last member with a key is the only one. -/
theorem Json.lookup_of_nodup {members : List (String × Json)} (nodup : (members.map (·.1)).Nodup)
    {key : String} {v : Json} (h : (key, v) ∈ members) : Json.lookup key members = some v := by
  rw [lookup]
  cases found : members.reverse.find? fun m => m.1 == key with
  | none =>
      have absent := List.find?_eq_none.mp found (key, v) (List.mem_reverse.mpr h)
      simp at absent
  | some m =>
      have same_key : m.1 = key := by simpa using List.find?_some found
      have mem : m ∈ members := List.mem_reverse.mp (List.mem_of_find?_eq_some found)
      rw [List.inj_on_of_nodup_map nodup mem h same_key]
      rfl

namespace Record

variable {α : Type} [Record α]

/-- The doubles that a record holds. -/
def doubles (r : α) : List Float := (row r).flatMap Value.doubles

theorem mem_doubles {r : α} {f : Field α} (hf : f ∈ fields) {x : Float}
    (hx : x ∈ (f.value r).doubles) : x ∈ doubles r :=
  List.mem_flatMap.mpr ⟨f.value r, List.mem_map.mpr ⟨f, hf, rfl⟩, hx⟩

variable [LawfulRecord α]

theorem lookup_json (r : α) {f : Field α} (hf : f ∈ fields) :
    Json.lookup f.name (fields.map fun f => (f.name, f.json r)) = some (f.json r) := by
  apply Json.lookup_of_nodup
  · have nodup := LawfulRecord.nodup_names (α := α)
    rw [Schema.columnNames, schema, List.map_map] at nodup
    rw [List.map_map]
    exact nodup
  · exact List.mem_map.mpr ⟨f, hf, rfl⟩

/-- A record is read from its object, if it is shown as it is. -/
theorem read?_json_iff (r : α) : read? (json r) = some r ↔ Regular r := by
  -- Names are not repeated, so looking up every field gives back the members in their order.
  have members_eq : (fields.map fun f : Field α => Json.lookup f.name
      (fields.map fun f => (f.name, f.json r))) = fields.map fun f => some (f.json r) :=
    List.map_congr_left fun f hf => lookup_json r hf
  rw [json, read?, members_eq, LawfulRecord.ofMembers?_json_iff]

theorem readable_json {r : α} (h : ∀ x ∈ doubles r, Json.ReadsBack x) : (json r).Readable := by
  apply Json.Readable.object
  intro m hm
  obtain ⟨f, hf, rfl⟩ := List.mem_map.mp hm
  dsimp only
  rw [LawfulRecord.json_value r hf]
  exact Value.readable_json fun x hx => h x (mem_doubles hf hx)

/-- A document is read as the objects of its records. -/
theorem read?_document {rs : List α} (h : ∀ r ∈ rs, ∀ x ∈ doubles r, Json.ReadsBack x) :
    Json.read? (document rs) = some (.array (rs.map json)) := by
  apply Json.read?_pretty
  apply Json.Readable.array
  intro v hv
  obtain ⟨r, hr, rfl⟩ := List.mem_map.mp hv
  exact readable_json (h r hr)

/-- A list of records is read from its document, if all of them are shown as they are. -/
theorem readDocument?_document_iff {rs : List α}
    (h : ∀ r ∈ rs, ∀ x ∈ doubles r, Json.ReadsBack x) :
    readDocument? (document rs) = some rs ↔ ∀ r ∈ rs, Regular r := by
  have items : readDocument? (document rs) = (rs.map json).mapM (read? (α := α)) := by
    rw [readDocument?, read?_document h]
    rfl
  rw [items]
  clear items h
  induction rs with
  | nil => simp
  | cons r rs ih =>
      have rest : (rs.map json).mapM read? = some rs ↔ ∀ r ∈ rs, Regular r := ih
      rw [List.forall_mem_cons, ← read?_json_iff, ← rest]
      simp [Option.bind_eq_some_iff, and_left_comm]

end Record

/-- Reading the document of a table gives the records that it was made from exactly if none of them has a
leap second inside a minute, and no other list without such seconds has the same document. The doubles of
the records are finite and, as far as they occur, read back from the texts that are written for them. -/
theorem Table.readDocument?_batch (t : Table) (rs : List t.Entry)
    (finite : ∀ r ∈ rs, ∀ x ∈ Record.doubles r, Decimal.Finite x)
    (assumed : ∀ r ∈ rs, ∀ x ∈ Record.doubles r, Decimal.Finite x → Json.ReadsBack x) :
    (Record.readDocument? (Batch.ofRecords rs).document = some rs ↔ ∀ r ∈ rs, Record.Regular r) ∧
      ((∀ r ∈ rs, Record.Regular r) →
        ∀ others : List t.Entry, (∀ r ∈ others, ∀ x ∈ Record.doubles r, Decimal.Finite x) →
          (∀ r ∈ others, ∀ x ∈ Record.doubles r, Decimal.Finite x → Json.ReadsBack x) →
          (∀ r ∈ others, Record.Regular r) →
          (Batch.ofRecords others).document = (Batch.ofRecords rs).document → others = rs) := by
  have read_iff {rs : List t.Entry} (finite : ∀ r ∈ rs, ∀ x ∈ Record.doubles r, Decimal.Finite x)
      (assumed : ∀ r ∈ rs, ∀ x ∈ Record.doubles r, Decimal.Finite x → Json.ReadsBack x) :
      Record.readDocument? (Batch.ofRecords rs).document = some rs ↔ ∀ r ∈ rs, Record.Regular r :=
    Record.readDocument?_document_iff fun r hr x hx => assumed r hr x hx (finite r hr x hx)
  refine ⟨read_iff finite assumed, fun regular others finite' assumed' regular' same => ?_⟩
  have read := (read_iff finite assumed).mpr regular
  have read' := (read_iff finite' assumed').mpr regular'
  rw [same, read] at read'
  exact (Option.some.inj read').symm

/-- A building whose name needs escapes, made in a leap second, with coordinates that read back. -/
def sampleBuilding : Building where
  id := "b-1"
  name := "Hall \"A\"\n\\\u2028🏛"
  coordinates := ⟨13.7563, -100.5⟩
  createdAt := .leap2016

theorem Table.readDocument?_batch_sample :
    ((∀ r ∈ [sampleBuilding], ∀ x ∈ Record.doubles r, Decimal.Finite x) ∧
      ∀ r ∈ [sampleBuilding], ∀ x ∈ Record.doubles r, Decimal.Finite x → Json.ReadsBack x) ∧
    Record.readDocument? (Batch.ofRecords [sampleBuilding]).document = some [sampleBuilding] := by
  have finite : ∀ r ∈ [sampleBuilding], ∀ x ∈ Record.doubles r, Decimal.Finite x := by
    decide +kernel
  have reads : ∀ r ∈ [sampleBuilding], ∀ x ∈ Record.doubles r, Decimal.Finite x →
      Json.ReadsBack x := by
    decide +kernel
  have regular : ∀ r ∈ [sampleBuilding], Record.Regular r := by decide +kernel
  exact ⟨⟨finite, reads⟩, (readDocument?_batch .buildings [sampleBuilding] finite reads).1.mpr regular⟩

/-- A class that starts at the given time of day. -/
def eveningClass (startsAt : TimeOfDay) : SubjectSchedule :=
  ⟨"c", "s", .sunday, startsAt, .midnight⟩

/-- The leap second behind 20:19:23, and the second that comes next. -/
def Time.TimeOfDay.leapInside : TimeOfDay := ⟨73163, 1000000000, by decide, by decide⟩

@[inherit_doc Time.TimeOfDay.leapInside]
def Time.TimeOfDay.nextInside : TimeOfDay := ⟨73164, 0, by decide, longSecond_pos⟩

/-- A leap second inside a minute is read back as the second that comes next, with which it shares its
text: different lists of classes, which hold no doubles at all, have one document. -/
theorem Table.not_forall_readDocument?_batch :
    ¬∀ (t : Table) (rs : List t.Entry), (∀ r ∈ rs, ∀ x ∈ Record.doubles r, Decimal.Finite x) →
      (∀ r ∈ rs, ∀ x ∈ Record.doubles r, Decimal.Finite x → Json.ReadsBack x) →
      Record.readDocument? (Batch.ofRecords rs).document = some rs := by
  intro claimed
  have no_doubles (startsAt : TimeOfDay) : ∀ r ∈ [eveningClass startsAt], Record.doubles r = [] := by
    rintro r hr
    cases List.mem_singleton.mp hr
    rfl
  have read (startsAt : TimeOfDay) := claimed .subjectSchedules [eveningClass startsAt]
    (fun r hr x hx => by rw [no_doubles startsAt r hr] at hx; cases hx)
    (fun r hr x hx => by rw [no_doubles startsAt r hr] at hx; cases hx)
  have texts : TimeOfDay.nextInside.documentText = TimeOfDay.leapInside.documentText := by
    decide +kernel
  have objects : Record.json (eveningClass .nextInside) = Record.json (eveningClass .leapInside) := by
    simp [Record.json, Record.fields, Field.of, eveningClass, FieldType.json, texts]
  have documents : (Batch.ofRecords [eveningClass .nextInside]).document =
      (Batch.ofRecords [eveningClass .leapInside]).document := by
    simp only [Batch.ofRecords, Record.document, List.map_cons, List.map_nil, objects]
  have same := (read .nextInside).symm.trans ((congrArg _ documents).trans (read .leapInside))
  exact absurd (Option.some.inj same) (by decide)

end University
