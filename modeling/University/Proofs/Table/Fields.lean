import University.Dataset.Table
import University.Proofs.Json.RoundTrip
import University.Proofs.Time.Texts

/-! # Fields in rows and in documents

A field is documented as the value that is stored in its row, and what the value shows is read back from
there. That is the value itself, unless it is in a leap second inside a minute. The types of fields differ
in how they are stored, so each of them is looked at once; a record then has nothing to add but the order
of its fields.
-/

namespace University

open Time

section Values

/-- The doubles that a value holds. -/
def Value.doubles : Value → List Float
  | .double x => [x]
  | .point p => [p.x, p.y]
  | _ => []

/-- What the texts of a value show. Leap seconds inside a minute have the texts of the seconds that come
next; all other values are shown as they are. -/
def Value.shown : Value → Value
  | .timestamp t => .timestamp t.shown
  | .nullableTimestamp t => .nullableTimestamp (t.map Instant.shown)
  | .time t => .time t.shown
  | v => v

/-- A value that is shown as it is. -/
def Value.Regular (v : Value) : Prop := v.shown = v

instance (v : Value) : Decidable v.Regular :=
  match v with
  | .timestamp t => decidable_of_iff t.Regular (by simp [Value.Regular, Value.shown, Instant.shown_eq_iff])
  | .nullableTimestamp none => .isTrue rfl
  | .nullableTimestamp (some t) =>
    decidable_of_iff t.Regular (by simp [Value.Regular, Value.shown, Instant.shown_eq_iff])
  | .time t => decidable_of_iff t.Regular (by simp [Value.Regular, Value.shown, TimeOfDay.shown_eq_iff])
  | .text _ | .integer _ | .double _ | .boolean _ | .point _ => .isTrue rfl

theorem int32?_toInt (n : Int32) : int32? n.toInt = some n := by
  have lower := n.le_toInt
  have upper := n.toInt_lt
  rw [int32?, if_pos (by omega), Int32.ofInt_toInt]

theorem Json.instant?_documentText (t : Instant) :
    Json.instant? (.string t.documentText) = some t.shown := by
  simp [Json.instant?, Json.string?, t.read_documentText, Except.toOption]

theorem Json.timeOfDay?_documentText (t : TimeOfDay) :
    Json.timeOfDay? (.string t.documentText) = some t.shown := by
  simp [Json.timeOfDay?, Json.string?, t.read_documentText, Except.toOption]

/-- The kind of a column tells what a value shows from its JSON form. -/
theorem ColumnKind.read?_json (v : Value) : v.kind.read? v.json = some v.shown := by
  cases v with
  | text s => rfl
  | integer n =>
      simp [Value.kind, Value.json, Value.shown, read?, Json.int32?, Json.integer?, int32?_toInt]
  | double x => rfl
  | boolean b => rfl
  | timestamp t => simp [Value.kind, Value.json, Value.shown, read?, Json.instant?_documentText]
  | nullableTimestamp t =>
      cases t with
      | none => rfl
      | some t => simp [Value.kind, Value.json, Value.shown, read?, Json.instant?_documentText]
  | point p => rfl
  | time t => simp [Value.kind, Value.json, Value.shown, read?, Json.timeOfDay?_documentText]

/-- A value is read back from a document as soon as its doubles are. -/
theorem Value.readable_json {v : Value} (h : ∀ x ∈ v.doubles, Json.ReadsBack x) :
    v.json.Readable := by
  cases v with
  | text s => exact .string s
  | integer n =>
      have lower := n.le_toInt
      have upper := n.toInt_lt
      refine .integer ?_ ?_
      · simp only [Decimal.greatestSigned]
        omega
      · simp only [Decimal.greatestUnsigned]
        omega
  | double x => exact .double (h x List.mem_cons_self)
  | boolean b => exact .bool b
  | timestamp t => exact .string _
  | nullableTimestamp t =>
      cases t with
      | none => exact .null
      | some t => exact .string _
  | point p =>
      apply Json.Readable.object
      simp only [List.mem_cons, List.not_mem_nil, or_false]
      rintro m (rfl | rfl)
      · exact .double (h p.x (by simp [doubles]))
      · exact .double (h p.y (by simp [doubles]))
  | time t => exact .string _

end Values

section Types

/-- A type of fields whose JSON form is that of the stored value, and is read back as far as that is shown
as it is. -/
class LawfulFieldType (τ : Type) [FieldType τ] : Prop where
  json_eq : ∀ x : τ, FieldType.json x = (FieldType.value x).json
  read?_json_iff : ∀ x : τ,
    FieldType.read? (FieldType.json x) = some x ↔ (FieldType.value x).Regular

namespace LawfulFieldType

/-- A type whose values are all shown as they are. -/
theorem of_read?_json {τ : Type} [FieldType τ]
    (json_eq : ∀ x : τ, FieldType.json x = (FieldType.value x).json)
    (read?_json : ∀ x : τ, FieldType.read? (FieldType.json x) = some x)
    (regular : ∀ x : τ, (FieldType.value x).Regular) : LawfulFieldType τ :=
  ⟨json_eq, fun x => iff_of_true (read?_json x) (regular x)⟩

instance : LawfulFieldType String := of_read?_json (fun _ => rfl) (fun _ => rfl) fun _ => rfl

instance : LawfulFieldType Int32 := of_read?_json (fun _ => rfl) int32?_toInt fun _ => rfl

instance : LawfulFieldType Float := of_read?_json (fun _ => rfl) (fun _ => rfl) fun _ => rfl

instance : LawfulFieldType Bool := of_read?_json (fun _ => rfl) (fun _ => rfl) fun _ => rfl

instance : LawfulFieldType Instant where
  json_eq _ := rfl
  read?_json_iff t := by
    change Json.instant? (.string t.documentText) = some t ↔ Value.timestamp t.shown = .timestamp t
    rw [Json.instant?_documentText, Option.some_inj, Value.timestamp.injEq]

instance : LawfulFieldType (Option Instant) where
  json_eq t := by cases t <;> rfl
  read?_json_iff t := by
    cases t with
    | none => exact iff_of_true rfl rfl
    | some t =>
        change (Json.instant? (.string t.documentText)).map some = some (some t) ↔
          Value.nullableTimestamp (some t.shown) = .nullableTimestamp (some t)
        rw [Json.instant?_documentText, Option.map_some, Option.some_inj,
          Value.nullableTimestamp.injEq]

instance : LawfulFieldType Point := of_read?_json (fun _ => rfl) (fun _ => rfl) fun _ => rfl

instance : LawfulFieldType TimeOfDay where
  json_eq _ := rfl
  read?_json_iff t := by
    change Json.timeOfDay? (.string t.documentText) = some t ↔ Value.time t.shown = .time t
    rw [Json.timeOfDay?_documentText, Option.some_inj, Value.time.injEq]

instance : LawfulFieldType Role := by
  refine of_read?_json (fun _ => rfl) (fun r => ?_) fun _ => rfl
  change (int32? r.number.toInt).bind Role.ofNumber? = some r
  rw [int32?_toInt, Option.bind_some, Role.ofNumber?_number]

instance : LawfulFieldType Weekday := by
  refine of_read?_json (fun _ => rfl) (fun d => ?_) fun _ => rfl
  change (int32? d.number.toInt).bind Weekday.ofNumber? = some d
  rw [int32?_toInt, Option.bind_some, Weekday.ofNumber?_number]

end LawfulFieldType

theorem FieldType.member?_json_iff {τ : Type} [FieldType τ] [LawfulFieldType τ] (x : τ) :
    member? (some (json x)) = some x ↔ (value x).Regular :=
  LawfulFieldType.read?_json_iff x

end Types

section Records

/-- A record whose values are all shown as they are: its leap seconds, if it has any, end minutes. -/
def Record.Regular {α : Type} [Record α] (r : α) : Prop := ∀ v ∈ Record.row r, v.Regular

instance {α : Type} [Record α] (r : α) : Decidable (Record.Regular r) :=
  inferInstanceAs (Decidable (∀ v ∈ Record.row r, v.Regular))

/-- A type of records whose fields are stored by the kinds of their columns, documented as they are
stored, and read back in their order as far as they are shown as they are. -/
class LawfulRecord (α : Type) [Record α] : Prop where
  kinds_row : ∀ r : α, (Record.row r).map Value.kind = (Record.schema α).columnKinds
  jsons_row : ∀ r : α, Record.fields.map (fun f => f.json r) = (Record.row r).map Value.json
  nodup_names : (Record.schema α).columnNames.Nodup
  ofMembers?_json_iff : ∀ r : α,
    Record.ofMembers? (Record.fields.map fun f => some (f.json r)) = some r ↔ Record.Regular r

namespace LawfulRecord

variable {α : Type} [Record α] [LawfulRecord α] (r : α) {f : Field α}

theorem json_value (hf : f ∈ Record.fields) : f.json r = (f.value r).json := by
  have jsons := jsons_row r
  rw [Record.row, List.map_map] at jsons
  exact List.map_inj_left.mp jsons f hf

end LawfulRecord

instance (t : Table) : LawfulRecord t.Entry where
  kinds_row r := by cases t <;> rfl
  jsons_row r := by
    cases t
    all_goals simp [Record.fields, Record.row, Field.of, LawfulFieldType.json_eq]
  nodup_names := by cases t <;> decide
  ofMembers?_json_iff r := by
    cases t
    all_goals
      obtain ⟨⟩ := r
      simp [Record.fields, Record.ofMembers?, Record.Regular, Record.row, Field.of,
        Option.bind_eq_some_iff, ← FieldType.member?_json_iff, -Bool.exists_bool]

end Records

end University
