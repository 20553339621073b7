import University.Proofs.Decimal.Written
import University.Proofs.Json.Numbers
import University.Proofs.Json.Strings

/-! # Values read back

A written value is read back in every layout that breaks lines with white space, if its whole
numbers have 64 bits and each of its doubles is read back from its own text.
-/

namespace University.Json

section Written

mutual

/-- The characters of a value at the given depth. -/
def chars (layout : Layout) (depth : Nat) : Json → List Char
  | null => "null".toList
  | bool b => if b then "true".toList else "false".toList
  | integer n => (toString n).toList
  | double x => (Decimal.jsonText x).toList
  | string s => quoted s
  | array [] => ['[', ']']
  | array (item :: items) =>
    '[' :: (layout.lineBreak (depth + 1)).toList ++ chars layout (depth + 1) item ++
      itemsChars layout (depth + 1) items ++ (layout.lineBreak depth).toList ++ [']']
  | object [] => ['\x7b', '\x7d']
  | object ((key, value) :: members) =>
    '\x7b' :: (layout.lineBreak (depth + 1)).toList ++ quoted key ++ layout.colon.toList ++
      chars layout (depth + 1) value ++ membersChars layout (depth + 1) members ++
      (layout.lineBreak depth).toList ++ ['\x7d']

/-- The characters of the items behind the first one. -/
def itemsChars (layout : Layout) (depth : Nat) : List Json → List Char
  | [] => []
  | item :: items =>
    ',' :: (layout.lineBreak depth).toList ++ chars layout depth item ++
      itemsChars layout depth items

/-- The characters of the members behind the first one. -/
def membersChars (layout : Layout) (depth : Nat) : List (String × Json) → List Char
  | [] => []
  | (key, value) :: members =>
    ',' :: (layout.lineBreak depth).toList ++ quoted key ++ layout.colon.toList ++
      chars layout depth value ++ membersChars layout depth members

end

mutual

theorem toList_write (layout : Layout) (depth : Nat) (out : String) (v : Json) :
    (write layout depth out v).toList = out.toList ++ chars layout depth v := by
  cases v with
  | null => simp [write, chars]
  | bool b => cases b <;> simp [write, chars]
  | integer n => simp [write, chars]
  | double x => simp [write, chars]
  | string s => rw [write, toList_writeString, chars]
  | array items =>
      cases items with
      | nil => simp [write, chars]
      | cons item items =>
          simp only [write, chars, String.toList_append, toList_writeItems, toList_write]
          simp
  | object members =>
      cases members with
      | nil => simp [write, chars]
      | cons m members =>
          simp only [write, chars, String.toList_append, toList_writeMembers, toList_write,
            toList_writeString]
          simp

theorem toList_writeItems (layout : Layout) (depth : Nat) (out : String) (items : List Json) :
    (writeItems layout depth out items).toList = out.toList ++ itemsChars layout depth items := by
  cases items with
  | nil => simp [writeItems, itemsChars]
  | cons item items =>
      simp only [writeItems, itemsChars, String.toList_append, toList_writeItems, toList_write]
      simp

theorem toList_writeMembers (layout : Layout) (depth : Nat) (out : String)
    (members : List (String × Json)) :
    (writeMembers layout depth out members).toList =
      out.toList ++ membersChars layout depth members := by
  cases members with
  | nil => simp [writeMembers, membersChars]
  | cons m members =>
      simp only [writeMembers, membersChars, String.toList_append, toList_writeMembers,
        toList_write, toList_writeString]
      simp

end

end Written

section Layouts

/-- A layout whose line breaks are white space, as is what follows its colon. -/
structure Layout.Blank (layout : Layout) : Prop where
  lineBreak_space : ∀ depth, ∀ c ∈ (layout.lineBreak depth).toList, isSpace c = true
  colon_eq : ∃ blanks, layout.colon.toList = ':' :: blanks ∧ ∀ c ∈ blanks, isSpace c = true

theorem Layout.pretty_blank : Layout.pretty.Blank where
  lineBreak_space depth c hc := by
    simp only [Layout.pretty, String.toList_append, String.toList_ofList, List.mem_append] at hc
    cases hc with
    | inl line =>
        obtain rfl : c = '\n' := by simpa using line
        rfl
    | inr blank =>
        rw [List.eq_of_mem_replicate blank]
        rfl
  colon_eq := ⟨[' '], rfl, by simp [isSpace]⟩

end Layouts

section Reading

theorem skipSpace_append {blanks : List Char} (h : ∀ c ∈ blanks, isSpace c = true)
    (cs : List Char) : skipSpace (blanks ++ cs) = skipSpace cs :=
  List.dropWhile_append_of_pos h

theorem skipSpace_cons {c : Char} (h : isSpace c = false) (cs : List Char) :
    skipSpace (c :: cs) = c :: cs :=
  List.dropWhile_cons_of_neg (by simp [h])

/-- White space before a value is skipped. -/
theorem readValue_append {blanks : List Char} (h : ∀ c ∈ blanks, isSpace c = true) (fuel : Nat)
    (cs : List Char) : readValue fuel (blanks ++ cs) = readValue fuel cs := by
  cases fuel with
  | zero => rfl
  | succ fuel => rw [readValue, readValue, skipSpace_append h]

variable {fuel : Nat} {cs tail : List Char}

theorem readValue_minus : readValue (fuel + 1) ('-' :: cs) = readNumber true cs := by
  rw [readValue, skipSpace_cons rfl]
  rfl

theorem isSpace_iff {c : Char} :
    isSpace c = true ↔ c = ' ' ∨ c = '\n' ∨ c = '\t' ∨ c = '\r' := by
  simp [isSpace, or_assoc]

/-- White space neither continues a number nor belongs to one. -/
theorem stopsNumber_of_isSpace {c : Char} (h : isSpace c = true) :
    StopsNumber c ∧ ¬ Decimal.Numeral c := by
  rcases isSpace_iff.mp h with rfl | rfl | rfl | rfl
  · decide
  · decide
  · decide
  · decide

theorem isSpace_of_numeral {c : Char} (h : Decimal.Numeral c) : isSpace c = false := by
  cases space : isSpace c with
  | false => rfl
  | true => exact absurd h (stopsNumber_of_isSpace space).2

theorem readValue_numeral {c : Char} (h : Decimal.Numeral c) (unsigned : c ≠ '-') :
    readValue (fuel + 1) (c :: cs) = readNumber false (c :: cs) := by
  have other : ∀ first ∈ ['n', 't', 'f', '-', '"', '[', '\x7b'], c ≠ first := by
    rintro first hfirst rfl
    simp only [List.mem_cons, List.not_mem_nil, or_false] at hfirst
    rcases hfirst with rfl | rfl | rfl | rfl | rfl | rfl | rfl
    all_goals first | exact unsigned rfl | exact absurd h (by decide)
  rw [readValue, skipSpace_cons (isSpace_of_numeral h)]
  split
  case h_8 => rfl
  all_goals
    rename_i same
    exact absurd (List.cons.inj same).1 (other _ (by decide))

/-- A double that is read back from its own text. -/
def ReadsBack (x : Float) : Prop := read? (Decimal.jsonText x) = some (double x)

/-- The double that a value is. -/
def exactDouble? : Json → Option Float
  | double x => some x
  | _ => none

theorem exactDouble?_eq_some {v : Json} {x : Float} : exactDouble? v = some x ↔ v = double x := by
  cases v <;> simp [exactDouble?]

theorem readsBack_iff {x : Float} :
    ReadsBack x ↔ (read? (Decimal.jsonText x)).bind exactDouble? = some x := by
  rw [ReadsBack, Option.bind_eq_some_iff]
  simp only [exactDouble?_eq_some, exists_eq_right]

instance (x : Float) : Decidable (ReadsBack x) := decidable_of_iff' _ readsBack_iff

theorem finite_of_readsBack {x : Float} (h : ReadsBack x) : Decimal.Finite x := by
  by_contra infinite
  have null_read : read? "null" = some null := rfl
  rw [ReadsBack, Decimal.jsonText_of_not_finite infinite, null_read] at h
  cases h

theorem skipSpace_numerals (h : Decimal.Numerals cs) : skipSpace cs = cs := by
  cases cs with
  | nil => rfl
  | cons c cs => exact skipSpace_cons (isSpace_of_numeral (h c List.mem_cons_self)) cs

/-- A literal without white space that holds a number is read in every context. -/
theorem readNumber_of_numerals {negative : Bool} {rest : List Char} {v : Json}
    (numerals : Decimal.Numerals cs) (h : readNumber negative cs = some (v, rest))
    (all_read : skipSpace rest = []) (htail : EndsNumber tail) :
    readNumber negative (cs ++ tail) = some (v, tail) := by
  obtain ⟨literal, rfl, read_literal⟩ := readNumber_local h
  have rest_eq : rest = [] := by
    rw [← all_read, skipSpace_numerals (numerals.subset (List.subset_append_right ..))]
  rw [rest_eq, List.append_nil]
  exact read_literal tail htail

theorem readValue_double {x : Float} (h : ReadsBack x) (htail : EndsNumber tail) :
    readValue (fuel + 1) ((Decimal.jsonText x).toList ++ tail) = some (double x, tail) := by
  -- What is assumed is about the text alone. It consists of numerals, so it is read as a number,
  -- and a number is read from its own characters whatever ends it.
  have numerals := Decimal.numerals_jsonText (finite_of_readsBack h)
  rw [ReadsBack, read?] at h
  cases read_eq : readValue ((Decimal.jsonText x).length + 1) (Decimal.jsonText x).toList with
  | none => simp [read_eq] at h
  | some read =>
      cases read with
      | mk v rest =>
          simp only [read_eq] at h
          split at h
          · rename_i all_read
            cases h
            cases text_eq : (Decimal.jsonText x).toList with
            | nil =>
                rw [text_eq] at read_eq
                cases read_eq
            | cons c cs =>
                rw [text_eq] at read_eq numerals
                by_cases minus : c = '-'
                · subst minus
                  rw [readValue_minus] at read_eq
                  rw [List.cons_append, readValue_minus]
                  exact readNumber_of_numerals (numerals.subset (List.subset_cons_self ..)) read_eq
                    all_read htail
                · have first := numerals c List.mem_cons_self
                  rw [readValue_numeral first minus] at read_eq
                  rw [List.cons_append, readValue_numeral first minus]
                  exact readNumber_of_numerals numerals read_eq all_read htail
          · cases h

theorem readValue_integer {n : Int} (lower : -(Decimal.greatestSigned + 1 : Int) ≤ n)
    (upper : n ≤ Decimal.greatestUnsigned) (htail : EndsNumber tail) :
    readValue (fuel + 1) ((toString n).toList ++ tail) = some (integer n, tail) := by
  rw [Int.toString_eq_repr, Int.repr_eq_if]
  by_cases natural : 0 ≤ n
  · obtain ⟨k, rfl⟩ := Int.eq_ofNat_of_zero_le natural
    rw [if_pos natural, Int.toNat_natCast, Nat.toList_repr]
    have read := readNumber_natural (Int.ofNat_le.mp upper) htail
    cases digits_eq : Nat.toDigits 10 k with
    | nil => exact absurd digits_eq Nat.toDigits_ne_nil
    | cons c cs =>
        have digit : c.isDigit = true :=
          Nat.isDigit_of_mem_toDigits (by decide) (by decide) (digits_eq ▸ List.mem_cons_self)
        have unsigned : c ≠ '-' := by
          rintro rfl
          cases digit
        rw [digits_eq] at read
        rw [List.cons_append, readValue_numeral (.inl digit) unsigned]
        exact read
  · obtain ⟨k, hk⟩ := Int.eq_ofNat_of_zero_le (show 0 ≤ -n by omega)
    have hpos : 0 < k := by omega
    have hle : k ≤ Decimal.greatestSigned + 1 := by omega
    have minus : ("-" ++ k.repr).toList = '-' :: Nat.toDigits 10 k := by
      rw [String.toList_append, Nat.toList_repr]
      rfl
    rw [if_neg natural, hk, Int.toNat_natCast, minus, List.cons_append, readValue_minus,
      readNumber_negative hpos hle htail]
    rw [← hk, Int.neg_neg]

end Reading

section Values

/-- Values that are read back when they are written. -/
inductive Readable : Json → Prop where
  | null : Readable null
  | bool (b : Bool) : Readable (bool b)
  | integer {n : Int} (lower : -(Decimal.greatestSigned + 1 : Int) ≤ n)
      (upper : n ≤ Decimal.greatestUnsigned) : Readable (integer n)
  | double {x : Float} (h : ReadsBack x) : Readable (double x)
  | string (s : String) : Readable (string s)
  | array {items : List Json} (h : ∀ v ∈ items, Readable v) : Readable (array items)
  | object {members : List (String × Json)} (h : ∀ m ∈ members, Readable m.2) :
      Readable (object members)

/-- A value is read from its characters in a layout, whatever may follow them. -/
def ReadIn (layout : Layout) (v : Json) : Prop :=
  ∀ depth fuel tail, (chars layout depth v).length ≤ fuel → EndsNumber tail →
    readValue (fuel + 1) (chars layout depth v ++ tail) = some (v, tail)

/-- A value begins with a character of its own, which closes no array. -/
def Begins (cs : List Char) : Prop := ∃ c rest, cs = c :: rest ∧ isSpace c = false ∧ c ≠ ']'

variable {layout : Layout} {depth fuel : Nat} {tail : List Char} {v : Json}

theorem begins_numerals {cs : List Char} {read : Json × List Char}
    (numerals : Decimal.Numerals cs) (h : readValue 1 (cs ++ []) = some read) : Begins cs := by
  cases cs with
  | nil => cases h
  | cons c cs =>
      have first := numerals c List.mem_cons_self
      refine ⟨c, cs, rfl, isSpace_of_numeral first, ?_⟩
      rintro rfl
      exact absurd first (by decide)

theorem numerals_toString (n : Int) : Decimal.Numerals (toString n).toList := by
  rw [Int.toString_eq_repr, Int.repr_eq_if]
  split
  · rw [Nat.toList_repr]
    exact Decimal.numerals_digitChars _
  · rw [String.toList_append, Nat.toList_repr]
    exact .append (by decide) (Decimal.numerals_digitChars _)

theorem begins_chars (h : Readable v) : Begins (chars layout depth v) := by
  cases h with
  | null => exact ⟨'n', _, rfl, by decide, by decide⟩
  | bool b =>
      cases b with
      | true => exact ⟨'t', _, rfl, by decide, by decide⟩
      | false => exact ⟨'f', _, rfl, by decide, by decide⟩
  | integer lower upper =>
      exact begins_numerals (numerals_toString _) (readValue_integer lower upper endsNumber_nil)
  | double h =>
      exact begins_numerals (Decimal.numerals_jsonText (finite_of_readsBack h))
        (readValue_double h endsNumber_nil)
  | string s => exact ⟨'"', _, by rw [chars, quoted]; rfl, by decide, by decide⟩
  | array h =>
      rename_i items
      cases items with
      | nil => exact ⟨'[', _, rfl, by decide, by decide⟩
      | cons item items => exact ⟨'[', _, by rw [chars]; rfl, by decide, by decide⟩
  | object h =>
      rename_i members
      cases members with
      | nil => exact ⟨'\x7b', _, rfl, by decide, by decide⟩
      | cons m members => exact ⟨'\x7b', _, by rw [chars]; rfl, by decide, by decide⟩

theorem Begins.skipSpace_eq {cs : List Char} (h : Begins cs) (tail : List Char) :
    skipSpace (cs ++ tail) = cs ++ tail := by
  obtain ⟨c, rest, rfl, space, -⟩ := h
  exact skipSpace_cons space (rest ++ tail)

theorem endsNumber_append {blanks cs : List Char} (hblanks : ∀ c ∈ blanks, isSpace c = true)
    (hcs : EndsNumber cs) : EndsNumber (blanks ++ cs) := by
  cases blanks with
  | nil => exact hcs
  | cons c blanks =>
      exact endsNumber_cons (stopsNumber_of_isSpace (hblanks c List.mem_cons_self)).1 _

theorem endsNumber_itemsChars (layout : Layout) (depth : Nat) (items : List Json)
    (htail : EndsNumber tail) : EndsNumber (itemsChars layout depth items ++ tail) := by
  cases items with
  | nil => exact htail
  | cons item items =>
      rw [itemsChars]
      exact endsNumber_cons (by decide) _

theorem endsNumber_membersChars (layout : Layout) (depth : Nat)
    (members : List (String × Json)) (htail : EndsNumber tail) :
    EndsNumber (membersChars layout depth members ++ tail) := by
  cases members with
  | nil => exact htail
  | cons m members =>
      rw [membersChars]
      exact endsNumber_cons (by decide) _

theorem readItems_last {item : Json} {cs rest : List Char}
    (read : readValue fuel cs = some (item, rest)) (close : skipSpace rest = ']' :: tail) :
    readItems (fuel + 1) cs = some ([item], tail) := by
  rw [readItems, read]
  simp only [Option.bind_eq_bind, Option.bind_some, close]
  rfl

theorem readItems_next {item : Json} {items : List Json} {cs rest more : List Char}
    (read : readValue fuel cs = some (item, rest)) (comma : skipSpace rest = ',' :: more)
    (others : readItems fuel more = some (items, tail)) :
    readItems (fuel + 1) cs = some (item :: items, tail) := by
  rw [readItems, read]
  simp only [Option.bind_eq_bind, Option.bind_some, comma, others]
  rfl

/-- Items are read up to the bracket behind them. -/
theorem readItems_chars (blank : layout.Blank) {item : Json} {items : List Json}
    (hitem : ReadIn layout item) (hitems : ∀ v ∈ items, ReadIn layout v) (blanks : List Char)
    {closing : List Char} (hblanks : ∀ c ∈ blanks, isSpace c = true)
    (hclosing : ∀ c ∈ closing, isSpace c = true)
    (hfuel : (chars layout depth item).length + (itemsChars layout depth items).length + 2 ≤ fuel) :
    readItems fuel (blanks ++ (chars layout depth item ++
        (itemsChars layout depth items ++ (closing ++ ']' :: tail)))) =
      some (item :: items, tail) := by
  have close_ends : EndsNumber (closing ++ ']' :: tail) :=
    endsNumber_append hclosing (endsNumber_cons (by decide) tail)
  -- Every item takes one step of fuel, and is followed by a comma or by the closing bracket.
  induction items generalizing item blanks fuel with
  | nil =>
      obtain ⟨fuel, rfl⟩ : ∃ n, fuel = n + 2 := ⟨fuel - 2, by omega⟩
      have read := hitem depth fuel _ (by omega) close_ends
      apply readItems_last ((readValue_append hblanks _ _).trans read)
      rw [skipSpace_append hclosing, skipSpace_cons (by decide)]
  | cons next items ih =>
      obtain ⟨fuel, rfl⟩ : ∃ n, fuel = n + 2 := ⟨fuel - 2, by omega⟩
      have read := hitem depth fuel _ (by omega)
        (endsNumber_itemsChars layout depth (next :: items) close_ends)
      simp only [itemsChars, List.length_cons, List.length_append] at hfuel
      simp only [itemsChars, List.append_assoc, List.cons_append] at read ⊢
      apply readItems_next ((readValue_append hblanks _ _).trans read)
        (skipSpace_cons (by decide) _)
      exact ih (hitems next List.mem_cons_self) (fun v hv => hitems v (List.mem_cons_of_mem _ hv))
        _ (blank.lineBreak_space depth) (by omega)

theorem readMembers_last {key : String} {value : Json} {cs behind text rest : List Char}
    (read_key : readString (skipSpace cs) = some (key, behind))
    (colon : skipSpace behind = ':' :: text) (read : readValue fuel text = some (value, rest))
    (close : skipSpace rest = '\x7d' :: tail) :
    readMembers (fuel + 1) cs = some ([(key, value)], tail) := by
  rw [readMembers, read_key]
  simp only [Option.bind_eq_bind, Option.bind_some, colon, read, close]
  rfl

theorem readMembers_next {key : String} {value : Json} {members : List (String × Json)}
    {cs behind text rest more : List Char}
    (read_key : readString (skipSpace cs) = some (key, behind))
    (colon : skipSpace behind = ':' :: text) (read : readValue fuel text = some (value, rest))
    (comma : skipSpace rest = ',' :: more)
    (others : readMembers fuel more = some (members, tail)) :
    readMembers (fuel + 1) cs = some ((key, value) :: members, tail) := by
  rw [readMembers, read_key]
  simp only [Option.bind_eq_bind, Option.bind_some, colon, read, comma, others]
  rfl

theorem begins_quoted (s : String) : Begins (quoted s) :=
  ⟨'"', _, by rw [quoted]; rfl, by decide, by decide⟩

theorem readKey {blanks : List Char} (h : ∀ c ∈ blanks, isSpace c = true) (key : String)
    (rest : List Char) :
    readString (skipSpace (blanks ++ (quoted key ++ rest))) = some (key, rest) := by
  rw [skipSpace_append h, (begins_quoted key).skipSpace_eq, readString_quoted]

/-- Members are read up to the brace behind them. -/
theorem readMembers_chars (blank : layout.Blank) {key : String} {value : Json}
    {members : List (String × Json)} (hvalue : ReadIn layout value)
    (hmembers : ∀ m ∈ members, ReadIn layout m.2) (blanks : List Char) {closing : List Char}
    (hblanks : ∀ c ∈ blanks, isSpace c = true) (hclosing : ∀ c ∈ closing, isSpace c = true)
    (hfuel : (chars layout depth value).length + (membersChars layout depth members).length + 2 ≤
      fuel) :
    readMembers fuel (blanks ++ (quoted key ++ (layout.colon.toList ++
        (chars layout depth value ++
          (membersChars layout depth members ++ (closing ++ '\x7d' :: tail)))))) =
      some ((key, value) :: members, tail) := by
  have close_ends : EndsNumber (closing ++ '\x7d' :: tail) :=
    endsNumber_append hclosing (endsNumber_cons (by decide) tail)
  obtain ⟨gap, colon_eq, hgap⟩ := blank.colon_eq
  induction members generalizing key value blanks fuel with
  | nil =>
      obtain ⟨fuel, rfl⟩ : ∃ n, fuel = n + 2 := ⟨fuel - 2, by omega⟩
      have read := hvalue depth fuel _ (by omega) close_ends
      rw [colon_eq]
      apply readMembers_last (readKey hblanks key _) (skipSpace_cons (by decide) _)
        ((readValue_append hgap _ _).trans read)
      rw [skipSpace_append hclosing, skipSpace_cons (by decide)]
  | cons next members ih =>
      obtain ⟨fuel, rfl⟩ : ∃ n, fuel = n + 2 := ⟨fuel - 2, by omega⟩
      have read := hvalue depth fuel _ (by omega)
        (endsNumber_membersChars layout depth (next :: members) close_ends)
      simp only [membersChars, List.length_cons, List.length_append] at hfuel
      simp only [membersChars, List.append_assoc, List.cons_append] at read ⊢
      rw [colon_eq] at read ⊢
      apply readMembers_next (readKey hblanks key _) (skipSpace_cons (by decide) _)
        ((readValue_append hgap _ _).trans read) (skipSpace_cons (by decide) _)
      rw [← colon_eq]
      exact ih (hmembers next List.mem_cons_self)
        (fun m hm => hmembers m (List.mem_cons_of_mem _ hm)) _ (blank.lineBreak_space depth)
        (by omega)

theorem readWord_append (word : List Char) (v : Json) (tail : List Char) :
    readWord word v (word ++ tail) = some (v, tail) := by
  rw [readWord, List.take_left, if_pos rfl, List.drop_left]

theorem readValue_bracket : readValue (fuel + 1) ('[' :: tail) =
    match skipSpace tail with
    | ']' :: rest => some (array [], rest)
    | rest => (readItems fuel rest).map fun (items, rest) => (array items, rest) := by
  rw [readValue, skipSpace_cons (by decide)]
  rfl

theorem readValue_brace : readValue (fuel + 1) ('\x7b' :: tail) =
    match skipSpace tail with
    | '\x7d' :: rest => some (object [], rest)
    | rest => (readMembers fuel rest).map fun (members, rest) => (object members, rest) := by
  rw [readValue, skipSpace_cons (by decide)]
  rfl

theorem readValue_items {items : List Json} {cs rest blanks : List Char} (begins : Begins cs)
    (hblanks : ∀ c ∈ blanks, isSpace c = true)
    (read : readItems fuel (cs ++ rest) = some (items, tail)) :
    readValue (fuel + 1) ('[' :: (blanks ++ (cs ++ rest))) = some (array items, tail) := by
  have skipped := begins.skipSpace_eq rest
  obtain ⟨c, cs, rfl, -, open_bracket⟩ := begins
  rw [readValue_bracket, skipSpace_append hblanks, skipped, List.cons_append]
  split
  · rename_i same
    exact absurd (List.cons.inj same).1 open_bracket
  · rw [← List.cons_append, read]
    rfl

theorem readValue_members {members : List (String × Json)} {key : String}
    {rest blanks : List Char} (hblanks : ∀ c ∈ blanks, isSpace c = true)
    (read : readMembers fuel (quoted key ++ rest) = some (members, tail)) :
    readValue (fuel + 1) ('\x7b' :: (blanks ++ (quoted key ++ rest))) =
      some (object members, tail) := by
  rw [readValue_brace, skipSpace_append hblanks, (begins_quoted key).skipSpace_eq]
  split
  · rename_i same
    rw [quoted] at same
    exact absurd (List.cons.inj same).1 (by decide)
  · rw [read]
    rfl

theorem readValue_quoted (s : String) :
    readValue (fuel + 1) (quoted s ++ tail) = some (string s, tail) := by
  have read := readString_quoted s tail
  rw [readValue, (begins_quoted s).skipSpace_eq]
  rw [quoted] at read ⊢
  exact congrArg (Option.map fun r => (string r.1, r.2)) read

/-- A readable value is read in every layout. -/
theorem Readable.readIn (h : Readable v) (blank : layout.Blank) : ReadIn layout v := by
  intro depth fuel tail hfuel htail
  -- The parts of an array or an object are read with less fuel and in front of other tails.
  induction h generalizing depth fuel tail with
  | null =>
      rw [readValue]
      exact readWord_append "ull".toList Json.null tail
  | bool b =>
      rw [readValue]
      cases b with
      | true => exact readWord_append "rue".toList (Json.bool true) tail
      | false => exact readWord_append "alse".toList (Json.bool false) tail
  | integer lower upper => exact readValue_integer lower upper htail
  | double h => exact readValue_double h htail
  | string s => exact readValue_quoted s
  | @array items h ih =>
      cases items with
      | nil => exact readValue_bracket
      | cons item items =>
          simp only [chars, List.length_append, List.length_cons] at hfuel
          simp only [chars, List.append_assoc, List.cons_append, List.nil_append]
          apply readValue_items (begins_chars (h item List.mem_cons_self))
            (blank.lineBreak_space _)
          exact readItems_chars blank (fun _ _ _ => ih item List.mem_cons_self _ _ _)
            (fun v hv _ _ _ => ih v (List.mem_cons_of_mem _ hv) _ _ _) [] (by simp)
            (blank.lineBreak_space depth) (by omega)
  | @object members h ih =>
      cases members with
      | nil => exact readValue_brace
      | cons m members =>
          simp only [chars, List.length_append, List.length_cons] at hfuel
          simp only [chars, List.append_assoc, List.cons_append, List.nil_append]
          apply readValue_members (blank.lineBreak_space _)
          exact readMembers_chars blank (fun _ _ _ => ih m List.mem_cons_self _ _ _)
            (fun m hm _ _ _ => ih m (List.mem_cons_of_mem _ hm) _ _ _) [] (by simp)
            (blank.lineBreak_space depth) (by omega)

theorem read?_write (h : Readable v) (blank : layout.Blank) :
    read? (write layout 0 "" v) = some v := by
  have written : (write layout 0 "" v).toList = chars layout 0 v := toList_write layout 0 "" v
  have fits : (chars layout 0 v).length ≤ (write layout 0 "" v).length := by
    rw [← written, String.length_toList]
  have read := h.readIn blank 0 _ [] fits endsNumber_nil
  rw [List.append_nil] at read
  rw [read?, written, read]
  rfl

/-- What is written pretty is read back. -/
theorem read?_pretty (h : Readable v) : read? v.pretty = some v := read?_write h Layout.pretty_blank

end Values

end University.Json
