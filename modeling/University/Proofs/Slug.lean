import Mathlib
import University.Proofs.Text.Ascii
import University.Slug

/-! # Slugs of display names

A display name is cut at whatever is no ASCII letter or digit. What is left are its words, and its
slug is these words in lower case with one hyphen between two. So a slug is its own slug, and besides
the empty text the texts of this kind are the slugs whose hyphens stand alone and between others.
-/

namespace University.Slug

open Text (toLower_of_isDigit)

variable {c : Char} {cs : List Char} {started gap : Bool}

/-! ## Characters -/

theorem ne_hyphen_of_isAlphanum (h : c.isAlphanum = true) : c ≠ '-' := by
  rintro rfl
  contradiction

theorem isSlugChar_iff : isSlugChar c = true ↔ c.isLower = true ∨ c.isDigit = true ∨ c = '-' := by
  simp [isSlugChar, or_assoc]

theorem isAlphanum_iff : c.isAlphanum = true ↔ c.isAlpha = true ∨ c.isDigit = true := by
  simp [Char.isAlphanum]

/-- In lower case, a letter or digit is one still. -/
theorem isAlphanum_toLower (h : c.isAlphanum = true) : c.toLower.isAlphanum = true := by
  rcases isAlphanum_iff.mp h with letter | digit
  · simp [isAlphanum_iff, letter]
  · rwa [toLower_of_isDigit digit]

theorem isSlugChar_toLower (h : c.isAlphanum = true) : isSlugChar c.toLower = true := by
  rcases isAlphanum_iff.mp h with letter | digit
  · simp [isSlugChar, letter]
  · simp [toLower_of_isDigit digit, isSlugChar, digit]

/-- Besides the hyphen, the characters of slugs are letters and digits in lower case. -/
theorem lower_of_isSlugChar (h : isSlugChar c = true) (hc : c ≠ '-') :
    c.isAlphanum = true ∧ c.toLower = c := by
  rcases isSlugChar_iff.mp h with lower | digit | hyphen
  · exact ⟨by simp [isAlphanum_iff, Char.isAlpha, lower],
      Char.toLower_eq_of_not_isUpper (Char.not_isUpper_of_isLower lower)⟩
  · exact ⟨isAlphanum_iff.mpr (.inr digit), toLower_of_isDigit digit⟩
  · contradiction

theorem isBlank_of_isSlugChar (h : isSlugChar c = true) : Text.isBlank c = false := by
  have visible : 33 ≤ c.toNat ∧ c.toNat ≤ 122 := by
    rcases isSlugChar_iff.mp h with lower | digit | rfl
    · simp only [Char.isLower, Bool.and_eq_true, decide_eq_true_eq, UInt32.le_iff_toNat_le] at lower
      simp at lower
      omega
    · simp [Char.isDigit_iff_toNat] at digit
      omega
    · decide
  simp [Text.isBlank, Text.blankRanges]
  omega

/-! ## Words -/

/-- The pieces between the characters that are no ASCII letters or digits, without the empty ones. -/
def words (cs : List Char) : List (List Char) :=
  (cs.splitOnP fun c => !c.isAlphanum).filter (· ≠ [])

/-- The words of a name in lower case, with one hyphen between two. -/
def hyphenated (name : String) : String :=
  String.ofList (['-'].intercalate ((words name.toList).map (·.map Char.toLower)))

/-- What follows a first word: each other word in lower case, with a hyphen in front. -/
def further (ws : List (List Char)) : List Char := ws.flatMap fun w => '-' :: w.map Char.toLower

theorem intercalate_words (w : List Char) (ws : List (List Char)) :
    ['-'].intercalate ((w :: ws).map (·.map Char.toLower)) = w.map Char.toLower ++ further ws := by
  induction ws generalizing w with
  | nil => simp [further]
  | cons w' ws ih =>
      rw [List.map_cons, List.intercalate_cons_of_ne_nil (by simp), ih]
      simp [further]

theorem ofChars_kept (h : c.isAlphanum = true) :
    ofChars started gap (c :: cs) =
      (if started && gap then ['-'] else []) ++ c.toLower :: ofChars true false cs := by
  rw [ofChars, if_pos h]
  split <;> rfl

theorem ofChars_left_out (h : c.isAlphanum = false) :
    ofChars started gap (c :: cs) = ofChars started true cs := by
  simp [ofChars, h]

/-- Once the slug has begun, what is left of the word at hand goes on after the hyphen that is due,
and each further word has a hyphen of its own. -/
theorem ofChars_begun {w : List Char} {ws : List (List Char)}
    (h : (cs.splitOnP fun c => !c.isAlphanum) = w :: ws) :
    ofChars true gap cs =
      (if w = [] then [] else (if gap then ['-'] else []) ++ w.map Char.toLower) ++
        further (ws.filter (· ≠ [])) := by
  induction cs generalizing gap w ws with
  | nil =>
      obtain ⟨rfl, rfl⟩ : w = [] ∧ ws = [] := by simpa [eq_comm] using h
      simp [ofChars, further]
  | cons c cs ih =>
      obtain ⟨w', ws', split⟩ := List.exists_cons_of_ne_nil (List.splitOnP_ne_nil (!·.isAlphanum) cs)
      rw [List.splitOnP_cons_eq_if_modifyHead, split] at h
      cases kept : c.isAlphanum with
      | true =>
          obtain ⟨rfl, rfl⟩ : c :: w' = w ∧ ws' = ws := by simpa [kept] using h
          simp +contextual [ofChars_kept kept, ih split]
      | false =>
          obtain ⟨rfl, rfl⟩ : [] = w ∧ w' :: ws' = ws := by simpa [kept] using h
          by_cases empty : w' = [] <;> simp [ofChars_left_out kept, ih split, empty, further]

/-- Before that, the first word makes the beginning. -/
theorem ofChars_fresh (gap : Bool) (cs : List Char) :
    ofChars false gap cs = ['-'].intercalate ((words cs).map (·.map Char.toLower)) := by
  induction cs generalizing gap with
  | nil => simp [ofChars, words]
  | cons c cs ih =>
      obtain ⟨w, ws, split⟩ := List.exists_cons_of_ne_nil (List.splitOnP_ne_nil (!·.isAlphanum) cs)
      cases kept : c.isAlphanum with
      | true =>
          have first : words (c :: cs) = (c :: w) :: ws.filter (· ≠ []) := by
            simp [words, List.splitOnP_cons_eq_if_modifyHead, kept, split]
          rw [first, intercalate_words]
          simp +contextual [ofChars_kept kept, ofChars_begun split]
      | false =>
          have same : words (c :: cs) = words cs := by
            simp [words, List.splitOnP_cons_eq_if_modifyHead, kept]
          rw [ofChars_left_out kept, same, ih]

theorem slugify_eq_hyphenated (name : String) : slugify name = hyphenated name := by
  rw [slugify, hyphenated, ofChars_fresh]

/-! ## Validity -/

theorem trim_of_forall_isSlugChar {s : String} (h : ∀ c ∈ s.toList, isSlugChar c = true) :
    Text.trim s = s := by
  have untouched {cs : List Char} (hcs : ∀ c ∈ cs, isSlugChar c = true) : Text.trimStart cs = cs := by
    cases cs with
    | nil => rfl
    | cons c cs => simp [Text.trimStart, isBlank_of_isSlugChar (hcs c (by simp))]
  rw [Text.trim, untouched h, untouched (by simpa using h)]
  simp

/-- Its characters alone keep white space from the ends of a slug. -/
theorem isValid_iff {s : String} :
    isValid s = true ↔ s ≠ "" ∧ ∀ c ∈ s.toList, isSlugChar c = true := by
  constructor
  · intro valid
    obtain ⟨some_char, -, chars⟩ : s ≠ "" ∧ Text.trim s = s ∧ ∀ c ∈ s.toList, isSlugChar c = true := by
      simpa [isValid, and_assoc] using valid
    exact ⟨some_char, chars⟩
  · rintro ⟨some_char, chars⟩
    simpa [isValid, trim_of_forall_isSlugChar chars, some_char] using chars

theorem isSlugChar_of_mem_ofChars (h : c ∈ ofChars started gap cs) : isSlugChar c = true := by
  induction cs generalizing started gap with
  | nil => simp [ofChars] at h
  | cons d cs ih =>
      cases kept : d.isAlphanum with
      | true =>
          rw [ofChars_kept kept, List.mem_append, List.mem_cons] at h
          rcases h with hyphen | rfl | later
          · obtain ⟨-, rfl⟩ : (started = true ∧ gap = true) ∧ c = '-' := by simpa using hyphen
            decide
          · exact isSlugChar_toLower kept
          · exact ih later
      | false => exact ih (ofChars_left_out kept ▸ h)

theorem ofChars_eq_nil_iff :
    ofChars started gap cs = [] ↔ ∀ c ∈ cs, c.isAlphanum = false := by
  induction cs generalizing started gap with
  | nil => simp [ofChars]
  | cons c cs ih => cases kept : c.isAlphanum <;> simp [ofChars_kept, ofChars_left_out, kept, ih]

theorem forall_isSlugChar_slugify (name : String) :
    ∀ c ∈ (slugify name).toList, isSlugChar c = true := by
  simpa [slugify] using fun c => isSlugChar_of_mem_ofChars

theorem isValid_slugify (name : String) :
    isValid (slugify name) = true ↔ ∃ c ∈ name.toList, c.isAlphanum = true := by
  rw [isValid_iff, and_iff_left (forall_isSlugChar_slugify name), Ne, ← String.toList_inj, slugify,
    String.toList_ofList, String.toList_empty, ofChars_eq_nil_iff]
  simp

/-! ## Fixed points -/

/-- Hyphens stand only between other characters, and never two of them together. -/
structure Tidy (cs : List Char) : Prop where
  no_leading : cs.head? ≠ some '-'
  no_trailing : cs.getLast? ≠ some '-'
  no_doubled : ¬['-', '-'] <:+: cs

theorem head?_ofChars : (ofChars false gap cs).head? ≠ some '-' := by
  induction cs generalizing gap with
  | nil => simp [ofChars]
  | cons c cs ih =>
      cases kept : c.isAlphanum with
      | true => simp [ofChars_kept kept, ne_hyphen_of_isAlphanum (isAlphanum_toLower kept)]
      | false => simp [ofChars_left_out kept, ih]

theorem getLast?_ofChars : (ofChars started gap cs).getLast? ≠ some '-' := by
  induction cs generalizing started gap with
  | nil => simp [ofChars]
  | cons c cs ih =>
      cases kept : c.isAlphanum with
      | true =>
          have small := ne_hyphen_of_isAlphanum (isAlphanum_toLower kept)
          rw [ofChars_kept kept, List.getLast?_append_of_ne_nil]
          · specialize @ih true false
            cases last : (ofChars true false cs).getLast? <;> simp_all [List.getLast?_cons]
          · simp
      | false =>
          rw [ofChars_left_out kept]
          exact ih

theorem not_doubled_ofChars : ¬['-', '-'] <:+: ofChars started gap cs := by
  induction cs generalizing started gap with
  | nil => simp [ofChars]
  | cons c cs ih =>
      cases kept : c.isAlphanum with
      | true =>
          have small := (ne_hyphen_of_isAlphanum (isAlphanum_toLower kept)).symm
          rw [ofChars_kept kept]
          split <;> simp [List.infix_cons_iff, small, ih]
      | false =>
          rw [ofChars_left_out kept]
          exact ih

theorem tidy_slugify (name : String) : Tidy (slugify name).toList where
  no_leading := by simp [slugify, head?_ofChars]
  no_trailing := by simp [slugify, getLast?_ofChars]
  no_doubled := by simp [slugify, not_doubled_ofChars]

/-- Behind a character of the slug, tidy characters of slugs stay as they are. -/
theorem ofChars_of_tidy (hchars : ∀ c ∈ cs, isSlugChar c = true)
    (htrailing : (if gap then '-' :: cs else cs).getLast? ≠ some '-')
    (hdoubled : ¬['-', '-'] <:+: if gap then '-' :: cs else cs) :
    ofChars true gap cs = if gap then '-' :: cs else cs := by
  induction cs generalizing gap with
  | nil => cases gap <;> simp_all [ofChars]
  | cons c cs ih =>
      have hchars' : ∀ c ∈ cs, isSlugChar c = true := fun d hd => hchars d (List.mem_cons_of_mem c hd)
      by_cases hyphen : c = '-'
      · subst hyphen
        cases gap with
        | true => simp [List.infix_cons_iff] at hdoubled
        | false =>
            rw [ofChars_left_out (by decide)]
            exact ih hchars' htrailing hdoubled
      · obtain ⟨kept, lower⟩ := lower_of_isSlugChar (hchars c (by simp)) hyphen
        have rest : ofChars true false cs = cs := by
          apply ih hchars'
          · intro last
            cases gap <;> simp_all [List.getLast?_cons]
          · intro doubled
            cases gap <;> simp_all [List.infix_cons_iff]
        rw [ofChars_kept kept, lower, rest]
        cases gap <;> rfl

theorem slugify_of_tidy {s : String} (hchars : ∀ c ∈ s.toList, isSlugChar c = true)
    (tidy : Tidy s.toList) : slugify s = s := by
  rw [slugify, ← String.toList_inj, String.toList_ofList]
  cases text : s.toList with
  | nil => rfl
  | cons c cs =>
      rw [text] at hchars tidy
      have first : c ≠ '-' := by simpa using tidy.no_leading
      obtain ⟨kept, lower⟩ := lower_of_isSlugChar (hchars c (by simp)) first
      have rest : ofChars true false cs = cs := by
        apply ofChars_of_tidy fun d hd => hchars d (List.mem_cons_of_mem c hd)
        · intro last
          simpa [List.getLast?_cons, show cs.getLast? = some '-' from last] using tidy.no_trailing
        · intro doubled
          exact tidy.no_doubled (List.infix_cons doubled)
      simp [ofChars_kept kept, lower, rest]

theorem slugify_slugify (name : String) : slugify (slugify name) = slugify name :=
  slugify_of_tidy (forall_isSlugChar_slugify name) (tidy_slugify name)

theorem slugify_eq_self_iff {s : String} :
    slugify s = s ↔ s = "" ∨ isValid s = true ∧ Tidy s.toList := by
  constructor
  · intro same
    have chars := forall_isSlugChar_slugify s
    have tidy := tidy_slugify s
    rw [same] at chars tidy
    by_cases empty : s = ""
    · exact .inl empty
    · exact .inr ⟨isValid_iff.mpr ⟨empty, chars⟩, tidy⟩
  · rintro (rfl | ⟨valid, tidy⟩)
    · rfl
    · exact slugify_of_tidy (isValid_iff.mp valid).2 tidy

/-- The slug of a name is its words in lower case, joined by hyphens. Slugs are slugs of themselves,
a name has a valid one exactly if it has a letter or digit, and the texts that are their own slugs are
the empty one and the valid slugs that are tidy. -/
theorem slugify_hyphenates (name : String) :
    slugify name = hyphenated name ∧
      slugify (slugify name) = slugify name ∧
      (isValid (slugify name) = true ↔ ∃ c ∈ name.toList, c.isAlphanum = true) ∧
      (slugify name = name ↔ name = "" ∨ isValid name = true ∧ Tidy name.toList) :=
  ⟨slugify_eq_hyphenated name, slugify_slugify name, isValid_slugify name, slugify_eq_self_iff⟩

end University.Slug
