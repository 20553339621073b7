import University.Text.Blank

/-! # Slugs

A slug names a forum category in addresses: lower-case ASCII letters, digits and hyphens. A
display name becomes a slug by keeping its letters and digits and putting one hyphen between
their runs.
-/

namespace University

namespace Slug

/-- Whether a character may stand in a slug. -/
def isSlugChar (c : Char) : Bool :=
  c.isLower || c.isDigit || c == '-'

/-- Whether a text is a slug: it is not empty, has no white space at its ends, and holds only
characters of slugs. -/
def isValid (s : String) : Bool :=
  !s.isEmpty && Text.trim s == s && s.toList.all isSlugChar

/-- The slug of what follows. `started` tells whether the slug has a character already, `gap`
whether something was left out since. -/
def ofChars (started gap : Bool) : List Char → List Char
  | [] => []
  | c :: rest =>
    if c.isAlphanum then
      if started && gap then
        '-' :: c.toLower :: ofChars true false rest
      else
        c.toLower :: ofChars true false rest
    else
      ofChars started true rest

end Slug

/-- The slug of a display name. -/
def slugify (name : String) : String :=
  String.ofList (Slug.ofChars false false name.toList)

end University
