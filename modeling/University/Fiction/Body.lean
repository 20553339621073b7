import University.Fiction.Phrase

/-! # Bodies of posts and replies

Plain filler text, a quotation with an answer, and a long document that shows every construct of
Markdown once, with an ordered list of invented titles in it.
-/

namespace University.Fiction

open Chance

/-- Lines, each with its line break. -/
def block (lines : List String) : String :=
  String.join (lines.map (· ++ "\n"))

/-- Emphasis in all its forms. -/
def emphasis : String :=
  block
    ["*italics* and _italics_",
     "**strong emphasis** and __strong emphasis__",
     "**combined _emphasis_**",
     "~~strikethrough~~"]

/-- Inline links and references. -/
def links : String :=
  block
    ["[inline link](https://google.com)",
     "[inline with title](https://google.com \"Google's Homepage\")",
     "[reference link][reddit]",
     "or use [twitter]",
     "",
     "[reddit]: https://reddit.com",
     "[twitter]: https://twitter.com"]

/-- Code within a line. -/
def inlineCode : String :=
  "inline `code` with `backticks`"

/-- Fenced code. -/
def codeBlocks : String :=
  block
    ["```javascript",
     "function add(one, other) \x7b",
     "  return one + other",
     "\x7d",
     "```",
     "",
     "```",
     "$ exec \"$SHELL\"",
     "```"]

def images : String :=
  "![inline image](https://imgur.com/HFD0Sy0 \"inline image title\")"

def footnotes : String :=
  "simple footnotes[^1]\n\n\n[^1]: my references."

def tables : String :=
  block
    ["",
     "| Tables        | Are           | Cool  |",
     "| ------------- |:-------------:| -----:|",
     "| col 3 is      | right-aligned | $1600 |",
     "| col 2 is      | centered      |   $12 |",
     "| zebra stripes | are neat      |    $1 |"]

def blockQuotes : String :=
  block
    ["> quote this text please",
     "",
     "break",
     "",
     "> another quote"]

/-- A list in HTML. -/
def inlineHtml : String :=
  block
    ["",
     "<dl>",
     "  <dt>Definition list</dt>",
     "  <dd>A definition.</dd>",
     "",
     "  <dt>Definition list</dt>",
     "  <dd>Another definition.</dd>",
     "</dl>"]

/-- Horizontal rules. -/
def rules : String :=
  block
    ["---",
     "",
     "***",
     "",
     "___"]

/-- The headings of the six levels. -/
def headings : String :=
  block ((List.range 6).map fun i => String.ofList (List.replicate (i + 1) '#') ++ " H" ++ toString (i + 1))

/-- A line of an ordered list. -/
def listLine (index : Nat) : Draw String := do
  return toString index ++ ". " ++ (← title)

/-- An ordered list of three invented titles. -/
def titleList : Draw String := do
  let first ← listLine 1
  let second ← listLine 2
  let third ← listLine 3
  return block [first, second, third]

/-- A long Markdown document. -/
def markdownContent : Draw String := do
  let list ← titleList
  return "\n".intercalate
    [headings, emphasis, list, links, inlineCode, codeBlocks, images, footnotes, tables,
     blockQuotes, inlineHtml, rules]

/-- A quoted paragraph and the answer to it. -/
def blockquoteContent : Draw String := do
  let quote ← paragraph 20
  let reply ← paragraph 10
  return "> " ++ quote ++ "\n\n" ++ reply

/-- A paragraph without commas. -/
def plainContent (sentences : Nat) : Draw String := do
  let text ← paragraph sentences
  return String.ofList (text.toList.filter (· ≠ ','))

end University.Fiction
