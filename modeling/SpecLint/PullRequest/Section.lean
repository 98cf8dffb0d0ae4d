import SpecLint.Text.Blank
import SpecLint.Text.Search

/-!
The text of a section: what stands between its heading and the next one, without comments and with
runs of blanks as single spaces.
-/

namespace SpecLint.PullRequest

def commentStart : List Char := "<!--".toList

def commentEnd : List Char := "-->".toList

/-- Splits a text at its first closed comment into the text before and the text after it. -/
def cutComment (text : List Char) : Option (List Char × List Char) :=
  (Text.cut commentStart text).bind fun (before, inside) =>
    (Text.cut commentEnd inside).map fun (_, after) => (before, after)

theorem length_lt_of_cutComment {text before after : List Char}
    (h : cutComment text = some (before, after)) : after.length < text.length := by
  simp only [cutComment, Option.bind_eq_some_iff, Option.map_eq_some_iff, Prod.mk.injEq,
    Prod.exists] at h
  obtain ⟨start, inside, h1, content, rest, h2, -, rfl⟩ := h
  have hlen := congrArg List.length (Text.cut_eq h1)
  have hlen' := congrArg List.length (Text.cut_eq h2)
  have : commentStart.length = 4 := by decide +kernel
  simp only [List.length_append] at hlen hlen'
  omega

/-- The text without its closed comments; a comment without an end stays. -/
def stripComments (text : List Char) : List Char :=
  match h : cutComment text with
  | none => text
  | some (before, after) =>
    have := length_lt_of_cutComment h
    before ++ stripComments after
termination_by text.length

/-- What follows the first occurrence of a heading, up to the next heading. -/
def sectionOf? (heading : String) (body : List Char) : Option (List Char) :=
  (Text.cut heading.toList body).map fun (_, rest) =>
    match Text.cut "\n## ".toList rest with
    | some (text, _) => text
    | none => rest

/-- The text of a section as it is measured; none if the heading is missing. -/
def sectionText? (heading : String) (body : String) : Option (List Char) :=
  (sectionOf? heading body.toList).map fun text => Text.collapse (stripComments text)

end SpecLint.PullRequest
