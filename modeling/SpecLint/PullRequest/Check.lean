import SpecLint.Json.Text
import SpecLint.PullRequest.Section
import SpecLint.PullRequest.Template

/-!
Checking the title and the body of a pull request against the template that the body follows. What
is found is printed as a line of praise or a list of problems, or as one JSON document.
-/

namespace SpecLint.PullRequest

/-- A problem with a pull request. -/
inductive Problem where
  | emptyBody
  | unknownTemplate
  | emptyTitle
  | titleTooShort
  | missingSepStart
  | sepPlaceholderTitle
  | placeholderTitle (title : String)
  | missingSections (template : Template) (headings : List String)
  | thinSection (heading : String) (least : Nat)
deriving DecidableEq, Repr

/-- The least number of characters of a title. -/
def minTitleLength : Nat := 10

/-- The title that the templates suggest. -/
def placeholder : String := "[Short Descriptive Title]"

/-- The title that the template for proposals suggests. -/
def sepPlaceholder : String := "SEP: " ++ placeholder

def Problem.message : Problem → String
  | .emptyBody => "PR description (body) is empty."
  | .unknownTemplate =>
    "PR description does not match either template. It must include the required sections from " ++
      "the Minor Improvement or SEP Proposal template. See .github/PULL_REQUEST_TEMPLATE/"
  | .emptyTitle => "PR title is empty."
  | .titleTooShort => "PR title is too short (minimum " ++ toString minTitleLength ++ " characters)."
  | .missingSepStart =>
    "SEP PRs must have a title starting with \"SEP: \" (e.g. \"SEP: My new SEP proposal\")."
  | .sepPlaceholderTitle => "SEP title must not be the placeholder \"" ++ sepPlaceholder ++ "\"."
  | .placeholderTitle title => "PR title must not be the placeholder \"" ++ title ++ "\"."
  | .missingSections template headings =>
    "PR description is missing required " ++ template.label ++ " section(s):" ++
      String.join (headings.map ("\n  - " ++ ·))
  | .thinSection heading least =>
    "Section \"" ++ heading ++ "\" should have at least ~" ++ toString least ++
      " characters of content (excluding comments)."

/-- What was found about a pull request. -/
structure Check where
  template : Option Template
  /-- The problems, in the order of the checks. -/
  problems : List Problem
deriving DecidableEq, Repr

namespace Check

def isClean (check : Check) : Bool := check.problems.isEmpty

/-- One after a problem, else zero. -/
def exitCode (check : Check) : Nat := if check.isClean then 0 else 1

/-- What is printed about a clean pull request. -/
def praise (check : Check) : String :=
  if check.isClean then "PR title and description validation passed.\n" else ""

/-- What is printed about the problems. -/
def complaint (check : Check) : String :=
  if check.isClean then ""
  else
    "PR description validation failed:\n\n" ++
      String.join (check.problems.map fun problem => "  • " ++ problem.message ++ "\n") ++
      "\nPlease update the PR title and/or description to match the template.\n"

/-- The check as one indented JSON document. -/
def json (check : Check) : String :=
  let document : Json :=
    .mkObject [("passed", .boolean check.isClean),
      ("template", Json.ofOption (fun template => .string template.jsonName) check.template),
      ("problems", .ofStrings (check.problems.map Problem.message))]
  document.pretty ++ "\n"

end Check

/-- The first problem with a title, if there is one. -/
def titleProblem? (template : Template) (title : String) : Option Problem :=
  let title := Text.trim title
  if title == "" then some .emptyTitle
  else if title.length < minTitleLength then some .titleTooShort
  else
    match template with
    | .sep =>
      match Text.afterStart "SEP:".toList title.toList with
      | none => some .missingSepStart
      | some rest =>
        let rest := Text.trimChars rest
        if rest == [] || rest == placeholder.toList then some .sepPlaceholderTitle else none
    | .minor =>
      if title == placeholder || title == sepPlaceholder then some (.placeholderTitle title)
      else none

/-- The headings of a template that a body lacks, as one problem. -/
def missingProblem? (template : Template) (body : String) : Option Problem :=
  let missing := template.headings.filter fun heading => !Text.contains heading body
  if missing.isEmpty then none else some (.missingSections template missing)

/-- The sections of a template whose texts are too short. -/
def thinProblems (template : Template) (body : String) : List Problem :=
  template.minimums.filterMap fun (heading, least) =>
    match sectionText? heading body with
    | some text => if text.length < least then some (.thinSection heading least) else none
    | none => none

/-- Checks a title and a body. Without a body or a template nothing else is checked. -/
def check (title body : String) : Check :=
  if Text.isBlankText body then ⟨none, [.emptyBody]⟩
  else
    match Template.detect body with
    | none => ⟨none, [.unknownTemplate]⟩
    | some template =>
      ⟨some template,
        (titleProblem? template title).toList ++ (missingProblem? template body).toList ++
          thinProblems template body⟩

end SpecLint.PullRequest
