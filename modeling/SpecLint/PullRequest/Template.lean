import SpecLint.Text.Search

/-!
The two templates of pull requests: their headings, and which sections need a text of a certain
length.
-/

namespace SpecLint.PullRequest

/-- A template of pull requests. -/
inductive Template where
  | minor
  | sep
deriving DecidableEq, Repr

namespace Template

/-- The headings of a template; the first two mark it. -/
def headings : Template → List String
  | .minor =>
    ["## 🔧 Type of Change", "## 📝 Description", "## 🎯 Motivation and Context", "## 🧪 Testing",
      "## 📸 Screenshots / Examples", "## ✅ Checklist", "## 🔍 Scope Verification",
      "## 📚 Additional Notes"]
  | .sep =>
    ["## 📋 SEP Metadata", "## 🎯 Abstract", "## 💡 Motivation", "## 📐 Specification",
      "## 🤔 Rationale", "## 🔄 Backward Compatibility", "## 🛠️ Reference Implementation",
      "## 🔒 Security Implications", "## ✅ Pre-Submission Checklist", "## 📚 Additional Context",
      "## 🙋 Questions for Reviewers"]

/-- The headings that mark a template. -/
def markers (template : Template) : List String := template.headings.take 2

/-- The sections that need a text, each with the least number of characters. -/
def minimums : Template → List (String × Nat)
  | .minor => [("## 📝 Description", 30), ("## 🎯 Motivation and Context", 20)]
  | .sep => [("## 🎯 Abstract", 50), ("## 💡 Motivation", 30), ("## 📐 Specification", 30)]

/-- The name of a template in JSON. -/
def jsonName : Template → String
  | .minor => "minor"
  | .sep => "sep"

def label : Template → String
  | .minor => "Minor Improvement"
  | .sep => "SEP"

/-- Whether all markers of a template occur in a body. -/
def isMarked (template : Template) (body : String) : Bool :=
  template.markers.all (Text.contains · body)

/-- The template of a body; with the markers of both it is the minor one. -/
def detect (body : String) : Option Template :=
  if isMarked .minor body then some .minor
  else if isMarked .sep body then some .sep
  else none

end Template

end SpecLint.PullRequest
