import SpecLint.Text.Blank

/-!
Version tags: the names of the revisions of a corpus. Every tag is a single component of a path.
Tags are ordered by their texts, but the tag of the revision that is still edited comes last. Why a
text is no tag, and why one is no name of a family, is a matter of one type of errors.
-/

namespace SpecLint

/-- A text that is neither a version tag nor the name of a family, as one of them was wanted. -/
inductive CoordinateError where
  | emptyVersionTag
  | invalidVersionTag (raw : String)
  | emptyFamily
  | invalidFamily (raw : String)
deriving DecidableEq, Repr

/-- The wording of the error; a text that is refused is shown as it was given. -/
def CoordinateError.message : CoordinateError → String
  | .emptyVersionTag => "invalid version tag: must be non-empty"
  | .invalidVersionTag raw =>
    "invalid version tag: \"" ++ raw ++ "\" (path separators and dot segments are not allowed)"
  | .emptyFamily => "invalid spec family: must be non-empty"
  | .invalidFamily raw =>
    "invalid spec family: \"" ++ raw ++
      "\" (expected letters, digits, '_', '-' or '.', not starting with '.')"

/-- Whether a text names a revision: not empty, without blanks at its ends, and one component of a
path. -/
def isVersionText (text : String) : Bool :=
  text != "" && Text.trim text == text && text.toList.all (fun c => c != '/' && c != '\\') &&
    text != "." && text != ".."

/-- The name of one revision of the corpus. -/
structure VersionTag where
  text : String
  valid : isVersionText text = true
deriving DecidableEq

namespace VersionTag

/-- Reads a tag; blanks at its ends are dropped. -/
def parse (raw : String) : Except CoordinateError VersionTag :=
  let text := Text.trim raw
  if text == "" then .error .emptyVersionTag
  else if h : isVersionText text = true then .ok ⟨text, h⟩
  else .error (.invalidVersionTag raw)

theorem parse_eq_ok_iff {raw : String} {tag : VersionTag} :
    parse raw = .ok tag ↔ tag.text = Text.trim raw := by
  simp only [parse]
  constructor
  · intro h
    split at h
    · cases h
    · split at h <;> cases h
      rfl
  · intro h
    have hvalid : isVersionText (Text.trim raw) = true := h ▸ tag.valid
    have hempty : (Text.trim raw == "") = false := by
      simp only [isVersionText, Bool.and_eq_true] at hvalid
      simpa using hvalid.1.1.1.1
    rw [hempty, dif_pos hvalid]
    cases tag
    cases h
    rfl

/-- The text of a tag is read back. -/
theorem parse_text (tag : VersionTag) : parse tag.text = .ok tag := by
  have hvalid := tag.valid
  simp only [isVersionText, Bool.and_eq_true, beq_iff_eq] at hvalid
  exact parse_eq_ok_iff.2 hvalid.1.1.1.2.symm

/-- The tag of the revision that is still edited. -/
def unreleased : VersionTag := ⟨"unreleased", by decide +kernel⟩

instance : Inhabited VersionTag := ⟨unreleased⟩

/-- Whether the tag names the revision that is still edited. -/
def isUnreleased (tag : VersionTag) : Bool := tag.text == unreleased.text

/-- The order of tags: by text, the revision that is still edited last. -/
def order (a b : VersionTag) : Ordering :=
  match a.isUnreleased, b.isUnreleased with
  | true, true => .eq
  | true, false => .gt
  | false, true => .lt
  | false, false => compare a.text b.text

/-- The same order where tags might not be comparable; all of them are. -/
def partialOrder? (a b : VersionTag) : Option Ordering := some (a.order b)

/-- The tags in ascending order; equal tags keep their places. -/
def sort (tags : List VersionTag) : List VersionTag :=
  tags.mergeSort fun a b => (a.order b).isLE

end VersionTag

end SpecLint
