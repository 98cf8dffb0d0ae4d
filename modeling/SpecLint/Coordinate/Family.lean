import SpecLint.Coordinate.Version

/-!
Families, the interfaces that a revision describes, and the kinds of artifact that a family may
publish. A family's name is part of file names.
-/

namespace SpecLint

/-- Whether a character may stand in the name of a family. -/
def isFamilyChar (c : Char) : Bool :=
  c.isAlphanum || c == '_' || c == '-' || c == '.'

/-- The allowed characters are the letters and digits of ASCII and three marks. -/
theorem isFamilyChar_iff {c : Char} :
    isFamilyChar c = true ↔
      ('A' ≤ c ∧ c ≤ 'Z') ∨ ('a' ≤ c ∧ c ≤ 'z') ∨ ('0' ≤ c ∧ c ≤ '9') ∨
        c = '_' ∨ c = '-' ∨ c = '.' := by
  have h : isFamilyChar c =
      (decide ('A' ≤ c ∧ c ≤ 'Z') || (decide ('a' ≤ c) && decide (c ≤ 'z')) ||
        (decide ('0' ≤ c) && decide (c ≤ '9')) || c == '_' || c == '-' || c == '.') := rfl
  rw [h]
  simp only [Bool.or_eq_true, Bool.and_eq_true, decide_eq_true_eq, beq_iff_eq, or_assoc]

theorem isBlank_eq_false {c : Char} (h : isFamilyChar c = true) : Text.isBlank c = false := by
  have hn : c.toNat = c.val.toNat := rfl
  simp only [Text.isBlank, hn, Bool.or_eq_false_iff, Bool.and_eq_false_iff,
    decide_eq_false_iff_not, beq_eq_false_iff_ne, ne_eq]
  rcases isFamilyChar_iff.1 h with h | h | h | rfl | rfl | rfl
  any_goals decide
  all_goals
    simp only [Char.le_def, UInt32.le_iff_toNat_le] at h
    simp at h
    omega

/-- Whether a text names a family: not empty, of allowed characters, and not hidden as a file. -/
def isFamilyText (text : String) : Bool :=
  text != "" && text.toList.all isFamilyChar && text.toList.head? != some '.'

/-- The name of a family. -/
structure Family where
  text : String
  valid : isFamilyText text = true
deriving DecidableEq

namespace Family

/-- Reads the name of a family. -/
def parse (raw : String) : Except CoordinateError Family :=
  if Text.isBlankText raw then .error .emptyFamily
  else if h : isFamilyText raw = true then .ok ⟨raw, h⟩
  else .error (.invalidFamily raw)

theorem isBlankText_eq_false {text : String} (h : isFamilyText text = true) :
    Text.isBlankText text = false := by
  simp only [isFamilyText, Bool.and_eq_true, bne_iff_ne, ne_eq] at h
  obtain ⟨⟨hne, hall⟩, -⟩ := h
  cases hcs : text.toList with
  | nil => exact absurd (String.toList_injective (hcs.trans String.toList_empty.symm)) hne
  | cons c rest =>
    rw [hcs, List.all_cons, Bool.and_eq_true] at hall
    simp [Text.isBlankText, hcs, isBlank_eq_false hall.1]

/-- The text of a family is read back. -/
theorem parse_text (family : Family) : parse family.text = .ok family := by
  simp [parse, isBlankText_eq_false family.valid, family.valid]

theorem parse_eq_ok_iff {raw : String} {family : Family} :
    parse raw = .ok family ↔ family.text = raw := by
  constructor
  · intro h
    unfold parse at h
    split at h
    · cases h
    · split at h <;> cases h
      rfl
  · rintro rfl
    exact parse_text family

/-- The family of checkouts by agents. -/
def agenticCheckout : Family := ⟨"agentic_checkout", by decide +kernel⟩

def delegatePayment : Family := ⟨"delegate_payment", by decide +kernel⟩

instance : Inhabited Family := ⟨agenticCheckout⟩

def order (a b : Family) : Ordering := compare a.text b.text

/-- The families in ascending order; equal ones keep their places. -/
def sort (families : List Family) : List Family :=
  families.mergeSort fun a b => (a.order b).isLE

end Family

/-- The kinds of artifact of a family. -/
inductive ArtifactKind where
  | jsonSchema
  | openApi
  | examples
deriving DecidableEq, Repr

namespace ArtifactKind

def all : List ArtifactKind := [.jsonSchema, .openApi, .examples]

/-- The name of a kind, which is also the name of its directory. -/
def name : ArtifactKind → String
  | .jsonSchema => "json-schema"
  | .openApi => "openapi"
  | .examples => "examples"

def label : ArtifactKind → String
  | .jsonSchema => "JSON Schema"
  | .openApi => "OpenAPI"
  | .examples => "Examples"

end ArtifactKind

end SpecLint
