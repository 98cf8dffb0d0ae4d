import SpecLint.Decode.Json
import SpecLint.Json.Canonical

/-!
Reading back what was written. An object is known by what it has under its keys; a record is read
from it field by field, and no field stands in the way of another (`check_eq_ok`, `check_eq_error`).
-/

namespace SpecLint

namespace Json

/-- The object with a value under a key; nothing changes under other keys. -/
def set (value : Json) (key : String) (content : Json) : Json :=
  match value with
  | .object members => .object (Members.insert key content members)
  | other => other

theorem decodeList_map {α : Type} {encode : α → Json} {decode : Json → Decoded α}
    (h : ∀ a, decode (encode a) = .ok a) (items : List α) :
    decodeList decode (.array (items.map encode)) = .ok items := by
  show (items.map encode).mapM decode = .ok items
  induction items with
  | nil => rfl
  | cons item items ih =>
      rw [List.map_cons, List.mapM_cons, h, ih]
      rfl

theorem decodeTexts_ofStrings (texts : List String) :
    decodeList decodeText (.ofStrings texts) = .ok texts := by
  have hread : ∀ text, decodeText (.string text) = .ok text := fun _ => rfl
  exact decodeList_map hread texts

theorem decodeFamily_text (family : Family) :
    decodeFamily (.string family.text) = .ok family := by
  show (Family.parse family.text).mapError DecodeError.coordinate = _
  rw [family.parse_text]
  rfl

end Json

namespace Fields

variable {fields : Fields} {α : Type}

/-- The fields of a record that is given as an object. -/
def ofMembers (members : Members) : Fields := ⟨members, .missingField, none⟩

theorem mem_of_lookup {β : Type} {name : String} {value : β} {entries : List (String × β)}
    (h : entries.lookup name = some value) : (name, value) ∈ entries := by
  obtain ⟨_, _, rfl, -⟩ := List.lookup_eq_some_iff.1 h
  simp

theorem check_cons (entry : String × Json) (given : List (String × Json))
    (missing : String → DecodeError) (surplus : Option DecodeError)
    (readers : List (String × (Json → Decoded Unit))) :
    (Fields.mk (entry :: given) missing surplus).check readers =
      (match readers.lookup entry.1 with
        | some read => read entry.2
        | none => .ok ()).bind fun _ => (Fields.mk given missing surplus).check readers := by
  unfold check
  simp only [List.forIn_cons]
  cases readers.lookup entry.1 with
  | none => rfl
  | some read =>
      simp only
      cases read entry.2 <;> rfl

theorem check_eq_ok {readers : List (String × (Json → Decoded Unit))}
    (h : ∀ entry ∈ fields.given, ∀ read, (entry.1, read) ∈ readers → read entry.2 = .ok ()) :
    fields.check readers = .ok () := by
  obtain ⟨given, missing, surplus⟩ := fields
  induction given with
  | nil => rfl
  | cons entry given ih =>
      obtain ⟨hentry, hgiven⟩ := List.forall_mem_cons.1 h
      rw [check_cons, ih hgiven]
      cases hlookup : readers.lookup entry.1 with
      | none => rfl
      | some read =>
          simp only [hentry read (mem_of_lookup hlookup)]
          rfl

/-- If fields can only go wrong in one way and one of them does, then this is what is reported. -/
theorem check_eq_error {readers : List (String × (Json → Decoded Unit))} {error : DecodeError}
    (h : ∀ entry ∈ fields.given, ∀ read, (entry.1, read) ∈ readers →
      read entry.2 = .ok () ∨ read entry.2 = .error error)
    {name : String} {value : Json} (hmem : (name, value) ∈ fields.given)
    (hwrong : ∃ read, readers.lookup name = some read ∧ read value = .error error) :
    fields.check readers = .error error := by
  obtain ⟨given, missing, surplus⟩ := fields
  induction given with
  | nil => cases hmem
  | cons entry given ih =>
      obtain ⟨hentry, hgiven⟩ := List.forall_mem_cons.1 h
      rw [check_cons]
      rcases List.mem_cons.1 hmem with rfl | hmem
      · obtain ⟨read, hread, hwrong⟩ := hwrong
        simp only [hread, hwrong]
        rfl
      · rw [ih hgiven hmem]
        cases hlookup : readers.lookup entry.1 with
        | none => rfl
        | some read =>
            rcases hentry read (mem_of_lookup hlookup) with hread | hread <;>
              simp only [hread] <;> rfl

section

variable {members : Members} {key : String} {value : Json}

theorem check_cons_of_ok {readers : List (String × (Json → Decoded Unit))}
    (hvalue : ∀ read, readers.lookup key = some read → read value = .ok ()) :
    (ofMembers ((key, value) :: members)).check readers = (ofMembers members).check readers := by
  rw [ofMembers, check_cons]
  cases hlookup : readers.lookup key with
  | none => rfl
  | some read =>
      simp only [hvalue read hlookup]
      rfl

/-- A new field that passes its own check has no part in the check of the others. -/
theorem check_insert {readers : List (String × (Json → Decoded Unit))}
    (hvalue : ∀ read, readers.lookup key = some read → read value = .ok ())
    (hnew : members.get? key = none) :
    (ofMembers (members.insert key value)).check readers = (ofMembers members).check readers := by
  induction members with
  | nil => exact check_cons_of_ok hvalue
  | cons head rest ih =>
      obtain ⟨k, v⟩ := head
      rw [Members.get?_cons] at hnew
      by_cases hkey : key = k
      · rw [if_pos hkey] at hnew
        cases hnew
      · rw [if_neg hkey] at hnew
        rw [Members.insert, if_neg hkey]
        split
        · exact check_cons_of_ok hvalue
        · have hrest := ih hnew
          simp only [ofMembers, check_cons] at hrest ⊢
          rw [hrest]

theorem optional_insert (name : String) (decode : Json → Decoded α) (absent : α) :
    (ofMembers (members.insert key value)).optional name decode absent =
      if name = key then decode value else (ofMembers members).optional name decode absent := by
  have hget : (ofMembers (members.insert key value)).given.lookup name =
      if name = key then some value else members.get? name := members.get?_insert key name value
  rw [optional, hget]
  by_cases h : name = key
  · rw [if_pos h, if_pos h]
  · rw [if_neg h, if_neg h]
    rfl

end

/-- A field that is written as a text or left out. -/
theorem optional_text {name : String} {decode : Json → Decoded α} (write : α → String)
    (hdecode : ∀ a, decode (.string (write a)) = .ok a) {field : Option α}
    (hfield : fields.given.lookup name = field.map fun a => .string (write a)) :
    fields.optional name (Json.decodeOption decode) none = .ok field := by
  rw [optional, hfield]
  cases field with
  | none => rfl
  | some a =>
      show (decode (.string (write a))).map some = .ok (some a)
      rw [hdecode]
      rfl

end Fields

end SpecLint
