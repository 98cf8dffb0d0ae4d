import SpecLint.Proofs.Text.Search

/-!
Offsets in texts, counted in bytes. A text can be divided where a character starts and at its end,
and at no other offset (`divide?_eq_some_iff`).
-/

namespace SpecLint.Text

/-- The number of bytes of a text. -/
def size (text : List Char) : Nat := (String.ofList text).utf8ByteSize

theorem size_append (front back : List Char) : size (front ++ back) = size front + size back := by
  rw [size, String.ofList_append, String.utf8ByteSize_append]
  rfl

theorem size_cons (c : Char) (rest : List Char) : size (c :: rest) = c.utf8Size + size rest := by
  rw [← List.singleton_append, size_append]
  simp [size]

@[simp] theorem size_nil : size [] = 0 := by simp [size]

/-- The text in front of an offset and the text from there on; none if the offset is behind the text
or within a character. -/
def divide? (offset : Nat) : (text : List Char) → Option (List Char × List Char)
  | [] => if offset = 0 then some ([], []) else none
  | c :: rest =>
    if offset = 0 then some ([], c :: rest)
    else if offset < c.utf8Size then none
    else (divide? (offset - c.utf8Size) rest).map fun (front, back) => (c :: front, back)

def upTo? (offset : Nat) (text : List Char) : Option (List Char) :=
  (divide? offset text).map Prod.fst

def from? (offset : Nat) (text : List Char) : Option (List Char) :=
  (divide? offset text).map Prod.snd

/-- The offset of the first occurrence of a pattern. -/
def offset? (pattern text : List Char) : Option Nat :=
  (cut pattern text).map fun (before, _) => size before

theorem offset?_eq_none_iff {pattern text : List Char} :
    offset? pattern text = none ↔ ¬pattern <:+: text := by
  rw [offset?, Option.map_eq_none_iff, cut_eq_none_iff]

theorem offset?_of_isFirst {pattern text before after : List Char}
    (h : IsFirst pattern text before after) : offset? pattern text = some (size before) := by
  rw [offset?, cut_eq_some_iff.2 h]
  rfl

variable {text front back : List Char} {offset : Nat}

theorem divide?_zero (text : List Char) : divide? 0 text = some ([], text) := by
  cases text <;> rfl

theorem divide?_size (front back : List Char) :
    divide? (size front) (front ++ back) = some (front, back) := by
  induction front with
  | nil => rw [size_nil, List.nil_append, divide?_zero]
  | cons c front ih =>
      have hc := c.utf8Size_pos
      rw [size_cons, List.cons_append, divide?, if_neg (by omega), if_neg (by omega),
        Nat.add_sub_cancel_left, ih]
      rfl

theorem divide?_eq_some_iff :
    divide? offset text = some (front, back) ↔ text = front ++ back ∧ offset = size front := by
  constructor
  · intro h
    induction text generalizing offset front with
    | nil =>
        rw [divide?] at h
        split at h
        · cases h
          exact ⟨rfl, by rw [size_nil]; assumption⟩
        · cases h
    | cons c rest ih =>
        rw [divide?] at h
        split at h
        · cases h
          exact ⟨rfl, by rw [size_nil]; assumption⟩
        · split at h
          · cases h
          · rename_i hle
            obtain ⟨⟨front', back'⟩, hrest, heq⟩ := Option.map_eq_some_iff.1 h
            obtain ⟨rfl, rfl⟩ := Prod.mk.inj heq
            obtain ⟨rfl, hoffset⟩ := ih hrest
            refine ⟨rfl, ?_⟩
            rw [size_cons]
            omega
  · rintro ⟨rfl, rfl⟩
    exact divide?_size front back

theorem upTo?_size (front back : List Char) : upTo? (size front) (front ++ back) = some front := by
  rw [upTo?, divide?_size]
  rfl

theorem from?_size (front back : List Char) : from? (size front) (front ++ back) = some back := by
  rw [from?, divide?_size]
  rfl

theorem length_lt_of_from? (h : from? offset text = some back) (hoffset : 0 < offset) :
    back.length < text.length := by
  obtain ⟨⟨front, _⟩, hdivide, rfl⟩ := Option.map_eq_some_iff.1 h
  obtain ⟨rfl, rfl⟩ := divide?_eq_some_iff.1 hdivide
  cases front with
  | nil => simp at hoffset
  | cons c front =>
      simp only [List.length_append, List.length_cons]
      omega

end SpecLint.Text
