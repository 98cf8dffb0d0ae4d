/-!
Paths of files as text. A path names components with slashes between them; empty components and
single dots between others say nothing. `length_parent?_lt` says that a parent is shorter than its
path, so that every path has finitely many ancestors.
-/

namespace SpecLint

/-- A path, absolute if it starts with a slash. -/
structure FilePath where
  text : String
deriving DecidableEq, Repr

namespace FilePath

/-- Whether a text is an absolute path. -/
def isRooted (text : String) : Bool := text.toList.head? == some '/'

/-- Whether the path starts at the root. -/
def isAbsolute (path : FilePath) : Bool := isRooted path.text

/-- The path of something inside a directory. An absolute part stands for itself. -/
def join (path : FilePath) (part : String) : FilePath :=
  if isRooted part || path.text == "" then ⟨part⟩
  else if path.text.toList.getLast? == some '/' then ⟨path.text ++ part⟩
  else ⟨path.text ++ "/" ++ part⟩

/-- The path of something several directories below. -/
def joinAll (path : FilePath) (parts : List String) : FilePath := parts.foldl join path

/-- Drops slashes, and dots that are components, from the end of a reversed path. A dot that is the
first component stays. -/
def dropIdle : List Char → List Char
  | '/' :: rest => dropIdle rest
  | '.' :: '/' :: rest => dropIdle ('/' :: rest)
  | path => path

/-- The path without its last component. -/
def parent? (path : FilePath) : Option FilePath :=
  match dropIdle path.text.toList.reverse with
  | [] => none
  | kept =>
    let above := (dropIdle (kept.dropWhile (· != '/'))).reverse
    some ⟨if above.isEmpty && path.isAbsolute then "/" else String.ofList above⟩

theorem dropIdle_suffix (path : List Char) : dropIdle path <:+ path := by
  fun_induction dropIdle path with
  | case1 rest ih => exact ih.trans (List.suffix_cons _ _)
  | case2 rest ih => exact ih.trans (List.suffix_cons _ _)
  | case3 => exact List.suffix_refl _

theorem head?_dropIdle_ne (path : List Char) : (dropIdle path).head? ≠ some '/' := by
  fun_induction dropIdle path with
  | case1 rest ih => exact ih
  | case2 rest ih => exact ih
  | case3 path h _ =>
    intro hpath
    cases path with
    | nil => cases hpath
    | cons c rest =>
      cases hpath
      exact h rest rfl

/-- A parent is shorter than its path. -/
theorem length_parent?_lt {path above : FilePath} (h : path.parent? = some above) :
    above.text.toList.length < path.text.toList.length := by
  have hsuffix := dropIdle_suffix path.text.toList.reverse
  have hhead := head?_dropIdle_ne path.text.toList.reverse
  unfold parent? at h
  generalize dropIdle path.text.toList.reverse = kept at h hsuffix hhead
  cases kept with
  | nil => cases h
  | cons c rest =>
    have hc : c ≠ '/' := fun hc => hhead (by rw [hc]; rfl)
    simp only [Option.some.injEq] at h
    subst h
    have hlen := hsuffix.length_le
    simp only [List.length_reverse, List.length_cons] at hlen
    have hdrop : ((c :: rest).dropWhile (· != '/')).length ≤ rest.length := by
      rw [List.dropWhile_cons_of_pos (by simpa using hc)]
      exact (List.dropWhile_sublist _).length_le
    have hidle := (dropIdle_suffix ((c :: rest).dropWhile (· != '/'))).length_le
    split
    · rename_i hroot
      simp only [Bool.and_eq_true] at hroot
      have habs := hroot.2
      simp only [isAbsolute, isRooted, beq_iff_eq] at habs
      have hlast : (c :: rest).getLast? = some '/' := by
        have := hsuffix.getLast (List.cons_ne_nil c rest)
        rw [List.getLast?_eq_some_getLast (by simp), this, ← habs]
        rw [List.getLast_reverse, List.head?_eq_some_head]
      cases rest with
      | nil =>
        simp only [List.getLast?_singleton, Option.some.injEq] at hlast
        exact absurd hlast hc
      | cons d rest =>
        simp only [List.length_cons] at hlen
        show "/".toList.length < path.text.toList.length
        have : "/".toList.length = 1 := rfl
        omega
    · simp only [String.toList_ofList, List.length_reverse]
      omega

/-- The path itself and all paths above it, the nearest first. -/
def ancestors (path : FilePath) : List FilePath :=
  match h : path.parent? with
  | none => [path]
  | some above =>
    have := length_parent?_lt h
    path :: above.ancestors
termination_by path.text.toList.length

end FilePath

end SpecLint
