import Mathlib.Data.List.Infix
import SpecLint.Files.Listing
import SpecLint.Proofs.Text.Search

/-!
Paths that are put together from a directory and components. A component is one name: joining it to
a path adds this name and nothing else (`namesOf_join`), and what the longer path leads to is the
entry of that name in what the shorter one leads to (`locate_join`). Both statements are carried
over to any number of components, so such a path goes down from its directory at every step and
never up or to the side.
-/

namespace SpecLint

/-- The text is one name in a path: it has no separator, and neither stays in a directory nor leaves
it upwards. -/
structure IsComponent (part : String) : Prop where
  ne_empty : part ≠ ""
  ne_dot : part ≠ "."
  ne_dots : part ≠ ".."
  no_separator : ∀ c ∈ part.toList, c ≠ '/' ∧ c ≠ '\\'

namespace FilePath

variable {path : FilePath} {part : String}

/-- The path itself; a path without text stands for the directory in which relative paths start. -/
def orCurrent (path : FilePath) : FilePath := if path.text = "" then ⟨"."⟩ else path

theorem isRooted_of_isComponent (hpart : IsComponent part) : isRooted part = false := by
  rw [isRooted, beq_eq_false_iff_ne]
  intro hhead
  obtain ⟨hslash, -⟩ := hpart.no_separator '/' (List.mem_of_mem_head? hhead)
  exact hslash rfl

@[simp] theorem orCurrent_text_ne (path : FilePath) : path.orCurrent.text ≠ "" := by
  unfold orCurrent
  split
  · decide
  · assumption

@[simp] theorem isAbsolute_orCurrent (path : FilePath) :
    path.orCurrent.isAbsolute = path.isAbsolute := by
  unfold orCurrent
  split
  · rename_i hempty
    simp [isAbsolute, isRooted, hempty]
  · rfl

/-- What stands between a path and a component that is joined to it. -/
def separator (path : FilePath) : String :=
  if path.text = "" ∨ path.text.toList.getLast? = some '/' then "" else "/"

theorem join_eq (path : FilePath) (hpart : IsComponent part) :
    path.join part = ⟨path.text ++ path.separator ++ part⟩ := by
  unfold join separator
  rw [isRooted_of_isComponent hpart, Bool.false_or]
  by_cases hempty : path.text = ""
  · simp [hempty]
  · by_cases hlast : path.text.toList.getLast? = some '/' <;> simp [hempty, hlast]

theorem join_text_ne (path : FilePath) (hpart : IsComponent part) : (path.join part).text ≠ "" := by
  rw [path.join_eq hpart]
  simp [hpart.ne_empty]

theorem separator_join (path : FilePath) (hpart : IsComponent part) :
    (path.join part).separator = "/" := by
  have hlast : (path.join part).text.toList.getLast? ≠ some '/' := by
    have hne : part.toList ≠ [] := by simpa using hpart.ne_empty
    rw [path.join_eq hpart, String.toList_append, List.getLast?_append_of_ne_nil _ hne]
    intro h
    exact (hpart.no_separator '/' (List.mem_of_getLast? h)).1 rfl
  simp [separator, path.join_text_ne hpart, hlast]

theorem isAbsolute_join (path : FilePath) (hpart : IsComponent part) :
    (path.join part).isAbsolute = path.isAbsolute := by
  rw [path.join_eq hpart, isAbsolute, isAbsolute]
  by_cases hpath : path.text = ""
  · have hpart := isRooted_of_isComponent hpart
    simpa [separator, hpath, isRooted] using hpart
  · have hne : path.text.toList ≠ [] := by simpa using hpath
    simp only [isRooted, String.toList_append, List.append_assoc,
      List.head?_append_of_ne_nil _ hne]

theorem components_of_isComponent (hpart : IsComponent part) :
    FileSystem.components ⟨part⟩ = [part] := by
  have hnone : '/' ∉ part.toList := fun h => (hpart.no_separator '/' h).1 rfl
  simp [FileSystem.components, Text.splitAt_of_notMem hnone]

theorem components_append {text : String} {front : List Char}
    (htext : text.toList = front ++ ['/']) (hpart : IsComponent part) :
    FileSystem.components ⟨text ++ part⟩ =
      (Text.splitAt '/' front).map String.ofList ++ [part] := by
  have hsplit : (text ++ part).toList = front ++ '/' :: part.toList := by
    rw [String.toList_append, htext, List.append_assoc]
    rfl
  rw [FileSystem.components, hsplit, Text.splitAt_append_separator, List.map_append]
  exact congrArg _ (components_of_isComponent hpart)

/-- A join has the part as its last component. Before it are the components of the path, but for an
idle one at their end. -/
theorem exists_components_join (path : FilePath) (hpart : IsComponent part) :
    ∃ before idle, FileSystem.components (path.join part) = before ++ [part] ∧
      FileSystem.components path.orCurrent = before ++ idle ∧
      ∀ name ∈ idle, name = "" ∨ name = "." := by
  rw [path.join_eq hpart, orCurrent, separator]
  by_cases hempty : path.text = ""
  · refine ⟨[], ["."], ?_, ?_, by simp⟩
    · simpa [hempty] using components_of_isComponent hpart
    · rw [if_pos hempty]
      rfl
  · rw [if_neg hempty]
    by_cases hlast : path.text.toList.getLast? = some '/'
    · -- The text after the last separator of the path gives way to the part.
      obtain ⟨front, hfront⟩ := List.getLast?_eq_some_iff.1 hlast
      refine ⟨(Text.splitAt '/' front).map String.ofList, [""], ?_, ?_, by simp⟩
      · rw [if_pos (Or.inr hlast), String.append_empty, components_append hfront hpart]
      · rw [FileSystem.components, hfront, Text.splitAt_append_separator, List.map_append]
        rfl
    · refine ⟨FileSystem.components path, [], ?_, by simp, by simp⟩
      have hslash : (path.text ++ "/").toList = path.text.toList ++ ['/'] := by simp
      rw [if_neg (by simp [hempty, hlast]), components_append hslash hpart]
      rfl

theorem namesOf_orCurrent (path : FilePath) :
    FileTree.namesOf path.orCurrent = FileTree.namesOf path := by
  unfold orCurrent
  split
  · rename_i hempty
    rw [FileTree.namesOf, FileTree.namesOf, FileSystem.components, FileSystem.components, hempty]
    rfl
  · rfl

theorem namesOf_join (path : FilePath) (hpart : IsComponent part) :
    FileTree.namesOf (path.join part) = FileTree.namesOf path ++ [part] := by
  obtain ⟨before, idle, hjoin, hpath, hidle⟩ := exists_components_join path hpart
  have hdropped : (idle.filter fun name => name != "" && name != ".") = [] := by
    refine List.filter_eq_nil_iff.2 fun name hname => ?_
    rcases hidle name hname with rfl | rfl <;> decide
  rw [← namesOf_orCurrent path, FileTree.namesOf, FileTree.namesOf, hjoin, hpath,
    List.filter_append, List.filter_append, hdropped, List.append_nil]
  simp [hpart.ne_empty, hpart.ne_dot]

end FilePath

namespace FileTree

/-- The entry of a directory. -/
def entry (tree : FileTree) (name : String) : Except FileError FileTree :=
  match tree with
  | .file _ => .error .notADirectory
  | .directory entries =>
    match entries.lookup name with
    | some tree => .ok tree
    | none => .error .notFound

/-- What single names lead to, one directory down for each of them. -/
def descend (tree : FileTree) (names : List String) : Except FileError FileTree :=
  names.foldlM entry tree

/-- Without components that lead upwards it does not matter which directories are above. -/
theorem walk_above (above other : List FileTree) (tree : FileTree) {parts : List String}
    (hparts : ".." ∉ parts) : walk above tree parts = walk other tree parts := by
  induction parts generalizing above other tree with
  | nil => rw [walk, walk]
  | cons name rest ih =>
      obtain ⟨hname, hrest⟩ := List.ne_and_not_mem_of_not_mem_cons hparts
      cases tree with
      | file content => rw [walk, walk]
      | directory entries =>
          simp only [walk, Ne.symm hname, if_false]
          split
          · exact ih _ _ _ hrest
          · split
            · exact ih _ _ _ hrest
            · rfl

theorem walk_append (above : List FileTree) (tree : FileTree) (parts : List String)
    {more : List String} (hmore : ".." ∉ more) :
    walk above tree (parts ++ more) = (walk above tree parts).bind (walk [] · more) := by
  induction parts generalizing above tree with
  | nil => simpa [walk, Except.bind] using walk_above above [] tree hmore
  | cons name rest ih =>
      cases tree with
      | file content => simp [walk, Except.bind]
      | directory entries =>
          simp only [List.cons_append, walk]
          split
          · exact ih _ _
          · split
            · cases above with
              | nil => exact ih _ _
              | cons parent above => exact ih _ _
            · split
              · exact ih _ _
              · rfl

theorem walk_singleton (tree : FileTree) {name : String} (hname : IsComponent name) :
    walk [] tree [name] = tree.entry name := by
  cases tree with
  | file content => rfl
  | directory entries =>
      cases hlookup : entries.lookup name <;>
        simp [walk, entry, hname.ne_empty, hname.ne_dot, hname.ne_dots, hlookup]

theorem entry_of_idle (tree : FileTree) {idle : List String}
    (hidle : ∀ name ∈ idle, name = "" ∨ name = ".") (name : String) :
    (walk [] tree idle).bind (·.entry name) = tree.entry name := by
  induction idle with
  | nil => rw [walk]; rfl
  | cons part rest ih =>
      obtain ⟨hpart, hrest⟩ := List.forall_mem_cons.1 hidle
      cases tree with
      | file content => rfl
      | directory entries =>
          rw [walk, if_pos (by simpa using hpart)]
          exact ih hrest

end FileTree

namespace FileSystem

variable {path : FilePath}

/-- What a joined path leads to is an entry of what the path leads to. -/
theorem locate_join (files : FileSystem) (path : FilePath) {part : String}
    (hpart : IsComponent part) :
    files.locate (path.join part) = (files.locate path.orCurrent).bind (·.entry part) := by
  obtain ⟨before, idle, hjoin, hpath, hidle⟩ := path.exists_components_join hpart
  have hdown : ".." ∉ [part] := by simpa using hpart.ne_dots.symm
  have hstay : ".." ∉ idle := fun h => by rcases hidle _ h with h | h <;> exact absurd h (by decide)
  rw [locate, if_neg (path.join_text_ne hpart), locate, if_neg path.orCurrent_text_ne,
    path.isAbsolute_join hpart, path.isAbsolute_orCurrent, hjoin, hpath]
  simp only [← List.append_assoc]
  rw [FileTree.walk_append _ _ _ hdown, FileTree.walk_append _ _ _ hstay]
  cases FileTree.walk [] files.root
      ((if path.isAbsolute = true then [] else components files.workingDirectory) ++ before) with
  | error error => rfl
  | ok tree =>
      show FileTree.walk [] tree [part] = (FileTree.walk [] tree idle).bind (·.entry part)
      rw [FileTree.walk_singleton tree hpart, FileTree.entry_of_idle tree hidle]

end FileSystem

/-! ### Several components -/

namespace FilePath

variable {parts : List String}

theorem joinAll_cons (path : FilePath) (part : String) (parts : List String) :
    path.joinAll (part :: parts) = (path.join part).joinAll parts := rfl

theorem joinAll_text_ne (path : FilePath) (hparts : ∀ part ∈ parts, IsComponent part)
    (hne : parts ≠ []) : (path.joinAll parts).text ≠ "" := by
  obtain ⟨init, last, rfl⟩ := (List.eq_nil_or_concat' parts).resolve_left hne
  have hlast : path.joinAll (init ++ [last]) = (path.joinAll init).join last := by
    simp [joinAll]
  rw [hlast]
  exact join_text_ne _ (hparts last (by simp))

theorem text_joinAll (path : FilePath) (hparts : ∀ part ∈ parts, IsComponent part)
    (hne : parts ≠ []) :
    (path.joinAll parts).text = path.text ++ path.separator ++ "/".intercalate parts := by
  induction parts generalizing path with
  | nil => exact absurd rfl hne
  | cons part parts ih =>
      obtain ⟨hpart, hparts⟩ := List.forall_mem_cons.1 hparts
      cases parts with
      | nil => exact congrArg text (path.join_eq hpart)
      | cons next parts =>
          rw [joinAll_cons, ih _ hparts (List.cons_ne_nil _ _), path.separator_join hpart,
            path.join_eq hpart, String.intercalate_cons_cons]
          simp only [String.append_assoc]

theorem namesOf_joinAll (path : FilePath) (hparts : ∀ part ∈ parts, IsComponent part) :
    FileTree.namesOf (path.joinAll parts) = FileTree.namesOf path ++ parts := by
  induction parts generalizing path with
  | nil => simp [joinAll]
  | cons part parts ih =>
      obtain ⟨hpart, hparts⟩ := List.forall_mem_cons.1 hparts
      rw [joinAll_cons, ih _ hparts, path.namesOf_join hpart, List.append_assoc]
      rfl

/-- What a path put together from components leads to is below what the directory leads to. -/
theorem locate_joinAll (files : FileSystem) (path : FilePath)
    (hparts : ∀ part ∈ parts, IsComponent part) :
    files.locate (path.joinAll parts).orCurrent =
      (files.locate path.orCurrent).bind (·.descend parts) := by
  induction parts generalizing path with
  | nil =>
      show files.locate path.orCurrent = (files.locate path.orCurrent).bind .ok
      cases files.locate path.orCurrent <;> rfl
  | cons part parts ih =>
      obtain ⟨hpart, hparts⟩ := List.forall_mem_cons.1 hparts
      have hjoin : (path.join part).orCurrent = path.join part :=
        if_neg (path.join_text_ne hpart)
      rw [joinAll_cons, ih _ hparts, hjoin, files.locate_join path hpart]
      cases files.locate path.orCurrent <;> rfl

end FilePath

end SpecLint
