import Mathlib.Data.List.TakeWhile
import Mathlib.Logic.Relation
import SpecLint.Files.Tree
import SpecLint.Proofs.Files.Path

/-!
Paths above a path. Going up takes one step off the end of a path at a time and leaves alone where
the path starts, so that a path has as many above it as it has steps (`map_steps_ancestors`). A
search among them, the path itself first, ends at the nearest one with the property that is looked
for (`find?_ancestors_eq_some_iff`); this is how the root of a repository is found.
-/

namespace SpecLint

namespace FilePath

/-! ### Steps -/

/-- A piece between slashes that leads somewhere. -/
def isStep (piece : List Char) : Bool := piece != [] && piece != ['.']

/-- The steps among the pieces of a path. A dot is one if it is the first piece. -/
def stepsAmong : List (List Char) → List (List Char)
  | [] => []
  | first :: more => (if first = [] then [] else [first]) ++ more.filter isStep

def stepsOf (text : List Char) : List (List Char) := stepsAmong (Text.splitAt '/' text)

/-- The steps of a path from where it starts. -/
def steps (path : FilePath) : List String := (stepsOf path.text.toList).map String.ofList

theorem stepsOf_of_notMem {piece : List Char} (hne : piece ≠ []) (hslash : '/' ∉ piece) :
    stepsOf piece = [piece] := by
  rw [stepsOf, Text.splitAt_of_notMem hslash, stepsAmong, if_neg hne]
  rfl

theorem stepsOf_append_piece (front : List Char) {piece : List Char} (hslash : '/' ∉ piece) :
    stepsOf (front ++ '/' :: piece) = stepsOf front ++ [piece].filter isStep := by
  rw [stepsOf, stepsOf, Text.splitAt_append_separator, Text.splitAt_of_notMem hslash]
  cases hfront : Text.splitAt '/' front with
  | nil => exact absurd hfront (Text.splitAt_ne_nil '/' front)
  | cons first more =>
      rw [List.cons_append, stepsAmong, stepsAmong, List.filter_append, List.append_assoc]

theorem stepsOf_append_slash (front : List Char) : stepsOf (front ++ ['/']) = stepsOf front := by
  rw [stepsOf_append_piece front (by decide)]
  exact List.append_nil _

theorem stepsOf_append_dot (front : List Char) : stepsOf (front ++ ['/', '.']) = stepsOf front := by
  rw [stepsOf_append_piece front (by decide)]
  exact List.append_nil _

theorem stepsOf_dropIdle (path : List Char) :
    stepsOf (dropIdle path).reverse = stepsOf path.reverse := by
  fun_induction dropIdle path with
  | case1 rest ih => rw [ih, List.reverse_cons, stepsOf_append_slash]
  | case2 rest ih =>
      have hdot : ('.' :: '/' :: rest).reverse = rest.reverse ++ ['/', '.'] := by simp
      rw [ih, hdot, stepsOf_append_dot, List.reverse_cons, stepsOf_append_slash]
  | case3 => rfl

theorem dropIdle_ne_dot (path rest : List Char) : dropIdle path ≠ '.' :: '/' :: rest := by
  fun_induction dropIdle path with
  | case1 tail ih => exact ih
  | case2 tail ih => exact ih
  | case3 path _ hdot =>
      rintro rfl
      exact hdot rest rfl

/-- A reversed path with nothing idle at its front has its last step there. -/
theorem exists_stepsOf_eq {kept : List Char} (hne : kept ≠ []) (hslash : kept.head? ≠ some '/')
    (hdot : ∀ rest, kept ≠ '.' :: '/' :: rest) :
    ∃ name, stepsOf kept.reverse = stepsOf (kept.dropWhile (· != '/')).reverse ++ [name] := by
  have hkept := List.takeWhile_append_dropWhile (p := (· != '/')) (l := kept)
  generalize hpiece : kept.takeWhile (· != '/') = piece at hkept
  have hmem : '/' ∉ piece.reverse := by
    intro h
    have htrue := List.mem_takeWhile_imp (hpiece ▸ List.mem_reverse.1 h)
    simp at htrue
  cases hrest : kept.dropWhile (· != '/') with
  | nil =>
      rw [hrest, List.append_nil] at hkept
      subst hkept
      exact ⟨_, stepsOf_of_notMem (by simpa using hne) hmem⟩
  | cons c tail =>
      have hc : c = '/' := by
        have hhead := List.head?_dropWhile_not (· != '/') kept
        rw [hrest] at hhead
        simpa using hhead
      subst hc
      rw [hrest] at hkept
      have hstep : isStep piece.reverse = true := by
        rw [isStep, Bool.and_eq_true, bne_iff_ne, bne_iff_ne]
        constructor
        · intro hempty
          rw [List.reverse_eq_nil_iff.1 hempty] at hkept
          exact hslash (hkept ▸ rfl)
        · intro hsingle
          rw [List.reverse_eq_iff.1 hsingle] at hkept
          exact hdot tail hkept.symm
      refine ⟨piece.reverse, ?_⟩
      rw [← hkept, List.reverse_append, List.reverse_cons, List.append_assoc, List.singleton_append,
        stepsOf_append_piece _ hmem, stepsOf_append_slash, List.filter_cons_of_pos hstep]
      rfl

variable {path above : FilePath}

theorem parent?_eq_none_iff : path.parent? = none ↔ path.steps = [] := by
  have hsteps := stepsOf_dropIdle path.text.toList.reverse
  have hslash := head?_dropIdle_ne path.text.toList.reverse
  have hdot := dropIdle_ne_dot path.text.toList.reverse
  rw [List.reverse_reverse] at hsteps
  rw [parent?, steps, ← hsteps]
  generalize dropIdle path.text.toList.reverse = kept at hslash hdot
  cases kept with
  | nil => exact iff_of_true rfl rfl
  | cons c rest =>
      obtain ⟨name, hname⟩ := exists_stepsOf_eq (List.cons_ne_nil c rest) hslash hdot
      rw [hname]
      simp

/-- A parent is the front of its path without the last step; at the top of the files it is the
root. -/
theorem exists_of_parent?_eq_some (h : path.parent? = some above) :
    ∃ front name, front <+: path.text.toList ∧
      stepsOf path.text.toList = stepsOf front ++ [name] ∧
      above.text.toList = if front = [] ∧ path.isAbsolute = true then ['/'] else front := by
  have hsteps := stepsOf_dropIdle path.text.toList.reverse
  have hslash := head?_dropIdle_ne path.text.toList.reverse
  have hdot := dropIdle_ne_dot path.text.toList.reverse
  have hkept := dropIdle_suffix path.text.toList.reverse
  rw [List.reverse_reverse] at hsteps
  unfold parent? at h
  generalize dropIdle path.text.toList.reverse = kept at h hsteps hslash hdot hkept
  cases kept with
  | nil => cases h
  | cons c rest =>
      obtain ⟨name, hname⟩ := exists_stepsOf_eq (List.cons_ne_nil c rest) hslash hdot
      simp only [Option.some.injEq] at h
      subst h
      refine ⟨(dropIdle ((c :: rest).dropWhile (· != '/'))).reverse, name, ?_, ?_, ?_⟩
      · have hfront := ((dropIdle_suffix _).trans (List.dropWhile_suffix (· != '/'))).trans hkept
        simpa using List.reverse_prefix.2 hfront
      · rw [← hsteps, hname, stepsOf_dropIdle]
      · by_cases htop : (dropIdle ((c :: rest).dropWhile (· != '/'))).reverse = [] ∧
            path.isAbsolute = true
        · rw [if_pos htop, if_pos (by simpa using htop)]
          rfl
        · rw [if_neg htop, if_neg (by simpa using htop), String.toList_ofList]

theorem exists_steps_eq_append (h : path.parent? = some above) :
    ∃ name, path.steps = above.steps ++ [name] := by
  obtain ⟨front, name, -, hsteps, htext⟩ := exists_of_parent?_eq_some h
  have habove : stepsOf above.text.toList = stepsOf front := by
    rw [htext]
    split
    · rename_i htop
      rw [htop.1]
      rfl
    · rfl
  refine ⟨String.ofList name, ?_⟩
  rw [steps, steps, hsteps, habove, List.map_append]
  rfl

example : steps ⟨"./a//b/."⟩ = [".", "a", "b"] ∧
    (parent? ⟨"./a//b/."⟩).map text = some "./a" := by decide +kernel

theorem isAbsolute_of_parent? (h : path.parent? = some above) :
    above.isAbsolute = path.isAbsolute := by
  obtain ⟨front, name, ⟨rest, hrest⟩, -, htext⟩ := exists_of_parent?_eq_some h
  by_cases hfront : front = []
  · subst hfront
    cases habsolute : path.isAbsolute with
    | true =>
        rw [isAbsolute, isRooted, htext, habsolute]
        rfl
    | false =>
        rw [isAbsolute, isRooted, htext, habsolute]
        rfl
  · rw [if_neg (fun htop => hfront htop.1)] at htext
    rw [isAbsolute, isRooted, isAbsolute, isRooted, htext, ← hrest,
      List.head?_append_of_ne_nil _ hfront]

/-! ### Paths above -/

/-- Going up from a path, from parent to parent, leads to one that is above it. -/
def IsAbove (above path : FilePath) : Prop :=
  Relation.TransGen (fun path above => path.parent? = some above) path above

/-- A path itself, or one above it. -/
def IsAtOrAbove (above path : FilePath) : Prop :=
  Relation.ReflTransGen (fun path above => path.parent? = some above) path above

theorem IsAbove.length_steps_lt (h : above.IsAbove path) :
    above.steps.length < path.steps.length := by
  induction h with
  | single h =>
      obtain ⟨name, hname⟩ := exists_steps_eq_append h
      simp [hname]
  | tail _ h ih =>
      obtain ⟨name, hname⟩ := exists_steps_eq_append h
      rw [hname, List.length_append] at ih
      omega

theorem isAtOrAbove_iff_of_none (h : path.parent? = none) :
    above.IsAtOrAbove path ↔ above = path := by
  constructor
  · intro habove
    rcases Relation.ReflTransGen.cases_head habove with heq | ⟨next, hnext, -⟩
    · exact heq.symm
    · rw [h] at hnext
      cases hnext
  · rintro rfl
    exact .refl

theorem isAtOrAbove_iff_of_some {next : FilePath} (h : path.parent? = some next) :
    above.IsAtOrAbove path ↔ above = path ∨ above.IsAtOrAbove next := by
  constructor
  · intro habove
    rcases Relation.ReflTransGen.cases_head habove with heq | ⟨other, hother, hmore⟩
    · exact .inl heq.symm
    · rw [h] at hother
      cases hother
      exact .inr hmore
  · rintro (rfl | hmore)
    · exact .refl
    · exact .head h hmore

theorem IsAtOrAbove.eq_or_isAbove (h : above.IsAtOrAbove path) :
    above = path ∨ above.IsAbove path := by
  rcases Relation.reflTransGen_iff_eq_or_transGen.1 h with heq | hmore
  · exact .inl heq
  · exact .inr hmore

theorem mem_ancestors_iff : above ∈ path.ancestors ↔ above.IsAtOrAbove path := by
  fun_induction ancestors path with
  | case1 path h => rw [isAtOrAbove_iff_of_none h, List.mem_singleton]
  | case2 path next h _ ih => rw [isAtOrAbove_iff_of_some h, List.mem_cons, ih]

/-- Going up leads along all beginnings of the steps, the longest first. -/
theorem map_steps_ancestors (path : FilePath) :
    path.ancestors.map steps = path.steps.inits.reverse := by
  fun_induction ancestors path with
  | case1 path h =>
      rw [List.map_singleton, parent?_eq_none_iff.1 h]
      rfl
  | case2 path next h _ ih =>
      obtain ⟨name, hname⟩ := exists_steps_eq_append h
      rw [List.map_cons, ih, hname, List.inits_append]
      simp

theorem isAbsolute_of_mem_ancestors (h : above ∈ path.ancestors) :
    above.isAbsolute = path.isAbsolute := by
  fun_induction ancestors path with
  | case1 path hnone => rw [List.mem_singleton.1 h]
  | case2 path next hnext _ ih =>
      rcases List.mem_cons.1 h with rfl | h
      · rfl
      · rw [ih h, isAbsolute_of_parent? hnext]

/-! ### The nearest path above -/

/-- Of the path and those above it, the one that is found has a property and none below it has. -/
structure IsNearest (Holds : FilePath → Prop) (path found : FilePath) : Prop where
  isAtOrAbove : found.IsAtOrAbove path
  holds : Holds found
  not_below : ∀ below : FilePath, below.IsAtOrAbove path → found.IsAbove below → ¬Holds below

variable {Holds : FilePath → Prop} {found : FilePath}

theorem isNearest_iff_of_holds (h : Holds path) : IsNearest Holds path found ↔ found = path := by
  constructor
  · intro hnearest
    rcases hnearest.isAtOrAbove.eq_or_isAbove with heq | habove
    · exact heq
    · exact absurd h (hnearest.not_below path .refl habove)
  · rintro rfl
    refine ⟨.refl, h, fun below hbelow habove => ?_⟩
    have hlt := habove.length_steps_lt
    rcases hbelow.eq_or_isAbove with rfl | hbelow
    · omega
    · have hgt := hbelow.length_steps_lt
      omega

theorem not_isNearest (hparent : path.parent? = none) (h : ¬Holds path) :
    ¬IsNearest Holds path found := by
  intro hnearest
  rw [(isAtOrAbove_iff_of_none hparent).1 hnearest.isAtOrAbove] at hnearest
  exact h hnearest.holds

theorem isNearest_iff_of_not_holds {next : FilePath} (hparent : path.parent? = some next)
    (h : ¬Holds path) : IsNearest Holds path found ↔ IsNearest Holds next found := by
  constructor
  · intro hnearest
    refine ⟨?_, hnearest.holds, fun below hbelow => hnearest.not_below below ?_⟩
    · rcases (isAtOrAbove_iff_of_some hparent).1 hnearest.isAtOrAbove with heq | hnext
      · exact absurd (heq ▸ hnearest.holds) h
      · exact hnext
    · exact (isAtOrAbove_iff_of_some hparent).2 (.inr hbelow)
  · intro hnearest
    refine ⟨?_, hnearest.holds, fun below hbelow habove => ?_⟩
    · exact (isAtOrAbove_iff_of_some hparent).2 (.inr hnearest.isAtOrAbove)
    · rcases (isAtOrAbove_iff_of_some hparent).1 hbelow with rfl | hbelow
      · exact h
      · exact hnearest.not_below below hbelow habove

/-- A search upward stops at the nearest path with the property that is looked for. -/
theorem find?_ancestors_eq_some_iff {holds : FilePath → Bool} :
    path.ancestors.find? holds = some found ↔ IsNearest (holds · = true) path found := by
  fun_induction ancestors path with
  | case1 path hparent =>
      cases hholds : holds path with
      | true =>
          rw [List.find?_cons_of_pos hholds, isNearest_iff_of_holds hholds, Option.some.injEq]
          exact eq_comm
      | false =>
          rw [List.find?_cons_of_neg (by simp [hholds]), List.find?_nil]
          exact iff_of_false nofun (not_isNearest hparent (by simp [hholds]))
  | case2 path next hparent _ ih =>
      cases hholds : holds path with
      | true =>
          rw [List.find?_cons_of_pos hholds, isNearest_iff_of_holds hholds, Option.some.injEq]
          exact eq_comm
      | false =>
          rw [List.find?_cons_of_neg (by simp [hholds]), ih,
            isNearest_iff_of_not_holds hparent (by simp [hholds])]

end FilePath

namespace FileSystem

variable {files : FileSystem} {directory : FilePath}

/-- The directory has an entry `spec` that is a directory. -/
def HoldsSpec (files : FileSystem) (directory : FilePath) : Prop :=
  ∃ entries inner, files.locate directory.orCurrent = .ok (.directory entries) ∧
    entries.lookup "spec" = some (.directory inner)

theorem isRepoRoot_iff : files.isRepoRoot directory = true ↔ files.HoldsSpec directory := by
  have hspec : IsComponent "spec" := ⟨by decide, by decide, by decide, by simp⟩
  rw [isRepoRoot, isDirectory, files.locate_join directory hspec, HoldsSpec]
  cases files.locate directory.orCurrent with
  | error error => simp [Except.bind, Except.toOption]
  | ok tree =>
      cases tree with
      | file content => simp [Except.bind, Except.toOption, FileTree.entry]
      | directory entries =>
          cases hlookup : entries.lookup "spec" with
          | none => simp [Except.bind, Except.toOption, FileTree.entry, hlookup]
          | some inner =>
              cases inner <;>
                simp [Except.bind, Except.toOption, FileTree.entry, hlookup, FileTree.isDirectory]

/-- The root of a repository is the nearest directory with a directory `spec` in it, from the start
upward, and there is none only if no directory up there has one. The directories that are tried are
the start and those above it, one for each beginning of its steps and all from where it starts. -/
theorem repoRoot?_nearest (files : FileSystem) (start : FilePath) :
    (∀ directory, files.repoRoot? start = some directory ↔
      FilePath.IsNearest files.HoldsSpec start directory) ∧
    (files.repoRoot? start = none ↔
      ∀ directory : FilePath, directory.IsAtOrAbove start → ¬files.HoldsSpec directory) ∧
    (∀ directory : FilePath, directory.IsAtOrAbove start ↔ directory ∈ start.ancestors) ∧
    (∀ directory ∈ start.ancestors, directory.isAbsolute = start.isAbsolute) ∧
    start.ancestors.map FilePath.steps = start.steps.inits.reverse := by
  refine ⟨?_, ?_, fun directory => FilePath.mem_ancestors_iff.symm,
    fun directory => FilePath.isAbsolute_of_mem_ancestors, start.map_steps_ancestors⟩
  · intro directory
    simp only [repoRoot?, FilePath.find?_ancestors_eq_some_iff, isRepoRoot_iff]
  · simp only [repoRoot?, List.find?_eq_none, FilePath.mem_ancestors_iff, isRepoRoot_iff]

end FileSystem

end SpecLint
