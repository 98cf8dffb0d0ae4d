import Mathlib.Data.List.Nodup
import SpecLint.Proofs.Schema.Walk
import SpecLint.Rule.Description

/-!
The paths at which descriptions are missing, over all definitions of a document. Each definition is
walked on its own, and however deep the walk, a path keeps the name of the definition in which it
starts. So a path tells in which definition it was found (`mem_undescribedPaths_iff`), and the paths
of one definition come before those of the next (`pairwise_undescribedPaths`).
-/

namespace SpecLint

open Schema

namespace Schema.FieldPath

/-- Paths below one definition come in the order of a walk, those below two in that of names. -/
def ComesBefore (a b : FieldPath) : Prop :=
  a.label < b.label ∨ a.Before b

theorem comesBefore_irrefl (path : FieldPath) : ¬path.ComesBefore path := by
  rintro (h | h)
  · exact String.lt_irrefl _ h
  · exact path.before_irrefl h

instance : Std.Irrefl ComesBefore := ⟨comesBefore_irrefl⟩

end Schema.FieldPath

namespace Rule

variable {definitions : Members}

theorem mem_undescribedPaths_iff {options : WalkOptions} {path : FieldPath}
    (h : (Json.object definitions).Canonical) :
    path ∈ undescribedPaths options definitions ↔
      ∃ definition, (path.label, definition) ∈ definitions ∧
        (path.resolve? definition).map (fun node => lacksDescription options node path) =
          some true := by
  simp only [undescribedPaths, List.mem_flatMap, Prod.exists]
  constructor
  · rintro ⟨name, definition, hmem, hpath⟩
    obtain ⟨rfl, hfound⟩ := (mem_missingDescriptions_iff (Json.canonical_of_mem h hmem)).1 hpath
    exact ⟨definition, hmem, hfound⟩
  · rintro ⟨definition, hmem, hfound⟩
    exact ⟨path.label, definition, hmem,
      (mem_missingDescriptions_iff (Json.canonical_of_mem h hmem)).2 ⟨rfl, hfound⟩⟩

theorem pairwise_undescribedPaths (options : WalkOptions)
    (h : (Json.object definitions).Canonical) :
    (undescribedPaths options definitions).Pairwise FieldPath.ComesBefore := by
  refine List.pairwise_flatMap.2 ⟨?_, h.1.imp_of_mem ?_⟩
  · rintro ⟨name, definition⟩ hmem
    exact (pairwise_walk (Json.canonical_of_mem h hmem) _ _).imp Or.inr
  · rintro ⟨name, definition⟩ ⟨other, definition'⟩ hmem hmem' hlt path hpath path' hpath'
    refine Or.inl ?_
    rw [label_of_mem_missingDescriptions (Json.canonical_of_mem h hmem) hpath,
      label_of_mem_missingDescriptions (Json.canonical_of_mem h hmem') hpath']
    exact hlt

theorem nodup_undescribedPaths (options : WalkOptions) (h : (Json.object definitions).Canonical) :
    (undescribedPaths options definitions).Nodup :=
  (pairwise_undescribedPaths options h).nodup

end Rule

end SpecLint
