import SpecLint.Corpus.Layout
import SpecLint.Proofs.Files.Path
import SpecLint.Proofs.Text.Blank

/-!
Where artifacts are, as a property of the coordinates of the corpus. A version tag is a component of
a path, and so is the name of every file; joined to the root of a corpus they lead to a place below
it. The place determines the coordinates: the directories tell the kind and the version, and the
name of the file tells the family.
-/

namespace SpecLint

theorem isVersionText_trim_iff {raw : String} :
    isVersionText (Text.trim raw) = true ↔ IsComponent (Text.trim raw) := by
  simp only [isVersionText, Text.trim_trim, beq_self_eq_true, Bool.and_true, Bool.and_eq_true,
    bne_iff_ne, ne_eq, List.all_eq_true]
  constructor
  · rintro ⟨⟨⟨hempty, hchars⟩, hdot⟩, hdots⟩
    exact ⟨hempty, hdot, hdots, hchars⟩
  · intro h
    exact ⟨⟨⟨h.ne_empty, h.no_separator⟩, h.ne_dot⟩, h.ne_dots⟩

theorem VersionTag.isComponent (tag : VersionTag) : IsComponent tag.text := by
  have htrim := parse_eq_ok_iff.1 tag.parse_text
  rw [htrim]
  exact isVersionText_trim_iff.1 (htrim ▸ tag.valid)

/-- Texts that are read as a version are those that name one component, but for blanks around it. -/
theorem VersionTag.exists_parse_eq_ok_iff {raw : String} :
    (∃ tag, parse raw = .ok tag) ↔ IsComponent (Text.trim raw) := by
  constructor
  · rintro ⟨tag, htag⟩
    exact parse_eq_ok_iff.1 htag ▸ tag.isComponent
  · intro h
    exact ⟨⟨Text.trim raw, isVersionText_trim_iff.2 h⟩, parse_eq_ok_iff.2 rfl⟩

theorem Family.ne_separator (family : Family) : ∀ c ∈ family.text.toList, c ≠ '/' ∧ c ≠ '\\' := by
  have hvalid := family.valid
  simp only [isFamilyText, Bool.and_eq_true, List.all_eq_true] at hvalid
  intro c hc
  have hchar := hvalid.1.2 c hc
  constructor <;> rintro rfl <;> revert hchar <;> decide

namespace ArtifactKind

theorem isComponent_fileName (kind : ArtifactKind) (family : Family) :
    IsComponent (kind.fileName family) := by
  have hlong : 2 < (kind.fileName family).length := by
    have hstart : 2 < kind.fileStart.length := by cases kind <;> decide
    simp only [fileName, String.length_append]
    omega
  have hne : ∀ text : String, text.length ≤ 2 → kind.fileName family ≠ text := by
    rintro text htext rfl
    omega
  refine ⟨hne _ (by decide), hne _ (by decide), hne _ (by decide), ?_⟩
  have hstart : ∀ c ∈ kind.fileStart.toList, c ≠ '/' ∧ c ≠ '\\' := by
    cases kind <;> simp [fileStart]
  have hend : ∀ c ∈ kind.fileEnd.toList, c ≠ '/' ∧ c ≠ '\\' := by
    cases kind <;> simp [fileEnd]
  simp only [fileName, String.toList_append, List.mem_append]
  rintro c ((hc | hc) | hc)
  · exact hstart c hc
  · exact family.ne_separator c hc
  · exact hend c hc

theorem isComponent_of_mem_directory {kind : ArtifactKind} {version : VersionTag} {part : String}
    (h : part ∈ kind.directory version) : IsComponent part := by
  have hfixed : ∀ name ∈ ["spec", "examples", "json-schema", "openapi"], IsComponent name := by
    intro name hname
    simp only [List.mem_cons, List.not_mem_nil, or_false] at hname
    rcases hname with rfl | rfl | rfl | rfl <;>
      exact ⟨by decide, by decide, by decide, by simp⟩
  cases kind <;> simp only [directory, name, List.mem_cons, List.not_mem_nil, or_false] at h
  · rcases h with rfl | rfl | rfl
    · exact hfixed _ (by simp)
    · exact version.isComponent
    · exact hfixed _ (by simp)
  · rcases h with rfl | rfl | rfl
    · exact hfixed _ (by simp)
    · exact version.isComponent
    · exact hfixed _ (by simp)
  · rcases h with rfl | rfl
    · exact hfixed _ (by simp)
    · exact version.isComponent

theorem isComponent_of_mem_place {kind : ArtifactKind} {version : VersionTag} {family : Family}
    {part : String} (h : part ∈ kind.place version family) : IsComponent part := by
  rcases List.mem_append.1 h with h | h
  · exact isComponent_of_mem_directory h
  · obtain rfl := List.mem_singleton.1 h
    exact kind.isComponent_fileName family

theorem fileName_injective {kind : ArtifactKind} {a b : Family}
    (h : kind.fileName a = kind.fileName b) : a = b := by
  have hread := kind.family?_fileName a
  rw [h, kind.family?_fileName b] at hread
  exact (Option.some.inj hread).symm

/-- Each place is that of one artifact. -/
theorem place_injective {kind kind' : ArtifactKind} {version version' : VersionTag}
    {family family' : Family} (h : kind.place version family = kind'.place version' family') :
    kind = kind' ∧ version = version' ∧ family = family' := by
  obtain ⟨hdirectory, hfile⟩ := List.append_inj' h rfl
  have hkind : kind = kind' ∧ version.text = version'.text := by
    cases kind <;> cases kind' <;> simp_all [directory, name]
  obtain ⟨rfl, hversion⟩ := hkind
  refine ⟨rfl, ?_, fileName_injective (List.singleton_inj.1 hfile)⟩
  cases version
  cases version'
  cases hversion
  rfl

end ArtifactKind

/-- Coordinates are read back from their texts, and lead to a place of their own below the root. A
version is accepted if the text between its blanks is a component, and both it and a family are
read back from the text that is kept. The path of an artifact is the text of the root followed by
components, and what it leads to is found by going down from the root by these names alone. Two
paths with the same names are those of the same artifact. -/
theorem Corpus.artifactPath_below_root_unambiguous :
    (∀ raw, (∃ tag, VersionTag.parse raw = .ok tag) ↔ IsComponent (Text.trim raw)) ∧
    (∀ raw tag, VersionTag.parse raw = .ok tag →
      tag.text = Text.trim raw ∧ VersionTag.parse tag.text = .ok tag) ∧
    (∀ raw family, Family.parse raw = .ok family →
      family.text = raw ∧ Family.parse family.text = .ok family) ∧
    ∀ (corpus : Corpus) (version : VersionTag) (family : Family) (kind : ArtifactKind),
      (∀ part ∈ kind.place version family, IsComponent part) ∧
      (corpus.artifactPath version family kind).text =
        corpus.root.text ++ corpus.root.separator ++ "/".intercalate (kind.place version family) ∧
      FileTree.namesOf (corpus.artifactPath version family kind) =
        FileTree.namesOf corpus.root ++ kind.place version family ∧
      corpus.files.locate (corpus.artifactPath version family kind) =
        (corpus.files.locate corpus.root.orCurrent).bind (·.descend (kind.place version family)) ∧
      ∀ (version' : VersionTag) (family' : Family) (kind' : ArtifactKind),
        FileTree.namesOf (corpus.artifactPath version' family' kind') =
          FileTree.namesOf (corpus.artifactPath version family kind) →
        kind' = kind ∧ version' = version ∧ family' = family := by
  refine ⟨fun raw => VersionTag.exists_parse_eq_ok_iff, fun raw tag h => ?_, fun raw family h => ?_,
    fun corpus version family kind => ?_⟩
  · exact ⟨VersionTag.parse_eq_ok_iff.1 h, tag.parse_text⟩
  · exact ⟨Family.parse_eq_ok_iff.1 h, family.parse_text⟩
  · have hplace : ∀ part ∈ kind.place version family, IsComponent part :=
      fun _ => ArtifactKind.isComponent_of_mem_place
    have hne : kind.place version family ≠ [] := by simp [ArtifactKind.place]
    have htext : (corpus.artifactPath version family kind).text = _ :=
      corpus.root.text_joinAll hplace hne
    have hnames : FileTree.namesOf (corpus.artifactPath version family kind) = _ :=
      corpus.root.namesOf_joinAll hplace
    refine ⟨hplace, htext, hnames, ?_, ?_⟩
    · have hcurrent : (corpus.artifactPath version family kind).orCurrent =
          corpus.artifactPath version family kind :=
        if_neg (corpus.root.joinAll_text_ne hplace hne)
      have hlocate := corpus.root.locate_joinAll corpus.files hplace
      rwa [← artifactPath, hcurrent] at hlocate
    · intro version' family' kind' h
      have hnames' : FileTree.namesOf (corpus.artifactPath version' family' kind') = _ :=
        corpus.root.namesOf_joinAll fun _ => ArtifactKind.isComponent_of_mem_place
      rw [hnames, hnames', List.append_cancel_left_eq] at h
      exact ArtifactKind.place_injective h

end SpecLint
