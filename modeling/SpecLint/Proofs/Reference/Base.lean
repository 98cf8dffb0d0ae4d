import Mathlib.Data.List.TakeDrop
import Mathlib.Data.List.TakeWhile
import SpecLint.BuiltIn
import SpecLint.Proofs.Reference.Token

/-!
Documents at their bases. A document is served at its identifier if that is absolute, and without
the identifier otherwise; nothing else about it changes. So the reference to a definition leads to
that definition (`Served.reference_leads_to_definition`), provided that cutting the reference at its
first number sign gives the base back. It does unless the base is made up from a version whose tag
has a number sign in it (`cut_referenceTo_iff`). Then the document is found nowhere, and libraries that
know how references are written (`SchemaLibrary.RefusesIllFormed`) can use none of its definitions.
-/

namespace SpecLint

namespace JsonSchemaDocument

variable {document : JsonSchemaDocument} {id : String}

/-- The identifier of the document is a text with the mark of absolute references in it. -/
def HasAbsoluteId (document : JsonSchemaDocument) : Prop :=
  ∃ id, document.root.get? "$id" = some (.string id) ∧ "://".toList <:+: id.toList

theorem id?_eq_some_iff :
    document.id? = some id ↔ document.root.get? "$id" = some (.string id) ∧ id ≠ "" := by
  have htext : ∀ value : Json, value.text? = some id ↔ value = .string id := by
    intro value
    cases value <;> simp [Json.text?]
  simp [id?, Option.filter_eq_some_iff, Option.bind_eq_some_iff, htext]

theorem hasAbsoluteId_iff :
    document.HasAbsoluteId ↔ ∃ id, document.id? = some id ∧ Text.contains "://" id = true := by
  simp only [HasAbsoluteId, id?_eq_some_iff, Text.contains_iff, and_assoc]
  refine exists_congr fun id => and_congr_right fun _ => ⟨fun h => ⟨?_, h⟩, fun h => h.2⟩
  rintro rfl
  exact absurd (List.infix_nil.1 h) (by decide)

end JsonSchemaDocument

/-! ### Number signs in references -/

namespace Uri

theorem fst_splitMark (mark : Char) (text : List Char) :
    (splitMark mark text).1 = text.takeWhile (· != mark) := by
  rw [splitMark, List.span_eq_takeWhile_dropWhile]
  split <;> rename_i heq <;> exact (Prod.mk.inj heq).1.symm

theorem splitMark_append {mark : Char} {front : List Char} (h : mark ∉ front) (rest : List Char) :
    splitMark mark (front ++ mark :: rest) = (front, some rest) := by
  have hfront : ∀ c ∈ front, (c != mark) = true := by
    intro c hc
    simpa using ne_of_mem_of_not_mem hc h
  rw [splitMark, List.span_eq_takeWhile_dropWhile, List.takeWhile_append_of_pos hfront,
    List.dropWhile_append_of_pos hfront]
  simp

theorem char_of_isWritten {allowed : Char → Bool} {cs : List Char} {c : Char}
    (h : isWritten allowed cs = true) (hc : c ∈ cs) :
    allowed c = true ∨ c = '%' ∨ Host.isHexDigit c = true := by
  fun_induction isWritten allowed cs with
  | case1 => cases hc
  | case2 high low rest ih =>
      simp only [Bool.and_eq_true] at h
      simp only [List.mem_cons] at hc
      rcases hc with rfl | rfl | rfl | hc
      · exact .inr (.inl rfl)
      · exact .inr (.inr h.1.1)
      · exact .inr (.inr h.1.2)
      · exact ih h.2 hc
  | case3 d rest _ ih =>
      simp only [Bool.and_eq_true] at h
      rcases List.mem_cons.1 hc with rfl | hc
      · exact .inl h.1
      · exact ih h.2 hc

/-- A fragment has no number sign in it. -/
theorem parse?_eq_none {front rest : List Char} (hfront : '#' ∉ front) (hrest : '#' ∈ rest) :
    parse? (String.ofList (front ++ '#' :: rest)) = none := by
  simp only [parse?, String.toList_ofList, splitMark_append hfront]
  refine if_neg fun h => ?_
  simp only [Bool.and_eq_true, Option.all_some] at h
  exact absurd (char_of_isWritten h.2 hrest) (by decide)

end Uri

/-! ### Libraries that refuse references -/

/-- The library makes no validator of a reference that is not well formed. -/
def SchemaLibrary.RefusesIllFormed (library : SchemaLibrary) : Prop :=
  ∀ (draft : Draft) (retrieve : String → Json) (reference : String), Uri.parse? reference = none →
    ∃ reason, library.build draft retrieve (.mkObject [("$ref", .string reference)]) = .error reason

theorem Validation.Validator.follow_eq_error {resources : Resources} {draft : Draft}
    {depth rounds : Nat} {reference : String} {pending : List String} {known : List Target}
    {fault : SchemaFault} (h : resources.lookup reference = .error fault) :
    follow resources draft depth (rounds + 1) (reference :: pending) known = .error fault := by
  unfold follow
  rw [h]

/-- The library that the program is built with looks a reference up before it reads any schema. -/
theorem SchemaLibrary.refusesIllFormed_builtIn : SchemaLibrary.builtIn.RefusesIllFormed := by
  intro draft retrieve reference h
  let resources : Validation.Resources :=
    ⟨String.ofList (Uri.splitMark '#' reference.toList).1, retrieve⟩
  suffices hfault : ∃ fault, Validation.Validator.compile draft retrieve
      (.mkObject [("$ref", .string reference)]) = .error fault by
    obtain ⟨fault, hfault⟩ := hfault
    refine ⟨fault.message, ?_⟩
    rw [SchemaLibrary.build_builtIn, hfault]
    rfl
  have hreference : ((Json.mkObject [("$ref", .string reference)]).get? "$ref").bind Json.text? =
      some reference := rfl
  simp only [Validation.Validator.compile, hreference]
  split
  · exact ⟨_, rfl⟩
  · rename_i home hhome
    split
    · exact ⟨_, rfl⟩
    · exact ⟨_, rfl⟩
    · have hlookup : resources.lookup reference = .error (.badReference reference) := by
        simp only [Validation.Resources.lookup, resources, hhome, h, Option.bind_none]
      refine ⟨.badReference reference, ?_⟩
      rw [Validation.Validator.follow_eq_error hlookup]
      rfl

namespace Conformance

variable {document : JsonSchemaDocument} {version : VersionTag} {family : Family}

/-! ### Bases -/

/-- The base of documents without an absolute identifier. -/
def syntheticBase (version : VersionTag) (family : Family) : String :=
  syntheticHost ++ "/" ++ version.text ++ "/" ++ family.text ++ ".json"

theorem documentBase_of_absolute {id : String} (hid : document.id? = some id)
    (habsolute : Text.contains "://" id = true) :
    documentBase document version family = String.ofList (id.toList.takeWhile (· != '#')) := by
  simp only [documentBase, hid, habsolute, if_true]

theorem documentBase_of_not_absolute (h : ¬document.HasAbsoluteId) :
    documentBase document version family = syntheticBase version family := by
  rw [documentBase]
  cases hid : document.id? with
  | none => rfl
  | some id =>
      exact if_neg fun habsolute => h (JsonSchemaDocument.hasAbsoluteId_iff.2 ⟨id, hid, habsolute⟩)

theorem mark_infix_syntheticBase (version : VersionTag) (family : Family) :
    "://".toList <:+: (syntheticBase version family).toList := by
  have hhost : "://".toList <:+: syntheticHost.toList :=
    ⟨"https".toList, "acp-lint.local".toList, rfl⟩
  simp only [syntheticBase, String.toList_append, List.append_assoc]
  exact hhost.trans (List.prefix_append _ _).isInfix

theorem hash_mem_syntheticBase_iff :
    '#' ∈ (syntheticBase version family).toList ↔ '#' ∈ version.text.toList := by
  have hfamily : '#' ∉ family.text.toList := by
    intro hmem
    have hvalid := family.valid
    simp only [isFamilyText, Bool.and_eq_true, List.all_eq_true] at hvalid
    exact absurd (hvalid.1.2 _ hmem) (by decide)
  simp [syntheticBase, syntheticHost, hfamily]

/-- The base has a number sign in it only if it is made up from a version that has one. -/
theorem hash_mem_documentBase_iff :
    '#' ∈ (documentBase document version family).toList ↔
      ¬document.HasAbsoluteId ∧ '#' ∈ version.text.toList := by
  by_cases h : document.HasAbsoluteId
  · obtain ⟨id, hid, habsolute⟩ := JsonSchemaDocument.hasAbsoluteId_iff.1 h
    rw [documentBase_of_absolute hid habsolute, String.toList_ofList]
    simp only [h, not_true_eq_false, false_and, iff_false]
    intro hmem
    simpa using List.mem_takeWhile_imp hmem
  · rw [documentBase_of_not_absolute h, hash_mem_syntheticBase_iff]
    exact (and_iff_right h).symm

namespace Served

open Uri (fragmentText?)

/-! ### Served documents -/

/-- A document is served at its base as it is if its identifier is absolute, and otherwise without
the identifier. -/
theorem document_ofDocument (document : JsonSchemaDocument) (version : VersionTag)
    (family : Family) :
    let served := ofDocument document (documentBase document version family)
    (document.HasAbsoluteId → served.document = document.root.members) ∧
      (¬document.HasAbsoluteId → served.document = document.root.members.erase "$id") := by
  constructor
  · intro h
    obtain ⟨id, hid, habsolute⟩ := JsonSchemaDocument.hasAbsoluteId_iff.1 h
    have hstarts : Text.startsWith (documentBase document version family) id = true := by
      rw [Text.startsWith_iff, documentBase_of_absolute hid habsolute, String.toList_ofList]
      exact List.takeWhile_prefix _
    simp only [ofDocument, hid, Option.any_some, hstarts, if_true]
  · intro h
    have hkeeps : document.id?.any (Text.startsWith (documentBase document version family)) =
        false := by
      rw [documentBase_of_not_absolute h, Option.any_eq_false]
      intro id hid
      refine Bool.eq_false_iff.2 fun hstarts => ?_
      have hmark := (mark_infix_syntheticBase version family).trans
        (Text.startsWith_iff.1 hstarts).isInfix
      exact h (JsonSchemaDocument.hasAbsoluteId_iff.2 ⟨id, hid, Text.contains_iff.2 hmark⟩)
    simp only [ofDocument, hkeeps, Bool.false_eq_true, if_false]

theorem get?_erase_self (key : String) (members : Members) :
    (members.erase key).get? key = none := by
  rw [Members.get?, List.lookup_eq_none_iff]
  intro entry hentry
  have hkey : (entry.1 != key) = true := (List.mem_filter.1 hentry).2
  simpa using fun heq => bne_iff_ne.1 hkey heq.symm

/-- The identifier of a served document is absolute. -/
theorem get?_id_ofDocument {value : Json} :
    (ofDocument document (documentBase document version family)).document.get? "$id" =
        some value ↔
      document.root.get? "$id" = some value ∧
        ∃ id, value = .string id ∧ "://".toList <:+: id.toList := by
  obtain ⟨hkept, hdropped⟩ := document_ofDocument document version family
  by_cases h : document.HasAbsoluteId
  · rw [hkept h]
    refine (and_iff_left_of_imp fun hvalue => ?_).symm
    obtain ⟨id, hid, habsolute⟩ := h
    exact ⟨id, Option.some.inj (hvalue.symm.trans hid), habsolute⟩
  · rw [hdropped h, get?_erase_self]
    constructor
    · intro hvalue
      cases hvalue
    · rintro ⟨hvalue, id, rfl, habsolute⟩
      exact absurd ⟨id, hvalue, habsolute⟩ h

/-! ### References to definitions -/

theorem slash_notMem_escape (token : List Char) : '/' ∉ Json.Pointer.escape token := by
  intro hmem
  obtain ⟨c, -, hc⟩ := List.mem_flatMap.1 hmem
  rw [Json.Pointer.escapeChar] at hc
  split at hc
  · exact absurd hc (by decide)
  · split at hc
    · exact absurd hc (by decide)
    · rename_i hslash
      exact hslash (List.mem_singleton.1 hc).symm

/-- A table that has an entry is an object. -/
theorem exists_members_of_get?_tableEntries {table : Option Json} {name : String} {value : Json}
    (h : (tableEntries table).get? name = some value) :
    ∃ members, table = some (.object members) ∧ Members.get? members name = some value := by
  rw [tableEntries] at h
  cases hmembers : table.bind Json.members? with
  | none =>
      rw [hmembers] at h
      cases h
  | some members =>
      rw [hmembers, Option.getD_some] at h
      obtain ⟨found, hfound, hobject⟩ := Option.bind_eq_some_iff.1 hmembers
      cases found with
      | object _ =>
          obtain rfl := Option.some.inj hobject
          exact ⟨_, hfound, h⟩
      | _ => cases hobject

/-- The pointer to a definition of a served document leads to that definition. -/
theorem resolve?_definition {served : Served} {name : String} {definition : Json}
    (h : (tableEntries (served.document.get? "$defs")).get? name = some definition) :
    Json.Pointer.resolve? served.value
        ("/$defs/" ++ String.ofList (Json.Pointer.escape name.toList)).toList =
      some definition := by
  obtain ⟨members, hdefs, hname⟩ := exists_members_of_get?_tableEntries h
  have hpointer : ("/$defs/" ++ String.ofList (Json.Pointer.escape name.toList)).toList =
      '/' :: ("$defs".toList ++ '/' :: Json.Pointer.escape name.toList) := by
    simp
  have htokens : Text.splitAt '/' ("$defs".toList ++ '/' :: Json.Pointer.escape name.toList) =
      ["$defs".toList, Json.Pointer.escape name.toList] := by
    rw [Text.splitAt_append_separator, Text.splitAt_of_notMem (by decide),
      Text.splitAt_of_notMem (slash_notMem_escape _)]
    rfl
  have htable : Json.Pointer.step? served.value (Json.Pointer.unescape "$defs".toList) =
      some (.object members) := hdefs
  have hentry : Json.Pointer.step? (.object members) name.toList = some definition := by
    rw [Json.Pointer.step?, String.ofList_toList]
    exact hname
  rw [hpointer, Json.Pointer.resolve?, htokens]
  simp only [List.map_cons, List.map_nil, Json.Pointer.unescape_escape, Json.Pointer.follow?,
    htable, hentry, Option.bind_some]

theorem referenceTo_eq (served : Served) (name : String) :
    served.referenceTo name = served.base ++ "#" ++ ("/$defs/" ++ pointerToken name) := by
  apply String.toList_injective
  simp [referenceTo]

/-- What the reference to a definition says behind the base leads to that definition. -/
theorem exists_pointer_to_definition {name : String} {definition : Json}
    (h : document.definition? name = some definition) (base : String) :
    ∃ pointer, fragmentText? ("/$defs/" ++ pointerToken name) = some pointer ∧
      Json.Pointer.resolve? (ofDocument document base).value pointer.toList = some definition := by
  refine ⟨_, fragmentText?_append_pointerToken (by decide) name, resolve?_definition ?_⟩
  rw [get?_ofDocument (by decide)]
  exact h

/-- The reference to a definition of a document leads to that definition in what is served. The
name is read back from its token, which has the form of one, so different names have different
tokens. What is served is the document, but without its identifier unless that is absolute. -/
theorem reference_leads_to_definition (document : JsonSchemaDocument) (version : VersionTag)
    (family : Family) :
    let base := documentBase document version family
    let served := ofDocument document base
    (∀ name, ∃ escaped, fragmentText? (pointerToken name) = some escaped ∧
      String.ofList (Json.Pointer.unescape escaped.toList) = name) ∧
    (∀ name definition, document.definition? name = some definition →
      served.referenceTo name = base ++ "#" ++ ("/$defs/" ++ pointerToken name) ∧
      ∃ pointer, fragmentText? ("/$defs/" ++ pointerToken name) = some pointer ∧
        Json.Pointer.resolve? served.value pointer.toList = some definition) ∧
    (∀ name, IsToken (pointerToken name).toList ∧ '/' ∉ (pointerToken name).toList ∧
      '#' ∉ (pointerToken name).toList) ∧
    (∀ name other, pointerToken name = pointerToken other → name = other) ∧
    (document.HasAbsoluteId → served.document = document.root.members) ∧
    (¬document.HasAbsoluteId → served.document = document.root.members.erase "$id") ∧
    (∀ key, key ≠ "$id" → served.document.get? key = document.root.get? key) ∧
    ∀ value, served.document.get? "$id" = some value ↔
      document.root.get? "$id" = some value ∧
        ∃ id, value = .string id ∧ "://".toList <:+: id.toList := by
  obtain ⟨hkept, hdropped⟩ := document_ofDocument document version family
  refine ⟨fun name => ⟨_, fragmentText?_pointerToken name, ?_⟩,
    fun name definition hdefinition =>
      ⟨referenceTo_eq _ name, exists_pointer_to_definition hdefinition _⟩,
    fun name => ⟨isToken_pointerToken name, slash_notMem_pointerToken name,
      hash_notMem_pointerToken name⟩,
    fun _ _ => pointerToken_injective, hkept, hdropped,
    fun key hkey => get?_ofDocument hkey document _, fun value => get?_id_ofDocument⟩
  rw [String.toList_ofList, Json.Pointer.unescape_escape, String.ofList_toList]

/-- A document without an absolute identifier, and with a definition that has an awkward name. -/
def awkwardDocument : JsonSchemaDocument where
  root := ⟨[("$defs", .object [("Line Item/v2~x%", .object [("type", .string "object")])]),
    ("$id", .string "cart.json")], by
      simp only [Json.Canonical, Json.CanonicalMembers, Members.Sorted]
      decide⟩

theorem not_hasAbsoluteId_awkwardDocument : ¬awkwardDocument.HasAbsoluteId := by
  rintro ⟨id, hid, habsolute⟩
  obtain rfl : "cart.json" = id := Json.string.inj (Option.some.inj hid)
  exact absurd (Text.contains_iff.2 habsolute) (by decide)

theorem reference_leads_to_definition_awkward :
    let served := ofDocument awkwardDocument
      (documentBase awkwardDocument .unreleased .agenticCheckout)
    awkwardDocument.definition? "Line Item/v2~x%" = some (.object [("type", .string "object")]) ∧
      (∃ pointer, fragmentText? ("/$defs/" ++ pointerToken "Line Item/v2~x%") = some pointer ∧
        Json.Pointer.resolve? served.value pointer.toList =
          some (.object [("type", .string "object")])) ∧
      ¬awkwardDocument.HasAbsoluteId ∧
      served.document = awkwardDocument.root.members.erase "$id" := by
  obtain ⟨-, hleads, -, -, -, hdropped, -⟩ :=
    reference_leads_to_definition awkwardDocument .unreleased .agenticCheckout
  exact ⟨rfl, (hleads _ _ rfl).2, not_hasAbsoluteId_awkwardDocument,
    hdropped not_hasAbsoluteId_awkwardDocument⟩

/-! ### References that are cut -/

theorem toList_referenceTo (served : Served) (name : String) :
    (served.referenceTo name).toList =
      served.base.toList ++ '#' :: ("/$defs/" ++ pointerToken name).toList := by
  rw [referenceTo_eq]
  simp

theorem cut_referenceTo_eq_iff (served : Served) (name : String) :
    (Uri.splitMark '#' (served.referenceTo name).toList).1 = served.base.toList ↔
      '#' ∉ served.base.toList := by
  rw [toList_referenceTo]
  constructor
  · intro h hmem
    rw [Uri.fst_splitMark] at h
    rw [← h] at hmem
    simpa using List.mem_takeWhile_imp hmem
  · intro h
    rw [Uri.splitMark_append h]

/-- With a second number sign, a reference is none. -/
theorem parse?_referenceTo_eq_none {served : Served} (h : '#' ∈ served.base.toList) (name : String) :
    Uri.parse? (served.referenceTo name) = none := by
  obtain ⟨front, rest, hbase, hfront⟩ := List.eq_append_cons_of_mem h
  rw [← String.ofList_toList (s := served.referenceTo name), toList_referenceTo, hbase,
    List.append_assoc, List.cons_append]
  exact Uri.parse?_eq_none hfront (by simp)

/-- Where the reference to a definition is cut back to the base, the document is found. -/
theorem retrieve_referenceTo {served : Served} (h : '#' ∉ served.base.toList) (name : String) :
    served.retrieve (served.referenceTo name) = served.value := by
  refine if_pos ?_
  rw [(cut_referenceTo_eq_iff served name).2 h, String.ofList_toList]

/-- A place is cut before it is looked up, so nothing is found at a base with a number sign. -/
theorem retrieve_eq_empty {served : Served} (h : '#' ∈ served.base.toList) (place : String) :
    served.retrieve place = .object [] := by
  refine if_neg fun hplace => ?_
  rw [← hplace, String.toList_ofList, Uri.fst_splitMark] at h
  simpa using List.mem_takeWhile_imp h

end Served

/-- Cutting the reference to a definition at its first number sign gives the base back, and so the
document is found, unless the document has no absolute identifier and the version has a number sign
in its tag. With such a version nothing is found at any place, and a library that refuses references
which are not well formed can use no definition of the document. -/
theorem cut_referenceTo_iff (document : JsonSchemaDocument) (version : VersionTag)
    (family : Family) :
    let base := documentBase document version family
    let served := Served.ofDocument document base
    ('#' ∉ base.toList ↔ document.HasAbsoluteId ∨ '#' ∉ version.text.toList) ∧
    (∀ name, (Uri.splitMark '#' (served.referenceTo name).toList).1 = base.toList ↔
      document.HasAbsoluteId ∨ '#' ∉ version.text.toList) ∧
    (document.HasAbsoluteId ∨ '#' ∉ version.text.toList → ∀ name,
      served.retrieve (served.referenceTo name) = served.value) ∧
    (¬document.HasAbsoluteId ∧ '#' ∈ version.text.toList →
      (∀ place, served.retrieve place = .object []) ∧
      ∀ library : SchemaLibrary, library.RefusesIllFormed → ∀ draft name,
        ∃ reason, compile library served draft name = .error reason) := by
  intro base served
  have hbase : '#' ∉ served.base.toList ↔ document.HasAbsoluteId ∨ '#' ∉ version.text.toList := by
    rw [show served.base = base from rfl, hash_mem_documentBase_iff, not_and_or, not_not]
  refine ⟨hbase, fun name => (Served.cut_referenceTo_eq_iff served name).trans hbase,
    fun h => Served.retrieve_referenceTo (hbase.2 h), fun h => ?_⟩
  have hmem : '#' ∈ served.base.toList := hash_mem_documentBase_iff.2 h
  exact ⟨Served.retrieve_eq_empty hmem, fun library hrefuses draft name =>
    hrefuses draft _ _ (Served.parse?_referenceTo_eq_none hmem name)⟩

/-- A version whose tag has a number sign in it. -/
def numberedVersion : VersionTag := ⟨"2026#1", by decide +kernel⟩

/-- The base is not lost for the version that is still edited, and is lost for the numbered one. -/
theorem cut_referenceTo_iff_numbered :
    let served (version : VersionTag) := Served.ofDocument Served.awkwardDocument
      (documentBase Served.awkwardDocument version .agenticCheckout)
    ('#' ∉ (served .unreleased).base.toList ∧ ∀ name,
      (Uri.splitMark '#' ((served .unreleased).referenceTo name).toList).1 =
        (served .unreleased).base.toList ∧
      (served .unreleased).retrieve ((served .unreleased).referenceTo name) =
        (served .unreleased).value) ∧
    (¬Served.awkwardDocument.HasAbsoluteId ∧ '#' ∈ numberedVersion.text.toList) ∧
    '#' ∈ (served numberedVersion).base.toList ∧
    (∀ name, (Uri.splitMark '#' ((served numberedVersion).referenceTo name).toList).1 ≠
      (served numberedVersion).base.toList) ∧
    (∀ place, (served numberedVersion).retrieve place = .object []) ∧
    SchemaLibrary.builtIn.RefusesIllFormed ∧
    ∀ draft name, ∃ reason, compile .builtIn (served numberedVersion) draft name = .error reason := by
  have hunreleased : Served.awkwardDocument.HasAbsoluteId ∨
      '#' ∉ VersionTag.unreleased.text.toList := .inr (by decide)
  have hnumbered : ¬Served.awkwardDocument.HasAbsoluteId ∧ '#' ∈ numberedVersion.text.toList :=
    ⟨Served.not_hasAbsoluteId_awkwardDocument, by decide⟩
  have hcut : ¬(Served.awkwardDocument.HasAbsoluteId ∨ '#' ∉ numberedVersion.text.toList) := by
    rw [not_or, not_not]
    exact hnumbered
  obtain ⟨hbase, hback, hfound, -⟩ :=
    cut_referenceTo_iff Served.awkwardDocument .unreleased .agenticCheckout
  obtain ⟨hbase', hback', -, hlost⟩ :=
    cut_referenceTo_iff Served.awkwardDocument numberedVersion .agenticCheckout
  obtain ⟨hempty, hunusable⟩ := hlost hnumbered
  exact ⟨⟨hbase.2 hunreleased, fun name => ⟨(hback name).2 hunreleased, hfound hunreleased name⟩⟩,
    hnumbered, not_not.1 (mt hbase'.1 hcut), fun name => mt (hback' name).1 hcut, hempty,
    SchemaLibrary.refusesIllFormed_builtIn,
    hunusable .builtIn SchemaLibrary.refusesIllFormed_builtIn⟩

/-- The tag is accepted, but what is left of the reference is not the base. -/
theorem base_lost_of_numbered :
    VersionTag.parse "2026#1" = .ok numberedVersion ∧
      let base := documentBase Served.awkwardDocument numberedVersion .agenticCheckout
      '#' ∈ base.toList ∧ ∀ name,
        (Uri.splitMark '#' ((Served.ofDocument Served.awkwardDocument base).referenceTo
          name).toList).1 = "https://acp-lint.local/2026".toList ∧
        base.toList ≠ "https://acp-lint.local/2026".toList := by
  have hbase : documentBase Served.awkwardDocument numberedVersion .agenticCheckout =
      "https://acp-lint.local/2026#1/agentic_checkout.json" :=
    documentBase_of_not_absolute Served.not_hasAbsoluteId_awkwardDocument
  refine ⟨VersionTag.parse_text numberedVersion, ?_⟩
  dsimp only
  rw [hbase]
  refine ⟨by decide, fun name => ⟨?_, by decide⟩⟩
  rw [Uri.fst_splitMark, Served.toList_referenceTo]
  rfl

end Conformance

end SpecLint
