import StudioMigration.Package.List
import StudioMigration.Proofs.Xml.RoundTrip

/-!
# Listing a package

A package list that is read, extended by one package and written holds the old document and the new object,
and nothing else has changed but white space. The name of the new element is bound in the list of objects, it
can be read back from its written form, and it settles as it is.

* `objectTag_cases` says which names the element can have.
* `regular_objectNamed`, `settled_newObject` and `remarks_newObject` are what writing the package list needs.
-/

namespace StudioMigration

open List XmlScope

namespace Xml

open Text

variable {word : List Char} {qualifier base : String}

/-! ## Names of two parts -/

/-- A word that can stand on either side of the colon in a name. -/
def IsNamePart (word : List Char) : Prop :=
  word.head?.any (isNameStart .editing) ∧ ∀ c ∈ word, isNameChar .editing c

theorem IsNamePart.isWrittenChar (h : IsNamePart word) : ∀ c ∈ word, isWrittenChar .editing c := by
  intro c hc
  simp [Xml.isWrittenChar, h.2 c hc]

theorem IsNamePart.not_colon (h : IsNamePart word) : ∀ c ∈ word, (c != ':') := by
  intro c hc
  have hname := h.2 c hc
  rw [bne_iff_ne]
  rintro rfl
  exact absurd hname (by decide)

theorem IsNamePart.ne_nil (h : IsNamePart word) : word ≠ [] := by
  rintro rfl
  exact absurd h.1 (by decide)

theorem render_qualified (h : qualifier ≠ "") (base : String) :
    (XmlName.mk qualifier base).render.toList = qualifier.toList ++ ':' :: base.toList := by
  simp [XmlName.render, h]

/-- Two parts with a colon between them make up a regular name. -/
theorem regularName_of_parts (hqualifier : IsNamePart qualifier.toList) (hbase : IsNamePart base.toList) :
    RegularName ⟨qualifier, base⟩ := by
  have hne : qualifier ≠ "" := by
    rintro rfl
    exact hqualifier.ne_nil rfl
  have hfirst : (qualifier.toList ++ ':' :: base.toList).takeWhile (· != ':') = qualifier.toList :=
    takeWhile_append_of_stop hqualifier.not_colon rfl
  have htail : (qualifier.toList ++ ':' :: base.toList).drop (qualifier.toList.length + 1) = base.toList := by
    rw [← drop_drop, drop_left]
    rfl
  have hend : base.toList.dropWhile (· != ':') = [] := dropWhile_eq_nil_iff.2 hbase.not_colon
  constructor
  · rw [render_qualified hne]
    cases hword : qualifier.toList with
    | nil => exact absurd hword hqualifier.ne_nil
    | cons c rest =>
      have hstart : isNameStart .editing c := by simpa [hword] using hqualifier.1
      refine ⟨by simp [hstart], ?_⟩
      intro d hd
      rcases mem_append.1 hd with hd | hd
      · exact hqualifier.isWrittenChar d (hword ▸ mem_cons_of_mem _ hd)
      · rcases mem_cons.1 hd with rfl | hd
        · decide
        · exact hbase.isWrittenChar d hd
  · rw [render_qualified hne]
    simp only [cut?, hfirst, htail, hbase.1, hend]
    simp [hne]

theorem regularName_plain (h : IsNamePart base.toList) : RegularName ⟨"", base⟩ := by
  have hrender : (XmlName.mk "" base).render = base := by simp [XmlName.render]
  have hfirst : base.toList.takeWhile (· != ':') = base.toList := takeWhile_eq_self_iff.2 h.not_colon
  constructor
  · rw [hrender]
    cases hword : base.toList with
    | nil => exact absurd hword h.ne_nil
    | cons c rest =>
      have hstart : isNameStart .editing c := by simpa [hword] using h.1
      exact ⟨by simp [hstart], fun d hd => h.isWrittenChar d (hword ▸ mem_cons_of_mem _ hd)⟩
  · rw [hrender]
    simp [cut?, hfirst]

theorem written_of_declared (h : RegularName (declaringName qualifier)) (hne : qualifier ≠ "") :
    qualifier.toList.head?.any (isNameStart .editing) ∧ ∀ c ∈ qualifier.toList, isWrittenChar .editing c := by
  rw [declaringName, if_neg hne] at h
  have hrender := render_qualified (by decide : "xmlns" ≠ "") qualifier
  constructor
  · -- Otherwise nothing would be cut off.
    have hcut := h.cut
    have hfirst : ("xmlns".toList ++ ':' :: qualifier.toList).takeWhile (· != ':') = "xmlns".toList :=
      takeWhile_append_of_stop (by decide) rfl
    have htail : ("xmlns".toList ++ ':' :: qualifier.toList).drop ("xmlns".toList.length + 1) = qualifier.toList := rfl
    rw [hrender] at hcut
    simp only [cut?, hfirst, htail] at hcut
    split at hcut
    · simp at hcut
    · rename_i hnot
      simpa using hnot
  · intro c hc
    have hwritten := h.written
    rw [hrender] at hwritten
    exact hwritten.2 c (mem_append_right _ (mem_cons_of_mem _ hc))

theorem isNamePart_of_declared (h : RegularName (declaringName qualifier)) (hne : qualifier ≠ "")
    (hcolon : qualifier.toList.contains ':' = false) : IsNamePart qualifier.toList := by
  obtain ⟨hstart, hchars⟩ := written_of_declared h hne
  refine ⟨hstart, fun c hc => ?_⟩
  have hother : c ≠ ':' := by
    rintro rfl
    exact absurd hc (by simpa using hcolon)
  simpa [Xml.isWrittenChar, hother] using hchars c hc

/-- A name with two colons is not proper, however it is cut. -/
theorem isProper_of_cut? {name : XmlName} (h : cut? .editing word = some name) (hcolons : 2 ≤ word.count ':') :
    isProper name = false := by
  have hhas : ∀ text : List Char, 1 ≤ text.count ':' → isProper ⟨name.qualifier, String.ofList text⟩ = false := by
    intro text htext
    have hmem : ':' ∈ text := count_pos_iff.1 htext
    simpa [isProper] using hmem
  unfold cut? at h
  simp only [] at h
  split at h
  · cases h
    exact hhas word (by omega)
  · rename_i hcut
    simp only [Bool.or_eq_true, Bool.not_eq_true', not_or, Bool.not_eq_true, Bool.not_eq_false,
      Option.any_eq_true, isEmpty_eq_false_iff] at hcut
    obtain ⟨-, c, hc, -⟩ := hcut
    have hfirst : (word.takeWhile (· != ':')).count ':' = 0 := by
      rw [count_eq_zero]
      intro hmem
      exact absurd (mem_takeWhile_imp hmem) (by simp)
    have htail : 1 ≤ (word.drop ((word.takeWhile (· != ':')).length + 1)).count ':' := by
      rw [takeWhile_colon_append hc, count_append, count_cons_self] at hcolons
      omega
    have hbase : name.base = String.ofList (word.drop ((word.takeWhile (· != ':')).length + 1)) := by
      split at h
      · split at h
        · cases h
          rfl
        · simp at h
      · cases h
        rfl
    have := hhas _ htail
    rwa [← hbase] at this

end Xml

theorem XmlScope.mem_of_uri? {scope : XmlScope} {qualifier uri : String} (h : scope.uri? qualifier = some uri)
    (hother : qualifier ≠ "xml") : (qualifier, uri) ∈ scope := by
  rw [uri?, if_neg (by simpa using hother), Option.map_eq_some_iff] at h
  obtain ⟨⟨found, bound⟩, hfound, rfl⟩ := h
  obtain rfl : found = qualifier := by simpa using find?_some hfound
  exact mem_of_find?_eq_some hfound

theorem XmlScope.binds_of_uri? {scope : XmlScope} {qualifier uri : String} (h : scope.uri? qualifier = some uri)
    (hne : uri ≠ "") (hother : qualifier ≠ "xmlns") : scope.binds qualifier := by
  simp [binds, h, hne, hother]

namespace PackageList

open Xml

variable {uri : String} (scope : XmlScope)

/-! ## Qualifiers -/

/-- The declarations in force in a document that was read. -/
def RegularScope : Prop :=
  ∀ d ∈ scope, takesEffect d.1 d.2 ∧ RegularName (declaringName d.1) ∧ IsDocumentText d.2.toList

theorem regularScope_effective {tag : XmlTag} (h : RegularTag tag) : RegularScope tag.effective.declarations := by
  intro d hd
  obtain ⟨hd, heffect⟩ := mem_filter.1 hd
  have hwritten : (declaringName d.1, d.2.toList) ∈ writtenAttributes tag := mem_append_left _ (mem_map.2 ⟨d, hd, rfl⟩)
  exact ⟨heffect, h.names _ hwritten, h.values _ hwritten⟩

/-- A qualifier that is made up consists of two letters and digits. -/
theorem freshQualifier_eq :
    ∃ digits, (freshQualifier scope).toList = 'n' :: 's' :: digits ∧ ∀ c ∈ digits, Text.isAsciiDigit c := by
  have hnumbered : ∀ n : Nat, ∃ digits, (s!"ns{n}").toList = 'n' :: 's' :: digits ∧
      ∀ c ∈ digits, Text.isAsciiDigit c := by
    intro n
    refine ⟨Nat.toDigits 10 n, by simp [toString, Nat.repr_eq_ofList_toDigits], ?_⟩
    intro c hc
    have hdigit := Nat.isDigit_of_mem_toDigits (by decide) (by decide) hc
    exact hdigit
  unfold freshQualifier
  simp only []
  cases hfound : ((List.range ((scope.map (·.1)).length + 1)).map fun n => s!"ns{n}").find?
      fun name => !(scope.map (·.1)).contains name with
  | none => exact ⟨[], rfl, by simp⟩
  | some name =>
    obtain ⟨n, -, rfl⟩ := mem_map.1 (mem_of_find?_eq_some hfound)
    exact hnumbered n

theorem isNamePart_freshQualifier : IsNamePart (freshQualifier scope).toList := by
  obtain ⟨digits, htext, hdigits⟩ := freshQualifier_eq scope
  rw [htext]
  refine ⟨rfl, forall_mem_cons.2 ⟨by decide, forall_mem_cons.2 ⟨by decide, ?_⟩⟩⟩
  intro c hc
  simp [isNameChar, isOpenChar, hdigits c hc]

theorem colon_not_mem_freshQualifier : ':' ∉ (freshQualifier scope).toList := fun hmem =>
  absurd ((isNamePart_freshQualifier scope).not_colon _ hmem) (by decide)

theorem freshQualifier_not_reserved : freshQualifier scope ∉ ["", "xml", "xmlns"] := by
  obtain ⟨digits, htext, -⟩ := freshQualifier_eq scope
  have hstart : (freshQualifier scope).toList.take 2 = ['n', 's'] := by
    rw [htext]
    rfl
  intro hmem
  have hclosed : ∀ word ∈ ["", "xml", "xmlns"], word.toList.take 2 ≠ ['n', 's'] := by decide
  exact hclosed _ hmem hstart

/-! ## The name of a new object -/

theorem defaultNamespace?_mem {doc : XmlDocument} (h : defaultNamespace? doc = some uri) :
    ("", uri) ∈ doc.scope ∧ uri ≠ "" := by
  simp only [defaultNamespace?, Option.filter_eq_some_iff, bne_iff_ne] at h
  obtain ⟨hbound, hne⟩ := h
  exact ⟨mem_of_uri? hbound (by decide), hne⟩

theorem qualifiersFor_mem {qualifier : String} {scope : XmlScope} (h : qualifier ∈ qualifiersFor uri scope) :
    (qualifier, uri) ∈ scope ∧ scope.uri? qualifier = some uri := by
  obtain ⟨⟨found, bound⟩, hfound, rfl⟩ := mem_map.1 h
  simp only [mem_filter, Bool.and_eq_true, beq_iff_eq] at hfound
  obtain ⟨hmem, rfl, hbound⟩ := hfound
  exact ⟨hmem, hbound⟩

/-! ## The tag of a new object -/

/-- The attribute that says what an object is. -/
def packageType : List (XmlName × List Char) := [(⟨"", "Type"⟩, "Package".toList)]

def objectTag (doc : XmlDocument) (objectsTag : XmlTag) : XmlTag where
  name := (objectName (defaultNamespace? doc) (doc.scope.inside objectsTag)).1
  declarations := (objectName (defaultNamespace? doc) (doc.scope.inside objectsTag)).2
  attributes := packageType

theorem newObject_eq (doc : XmlDocument) (objectsTag : XmlTag) (pkg : String) :
    newObject doc objectsTag pkg = .element (objectTag doc objectsTag) [.text pkg.toList] := rfl

section ObjectTag

variable {doc : XmlDocument} {objectsTag : XmlTag}

/-- A new object has the plain name, or a qualifier that is bound where it is added, or one of its own. -/
theorem objectTag_cases :
    objectTag doc objectsTag = ⟨⟨"", "Object"⟩, [], packageType⟩ ∨
      (∃ uri qualifier, qualifier ≠ "" ∧ (qualifier, uri) ∈ doc.scope.inside objectsTag ∧
        (doc.scope.inside objectsTag).uri? qualifier = some uri ∧
        objectTag doc objectsTag = ⟨⟨qualifier, "Object"⟩, [], packageType⟩) ∨
      (∃ uri, defaultNamespace? doc = some uri ∧
        objectTag doc objectsTag =
          ⟨⟨freshQualifier (doc.scope.inside objectsTag), "Object"⟩,
            [(freshQualifier (doc.scope.inside objectsTag), uri)], packageType⟩) := by
  unfold objectTag objectName
  cases hdefault : defaultNamespace? doc with
  | none => exact .inl rfl
  | some uri =>
    cases hqualifiers : qualifiersFor uri (doc.scope.inside objectsTag) with
    | nil => exact .inr (.inr ⟨uri, rfl, by simp [hqualifiers]⟩)
    | cons qualifier others =>
      obtain ⟨hmem, hbound⟩ := qualifiersFor_mem (hqualifiers ▸ mem_cons_self)
      by_cases hplain : qualifier = ""
      · exact .inl (by simp [hqualifiers, hplain])
      · exact .inr (.inl ⟨uri, qualifier, hplain, hmem, hbound, by simp [hqualifiers]⟩)

theorem base_objectTag : (objectTag doc objectsTag).name.base = "Object" := by
  rcases @objectTag_cases doc objectsTag with
    heq | ⟨uri, qualifier, -, -, -, heq⟩ | ⟨uri, -, heq⟩ <;> rw [heq]

variable (hscope : RegularScope (doc.scope.inside objectsTag))

include hscope

/-- The declaration that a new object may bring along has an effect. -/
theorem takesEffect_fresh (h : defaultNamespace? doc = some uri) (scope : XmlScope) :
    takesEffect (freshQualifier scope) uri := by
  obtain ⟨hmem, hne⟩ := defaultNamespace?_mem h
  obtain ⟨heffect, -, -⟩ := hscope _ (mem_append_right _ hmem)
  have hfree := freshQualifier_not_reserved scope
  simp only [mem_cons, not_mem_nil, or_false, not_or] at hfree
  simp only [takesEffect, Bool.and_eq_true, bne_iff_ne, Bool.or_eq_true, beq_iff_eq] at heffect ⊢
  exact ⟨⟨⟨⟨hfree.2.1, hfree.2.2⟩, heffect.1.1.2⟩, heffect.1.2⟩, .inr hne⟩

theorem effective_objectTag : (objectTag doc objectsTag).effective = objectTag doc objectsTag := by
  rcases objectTag_cases with heq | ⟨uri, qualifier, -, -, -, heq⟩ | ⟨uri, hdefault, heq⟩
  · rw [heq]
    rfl
  · rw [heq]
    rfl
  · rw [heq]
    simp [XmlTag.effective, takesEffect_fresh hscope hdefault]

/-- The qualifier of a new object is bound where the object stands. -/
theorem binds_objectTag :
    ((doc.scope.inside objectsTag).inside (objectTag doc objectsTag)).binds
      (objectTag doc objectsTag).name.qualifier := by
  rcases objectTag_cases with heq | ⟨uri, qualifier, hplain, hmem, hbound, heq⟩ | ⟨uri, hdefault, heq⟩
  · rw [heq]
    rfl
  · rw [heq]
    obtain ⟨heffect, -, -⟩ := hscope _ hmem
    simp only [takesEffect, Bool.and_eq_true, bne_iff_ne, Bool.or_eq_true, beq_iff_eq] at heffect
    exact binds_of_uri? hbound (heffect.2.resolve_left hplain) heffect.1.1.1.2
  · rw [heq]
    have hfree := freshQualifier_not_reserved (doc.scope.inside objectsTag)
    simp only [mem_cons, not_mem_nil, or_false, not_or] at hfree
    refine binds_of_uri? ?_ (defaultNamespace?_mem hdefault).2 hfree.2.2
    simp only [uri?, beq_iff_eq, hfree.2.1, if_false]
    simp [inside]

theorem settled_newObject (pkg : String) :
    (newObject doc objectsTag pkg).settled (doc.scope.inside objectsTag) =
      newObject doc objectsTag pkg := by
  have hname : (objectTag doc objectsTag).name.settled
      ((doc.scope.inside objectsTag).inside (objectTag doc objectsTag)) =
        (objectTag doc objectsTag).name := by
    rw [XmlName.settled, if_pos (binds_objectTag hscope)]
  have htag : (objectTag doc objectsTag).settled
      ((doc.scope.inside objectsTag).inside (objectTag doc objectsTag)) = objectTag doc objectsTag := by
    rw [XmlTag.settled, hname, effective_objectTag hscope]
    rfl
  rw [newObject_eq, XmlNode.settled, effective_objectTag hscope, htag]
  rfl

/-- The name of a new object can stand as a name in a document. -/
theorem isWritten_objectTag : IsWritten (objectTag doc objectsTag).name.render.toList := by
  have hobject : IsNamePart "Object".toList := ⟨by decide, by decide⟩
  rcases objectTag_cases with heq | ⟨uri, qualifier, hne, hmem, -, heq⟩ | ⟨uri, -, heq⟩
  · rw [heq]
    exact (regularName_plain hobject).written
  · rw [heq, render_qualified hne]
    obtain ⟨-, hdeclared, -⟩ := hscope _ hmem
    obtain ⟨hstart, hchars⟩ := written_of_declared hdeclared hne
    cases hword : qualifier.toList with
    | nil => simp [hword] at hstart
    | cons c rest =>
      rw [hword, forall_mem_cons] at hchars
      rw [hword, head?_cons, Option.any_some] at hstart
      refine ⟨by simp [hstart], forall_mem_append.2 ⟨hchars.2, ?_⟩⟩
      exact forall_mem_cons.2 ⟨by decide, hobject.isWrittenChar⟩
  · rw [heq]
    exact (regularName_of_parts (isNamePart_freshQualifier _) hobject).written

/-- The name of a new object is read back from its written form if its qualifier has no colon. -/
theorem cut?_objectTag (hcolon : (objectTag doc objectsTag).name.qualifier.toList.contains ':' = false) :
    cut? .editing (objectTag doc objectsTag).name.render.toList = some (objectTag doc objectsTag).name := by
  have hobject : IsNamePart "Object".toList := ⟨by decide, by decide⟩
  rcases objectTag_cases with heq | ⟨uri, qualifier, hne, hmem, -, heq⟩ | ⟨uri, -, heq⟩
  · rw [heq]
    exact (regularName_plain hobject).cut
  · rw [heq] at hcolon ⊢
    obtain ⟨-, hdeclared, -⟩ := hscope _ hmem
    exact (regularName_of_parts (isNamePart_of_declared hdeclared hne hcolon) hobject).cut
  · rw [heq]
    exact (regularName_of_parts (isNamePart_freshQualifier _) hobject).cut

/-- A new object as it is read back, where its name may be cut in another way. -/
def objectNamed (doc : XmlDocument) (objectsTag : XmlTag) (name : XmlName) (pkg : String) : XmlNode :=
  .element { objectTag doc objectsTag with name := name } [.text pkg.toList]

/-- A new object is read back from its written form, with the name that its written name is cut into. -/
theorem regular_objectNamed {pkg : String} (hpkg : pkg.toList.all isDocumentChar)
    {name : XmlName} (hcut : cut? .editing (objectTag doc objectsTag).name.render.toList = some name) :
    RegularNode (objectNamed doc objectsTag name pkg) := by
  have hname : RegularName name := by
    have hrender := render_of_cut? hcut
    exact ⟨hrender ▸ isWritten_objectTag hscope, hrender ▸ hcut⟩
  have hattributes : ∀ a ∈ packageType, RegularName a.1 ∧ IsDocumentText a.2 := by
    intro a ha
    obtain rfl := mem_singleton.1 ha
    exact ⟨regularName_plain ⟨by decide, by decide⟩, by decide⟩
  have hwritten : ∀ a ∈ writtenAttributes (objectTag doc objectsTag),
      RegularName a.1 ∧ IsDocumentText a.2 := by
    rcases objectTag_cases with heq | ⟨uri, qualifier, -, -, -, heq⟩ | ⟨uri, hdefault, heq⟩
    · rw [heq]
      exact hattributes
    · rw [heq]
      exact hattributes
    · rw [heq]
      have hxmlns : IsNamePart "xmlns".toList := ⟨by decide, by decide⟩
      have hfree := freshQualifier_not_reserved (doc.scope.inside objectsTag)
      simp only [mem_cons, not_mem_nil, or_false, not_or] at hfree
      obtain ⟨-, -, huri⟩ := hscope _ (mem_append_right _ (defaultNamespace?_mem hdefault).1)
      have hdeclaring : declaringName (freshQualifier (doc.scope.inside objectsTag)) =
          ⟨"xmlns", freshQualifier (doc.scope.inside objectsTag)⟩ := if_neg hfree.1
      refine forall_mem_cons.2 ⟨⟨?_, huri⟩, hattributes⟩
      simpa only [hdeclaring] using regularName_of_parts hxmlns (isNamePart_freshQualifier _)
  have hplain : ∀ a ∈ packageType, declared? a.1 = none := by decide
  exact ⟨⟨hname, fun a ha => (hwritten a ha).1, hplain, fun a ha => (hwritten a ha).2⟩,
    fun c hc => all_eq_true.1 hpkg c hc, by simp, trivial⟩

/-- There is nothing to complain of a new object if the namespace that it declares is a reference. -/
theorem remarks_newObject
    (hreference : ∀ uri, defaultNamespace? doc = some uri → Uri.isReference uri.toList) (pkg : String) :
    (newObject doc objectsTag pkg).remarks (doc.scope.inside objectsTag) = [] := by
  have hbinds := binds_objectTag hscope
  have heffective := effective_objectTag hscope
  have hproper : isProper (objectTag doc objectsTag).name := by
    rw [isProper, base_objectTag]
    decide
  have hdeclarations : (objectTag doc objectsTag).declarations.flatMap
      (fun d => declarationRemarks d.1 d.2) = [] ∧
      ((objectTag doc objectsTag).declarations.map (·.1)).Nodup := by
    rcases objectTag_cases with heq | ⟨uri, qualifier, -, -, -, heq⟩ | ⟨uri, hdefault, heq⟩
    · rw [heq]
      exact ⟨rfl, nodup_nil⟩
    · rw [heq]
      exact ⟨rfl, nodup_nil⟩
    · rw [heq]
      have hfree := freshQualifier_not_reserved (doc.scope.inside objectsTag)
      simp only [mem_cons, not_mem_nil, or_false, not_or] at hfree
      simp [declarationRemarks, colon_not_mem_freshQualifier, hfree, takesEffect_fresh hscope hdefault, hreference uri hdefault]
  have htype : packageType.flatMap (fun a => attributeRemarks a.1 a.2) = [] := by decide
  have hnodup : (packageType.map (·.1)).Nodup := by decide
  have hnames : ∀ scope : XmlScope, attributeNameRemarks scope [] (packageType.map (·.1)) = [] := by
    simp [attributeNameRemarks, packageType, binds]
  have hnone : packageType.filter (·.1 == ⟨"xml", "id"⟩) = [] := by decide
  rw [newObject_eq, XmlNode.remarks, XmlTag.remarks, heffective, hproper, hbinds, hdeclarations.1]
  have hattributes : (objectTag doc objectsTag).attributes = packageType := rfl
  simp [hattributes, htype, hnodup, hnames, hnone, hdeclarations.2, XmlNode.allRemarks, XmlNode.remarks]

end ObjectTag

end PackageList

namespace PackageList

open Xml XmlNode
open Text.Utf8 (Bytes)

variable {node : XmlNode} {children : List XmlNode} {doc : XmlDocument} {tag : XmlTag} {place : Nat}
  {pkg : String}

/-! ## Adding a node below the root -/

/-- A document with a node added at the end of an element below its root. -/
def extended (doc : XmlDocument) (earlier : List XmlNode) (tag : XmlTag) (children : List XmlNode)
    (later : List XmlNode) (node : XmlNode) : XmlDocument :=
  { doc with children := earlier ++ .element tag (children ++ [node]) :: later }

theorem exists_split_of_elementAt? (h : elementAt? doc place = some (tag, children)) :
    ∃ earlier later, doc.children = earlier ++ .element tag children :: later ∧ earlier.length = place := by
  unfold elementAt? at h
  split at h
  · rename_i found inner hfound
    cases h
    obtain ⟨hlt, hget⟩ := List.getElem?_eq_some_iff.1 hfound
    refine ⟨doc.children.take place, doc.children.drop (place + 1), ?_, ?_⟩
    · rw [← hget, ← List.drop_eq_getElem_cons hlt, List.take_append_drop]
    · simp
      omega
  · simp at h

section Extended

variable {earlier later : List XmlNode} (h : doc.children = earlier ++ .element tag children :: later)

include h

theorem appendAt_eq (node : XmlNode) :
    appendAt doc earlier.length node = extended doc earlier tag children later node := by
  have hmodify : ∀ (f : XmlNode → XmlNode) (first : XmlNode) (earlier : List XmlNode),
      (earlier ++ first :: later).modify earlier.length f = earlier ++ f first :: later := by
    intro f first earlier
    induction earlier with
    | nil => rfl
    | cons node earlier ih => simp [ih]
  simp only [appendAt, extended, h, hmodify]

/-- Adding a node and settling can be done in either order. -/
theorem settled_extended (node : XmlNode) :
    (extended doc earlier tag children later node).settled =
      appendAt doc.settled earlier.length
        (node.settled ((inside [] doc.tag.effective).inside tag.effective)) := by
  have hsettled : doc.settled.children =
      earlier.map (settled (inside [] doc.tag.effective)) ++
        .element (tag.settled ((inside [] doc.tag.effective).inside tag.effective))
          (children.map (settled ((inside [] doc.tag.effective).inside tag.effective))) ::
        later.map (settled (inside [] doc.tag.effective)) := by
    simp [XmlDocument.settled, h, allSettled_eq, settled]
  have hplaced := appendAt_eq hsettled
    (node.settled ((inside [] doc.tag.effective).inside tag.effective))
  rw [length_map] at hplaced
  rw [hplaced]
  simp [extended, XmlDocument.settled, allSettled_eq, settled]

theorem regular_extended (hdoc : RegularDocument doc) (hnode : RegularNode node)
    (hkind : node.isText = false) : RegularDocument (extended doc earlier tag children later node) := by
  have hchildren := hdoc.children
  rw [h] at hchildren
  obtain ⟨htag, hinner⟩ : RegularNode (.element tag children) := hchildren.mem (mem_append_right _ mem_cons_self)
  have hlonger : RegularNode (.element tag (children ++ [node])) := by
    refine ⟨htag, (regularNodes_concat children node).2 ⟨hinner, hnode, ?_⟩⟩
    simp [hkind]
  exact ⟨hdoc.before, hdoc.tag, hchildren.replace hlonger rfl, hdoc.after⟩

theorem remarks_extended (hnode : node.remarks ((inside [] doc.tag.effective).inside tag.effective) = []) :
    (extended doc earlier tag children later node).remarks = doc.remarks := by
  have hroot : (extended doc earlier tag children later node).root.remarks [] =
      doc.root.remarks [] := by
    simp only [XmlDocument.root, extended, XmlNode.remarks, h, allRemarks_eq, flatMap_append,
      flatMap_cons, hnode, flatMap_nil, append_nil]
  simp only [XmlDocument.remarks, allRemarks_eq, flatMap_append, flatMap_cons, hroot]
  rfl

theorem depth_extended {bound : Nat} (hbound : depth doc.root ≤ bound) (hnode : depth node + 2 ≤ bound) :
    depth (extended doc earlier tag children later node).root ≤ bound := by
  obtain ⟨bound, rfl⟩ : ∃ n, bound = n + 2 := ⟨bound - 2, by omega⟩
  have hall : ∀ below ∈ earlier ++ .element tag children :: later, depth below ≤ bound + 1 := by
    rw [← h, ← depthBelow_le_iff]
    exact Nat.le_of_succ_le_succ hbound
  have hchildren : ∀ below ∈ children, depth below ≤ bound := by
    rw [← depthBelow_le_iff]
    exact Nat.le_of_succ_le_succ (hall _ (mem_append_right _ mem_cons_self))
  have hlonger : depth (.element tag (children ++ [node])) ≤ bound + 1 := by
    refine Nat.succ_le_succ (depthBelow_le_iff.2 ?_)
    refine forall_mem_append.2 ⟨hchildren, ?_⟩
    intro below hbelow
    rw [mem_singleton.1 hbelow]
    omega
  refine Nat.succ_le_succ (depthBelow_le_iff.2 ?_)
  obtain ⟨hearlier, hlater⟩ := forall_mem_append.1 hall
  exact forall_mem_append.2
    ⟨hearlier, forall_mem_cons.2 ⟨hlonger, (forall_mem_cons.1 hlater).2⟩⟩

end Extended

/-! ## Listing a package -/

/-- A document that was read, as it was before it settled, and the element at a place in it. -/
structure Origin (doc : XmlDocument) (place : Nat) (tag : XmlTag) where
  nested : XmlDocument
  earlier : List XmlNode
  outer : XmlTag
  inner : List XmlNode
  later : List XmlNode
  regular : RegularDocument nested
  settled : doc = nested.settled
  depth_le : depth nested.root ≤ maxDepth
  accepted : acceptable [] true nested.remarks
  children : nested.children = earlier ++ .element outer inner :: later
  length : earlier.length = place
  declarations : tag.declarations = outer.effective.declarations

theorem nonempty_origin {bytes : Bytes} (hread : read .editing bytes = .ok doc)
    (hplace : elementAt? doc place = some (tag, children)) : Nonempty (Origin doc place tag) := by
  obtain ⟨nested, hregular, rfl, hdepth, hremarks⟩ := regular_of_read hread
  obtain ⟨earlier, later, hsplit, hlength⟩ := exists_split_of_elementAt? hplace
  have hchildren : nested.settled.children = nested.children.map (settled (inside [] nested.tag.effective)) :=
    allSettled_eq _ _
  rw [hchildren, map_eq_append_iff] at hsplit
  obtain ⟨earlier₀, rest, hnested, hearlier, hrest⟩ := hsplit
  obtain ⟨first, later₀, rfl, hfirst, -⟩ := map_eq_cons_iff.1 hrest
  cases first with
  | element outer inner =>
    refine ⟨⟨nested, earlier₀, outer, inner, later₀, hregular, rfl, hdepth, hremarks, hnested, ?_, ?_⟩⟩
    · rw [← hlength, ← hearlier, length_map]
    · rw [settled] at hfirst
      cases hfirst
      rfl
  | text content => simp [settled] at hfirst
  | comment content => simp [settled] at hfirst
  | instruction target content => simp [settled] at hfirst

namespace Origin

variable (origin : Origin doc place tag)

/-- The document as it was nested, with a node added at the place. -/
def extended (node : XmlNode) : XmlDocument :=
  PackageList.extended origin.nested origin.earlier origin.outer origin.inner origin.later node

theorem scope_eq : doc.scope.inside tag =
    (inside [] origin.nested.tag.effective).inside origin.outer.effective := by
  have hroot : doc.scope = inside [] origin.nested.tag.effective := congrArg XmlDocument.scope origin.settled
  rw [inside, origin.declarations, hroot]
  rfl

include origin in
theorem regularScope : RegularScope (doc.scope.inside tag) := by
  have hchildren := origin.regular.children
  rw [origin.children] at hchildren
  obtain ⟨htag, -⟩ : RegularNode (.element origin.outer origin.inner) :=
    hchildren.mem (mem_append_right _ mem_cons_self)
  rw [origin.scope_eq]
  intro d hd
  simp only [inside, append_nil, mem_append] at hd
  rcases hd with hd | hd
  · exact regularScope_effective htag d hd
  · exact regularScope_effective origin.regular.tag d hd

theorem settled_extended (node : XmlNode) :
    (origin.extended node).settled = appendAt doc place (node.settled (doc.scope.inside tag)) := by
  rw [extended, PackageList.settled_extended origin.children, ← origin.settled, origin.length, origin.scope_eq]

theorem regular_extended {node : XmlNode} (hnode : RegularNode node) (hkind : node.isText = false) :
    RegularDocument (origin.extended node) :=
  PackageList.regular_extended origin.children origin.regular hnode hkind

end Origin

theorem objects?_eq_ok_some :
    objects? doc = .ok (some (tag, children)) ↔
      ∃ place, objectsIndex? doc = .ok (some place) ∧ elementAt? doc place = some (tag, children) := by
  unfold objects?
  rcases objectsIndex? doc with fault | (_ | place) <;>
    simp

theorem add_of_hasOwn (hindex : objectsIndex? doc = .ok (some place))
    (hplace : elementAt? doc place = some (tag, children)) (hfits : pkg.toList.all isDocumentChar)
    {isOwn : Bool} (hown : hasOwn pkg children = .ok isOwn) :
    add doc pkg =
      .ok (if isOwn then none else some (appendAt doc place (newObject doc tag pkg))) := by
  cases isOwn <;> simp [add, hindex, hplace, hown, hfits]

/-- A declaration by the book: the qualifier has no colon, and the namespace is a reference. -/
def ProperDeclaration (d : String × String) : Prop :=
  d.1.toList.contains ':' = false ∧ Uri.isReference d.2.toList

instance (d : String × String) : Decidable (ProperDeclaration d) :=
  inferInstanceAs (Decidable (_ ∧ _))

/-- A list to which a package was added is read again as it was written, but for white space. -/
theorem read_write_added {bytes : Bytes} (hread : read .editing bytes = .ok doc)
    (hplace : elementAt? doc place = some (tag, children)) (hpkg : pkg.toList.all isDocumentChar)
    (hproper : ∀ d ∈ doc.scope.inside tag, ProperDeclaration d) :
    ∃ again, read .editing
        (Text.Utf8.encode (write (appendAt doc place (newObject doc tag pkg)))) = .ok again ∧
      again.stripped = (appendAt doc place (newObject doc tag pkg)).stripped := by
  obtain ⟨origin⟩ := nonempty_origin hread hplace
  have hscope := origin.regularScope
  have hcolon : (objectTag doc tag).name.qualifier.toList.contains ':' = false := by
    rcases objectTag_cases with heq | ⟨uri, qualifier, -, hmem, -, heq⟩ | ⟨uri, -, heq⟩
    · rw [heq]
      rfl
    · rw [heq]
      exact (hproper _ hmem).1
    · rw [heq]
      simpa using colon_not_mem_freshQualifier _
  have hreference : ∀ uri, defaultNamespace? doc = some uri → Uri.isReference uri.toList := by
    intro uri huri
    exact (hproper _ (mem_append_right _ (defaultNamespace?_mem huri).1)).2
  have hedited : (origin.extended (newObject doc tag pkg)).settled =
      appendAt doc place (newObject doc tag pkg) := by
    rw [origin.settled_extended, settled_newObject hscope]
  have hdepth : depth (newObject doc tag pkg) + 2 ≤ maxDepth := by
    simp [newObject_eq, depth, depthBelow, maxDepth]
  have hnone := remarks_newObject hscope hreference pkg
  rw [origin.scope_eq] at hnone
  have hremarks : acceptable [] true (origin.extended (newObject doc tag pkg)).remarks := by
    rw [Origin.extended, remarks_extended origin.children hnone]
    exact origin.accepted
  rw [← hedited]
  exact read_write_of_acceptable
    (origin.regular_extended (regular_objectNamed hscope hpkg (cut?_objectTag hscope hcolon)) rfl)
    (depth_extended origin.children origin.depth_le hdepth) hremarks

end PackageList

end StudioMigration
