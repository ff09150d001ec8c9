import Mathlib.Data.List.Basic
import StudioMigration.Proofs.Xml.Document

/-!
# Writing and reading again

What the package editor keeps of a document is written in the same way as the document but for declarations
without effect, and white space neither matters for what is kept nor for the remarks.

* `write_settled` says what is written of a settled document.
* `remarks_effective` says that leaving out declarations without effect takes away nothing but complaints.
* `regular_of_read` says that every document that the package editor reads is a settled regular document.
* `read_write` says that a settled regular document that is written is read again, but for white space, or
  refused, and `read_write_of_acceptable` says when it is not refused.
-/

namespace StudioMigration

open List Xml

section Nodes

open XmlNode

variable {nodes : List XmlNode}

/-! ## Nodes below nodes -/

/-- What holds of a node whenever it holds of the nodes in it holds of every node. -/
@[elab_as_elim]
theorem XmlNode.induction {motive : XmlNode → Prop} (text : ∀ content, motive (.text content))
    (comment : ∀ content, motive (.comment content))
    (instruction : ∀ target content, motive (.instruction target content))
    (element : ∀ tag children, (∀ node ∈ children, motive node) → motive (.element tag children)) :
    ∀ node, motive node
  | .text content => text content
  | .comment content => comment content
  | .instruction target content => instruction target content
  | .element tag children => element tag children fun node _ =>
    induction text comment instruction element node

theorem XmlNode.allStripped_eq (nodes : List XmlNode) :
    allStripped nodes = (nodes.filter fun node => !node.isBlankText).map stripped := by
  induction nodes with
  | nil => rfl
  | cons node nodes ih =>
    rw [allStripped, ih]
    cases hblank : node.isBlankText <;> simp [hblank]

theorem XmlNode.allSettled_eq (scope : XmlScope) (nodes : List XmlNode) :
    allSettled scope nodes = nodes.map (settled scope) := by
  induction nodes with
  | nil => rfl
  | cons node nodes ih => rw [allSettled, ih, map_cons]

theorem XmlNode.allRemarks_eq (scope : XmlScope) (nodes : List XmlNode) :
    allRemarks scope nodes = nodes.flatMap (remarks scope) := by
  induction nodes with
  | nil => rfl
  | cons node nodes ih => rw [allRemarks, ih, flatMap_cons]

/-! ## White space -/

theorem XmlNode.isBlankText_settled (scope : XmlScope) (node : XmlNode) :
    (node.settled scope).isBlankText = node.isBlankText := by
  cases node <;> simp [settled, isBlankText]

variable (node : XmlNode) (scope : XmlScope)

theorem XmlNode.stripped_settled : (node.settled scope).stripped = node.stripped.settled scope := by
  induction node using induction generalizing scope with
  | element tag children ih =>
    simp only [settled, stripped, allStripped_eq, allSettled_eq, filter_map, map_map, element.injEq, true_and]
    have hfilter : ((fun node : XmlNode => !node.isBlankText) ∘
        settled (scope.inside tag.effective)) = fun node => !node.isBlankText := by
      funext node
      simp [isBlankText_settled]
    rw [hfilter]
    apply map_congr_left
    intro node hnode
    exact ih node (mem_of_mem_filter hnode) _
  | _ => rfl

/-- Blank pieces of text have no part in what is gathered from nodes one by one. -/
theorem XmlNode.flatMap_allStripped {α : Type} {f : XmlNode → List α} (hblank : ∀ content, f (.text content) = [])
    (hf : ∀ node ∈ nodes, f node.stripped = f node) : (allStripped nodes).flatMap f = nodes.flatMap f := by
  induction nodes with
  | nil => rfl
  | cons node nodes ih =>
    obtain ⟨hnode, hnodes⟩ := forall_mem_cons.1 hf
    rw [allStripped, flatMap_cons, ← ih hnodes]
    split
    · rename_i htext
      cases node with
      | text content => simp [hblank]
      | _ => simp [isBlankText] at htext
    · rw [flatMap_cons, hnode]

theorem XmlNode.remarks_stripped : node.stripped.remarks scope = node.remarks scope := by
  induction node using induction generalizing scope with
  | element tag children ih =>
    simp only [stripped, remarks, allRemarks_eq]
    rw [flatMap_allStripped (fun _ => rfl) fun node hnode => ih node hnode _]
  | _ => rfl

theorem Xml.depthBelow_stripped (h : ∀ node ∈ nodes, depth node.stripped = depth node) :
    depthBelow (allStripped nodes) = depthBelow nodes := by
  induction nodes with
  | nil => rfl
  | cons node nodes ih =>
    obtain ⟨hnode, hnodes⟩ := forall_mem_cons.1 h
    rw [allStripped, depthBelow, ← ih hnodes]
    split
    · rename_i htext
      cases node with
      | text content => simp [depth]
      | _ => simp [isBlankText] at htext
    · rw [depthBelow, hnode]

theorem Xml.depth_stripped : depth node.stripped = depth node := by
  induction node using induction with
  | element tag children ih =>
    simp only [stripped, depth, depthBelow_stripped ih]
  | _ => rfl

theorem Xml.depthBelow_le_iff {bound : Nat} : depthBelow nodes ≤ bound ↔ ∀ node ∈ nodes, depth node ≤ bound := by
  induction nodes with
  | nil => simp [depthBelow]
  | cons node nodes ih => rw [depthBelow, Nat.max_le, ih, forall_mem_cons]

/-! ## Declarations with an effect -/

mutual

/-- A node with those declarations only that have an effect. -/
def XmlNode.effective : XmlNode → XmlNode
  | .element tag children => .element tag.effective (allEffective children)
  | node => node

/-- Some nodes with those declarations only that have an effect. -/
def XmlNode.allEffective : List XmlNode → List XmlNode
  | [] => []
  | node :: rest => node.effective :: allEffective rest

end

/-- A document with those declarations only that have an effect. -/
def XmlDocument.effective (doc : XmlDocument) : XmlDocument :=
  { doc with
    tag := doc.tag.effective
    children := allEffective doc.children }

theorem XmlNode.allEffective_eq (nodes : List XmlNode) : allEffective nodes = nodes.map effective := by
  induction nodes with
  | nil => rfl
  | cons node nodes ih => rw [allEffective, ih, map_cons]

theorem XmlTag.effective_effective (tag : XmlTag) : tag.effective.effective = tag.effective := by
  simp [XmlTag.effective, filter_filter]

theorem XmlTag.settled_effective (tag : XmlTag) (scope : XmlScope) :
    tag.effective.settled scope = tag.settled scope := by
  simp only [XmlTag.settled, XmlTag.effective_effective]
  rfl

theorem XmlNode.settled_effective : node.effective.settled scope = node.settled scope := by
  induction node using induction generalizing scope with
  | element tag children ih =>
    simp only [effective, settled, allSettled_eq, allEffective_eq,
      map_map, XmlTag.settled_effective, XmlTag.effective_effective, element.injEq, true_and]
    exact map_congr_left fun node hnode => ih node hnode _
  | _ => rfl

theorem Xml.depthBelow_effective (h : ∀ node ∈ nodes, depth node.effective = depth node) :
    depthBelow (allEffective nodes) = depthBelow nodes := by
  induction nodes with
  | nil => rfl
  | cons node nodes ih =>
    obtain ⟨hnode, hnodes⟩ := forall_mem_cons.1 h
    rw [allEffective, depthBelow, depthBelow, ih hnodes, hnode]

theorem Xml.depth_effective : depth node.effective = depth node := by
  induction node using induction with
  | element tag children ih =>
    simp only [effective, depth, depthBelow_effective ih]
  | _ => rfl

/-! ## What is written -/

theorem XmlName.render_settled (name : XmlName) (scope : XmlScope) : (name.settled scope).render = name.render := by
  unfold XmlName.settled
  split
  · rfl
  · simp [XmlName.render]

namespace Xml

theorem writeTag_settled (tag : XmlTag) (scope : XmlScope) :
    writeTag (tag.settled scope) = writeTag tag.effective := by
  simp only [writeTag, XmlTag.settled, XmlName.render_settled, flatMap_map]
  rfl

theorem writeNodes_eq (pretty : Bool) (level : Nat) (nodes : List XmlNode) :
    writeNodes pretty level nodes = nodes.flatMap fun node =>
      (if pretty then indent level else []) ++ writeNode pretty level node ++
        (if pretty then ['\n'] else []) := by
  induction nodes with
  | nil => rfl
  | cons node nodes ih => rw [writeNodes, ih, flatMap_cons]

theorem writeNode_settled (node : XmlNode) (scope : XmlScope) (pretty : Bool) (level : Nat) :
    writeNode pretty level (node.settled scope) = writeNode pretty level node.effective := by
  induction node using induction generalizing scope pretty level with
  | element tag children ih =>
    have hkinds : ∀ f : XmlNode → XmlNode, (∀ node, (f node).isText = node.isText) →
        (children.map f).any isText = children.any isText := by
      intro f hf
      rw [any_map]
      congr 1
      funext node
      exact hf node
    have hsettled : (children.map (settled (scope.inside tag.effective))).any isText = children.any isText :=
      hkinds _ fun node => by cases node <;> simp [settled, isText]
    have heffective : (children.map effective).any isText = children.any isText :=
      hkinds _ fun node => by cases node <;> simp [effective, isText]
    have hname : (tag.settled (scope.inside tag.effective)).name.render = tag.effective.name.render :=
      XmlName.render_settled tag.name _
    have hnodes : ∀ pretty level,
        writeNodes pretty level (children.map (settled (scope.inside tag.effective))) =
          writeNodes pretty level (children.map effective) := by
      intro pretty level
      rw [writeNodes_eq, writeNodes_eq, flatMap_map, flatMap_map]
      exact flatMap_congr fun node hnode => by rw [ih node hnode]
    simp only [settled, effective, writeNode, allSettled_eq,
      allEffective_eq, isEmpty_map, hsettled, heffective, hname, hnodes, writeTag_settled]
  | _ => rfl

/-- A settled document is written like the document that it was made of, but without declarations that
have no effect. -/
theorem write_settled (doc : XmlDocument) : write doc.settled = write doc.effective := by
  have hroot : doc.settled.root = doc.root.settled [] := rfl
  have hroot' : doc.effective.root = doc.root.effective := rfl
  rw [write_eq, write_eq]
  simp only [writeBody, writeLines, hroot, hroot', flatMap_append, flatMap_cons, writeNode_settled]
  rfl

/-! ## Regular nodes -/

theorem RegularTag.effective {tag : XmlTag} (h : RegularTag tag) : RegularTag tag.effective := by
  have hsub : ∀ a ∈ writtenAttributes tag.effective, a ∈ writtenAttributes tag := by
    intro a ha
    simp only [writtenAttributes, XmlTag.effective, mem_append, mem_map, mem_filter] at ha ⊢
    rcases ha with ⟨d, ⟨hd, -⟩, rfl⟩ | ha
    · exact .inl ⟨d, hd, rfl⟩
    · exact .inr ha
  exact ⟨h.name, fun a ha => h.names a (hsub a ha), h.plain, fun a ha => h.values a (hsub a ha)⟩

theorem RegularNodes.map {f : XmlNode → XmlNode} (hkind : ∀ node, (f node).isText = node.isText)
    {nodes : List XmlNode} (h : RegularNodes nodes) (hf : ∀ node ∈ nodes, RegularNode (f node)) :
    RegularNodes (nodes.map f) := by
  induction nodes with
  | nil => trivial
  | cons node nodes ih =>
    obtain ⟨-, hapart, hrest⟩ := h
    obtain ⟨hnode, hnodes⟩ := forall_mem_cons.1 hf
    refine ⟨hnode, ?_, ih hrest hnodes⟩
    rintro ⟨hfirst, hnext⟩
    refine hapart ⟨by rw [← hkind, hfirst], ?_⟩
    cases nodes with
    | nil => simp at hnext
    | cons next nodes => simpa [hkind] using hnext

theorem RegularNode.effective {node : XmlNode} (h : RegularNode node) : RegularNode node.effective := by
  induction node using XmlNode.induction with
  | element tag children ih =>
    obtain ⟨htag, hchildren⟩ := h
    refine ⟨htag.effective, ?_⟩
    rw [allEffective_eq]
    refine hchildren.map (fun node => ?_) fun node hnode => ih node hnode (hchildren.mem hnode)
    cases node <;> simp [XmlNode.effective, isText]
  | _ => exact h

theorem RegularDocument.effective {doc : XmlDocument} (h : RegularDocument doc) : RegularDocument doc.effective := by
  have hroot : RegularNode doc.root := ⟨h.tag, h.children⟩
  exact ⟨h.before, hroot.effective.1, hroot.effective.2, h.after⟩

end Xml

/-! ## Remarks -/

/-- Some remarks are others without some of the errors. -/
inductive XmlRemark.Milder : List XmlRemark → List XmlRemark → Prop
  | nil : Milder [] []
  | keep (remark : XmlRemark) {some all : List XmlRemark} (h : Milder some all) :
      Milder (remark :: some) (remark :: all)
  | drop {some all : List XmlRemark} (h : Milder some all) : Milder some (.error :: all)

namespace XmlRemark.Milder

theorem refl (remarks : List XmlRemark) : Milder remarks remarks := by
  induction remarks with
  | nil => exact .nil
  | cons remark remarks ih => exact .keep remark ih

theorem append {some all some' all' : List XmlRemark} (h : Milder some all) (h' : Milder some' all') :
    Milder (some ++ some') (all ++ all') := by
  induction h with
  | nil => exact h'
  | keep remark _ ih => exact .keep remark ih
  | drop _ ih => exact .drop ih

theorem of_errors {errors : List XmlRemark} (h : ∀ remark ∈ errors, remark = .error) : Milder [] errors := by
  induction errors with
  | nil => exact .nil
  | cons remark errors ih =>
    obtain ⟨rfl, hrest⟩ := forall_mem_cons.1 h
    exact .drop (ih hrest)

/-- Fewer errors do not make a document less acceptable. -/
theorem acceptable {some all : List XmlRemark} (h : Milder some all) {taken : List (List Char)}
    {isFine isFine' : Bool} (hfine : isFine → isFine')
    (hall : acceptable taken isFine all) : acceptable taken isFine' some := by
  induction h generalizing taken isFine isFine' with
  | nil => exact hfine hall
  | keep remark _ ih =>
    cases remark with
    | warning => exact ih id hall
    | error => exact ih id hall
    | fatal => exact hall
    | identifier value =>
      refine ih (fun hfits => ?_) hall
      simp only [Bool.and_eq_true] at hfits ⊢
      exact ⟨hfine hfits.1, hfits.2⟩
  | drop _ ih => exact ih (fun hfalse => absurd hfalse Bool.false_ne_true) hall

end XmlRemark.Milder

open XmlRemark (Milder)

/-- There is nothing to say of a declaration without effect but that it is wrong. -/
theorem declarationRemarks_of_not_takesEffect {qualifier uri : String} (h : takesEffect qualifier uri = false) :
    ∀ remark ∈ declarationRemarks qualifier uri, remark = .error := by
  have hreserved : ∀ uri ∈ [xmlNamespace, declarationNamespace],
      Uri.isReference uri.toList ∧ Uri.isAbsolute uri.toList := by decide +kernel
  intro remark hremark
  rcases mem_append.1 hremark with hcolon | hremark
  · split at hcolon
    · exact mem_singleton.1 hcolon
    · exact absurd hcolon not_mem_nil
  · split at hremark
    · rename_i hdefault
      obtain rfl := beq_iff_eq.1 hdefault
      -- The default is refused for the two reserved namespaces only, which are proper references.
      have huri : uri ∈ [xmlNamespace, declarationNamespace] := by
        have heither : ¬uri = xmlNamespace → uri = declarationNamespace := by simpa [takesEffect] using h
        simp only [mem_cons, not_mem_nil, or_false]
        exact Classical.or_iff_not_imp_left.2 heither
      obtain ⟨hreference, habsolute⟩ := hreserved uri huri
      simp only [hreference, habsolute, h, Bool.not_true, Bool.false_eq_true, if_false, nil_append] at hremark
      split at hremark
      · exact absurd hremark not_mem_nil
      · exact mem_singleton.1 hremark
    · simp only [h, Bool.false_and, Bool.false_eq_true, if_false] at hremark
      split at hremark
      · split at hremark
        · exact absurd hremark not_mem_nil
        · exact mem_singleton.1 hremark
      · exact mem_singleton.1 hremark

/-- Leaving out declarations without effect takes away errors only. -/
theorem milder_declarations (declarations : List (String × String)) :
    Milder ((declarations.filter fun d => takesEffect d.1 d.2).flatMap fun d => declarationRemarks d.1 d.2)
      (declarations.flatMap fun d => declarationRemarks d.1 d.2) := by
  induction declarations with
  | nil => exact .nil
  | cons d declarations ih =>
    cases heffect : takesEffect d.1 d.2 with
    | true =>
      simp only [filter_cons, heffect, if_true, flatMap_cons]
      exact (Milder.refl _).append ih
    | false =>
      simp only [filter_cons, heffect, Bool.false_eq_true, if_false, flatMap_cons]
      exact (Milder.of_errors (declarationRemarks_of_not_takesEffect heffect)).append ih

theorem XmlTag.remarks_effective (tag : XmlTag) (scope : XmlScope) :
    Milder (tag.effective.remarks scope) (tag.remarks scope) := by
  unfold XmlTag.remarks
  rw [XmlTag.effective_effective]
  have hdeclarations := (Milder.refl (if isProper tag.name then [] else [.error])).append
    (milder_declarations tag.declarations)
  exact ((((hdeclarations.append (.refl _)).append (.refl _)).append (.refl _)).append (.refl _)).append
    (.refl _)

/-- Leaving out declarations without effect takes away errors only. -/
theorem XmlNode.remarks_effective : Milder (node.effective.remarks scope) (node.remarks scope) := by
  induction node using induction generalizing scope with
  | element tag children ih =>
    have hall : ∀ (scope : XmlScope) (nodes : List XmlNode), (∀ node ∈ nodes, node ∈ children) →
        Milder (allRemarks scope (allEffective nodes)) (allRemarks scope nodes) := by
      intro scope nodes
      induction nodes with
      | nil => exact fun _ => .nil
      | cons node nodes ihnodes =>
        intro hmem
        obtain ⟨hnode, hnodes⟩ := forall_mem_cons.1 hmem
        exact (ih node hnode scope).append (ihnodes hnodes)
    simp only [effective, remarks, XmlTag.effective_effective]
    exact (tag.remarks_effective _).append (hall _ children fun _ => id)
  | _ => exact .refl _

/-! ## White space in documents -/

end Nodes

open XmlDocument

theorem XmlDocument.stripped_settled (doc : XmlDocument) : doc.settled.stripped = doc.stripped.settled := by
  have hroot := XmlNode.stripped_settled doc.root []
  simp only [root, XmlNode.settled, XmlNode.stripped, XmlNode.element.injEq, true_and] at hroot
  simp only [settled, stripped, hroot]

theorem XmlDocument.settled_effective (doc : XmlDocument) : doc.effective.settled = doc.settled := by
  have hroot := XmlNode.settled_effective doc.root []
  simp only [root, XmlNode.effective, XmlNode.settled, XmlNode.element.injEq] at hroot
  simp only [settled, effective, hroot]

theorem XmlDocument.remarks_stripped (doc : XmlDocument) : doc.stripped.remarks = doc.remarks := by
  have hroot : doc.stripped.root = doc.root.stripped := rfl
  simp only [remarks, XmlNode.allRemarks_eq, flatMap_append, flatMap_cons, hroot, XmlNode.remarks_stripped]
  rfl

theorem XmlDocument.remarks_effective (doc : XmlDocument) : XmlRemark.Milder doc.effective.remarks doc.remarks := by
  have hroot : doc.effective.root = doc.root.effective := rfl
  simp only [remarks, XmlNode.allRemarks_eq, flatMap_append, flatMap_cons, flatMap_nil, append_nil, hroot]
  exact ((XmlRemark.Milder.refl _).append (doc.root.remarks_effective [])).append (.refl _)

namespace Xml

open Text
open Text.Utf8 (Bytes)

variable {bytes : Bytes} {declaration : Option Declaration} {text rest : List Char} {doc : XmlDocument}

/-! ## Reading again -/

theorem read_of_documentText (h : documentText .editing bytes = .ok (declaration, text)) :
    read .editing bytes =
      match (tokens? .editing text).bind fun tokens =>
        (nest? .editing tokens).bind (accept? .editing declaration) with
      | some doc => .ok doc
      | none => .error .malformed := by
  unfold read
  rw [h]
  rfl

theorem exists_nested_write (h : RegularDocument doc) :
    ∃ nested, nested.stripped = doc.effective.stripped ∧
      read .editing (Utf8.encode (write doc.settled)) =
        match accept? .editing (some writtenDeclaration) nested with
        | some again => .ok again
        | none => .error .malformed := by
  obtain ⟨tokens, nested, htokens, hnest, hstripped⟩ := nest?_writeBody h.effective
  have htext := h.effective.documentText_write
  rw [← write_settled] at htext
  refine ⟨nested, hstripped, ?_⟩
  rw [read_of_documentText htext, htokens, Option.bind_some, hnest, Option.bind_some]

/-- What the editor makes of a document with the declaration that the writer puts in front. -/
theorem accept?_written (doc : XmlDocument) :
    accept? .editing (some writtenDeclaration) doc =
      if depth doc.root ≤ maxDepth && acceptable [] true doc.remarks then some doc.settled
      else none := by
  have hversion : versionRemarks writtenDeclaration.version = [] := by decide +kernel
  simp [accept?, hversion]

section ReadWrite

/-- A settled regular document that was written is read again, but for white space, or it is refused. -/
theorem read_write (h : RegularDocument doc) :
    (∃ again, read .editing (Utf8.encode (write doc.settled)) = .ok again ∧
      again.stripped = doc.settled.stripped) ∨
    read .editing (Utf8.encode (write doc.settled)) = .error .malformed := by
  obtain ⟨nested, hstripped, hread⟩ := exists_nested_write h
  rw [hread, accept?_written]
  split
  · rename_i again haccept
    split at haccept
    · cases haccept
      refine .inl ⟨_, rfl, ?_⟩
      rw [stripped_settled, hstripped, ← stripped_settled, settled_effective]
    · simp at haccept
  · exact .inr rfl

/-- A settled regular document is read again if it is not too deep and there are no complaints. -/
theorem read_write_of_acceptable (h : RegularDocument doc) (hdepth : depth doc.root ≤ maxDepth)
    (hremarks : acceptable [] true doc.remarks) :
    ∃ again, read .editing (Utf8.encode (write doc.settled)) = .ok again ∧
      again.stripped = doc.settled.stripped := by
  obtain ⟨nested, hstripped, hread⟩ := exists_nested_write h
  have hnested : nested.remarks = doc.effective.remarks := by
    rw [← nested.remarks_stripped, hstripped, remarks_stripped]
  have hroot : depth nested.root = depth doc.root := by
    have hsame : nested.root.stripped = doc.root.effective.stripped := by
      have hparts := mk.inj hstripped
      exact congrArg₂ XmlNode.element hparts.2.1 hparts.2.2.1
    rw [← depth_stripped nested.root, hsame, depth_stripped, depth_effective]
  have hmilder := doc.remarks_effective.acceptable id hremarks
  refine ⟨nested.settled, ?_, ?_⟩
  · rw [hread, accept?_written, hnested, hroot, hmilder]
    simp [hdepth]
  · rw [stripped_settled, hstripped, ← stripped_settled, settled_effective]

end ReadWrite

/-! ## What was read -/

theorem suffix_of_pseudoAttribute? {name : String} {value : List Char}
    (h : pseudoAttribute? name text = some (value, rest)) : rest <:+ text := by
  have hbody : (text.dropWhile isBlank).drop name.length <:+ text := (drop_suffix _ _).trans (dropWhile_suffix _)
  simp only [pseudoAttribute?] at h
  split at h
  · simp at h
  · split at h
    · rename_i rest₁ hequals
      have hrest₁ : rest₁ <:+ text := ((suffix_cons _ _).trans (hequals ▸ dropWhile_suffix _)).trans hbody
      split at h
      · rename_i quote rest₂ hquote
        have hrest₂ : rest₂ <:+ text := ((suffix_cons _ _).trans (hquote ▸ dropWhile_suffix _)).trans hrest₁
        split at h
        · simp at h
        · split at h
          · simp at h
          · cases h
            exact (drop_suffix _ _).trans hrest₂
      · simp at h
    · simp at h

theorem suffix_of_optionalAttribute (name : String) (text : List Char) :
    (optionalAttribute name text).2 <:+ text := by
  unfold optionalAttribute
  split
  · rename_i hfound
    exact suffix_of_pseudoAttribute? hfound
  · exact suffix_rfl

theorem suffix_of_readDeclaration (h : readDeclaration .editing text = some (declaration, rest)) : rest <:+ text := by
  unfold readDeclaration at h
  split at h
  · rename_i inner
    have hinner : inner <:+ '<' :: '?' :: 'x' :: 'm' :: 'l' :: inner := ⟨['<', '?', 'x', 'm', 'l'], rfl⟩
    split at h
    · cases h
      exact suffix_rfl
    · simp only [Option.bind_eq_bind, Option.bind_eq_some_iff] at h
      obtain ⟨⟨version, rest₁⟩, hversion, h⟩ := h
      have hrest : (optionalAttribute "standalone" (optionalAttribute "encoding" rest₁).2).2 <:+ inner :=
        ((suffix_of_optionalAttribute _ _).trans (suffix_of_optionalAttribute _ _)).trans
          (suffix_of_pseudoAttribute? hversion)
      split at h
      · simp at h
      · split at h
        · rename_i hclose
          cases h
          exact ((((suffix_cons _ _).trans (suffix_cons _ _)).trans
            (hclose ▸ dropWhile_suffix _)).trans hrest).trans hinner
        · simp at h
  · cases h
    exact suffix_rfl

theorem isDocumentText_of_documentText (h : documentText .editing bytes = .ok (declaration, text)) :
    IsDocumentText text := by
  unfold documentText at h
  simp only at h
  split at h
  · simp at h
  · obtain ⟨charset, -, h⟩ := bind_eq_ok_iff.1 h
    split at h
    · simp at h
    · split at h
      · simp at h
      · rename_i hdeclaration
        split at h
        · rename_i hfits
          cases h
          exact IsDocumentText.of_suffix (all_eq_true.1 hfits) (suffix_of_readDeclaration hdeclaration)
        · simp at h

/-- Remarks on the version of a document do not matter for what follows them. -/
theorem acceptable_of_version {remarks : List XmlRemark}
    (h : acceptable [] true ((declaration.toList.flatMap fun d => versionRemarks d.version) ++ remarks)) :
    acceptable [] true remarks := by
  cases declaration with
  | none => exact h
  | some declaration =>
    simp only [Option.toList_some, flatMap_cons, flatMap_nil, append_nil] at h
    unfold versionRemarks at h
    split at h
    · exact h
    · split at h
      · exact h
      · exact absurd h (by simp [acceptable])

/-- Every document that is read is a settled regular document that is not too deep and not complained
of. -/
theorem regular_of_read (h : read .editing bytes = .ok doc) :
    ∃ nested, RegularDocument nested ∧ doc = nested.settled ∧ depth nested.root ≤ maxDepth ∧
      acceptable [] true nested.remarks := by
  cases htext : documentText .editing bytes with
  | error refusal =>
    unfold read at h
    rw [htext] at h
    exact absurd h (by simp)
  | ok found =>
    rw [read_of_documentText htext] at h
    split at h
    · rename_i accepted haccepted
      cases h
      simp only [Option.bind_eq_some_iff] at haccepted
      obtain ⟨tokens, htokens, nested, hnest, haccept⟩ := haccepted
      refine ⟨nested, regular_of_nest? (isDocumentText_of_documentText htext) htokens hnest, ?_⟩
      simp only [accept?] at haccept
      split at haccept
      · rename_i hfits
        simp only [Bool.and_eq_true, decide_eq_true_eq] at hfits
        cases haccept
        exact ⟨rfl, hfits.1, acceptable_of_version hfits.2⟩
      · simp at haccept
    · simp at h

end Xml

end StudioMigration
