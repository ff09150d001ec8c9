import StudioMigration.Proofs.Package.List

/-!
# The entries of a list that is read again

After a package was added and the list was written, the list is read again with the old entries and the new
one, or it cannot be used any more: the name of the new object may have colons that no reader takes.

* `read_write_unreadable` says that a document with a tag that cannot be read is refused.
* `objectsIndex?_of_headers` says what the place of the objects depends on.
* `listing_added` puts it together.
-/

namespace StudioMigration.PackageList

open List Xml XmlNode
open Text.Utf8 (Bytes)

variable {tag : XmlTag} {earlier later children nodes : List XmlNode} {node other : XmlNode} {bytes : Bytes}
  {place : Nat} {pkg base : String} {found : List PackageEntry} {doc : XmlDocument}

/-! ## Tags that cannot be read -/

theorem readToken_of_cut?_eq_none (hword : IsWritten tag.name.render.toList)
    (hcut : cut? .editing tag.name.render.toList = none) (children : List XmlNode) (pretty : Bool) (level : Nat)
    (rest : List Char) : readToken .editing (writeNode pretty level (.element tag children) ++ rest) = none := by
  obtain ⟨more, htext, hstop⟩ : ∃ more, writeNode pretty level (.element tag children) ++ rest =
      '<' :: (tag.name.render.toList ++ more) ∧ more.head?.any (isWrittenChar .editing) = false := by
    have hhead : ∀ c ∈ ['/', '>'], ∀ text, ((writtenAttributes tag).flatMap
        (fun a => writeAttribute a.1.render a.2) ++ c :: text).head?.any (isWrittenChar .editing) = false := by
      intro c hc text
      cases writtenAttributes tag with
      | nil =>
        have hclosed : ∀ c ∈ ['/', '>'], isWrittenChar .editing c = false := by decide
        exact hclosed c hc
      | cons a attributes => rfl
    cases hempty : children.isEmpty with
    | true =>
      refine ⟨_, ?_, hhead '/' (by simp) ('>' :: rest)⟩
      simp [writeNode, hempty, writeTag_eq]
    | false =>
      refine ⟨_, ?_, hhead '>' (by simp) (writeContent pretty level children ++ closing tag rest)⟩
      simp [writeNode_eq pretty level tag hempty, writeTag_eq]
  obtain ⟨c, word, hcons, -, hmark⟩ := hword.exists_cons
  have hname : name? .editing (tag.name.render.toList ++ more) = none := by
    simp [name?, written?_append hword hstop, hcut]
  rw [htext]
  simp only [readToken]
  rw [hcons, cons_append] at hname ⊢
  rw [readMarkup_tag hmark, hname]
  rfl

/-- A document that a node was added to is refused if the node cannot be read. -/
theorem read_write_unreadable (hdoc : RegularDocument doc)
    (h : doc.children = earlier ++ .element tag children :: later) (hkind : node.isText = false)
    (hnone : ∀ pretty level rest, readToken .editing (writeNode pretty level node ++ rest) = none) :
    ∃ refusal, read .editing
      (Text.Utf8.encode (write (extended doc earlier tag children later node))) = .error refusal := by
  have hchildren := hdoc.children
  rw [h] at hchildren
  obtain ⟨htag, hinner⟩ : RegularNode (.element tag children) := hchildren.mem (mem_append_right _ mem_cons_self)
  have htokens : tokens? .editing (writeBody (extended doc earlier tag children later node)) = none := by
    let after := writeLines doc.after
    let root := writeNode true 0 (.element doc.tag (earlier ++ .element tag (children ++ [node]) :: later))
    have hlines : writeBody (extended doc earlier tag children later node) =
        '\n' :: (writeLines doc.before ++ (root ++ ('\n' :: after))) := by
      simp [writeBody, writeLines, extended, XmlDocument.root, root, after]
    have hbefore := reads_asides hdoc.before (rfl : (⟨[], [], none, []⟩ : Draft).frames = [])
      (root ++ ('\n' :: after))
    rw [foldl_addNode_before] at hbefore
    have hline : Reads ⟨doc.before.reverse ++ [], [], none, []⟩ ('\n' :: (root ++ ('\n' :: after)))
        ⟨doc.before.reverse ++ [], [], none, []⟩ (root ++ ('\n' :: after)) :=
      reads_line_end rfl (by
        rw [head?_writeNode rfl]
        rintro c ⟨⟩
        rfl)
    -- The element is reached inside the root, and the node inside the element.
    obtain ⟨pretty, frame, rest, hroot⟩ := reads_inside hdoc.tag hchildren.of_append
      (rfl : (XmlNode.element tag (children ++ [node])).isText = false) later true 0
      ⟨doc.before.reverse ++ [], [], none, []⟩ (fun _ _ _ _ => rfl) ('\n' :: after)
    obtain ⟨inner, frame', rest', hobjects⟩ := reads_inside htag hinner hkind [] pretty 1
      (Draft.opened ⟨doc.before.reverse ++ [], [], none, []⟩ frame) (Draft.hasRoom_opened _ _ _) rest
    have hend : writeNode inner 2 node ++ rest' ≠ [] := by
      intro hnil
      have hfirst := head?_writeNode hkind inner 2 rest'
      rw [hnil] at hfirst
      exact absurd hfirst (by simp)
    rw [hlines]
    exact (hbefore.trans (hline.trans (hroot.trans hobjects))).readTokens_eq_none hend (hnone _ _ _) _
  have htext := documentText_write (extended doc earlier tag children later node)
  split at htext
  · rw [read_of_documentText htext, htokens]
    exact ⟨.malformed, rfl⟩
  · refine ⟨.malformed, ?_⟩
    unfold Xml.read
    rw [htext]
    rfl

/-! ## The new object in a list that is read again -/

/-- Nodes that are written alike make elements that are written alike. -/
theorem writeNode_element_congr (h : ∀ pretty level, writeNode pretty level node = writeNode pretty level other)
    (hkind : node.isText = other.isText) (tag : XmlTag) (nodes more : List XmlNode) (pretty : Bool) (level : Nat) :
    writeNode pretty level (.element tag (nodes ++ node :: more)) =
      writeNode pretty level (.element tag (nodes ++ other :: more)) := by
  simp [writeNode, writeNodes_append, writeNodes, h, hkind]

theorem write_extended_congr (h : ∀ pretty level, writeNode pretty level node = writeNode pretty level other)
    (hkind : node.isText = other.isText) (doc : XmlDocument) (earlier : List XmlNode) (tag : XmlTag)
    (children later : List XmlNode) :
    write (extended doc earlier tag children later node) =
      write (extended doc earlier tag children later other) := by
  have hroot := writeNode_element_congr (writeNode_element_congr h hkind tag children []) rfl doc.tag
    earlier later
  rw [write_eq, write_eq]
  simp only [writeBody, writeLines, extended, XmlDocument.root, flatMap_append, flatMap_cons, hroot]

/-- What is read again has the new object, with the name that its written name is cut into. -/
theorem exists_cut_of_read_write (hread : read .editing bytes = .ok doc)
    (hplace : elementAt? doc place = some (tag, children)) (hpkg : pkg.toList.all isDocumentChar)
    {again : XmlDocument}
    (hagain : read .editing (Text.Utf8.encode (write (appendAt doc place (newObject doc tag pkg)))) = .ok again) :
    ∃ name, cut? .editing (objectTag doc tag).name.render.toList = some name ∧
      again.stripped = (appendAt doc place
        ((objectNamed doc tag name pkg).settled (doc.scope.inside tag))).stripped := by
  obtain ⟨origin⟩ := nonempty_origin hread hplace
  have hscope := origin.regularScope
  cases hcut : cut? .editing (objectTag doc tag).name.render.toList with
  | none =>
    -- Writing does not depend on the settling of names, so that the regular document can be taken.
    have heffective : (origin.extended (newObject doc tag pkg)).effective =
        extended origin.nested.effective (origin.earlier.map effective) origin.outer.effective
          (origin.inner.map effective) (origin.later.map effective)
          (newObject doc tag pkg) := by
      have hobject : (newObject doc tag pkg).effective = newObject doc tag pkg := by
        rw [newObject_eq, effective, effective_objectTag hscope]
        rfl
      simp [Origin.extended, extended, XmlDocument.effective, allEffective_eq, effective, hobject]
    have hnested : origin.nested.effective.children = origin.earlier.map effective ++
        .element origin.outer.effective (origin.inner.map effective) ::
          origin.later.map effective := by
      simp [XmlDocument.effective, allEffective_eq, origin.children, effective]
    obtain ⟨refusal, hrefused⟩ := read_write_unreadable origin.regular.effective hnested
      (rfl : (newObject doc tag pkg).isText = false)
      (readToken_of_cut?_eq_none (isWritten_objectTag hscope) hcut [.text pkg.toList])
    rw [← heffective, ← write_settled, origin.settled_extended, settled_newObject hscope, hagain] at hrefused
    exact absurd hrefused (by simp)
  | some name =>
    refine ⟨name, rfl, ?_⟩
    obtain ⟨earlier, later, hchildren, rfl⟩ := exists_split_of_elementAt? hplace
    have hwrite : ∀ pretty level, writeNode pretty level
        ((objectNamed doc tag name pkg).settled (doc.scope.inside tag)) =
          writeNode pretty level (newObject doc tag pkg) := by
      intro pretty level
      have htag : ({ objectTag doc tag with name := name } : XmlTag).effective =
          { objectTag doc tag with name := name } :=
        congrArg (fun declarations => XmlTag.mk name declarations packageType)
          (congrArg XmlTag.declarations (effective_objectTag hscope))
      have hrender : name.render = (objectTag doc tag).name.render := String.toList_inj.1 (render_of_cut? hcut)
      rw [writeNode_settled, objectNamed, effective, htag, newObject_eq]
      simp [writeNode, writeTag, hrender, allEffective_eq, effective, isText]
    have hsame : write (appendAt doc earlier.length (newObject doc tag pkg)) =
        write (appendAt doc earlier.length
          ((objectNamed doc tag name pkg).settled (doc.scope.inside tag))) := by
      rw [appendAt_eq hchildren, appendAt_eq hchildren]
      exact write_extended_congr (fun pretty level => (hwrite pretty level).symm) rfl _ _ _ _ _
    have hregular := origin.regular_extended (regular_objectNamed hscope hpkg hcut) rfl
    rw [hsame, ← origin.settled_extended] at hagain
    rcases read_write hregular with ⟨found, hfound, hstripped⟩ | hrefused
    · rw [hagain] at hfound
      cases hfound
      rw [hstripped, origin.settled_extended]
    · rw [hagain] at hrefused
      exact absurd hrefused (by simp)

/-! ## Entries and white space -/

/-- No two texts are neighbours. -/
def TextsApart (nodes : List XmlNode) : Prop :=
  nodes.IsChain fun a b => ¬(a.isText ∧ b.isText)

theorem textsApart_of_regular (h : RegularNodes nodes) : TextsApart nodes := by
  induction nodes with
  | nil => exact .nil
  | cons node nodes ih =>
    obtain ⟨-, hapart, hrest⟩ := h
    cases nodes with
    | nil => exact .singleton node
    | cons next nodes => exact .cons_cons (by simpa using hapart) (ih hrest)

theorem textsApart_settled (h : TextsApart nodes) (scope : XmlScope) : TextsApart (allSettled scope nodes) := by
  have hkind : ∀ node : XmlNode, (node.settled scope).isText = node.isText := by
    intro node
    cases node <;> simp [settled, isText]
  rw [allSettled_eq, TextsApart, isChain_map]
  simp only [hkind]
  exact h

theorem leadingText_eq_nil (h : nodes.head?.any isText = false) : leadingText nodes = [] := by
  cases nodes with
  | nil => rfl
  | cons node nodes => cases node <;> simp_all [leadingText, isText]

theorem head?_allStripped (h : nodes.head?.any isText = false) : (allStripped nodes).head?.any isText = false := by
  cases nodes with
  | nil => rfl
  | cons node nodes =>
    have hkind : node.isText = false := by simpa using h
    have hblank : node.isBlankText = false := by
      cases node <;> simp_all [isBlankText, isText]
    simp [allStripped, hblank, isText_stripped, hkind]

theorem trim_of_isBlank {text : List Char} (h : text.all isBlank) : Text.trim text = [] := by
  have hspace : ∀ c ∈ text, Text.isSpace c := by
    intro c hc
    have hblank := all_eq_true.1 h c hc
    simp only [isBlank, Bool.or_eq_true, beq_iff_eq] at hblank
    rcases hblank with ((rfl | rfl) | rfl) | rfl <;> decide
  rw [Text.trim, Text.trimWhere, dropWhile_eq_nil_iff.2 hspace]
  rfl

/-- White space in an object does not change what it is the object of. -/
theorem trim_leadingText_allStripped (h : TextsApart nodes) :
    Text.trim (leadingText (allStripped nodes)) = Text.trim (leadingText nodes) := by
  cases nodes with
  | nil => rfl
  | cons node nodes =>
    cases hkind : node.isText with
    | false =>
      have hhead : (node :: nodes).head?.any isText = false := by simpa using hkind
      rw [leadingText_eq_nil hhead, leadingText_eq_nil (head?_allStripped hhead)]
    | true =>
      obtain ⟨content, rfl⟩ : ∃ content, node = .text content := by
        cases node <;> simp_all [isText]
      have hnext : nodes.head?.any isText = false := by
        cases nodes with
        | nil => rfl
        | cons next nodes => simpa [hkind] using (isChain_cons_cons.1 h).1
      have hrest := leadingText_eq_nil hnext
      have hrest' := leadingText_eq_nil (head?_allStripped hnext)
      cases hblank : content.all isBlank with
      | true =>
        have hnil : Text.trim [] = [] := rfl
        simp [allStripped, isBlankText, hblank, leadingText, hrest, hrest', trim_of_isBlank hblank, hnil]
      | false => simp [allStripped, isBlankText, hblank, leadingText, hrest, hrest', stripped]

/-- White space between the nodes does not change the entries. -/
theorem entries_allStripped (h : ∀ tag inner, XmlNode.element tag inner ∈ nodes → TextsApart inner) :
    entries (allStripped nodes) = entries nodes := by
  induction nodes with
  | nil => rfl
  | cons node nodes ih =>
    have hrest := ih fun tag inner hmem => h tag inner (mem_cons_of_mem _ hmem)
    cases node with
    | text content =>
      cases hblank : content.all isBlank with
      | true =>
        have hskip : allStripped (.text content :: nodes) = allStripped nodes := by
          simp [allStripped, isBlankText, hblank]
        rw [hskip, hrest, entries]
        cases entries nodes <;> rfl
      | false =>
        have hkept : allStripped (.text content :: nodes) = .text content :: allStripped nodes := by
          simp [allStripped, isBlankText, hblank, stripped]
        rw [hkept, entries, hrest, entries]
    | comment content => rfl
    | instruction target content => rfl
    | element tag inner =>
      have hsame : entryOf? tag (allStripped inner) = entryOf? tag inner := by
        rw [entryOf?, trim_leadingText_allStripped (h tag inner mem_cons_self)]
        rfl
      have hkept : allStripped (.element tag inner :: nodes) =
          .element tag (allStripped inner) :: allStripped nodes := by
        simp [allStripped, isBlankText, stripped]
      rw [hkept, entries, hrest, entries, readEntry, readEntry, hsame]

theorem entries_append (nodes more : List XmlNode) :
    entries (nodes ++ more) = (do
      let found ← entries nodes
      let others ← entries more
      return found ++ others) := by
  induction nodes with
  | nil => cases hmore : entries more <;> simp [entries, hmore]
  | cons node nodes ih =>
    rw [cons_append, entries, ih, entries]
    cases readEntry node <;> cases entries nodes <;> cases entries more <;> simp

theorem entries_cons_eq_ok (h : entries (node :: nodes) = .ok found) :
    ∃ entry others, readEntry node = .ok entry ∧ entries nodes = .ok others ∧ found = entry.toList ++ others := by
  rw [entries] at h
  obtain ⟨entry, hentry, h⟩ := bind_eq_ok_iff.1 h
  obtain ⟨others, hothers, h⟩ := bind_eq_ok_iff.1 h
  exact ⟨entry, others, hentry, hothers, (Except.ok.inj h).symm⟩

/-- Comments and instructions. -/
def isRemark : XmlNode → Bool
  | .comment _ | .instruction _ _ => true
  | _ => false

theorem hasOwn_of_entries (h : entries nodes = .ok found) (pkg : String) :
    hasOwn pkg nodes = .ok (found.any fun entry => entry.names pkg) := by
  induction nodes generalizing found with
  | nil =>
    cases h
    rfl
  | cons node nodes ih =>
    obtain ⟨entry, others, hentry, hothers, rfl⟩ := entries_cons_eq_ok h
    rw [hasOwn, hentry]
    cases entry with
    | none => simp [ih hothers]
    | some entry => cases hnames : entry.names pkg <;> simp [hnames, ih hothers]

theorem textsApart_of_read (hread : read .editing bytes = .ok doc)
    (hplace : elementAt? doc place = some (tag, children)) {tag' : XmlTag} {inner : List XmlNode}
    (hinner : XmlNode.element tag' inner ∈ children) : TextsApart inner := by
  have hbelow : ∀ {scope nodes tag inner}, RegularNodes nodes →
      XmlNode.element tag inner ∈ allSettled scope nodes →
        ∃ scope' nodes', RegularNodes nodes' ∧ inner = allSettled scope' nodes' := by
    intro scope nodes tag inner hnodes hmem
    rw [allSettled_eq, mem_map] at hmem
    obtain ⟨node, hnode, heq⟩ := hmem
    cases node with
    | element outer below =>
      rw [settled] at heq
      cases heq
      exact ⟨_, below, (hnodes.mem hnode).2, rfl⟩
    | text content => simp [settled] at heq
    | comment content => simp [settled] at heq
    | instruction target content => simp [settled] at heq
  obtain ⟨nested, hregular, rfl, -, -⟩ := regular_of_read hread
  obtain ⟨earlier, later, hchildren, -⟩ := exists_split_of_elementAt? hplace
  have hmem : XmlNode.element tag children ∈ nested.settled.children := by
    rw [hchildren]
    exact mem_append_right _ mem_cons_self
  obtain ⟨scope, nodes, hnodes, rfl⟩ := hbelow hregular.children hmem
  obtain ⟨scope', nodes', hnodes', rfl⟩ := hbelow hnodes hinner
  exact textsApart_settled (textsApart_of_regular hnodes') scope'

/-! ## The place of the objects -/

/-- What the search for the objects sees of a node: nothing of a text, the tag of an element. -/
def header? : XmlNode → Option (Option XmlTag)
  | .element tag _ => some (some tag)
  | .text _ => none
  | _ => some none

/-- What the search for the objects sees of some nodes. -/
def headers (nodes : List XmlNode) : List (Option XmlTag) := nodes.filterMap header?

theorem headers_cons (node : XmlNode) (nodes : List XmlNode) :
    headers (node :: nodes) = (header? node).toList ++ headers nodes := by
  cases node <;> rfl

theorem headers_allStripped (nodes : List XmlNode) : headers (allStripped nodes) = headers nodes := by
  induction nodes with
  | nil => rfl
  | cons node nodes ih =>
    have hheader : header? node.stripped = header? node := by cases node <;> rfl
    rw [allStripped, headers_cons]
    split
    · have hnone : header? node = none := by cases node <;> simp_all [header?, isBlankText]
      rw [hnone, ih]
      rfl
    · rw [headers_cons, hheader, ih]

theorem findIdx?_eq_some_length {α : Type} {p : α → Bool} {earlier later : List α} {x : α} :
    (earlier ++ x :: later).findIdx? p = some earlier.length ↔ p x ∧ ∀ a ∈ earlier, p a = false := by
  induction earlier with
  | nil => cases hx : p x <;> simp [findIdx?_cons, hx]
  | cons a earlier ih =>
    rw [cons_append, findIdx?_cons]
    cases ha : p a
    · simpa [ha] using ih
    · simp [ha]

section Place

variable {document' : XmlDocument} (htag : document'.tag = doc.tag)

include htag

/-- Whether an element with a name is among some nodes can be told from what the search sees. -/
theorem isNamed_of_headers {nodes' : List XmlNode} (h : headers nodes' = headers nodes) {uri : String}
    (hnone : ∀ node ∈ nodes, isNamed doc uri base node = false) :
    ∀ node ∈ nodes', isNamed document' uri base node = false := by
  intro node hnode
  cases node with
  | element tag children =>
    have hmem : some tag ∈ headers nodes := h ▸ mem_filterMap.2 ⟨_, hnode, rfl⟩
    obtain ⟨other, hother, hsame⟩ := mem_filterMap.1 hmem
    cases other with
    | element tag' children' =>
      cases hsame
      have := hnone _ hother
      simpa [isNamed, XmlDocument.scope, htag] using this
    | text content => simp [header?] at hsame
    | comment content => simp [header?] at hsame
    | instruction target content => simp [header?] at hsame
  | text content => rfl
  | comment content => rfl
  | instruction target content => rfl

end Place

theorem le_of_baseIndex? {found : Nat} (h : baseIndex? base place nodes = .ok (some found)) : place ≤ found := by
  induction nodes generalizing place with
  | nil => simp [baseIndex?] at h
  | cons node nodes ih =>
    cases node with
    | element tag children =>
      rw [baseIndex?] at h
      obtain ⟨name, -, h⟩ := bind_eq_ok_iff.1 h
      split at h
      · exact Nat.le_of_eq (Option.some.inj (Except.ok.inj h))
      · exact Nat.le_of_succ_le (ih h)
    | text content =>
      rw [baseIndex?] at h
      exact Nat.le_of_succ_le (ih h)
    | comment content => simp [baseIndex?] at h
    | instruction target content => simp [baseIndex?] at h

/-- An element is found by its name proper if all elements before it have other ones and nothing else stands
before it. -/
theorem baseIndex?_eq_some (base : String) (place : Nat) (earlier later children : List XmlNode) (tag : XmlTag) :
    baseIndex? base place (earlier ++ .element tag children :: later) = .ok (some (place + earlier.length)) ↔
      properName tag = .ok base ∧
        ∀ header ∈ headers earlier, ∃ other name, header = some other ∧ properName other = .ok name ∧ name ≠ base := by
  induction earlier generalizing place with
  | nil =>
    rw [nil_append, baseIndex?]
    cases hname : properName tag with
    | error fault => simp
    | ok name =>
      by_cases hbase : name = base
      · simp [hbase, headers]
      · have hlater : baseIndex? base (place + 1) later ≠ .ok (some place) := by
          intro hfound
          have := le_of_baseIndex? hfound
          omega
        simpa [hbase] using hlater
  | cons node earlier ih =>
    have hlength : place + (node :: earlier).length = place + 1 + earlier.length := by
      simp only [length_cons]
      omega
    rw [hlength, cons_append]
    cases node with
    | text content =>
      rw [baseIndex?, ih]
      rfl
    | comment content => simp [baseIndex?, headers, header?]
    | instruction target content => simp [baseIndex?, headers, header?]
    | element other inner =>
      rw [baseIndex?]
      cases hname : properName other with
      | error fault => simp [headers, header?, hname]
      | ok name =>
        by_cases hbase : name = base
        · have hne : place ≠ place + 1 + earlier.length := by omega
          simp [hbase, headers, header?, hname, hne]
        · have hnext := ih (place + 1)
          simp [hbase, headers, header?, hname] at hnext ⊢
          exact hnext

/-- Where the objects are found depends on what the search sees. -/
theorem objectsIndex?_of_headers {document' : XmlDocument} (htag : document'.tag = doc.tag)
    {earlier' later' children' : List XmlNode} (h : doc.children = earlier ++ .element tag children :: later)
    (h' : document'.children = earlier' ++ .element tag children' :: later')
    (hearlier : headers earlier' = headers earlier) (hlater : headers later' = headers later)
    (hindex : objectsIndex? doc = .ok (some earlier.length)) :
    objectsIndex? document' = .ok (some earlier'.length) := by
  have hall : headers document'.children = headers doc.children := by
    simp only [h, h', headers, filterMap_append, filterMap_cons, header?] at hearlier hlater ⊢
    rw [hearlier, hlater]
  have hfound : ∀ uri, doc.children.findIdx? (isNamed doc uri "Objects") = some earlier.length →
      document'.children.findIdx? (isNamed document' uri "Objects") = some earlier'.length := by
    intro uri hfirst
    rw [h, findIdx?_eq_some_length] at hfirst
    rw [h', findIdx?_eq_some_length]
    refine ⟨?_, isNamed_of_headers htag hearlier hfirst.2⟩
    simpa [isNamed, XmlDocument.scope, htag] using hfirst.1
  have hmissing : ∀ uri, doc.children.findIdx? (isNamed doc uri "Objects") = none →
      document'.children.findIdx? (isNamed document' uri "Objects") = none := by
    intro uri hnone
    rw [findIdx?_eq_none_iff] at hnone ⊢
    exact isNamed_of_headers htag hall hnone
  have hdefault : defaultNamespace? document' = defaultNamespace? doc := by
    simp [defaultNamespace?, XmlDocument.scope, htag]
  -- The three ways in which the objects are looked for, each after the ones before have failed.
  unfold objectsIndex? at hindex ⊢
  rw [hdefault]
  simp only [] at hindex
  split at hindex
  · rename_i place hplace
    cases hindex
    obtain ⟨uri, huri, hplace⟩ := Option.bind_eq_some_iff.1 hplace
    simp [huri, hfound uri hplace]
  · rename_i hnone
    have hnone' : ((defaultNamespace? doc).bind fun uri =>
        document'.children.findIdx? (isNamed document' uri "Objects")) = none := by
      cases huri : defaultNamespace? doc with
      | none => rfl
      | some uri => exact hmissing uri (by simpa [huri] using hnone)
    rw [hnone']
    split at hindex
    · rename_i place hplace
      cases hindex
      rw [hfound "" hplace]
    · rename_i hplain
      rw [hmissing "" hplain]
      have hbase := baseIndex?_eq_some "Objects" 0 earlier later children tag
      have hbase' := baseIndex?_eq_some "Objects" 0 earlier' later' children' tag
      rw [Nat.zero_add] at hbase hbase'
      simp only [h, h'] at hindex ⊢
      rw [hbase'.2]
      rw [hearlier]
      exact hbase.1 hindex

/-! ## Listings -/

def listing (bytes : Bytes) : Except Fault (List PackageEntry) := do
  let doc ← readPackageList bytes
  match ← objects? doc with
  | none => throw .noPackageList
  | some (_, children) => entries children

theorem readPackageList_eq_ok : readPackageList bytes = .ok doc ↔ read .editing bytes = .ok doc := by
  unfold readPackageList
  cases read .editing bytes <;> simp [Except.mapError]

theorem listing_eq_ok :
    listing bytes = .ok found ↔ ∃ doc tag children, readPackageList bytes = .ok doc ∧
      objects? doc = .ok (some (tag, children)) ∧ entries children = .ok found := by
  unfold listing
  cases hread : readPackageList bytes with
  | error fault => simp
  | ok doc => rcases hobjects : objects? doc with fault | (_ | ⟨tag, children⟩) <;> simp [hobjects]

/-- The new object is read as an entry of its own, unless its name has a colon too many. -/
theorem readEntry_objectNamed (hscope : RegularScope (doc.scope.inside tag))
    (htrim : Text.trim pkg.toList = pkg.toList) {name : XmlName}
    (hcut : cut? .editing (objectTag doc tag).name.render.toList = some name) {entry : Option PackageEntry}
    (h : readEntry ((objectNamed doc tag name pkg).settled (doc.scope.inside tag)) = .ok entry) :
    entry = some ⟨false, pkg⟩ := by
  cases hcolon : (objectTag doc tag).name.qualifier.toList.contains ':' with
  | false =>
    rw [cut?_objectTag hscope hcolon, Option.some.injEq] at hcut
    subst hcut
    have hsame : objectNamed doc tag (objectTag doc tag).name pkg = newObject doc tag pkg := rfl
    have hproper : properName (objectTag doc tag) = .ok "Object" := by
      rw [properName, isProper, base_objectTag]
      rfl
    have htype : plainAttribute? (objectTag doc tag) "Type" = some "Package".toList := rfl
    have hreference : plainAttribute? (objectTag doc tag) "Reference" = none := rfl
    have hother : Text.lower [] = [] := rfl
    have htext : leadingText [.text pkg.toList] = pkg.toList := by simp [leadingText]
    rw [hsame, settled_newObject hscope, newObject_eq, readEntry, hproper] at h
    simpa [entryOf?, base_objectTag, htype, hreference, hother, htext, htrim, eq_comm] using h
  | true =>
    have hcolons : 2 ≤ (objectTag doc tag).name.render.toList.count ':' := by
      have hne : (objectTag doc tag).name.qualifier ≠ "" := by
        intro hempty
        simp [hempty] at hcolon
      have hone : 1 ≤ (objectTag doc tag).name.qualifier.toList.count ':' :=
        one_le_count_iff.2 (by simpa using hcolon)
      rw [render_qualified hne, count_append, count_cons_self]
      omega
    have hname : isProper name = false := isProper_of_cut? hcut hcolons
    have hsettled : ∀ scope, isProper (name.settled scope) = false := by
      intro scope
      rw [XmlName.settled]
      split
      · exact hname
      · have hmem : ':' ∈ (objectTag doc tag).name.render.toList := one_le_count_iff.1 (Nat.le_of_succ_le hcolons)
        rw [← render_of_cut? hcut] at hmem
        simpa [isProper] using hmem
    rw [objectNamed, settled, readEntry, properName, XmlTag.settled, hsettled] at h
    cases h

theorem elementAt?_of_split (h : doc.children = earlier ++ .element tag children :: later) :
    elementAt? doc earlier.length = some (tag, children) := by
  simp [elementAt?, h]

theorem exists_split_of_allStripped {before after : List XmlNode} (h : allStripped nodes = before ++ node :: after) :
    ∃ earlier found later, nodes = earlier ++ found :: later ∧ allStripped earlier = before ∧
      found.stripped = node ∧ allStripped later = after := by
  rw [allStripped_eq, map_eq_append_iff] at h
  obtain ⟨kept, rest, hkept, hbefore, hrest⟩ := h
  obtain ⟨found, rest', rfl, hfound, hafter⟩ := map_eq_cons_iff.1 hrest
  obtain ⟨earlier, others, rfl, hearlier, hothers⟩ := filter_eq_append_iff.1 hkept
  obtain ⟨blank, later, rfl, hblank, -, hlater⟩ := filter_eq_cons_iff.1 hothers
  have hnothing : allStripped blank = [] := by
    rw [allStripped_eq, filter_eq_nil_iff.2 hblank]
    rfl
  refine ⟨earlier ++ blank, found, later, by simp, ?_, hfound, ?_⟩
  · rw [allStripped_append, hnothing, append_nil, allStripped_eq, hearlier, hbefore]
  · rw [allStripped_eq, hlater, hafter]

/-- A list that a package was added to has one more entry when it is read again, if it can be used. -/
theorem listing_added (hread : readPackageList bytes = .ok doc)
    (hindex : objectsIndex? doc = .ok (some place)) (hplace : elementAt? doc place = some (tag, children))
    (hfound : entries children = .ok found) (hfits : pkg.toList.all isDocumentChar)
    (htrim : Text.trim pkg.toList = pkg.toList) {found' : List PackageEntry}
    (h : listing (Text.Utf8.encode (write (appendAt doc place (newObject doc tag pkg)))) = .ok found') :
    found' = found ++ [⟨false, pkg⟩] := by
  obtain ⟨again, tag', children', hagain, hobjects, hentries⟩ := listing_eq_ok.1 h
  rw [readPackageList_eq_ok] at hread hagain
  obtain ⟨name, hcut, hstripped⟩ := exists_cut_of_read_write hread hplace hfits hagain
  obtain ⟨origin⟩ := nonempty_origin hread hplace
  obtain ⟨earlier, later, hchildren, rfl⟩ := exists_split_of_elementAt? hplace
  rw [appendAt_eq hchildren] at hstripped
  have htag : again.tag = doc.tag := (XmlDocument.mk.inj hstripped).2.1
  have hnodes : allStripped again.children = allStripped earlier ++
      (XmlNode.element tag (children ++
        [(objectNamed doc tag name pkg).settled (doc.scope.inside tag)])).stripped ::
      allStripped later := by
    have hsame := (XmlDocument.mk.inj hstripped).2.2.1
    have hkind : ∀ inner, (XmlNode.element tag inner).isBlankText = false := fun _ => rfl
    rw [hsame, extended, allStripped_append, allStripped, hkind, if_neg Bool.false_ne_true]
  -- The same element is found again, at another place perhaps.
  obtain ⟨earlier', node, later', hsplit, hearlier, hnode, hlater⟩ := exists_split_of_allStripped hnodes
  obtain ⟨inner, rfl, hinner⟩ : ∃ inner, node = .element tag inner ∧
      allStripped inner = allStripped (children ++
        [(objectNamed doc tag name pkg).settled (doc.scope.inside tag)]) := by
    cases node with
    | element tag' inner =>
      simp only [stripped, XmlNode.element.injEq] at hnode
      exact ⟨inner, by rw [hnode.1], hnode.2⟩
    | text content => simp [stripped] at hnode
    | comment content => simp [stripped] at hnode
    | instruction target content => simp [stripped] at hnode
  have hindex' : objectsIndex? again = .ok (some earlier'.length) := by
    refine objectsIndex?_of_headers htag hchildren hsplit ?_ ?_ hindex
    · rw [← headers_allStripped, hearlier, headers_allStripped]
    · rw [← headers_allStripped, hlater, headers_allStripped]
  have hplace' := elementAt?_of_split hsplit
  cases hobjects.symm.trans (objects?_eq_ok_some.2 ⟨_, hindex', hplace'⟩)
  have hsame : entries children' = entries (children ++
      [(objectNamed doc tag name pkg).settled (doc.scope.inside tag)]) := by
    rw [← entries_allStripped fun _ _ => textsApart_of_read hagain hplace', hinner, entries_allStripped]
    intro tag' inner hmem
    rcases mem_append.1 hmem with hmem | hmem
    · exact textsApart_of_read hread hplace hmem
    · rw [mem_singleton] at hmem
      cases hmem
      exact .singleton _
  rw [hsame, entries_append, hfound] at hentries
  cases hentry : readEntry ((objectNamed doc tag name pkg).settled (doc.scope.inside tag)) with
  | error fault => simp [entries, hentry] at hentries
  | ok entry =>
    obtain rfl := readEntry_objectNamed origin.regularScope htrim hcut hentry
    simpa [entries, hentry, eq_comm] using hentries

end StudioMigration.PackageList
