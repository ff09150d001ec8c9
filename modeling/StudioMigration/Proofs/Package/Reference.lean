import StudioMigration.Analysis.MappPackage
import StudioMigration.Proofs.Package.Entries
import StudioMigration.Proofs.Pattern.Reading

/-!
# References in the text of a list

A package list is read in two ways: as a document whose objects may refer to packages, and as a text that is
searched for references. A document that is written shows all its references to the search.

* `ShowsReference` says what a text with a reference looks like, and `ShowsReference.occursIn` that the search
  finds it.
* `showsReference_write` is about a document with an object that refers to a package.
* `mentions_added` is about a list that another package was added to.
-/

namespace StudioMigration

open List Text Pattern Xml PackageList
open Text (foldChar)
open Text.Utf8 (Bytes)

variable {value text : List Char} {c : Char} {tag : XmlTag} {children : List XmlNode} {entry : PackageEntry}

/-! ## References in a text -/

/-- The end of the path of a package file: the folder of the package and the name of the file, in any case. -/
inductive IsPackagePath (package : String) : List Char → Prop
  | intro {folder file : List Char} {separator : Char} :
    folder.map foldChar = package.toList.map foldChar → separator = '\\' ∨ separator = '/' →
    file.map foldChar = "Package.pkg".toList.map foldChar → IsPackagePath package (folder ++ separator :: file)

/-- A text with a reference to a package: an attribute that tells of a reference, and somewhere behind it the
path of the package file. -/
inductive ShowsReference (package : String) : List Char → Prop
  | intro (before between after : List Char) {value path : List Char} :
    value.map foldChar = "true".toList → IsPackagePath package path →
    ShowsReference package
      (before ++ ("Reference".toList ++ '=' :: '"' :: (value ++ ['"']) ++ (between ++ (path ++ after))))

variable {package : String} {found : List PackageEntry} {doc : XmlDocument} {nodes : List XmlNode}

/-- A text shows a reference if the attribute stands in its front part and the path in the rest. -/
theorem ShowsReference.of_parts {front rest path : List Char} (hvalue : value.map foldChar = "true".toList)
    (hpath : IsPackagePath package path) (hfront : "Reference".toList ++ '=' :: '"' :: (value ++ ['"']) <:+: front)
    (hrest : path <:+: rest) : ShowsReference package (front ++ rest) := by
  obtain ⟨before, middle, rfl⟩ := hfront
  obtain ⟨more, after, rfl⟩ := hrest
  have hshown := ShowsReference.intro before (middle ++ more) after hvalue hpath
  simp only [append_assoc] at hshown ⊢
  exact hshown

theorem ShowsReference.within {part : List Char} (h : ShowsReference package part) (hpart : part <:+: text) :
    ShowsReference package text := by
  obtain ⟨front, rest, rfl⟩ := hpart
  obtain ⟨before, between, after, hvalue, hpath⟩ := h
  have hshown := ShowsReference.intro (front ++ before) between (after ++ rest) hvalue hpath
  simp only [append_assoc] at hshown ⊢
  exact hshown

theorem ShowsReference.occursIn (h : ShowsReference package text) : (referencePattern package).occursIn text := by
  obtain ⟨before, between, after, hvalue, ⟨hfolder, hseparator, hfile⟩⟩ := h
  rename_i value folder file separator
  have hquoted : ('"' :: (value ++ ['"'])).map foldChar = "\"true\"".toList.map foldChar := by
    rw [map_cons, map_append, hvalue]
    decide
  have hseparator' : (separator == '\\' || separator == '/') := by simpa using hseparator
  -- the parts of the pattern read, one by one, the parts of the reference
  have hspells : (referencePattern package).Spells ("Reference".toList ++ ([] ++ (['='] ++ [] ++ ([] ++
      ('"' :: (value ++ ['"']) ++ (between ++ (folder ++ ([separator] ++ [] ++ (file ++ []))))))))) := by
    have hnone : ∀ c ∈ ([] : List Char), isSpace c := by simp
    refine (spells_anyCase rfl).seq ((spells_many hnone).seq ?_)
    refine ((spells_char rfl).seq spells_empty).seq ((spells_many hnone).seq ?_)
    refine (spells_anyCase hquoted).seq ((spells_fewest (by simp)).seq ?_)
    refine (spells_anyCase hfolder).seq ?_
    refine ((spells_char hseparator').seq (spells_many (by simp))).seq ?_
    exact (spells_anyCase hfile).seq spells_empty
  refine hspells.occursIn ⟨before, after, ?_⟩
  simp only [append_assoc, nil_append, append_nil, cons_append]

/-! ## Characters of a reference -/

theorem not_mem_of_map_foldChar {word : List Char} (h : text.map foldChar = word) (hc : foldChar c ∉ word) :
    c ∉ text := by
  intro hmem
  exact hc (h ▸ mem_map_of_mem hmem)

theorem foldChar_of_letter (h : isAsciiLetter c) : 0x61 ≤ (foldChar c).toNat ∧ (foldChar c).toNat < 0x80 := by
  simp only [isAsciiLetter, Bool.or_eq_true, Bool.and_eq_true, decide_eq_true_eq] at h
  have hrange : 0x61 ≤ c.toNat ∧ c.toNat ≤ 0x7A ∨ 0x41 ≤ c.toNat ∧ c.toNat ≤ 0x5A := h
  rw [foldChar_of_ascii (by omega), lowerChar]
  split
  · rename_i hcapital
    simp only [Bool.and_eq_true, decide_eq_true_eq] at hcapital
    have hbounds : 0x41 ≤ c.toNat ∧ c.toNat ≤ 0x5A := hcapital
    rw [toNat_ofNat_of_lt (by omega)]
    omega
  · rename_i hsmall
    rw [if_pos (by omega)]
    simp only [Bool.and_eq_true, decide_eq_true_eq] at hsmall
    have hbounds : ¬(0x41 ≤ c.toNat ∧ c.toNat ≤ 0x5A) := hsmall
    omega

/-- The characters that are written in another way than they are read. -/
def markedChars : List Char := ['&', '<', '>', '"', '\t', '\n', '\r']

/-- No character of a path is written in another way if the name of the package has letters only. -/
theorem IsPackagePath.not_marked {path : List Char} (h : IsPackagePath package path)
    (hletters : ∀ c ∈ package.toList, isAsciiLetter c) : ∀ c ∈ path, c ∉ markedChars := by
  obtain ⟨hfolder, hseparator, hfile⟩ := h
  intro c hc hmarked
  have hfold : ∀ c ∈ markedChars, (foldChar c).toNat < 0x61 ∧
      foldChar c ∉ "Package.pkg".toList.map foldChar ∧ c ≠ '\\' ∧ c ≠ '/' := by decide
  obtain ⟨hlow, hname, hback, hslash⟩ := hfold c hmarked
  rw [mem_append, mem_cons] at hc
  rcases hc with hc | rfl | hc
  · refine not_mem_of_map_foldChar hfolder (fun hmem => ?_) hc
    obtain ⟨letter, hletter, heq⟩ := mem_map.1 hmem
    have hhigh := (foldChar_of_letter (hletters letter hletter)).1
    rw [heq] at hhigh
    omega
  · exact hseparator.elim hback hslash
  · exact not_mem_of_map_foldChar hfile hname hc

theorem not_marked_of_true (h : value.map foldChar = "true".toList) : ∀ c ∈ value, c ∉ markedChars := by
  intro c hc hmarked
  have hfold : ∀ c ∈ markedChars, foldChar c ∉ "true".toList := by decide
  exact not_mem_of_map_foldChar h (hfold c hmarked) hc

/-- Unifying line ends leaves references as they are. -/
theorem ShowsReference.unifyNewlines (h : ShowsReference package text)
    (hletters : ∀ c ∈ package.toList, isAsciiLetter c) : ShowsReference package (unifyNewlines text) := by
  obtain ⟨before, between, after, hvalue, hpath⟩ := h
  rename_i value path
  have hsolid : ∀ {c : Char}, c ∉ markedChars → c ≠ '\n' ∧ c ≠ '\r' := by
    intro c hc
    constructor
    · rintro rfl
      exact hc (by decide)
    · rintro rfl
      exact hc (by decide)
  have hattribute : ∀ c ∈ "Reference".toList ++ '=' :: '"' :: (value ++ ['"']), c ≠ '\n' ∧ c ≠ '\r' := by
    have hfixed : ∀ c ∈ "Reference".toList ++ ['=', '"'], c ≠ '\n' ∧ c ≠ '\r' := by decide
    intro c hc
    simp only [mem_append, mem_cons, not_mem_nil, or_false] at hc hfixed
    rcases hc with hc | rfl | rfl | hc | rfl
    · exact hfixed c (.inl hc)
    · decide
    · decide
    · exact hsolid (not_marked_of_true hvalue c hc)
    · decide
  have hne : path ≠ [] := by
    obtain ⟨-, -, -⟩ := hpath
    simp
  rw [unifyNewlines_append_solid _ _ (by simp) hattribute,
    unifyNewlines_append_solid _ _ hne fun c hc => hsolid (hpath.not_marked hletters c hc)]
  exact .intro _ _ _ hvalue hpath

/-! ## References of a document -/

theorem eq_of_foldChar_eq_backslash (h : foldChar c = '\\') : c = '\\' := by
  unfold foldChar at h
  split at h
  · exact absurd h (by decide)
  · exact eq_of_lowerChar_eq (by decide) (by decide) h

/-- A path that refers to a package in either spelling has the path of the package file in it. -/
theorem exists_path_of_hasInfix (hletters : ∀ c ∈ package.toList, isAsciiLetter c)
    (h : hasInfix ('\\' :: lower package.toList ++ "\\package.pkg".toList) (lower (replaceAll ['/'] ['\\'] text))) :
    ∃ path, IsPackagePath package path ∧ path <:+: text := by
  have hfolded : ∀ c ∈ package.toList.map foldChar, c.toNat < 0x80 ∧ c ≠ '\\' := by
    intro c hc
    obtain ⟨letter, hletter, rfl⟩ := mem_map.1 hc
    obtain ⟨hlow, hhigh⟩ := foldChar_of_letter (hletters letter hletter)
    refine ⟨hhigh, fun heq => ?_⟩
    rw [heq] at hlow
    exact absurd hlow (by decide)
  have hplain : lower package.toList = package.toList.map foldChar := by
    refine lower_of_ascii fun c hc => ?_
    have hletter := hletters c hc
    simp only [isAsciiLetter, Bool.or_eq_true, Bool.and_eq_true, decide_eq_true_eq] at hletter
    have hrange : 0x61 ≤ c.toNat ∧ c.toNat ≤ 0x7A ∨ 0x41 ≤ c.toNat ∧ c.toNat ≤ 0x5A := hletter
    omega
  rw [hasInfix_iff, hplain, replaceAll_singleton] at h
  have hascii : ∀ c ∈ '\\' :: package.toList.map foldChar ++ "\\package.pkg".toList, c.toNat < 0x80 := by
    have hfile : ∀ c ∈ "\\package.pkg".toList, c.toNat < 0x80 := by decide
    intro c hc
    rw [cons_append, mem_cons, mem_append] at hc
    rcases hc with rfl | hc | hc
    · decide
    · exact (hfolded c hc).1
    · exact hfile c hc
  have hlast : ('\\' :: package.toList.map foldChar ++ "\\package.pkg".toList).getLast? ≠ some 'i' := by
    rw [getLast?_append_of_ne_nil _ (by decide)]
    decide
  obtain ⟨part, hpart, hmap⟩ := exists_infix_of_lower hascii hlast (by simp) h
  obtain ⟨path, hpath, rfl⟩ := infix_map_iff.1 hpart
  -- a slash is turned into a separator, so that a word without separators comes from itself
  have hwords : ∀ {text word : List Char}, text.map (foldChar ∘ fun c => if c = '/' then '\\' else c) = word →
      '\\' ∉ word → text.map foldChar = word := by
    intro text word hword hnone
    rw [← hword]
    refine map_congr_left fun c hc => ?_
    by_cases hslash : c = '/'
    · have hmem := mem_map_of_mem (f := foldChar ∘ fun c => if c = '/' then '\\' else c) hc
      rw [hword, hslash] at hmem
      exact absurd hmem hnone
    · rw [Function.comp_apply, if_neg hslash]
  rw [map_map] at hmap
  obtain ⟨first, rest, rfl, -, hrest⟩ := map_eq_cons_iff.1 hmap
  obtain ⟨folder, tail, rfl, hfolder, htail⟩ := map_eq_append_iff.1 hrest
  obtain ⟨separator, file, rfl, hseparator, hfile⟩ := map_eq_cons_iff.1 htail
  refine ⟨folder ++ separator :: file, ?_, (suffix_cons first _).isInfix.trans hpath⟩
  refine .intro (hwords hfolder fun hmem => (hfolded _ hmem).2 rfl) ?_ ((hwords hfile (by decide)).trans (by decide))
  have hback := eq_of_foldChar_eq_backslash hseparator
  by_cases hslash : separator = '/'
  · exact .inr hslash
  · simp only [if_neg hslash] at hback
    exact .inl hback

/-! ## References that are written -/

theorem flatMap_eq_self {escape : Char → List Char} (h : ∀ c ∈ text, escape c = [c]) : text.flatMap escape = text := by
  induction text with
  | nil => rfl
  | cons c text ih =>
    rw [forall_mem_cons] at h
    rw [flatMap_cons, h.1, ih h.2, singleton_append]

theorem escapeTextChar_of_not_marked (h : c ∉ markedChars) : escapeTextChar c = [c] := by
  simp only [markedChars, mem_cons, not_or] at h
  unfold escapeTextChar
  split <;> simp_all

theorem escapeValueChar_of_not_marked (h : c ∉ markedChars) : escapeValueChar c = [c] := by
  simp only [markedChars, mem_cons, not_or] at h
  unfold escapeValueChar
  split <;> simp_all

/-- The text at the start of an element is written at the start of its content. -/
theorem leadingText_written (level : Nat) (children : List XmlNode) :
    (leadingText children).flatMap escapeTextChar <+: writeNodes false level children := by
  induction children with
  | nil => simp [leadingText]
  | cons node children ih =>
    cases node with
    | text content =>
      have hwritten : writeNodes false level (.text content :: children) =
          content.flatMap escapeTextChar ++ writeNodes false level children := by
        simp [writeNodes, writeNode]
      rw [hwritten, leadingText, flatMap_append, prefix_append_right_inj]
      exact ih
    | element | comment | instruction => simp [leadingText]

theorem isInfix_flatMap {α : Type} {item : α} {items : List α} (h : item ∈ items) (render : α → List Char) :
    render item <:+: items.flatMap render := by
  obtain ⟨earlier, later, rfl⟩ := append_of_mem h
  rw [flatMap_append, flatMap_cons]
  exact infix_append' _ _ _

theorem attribute_written {name : XmlName} (h : (name, value) ∈ tag.attributes) :
    writeAttribute name.render value <:+: writeTag tag :=
  (isInfix_flatMap h fun entry => writeAttribute entry.1.render entry.2).trans
    (suffix_append _ _).isInfix

theorem node_written {node : XmlNode} (h : node ∈ nodes) (pretty : Bool) (level : Nat) :
    writeNode pretty level node <:+: writeNodes pretty level nodes := by
  induction nodes with
  | nil => simp at h
  | cons first nodes ih =>
    rw [writeNodes]
    rcases mem_cons.1 h with rfl | h
    · simp only [append_assoc]
      exact infix_append' _ _ _
    · exact (ih h).trans (suffix_append _ _).isInfix

theorem content_written (tag : XmlTag) (h : children ≠ []) (pretty : Bool) (level : Nat) :
    ∃ inner, writeNodes inner (level + 1) children <:+: writeNode pretty level (.element tag children) := by
  refine ⟨pretty && !children.any XmlNode.isText, ?_⟩
  rw [writeNode, if_neg (by simpa using h)]
  generalize (pretty && !children.any XmlNode.isText) = inner
  refine ⟨'<' :: writeTag tag ++ ['>'] ++ (if inner then ['\n'] else []),
    (if inner then indent level else []) ++ ['<', '/'] ++ tag.name.render.toList ++ ['>'], ?_⟩
  simp only [append_assoc]

theorem root_written (doc : XmlDocument) : writeNode true 0 doc.root <:+: write doc := by
  have hroot : doc.root ∈ doc.before ++ [doc.root] ++ doc.after := by simp
  refine List.IsInfix.trans ?_ (suffix_append _ _).isInfix
  refine List.IsInfix.trans ?_ (isInfix_flatMap hroot fun node => writeNode true 0 node ++ ['\n'])
  exact (prefix_append _ _).isInfix

theorem exists_of_refersTo (hentry : entryOf? tag children = some entry)
    (hrefers : entry.refersTo package) (hletters : ∀ c ∈ package.toList, isAsciiLetter c) :
    ∃ value path, (⟨"", "Reference"⟩, value) ∈ tag.attributes ∧ value.map foldChar = "true".toList ∧
      IsPackagePath package path ∧ path <:+: leadingText children := by
  unfold entryOf? at hentry
  split at hentry
  · cases hentry
    simp only [PackageEntry.refersTo, Bool.and_eq_true, beq_iff_eq] at hrefers
    obtain ⟨hvalue, hpath⟩ := hrefers
    have hfolded := map_foldChar_of_lower (by decide) (by decide) hvalue
    obtain ⟨path, hpkg, hinner⟩ := exists_path_of_hasInfix hletters hpath
    rw [String.toList_ofList] at hinner
    cases hattribute : plainAttribute? tag "Reference" with
    | none =>
      rw [hattribute] at hfolded
      exact absurd hfolded (by decide)
    | some value =>
      rw [hattribute] at hfolded
      obtain ⟨a, hfound, rfl⟩ := Option.map_eq_some_iff.1 hattribute
      have hname : a.1 = ⟨"", "Reference"⟩ := by simpa using find?_some hfound
      refine ⟨a.2, path, ?_, hfolded, hpkg, hinner.trans ?_⟩
      · rw [← hname]
        exact mem_of_find?_eq_some hfound
      · exact isInfix_trim _
  · simp at hentry

section Written

variable (hletters : ∀ c ∈ package.toList, Text.isAsciiLetter c)

include hletters

theorem showsReference_object (hentry : entryOf? tag children = some entry)
    (hrefers : entry.refersTo package) (pretty : Bool) (level : Nat) :
    ShowsReference package (writeNode pretty level (.element tag children)) := by
  obtain ⟨value, path, hmem, hvalue, hpath, hinner⟩ := exists_of_refersTo hentry hrefers hletters
  -- neither the value nor the path is changed by writing
  have hvalue' : value.flatMap escapeValueChar = value :=
    flatMap_eq_self fun c hc => escapeValueChar_of_not_marked (not_marked_of_true hvalue c hc)
  have hpath' : path.flatMap escapeTextChar = path :=
    flatMap_eq_self fun c hc => escapeTextChar_of_not_marked (hpath.not_marked hletters c hc)
  have hattribute : "Reference".toList ++ '=' :: '"' :: (value ++ ['"']) <:+: writeTag tag := by
    have hwritten : writeAttribute (XmlName.render ⟨"", "Reference"⟩) value =
        ' ' :: ("Reference".toList ++ '=' :: '"' :: (value ++ ['"'])) := by
      rw [writeAttribute, hvalue']
      simp only [append_assoc, cons_append, nil_append]
      rfl
    refine List.IsInfix.trans ?_ (attribute_written hmem)
    rw [hwritten]
    exact (suffix_cons _ _).isInfix
  have hcontent : path <:+: writeNodes false (level + 1) children := by
    refine List.IsInfix.trans ?_ (leadingText_written (level + 1) children).isInfix
    obtain ⟨front, rest, hsplit⟩ := hinner
    exact ⟨front.flatMap escapeTextChar, rest.flatMap escapeTextChar, by
      rw [← hsplit, flatMap_append, flatMap_append, hpath']⟩
  -- the content starts with a text, so that nothing is put between its parts
  obtain ⟨content, rest, rfl⟩ : ∃ content rest, children = .text content :: rest := by
    unfold leadingText at hinner
    split at hinner
    · exact ⟨_, _, rfl⟩
    · obtain ⟨-, -, -⟩ := hpath
      exact absurd (infix_nil.1 hinner) (by simp)
  have hwritten : writeNode pretty level (.element tag (.text content :: rest)) =
      ('<' :: writeTag tag ++ ['>']) ++ (writeNodes false (level + 1) (.text content :: rest) ++
        ('<' :: '/' :: (tag.name.render.toList ++ ['>']))) := by
    simp [writeNode, XmlNode.isText]
  rw [hwritten]
  exact .of_parts hvalue hpath (hattribute.trans ⟨['<'], ['>'], rfl⟩) (hcontent.trans (prefix_append _ _).isInfix)

/-- A document with an object below its root that refers to a package shows that when it is written. -/
theorem showsReference_write (hobjects : .element tag children ∈ doc.children) {object : XmlTag}
    {inner : List XmlNode} (hobject : .element object inner ∈ children) (hentry : entryOf? object inner = some entry)
    (hrefers : entry.refersTo package) : ShowsReference package (write doc) := by
  obtain ⟨pretty, hroot⟩ := content_written doc.tag (ne_nil_of_mem hobjects) true 0
  obtain ⟨pretty', hlist⟩ := content_written tag (ne_nil_of_mem hobject) pretty (0 + 1)
  have hshown := showsReference_object hletters hentry hrefers pretty' (0 + 1 + 1)
  -- the object is written in its list, the list in the root and the root in the document
  have hinList := (node_written hobject pretty' (0 + 1 + 1)).trans hlist
  have hinRoot := (node_written hobjects pretty (0 + 1)).trans hroot
  exact hshown.within ((hinList.trans hinRoot).trans (root_written doc))

end Written

/-! ## Lists -/

theorem PackageList.exists_of_mem_entries (h : entries nodes = .ok found) {entry : PackageEntry}
    (hentry : entry ∈ found) : ∃ tag children, .element tag children ∈ nodes ∧ entryOf? tag children = some entry := by
  induction nodes generalizing found with
  | nil =>
    cases h
    simp at hentry
  | cons node nodes ih =>
    obtain ⟨first, others, hfirst, hrest, rfl⟩ := entries_cons_eq_ok h
    rcases mem_append.1 hentry with hmem | hmem
    · -- the first node is the entry itself
      obtain rfl := Option.mem_toList.1 hmem
      cases node with
      | element tag children =>
        rw [readEntry] at hfirst
        obtain ⟨name, -, hfirst⟩ := bind_eq_ok_iff.1 hfirst
        exact ⟨tag, children, mem_cons_self, Except.ok.inj hfirst⟩
      | text content => simp [readEntry] at hfirst
      | comment content => simp [readEntry] at hfirst
      | instruction target content => simp [readEntry] at hfirst
    · obtain ⟨tag, children, hnode, hread⟩ := ih hrest hmem
      exact ⟨tag, children, mem_cons_of_mem _ hnode, hread⟩

/-- The text of a list has a reference to a package in it. -/
def Mentions (package : String) (bytes : Bytes) : Prop :=
  (referencePattern package).occursIn (unifyNewlines (Text.Utf8.decodeLenient bytes))

theorem mentions_added {place : Nat} (hplace : elementAt? doc place = some (tag, children))
    (hfound : entries children = .ok found) (hletters : ∀ c ∈ package.toList, isAsciiLetter c)
    (hrefers : (found.any fun entry => entry.refersTo package)) (node : XmlNode) :
    Mentions package (Text.Utf8.encode (write (appendAt doc place node))) := by
  obtain ⟨entry, hmem, hentry⟩ := any_eq_true.1 hrefers
  obtain ⟨object, inner, hobject, hread⟩ := exists_of_mem_entries hfound hmem
  obtain ⟨earlier, later, hchildren, rfl⟩ := exists_split_of_elementAt? hplace
  rw [appendAt_eq hchildren]
  have hlist : .element tag (children ++ [node]) ∈
      (extended doc earlier tag children later node).children := by
    simp [extended]
  have hshown := showsReference_write hletters hlist (mem_append_left _ hobject) hread hentry
  rw [Mentions, Text.Utf8.decodeLenient_encode]
  exact (hshown.unifyNewlines hletters).occursIn

/-! ## Lists that are searched in both ways -/

/-- A reference that a search of the document finds is also found in the text that is written of it. -/
theorem mentions_write_of_reference {isOwn : Bool} {path : String}
    (h : presence document package = .ok ⟨isOwn, some path⟩)
    (hletters : ∀ c ∈ package.toList, Text.isAsciiLetter c = true) :
    Mentions package (Text.Utf8.encode (write document)) := by
  obtain ⟨_ | ⟨tag, children⟩, hobjects, h⟩ := bind_eq_ok_iff.1 h
  · simp at h
  obtain ⟨found, hfound, h⟩ := bind_eq_ok_iff.1 h
  -- the path is that of one of the entries, which are among the objects
  obtain ⟨entry, hlast, -⟩ := Option.map_eq_some_iff.1 (congrArg Presence.reference (Except.ok.inj h))
  obtain ⟨hmem, hrefers⟩ := List.mem_filter.1 (List.mem_of_getLast? hlast)
  obtain ⟨object, inner, hobject, hread⟩ := exists_of_mem_entries hfound hmem
  obtain ⟨place, -, hplace⟩ := objects?_eq_ok_some.1 hobjects
  obtain ⟨earlier, later, hchildren, -⟩ := exists_split_of_elementAt? hplace
  have hlist : .element tag children ∈ document.children := by simp [hchildren]
  have hshown := showsReference_write hletters hlist hobject hread hrefers
  rw [Mentions, Text.Utf8.decodeLenient_encode]
  exact (hshown.unifyNewlines hletters).occursIn

theorem mentions_write_of_reference_listed :
    let object : XmlTag :=
      ⟨⟨"", "Object"⟩, [], [(⟨"", "Type"⟩, "Package".toList), (⟨"", "Reference"⟩, "TRUE".toList)]⟩
    Mentions "mappView" (Text.Utf8.encode (write ⟨[], ⟨⟨"", "Cpu"⟩, [], []⟩, [.element ⟨⟨"", "Objects"⟩, [], []⟩
      [.element object [.text "A/mappView/Package.pkg".toList]]], []⟩)) :=
  mentions_write_of_reference (show presence _ _ = .ok ⟨false, some "A/mappView/Package.pkg"⟩ by rfl) (by decide)

/-- The search of the text runs on from a reference into the path of another object. -/
theorem mentions_beyond_reference :
    let bytes := Text.Utf8.encodeString ("<Cpu><Objects><Object Type=\"Package\" Reference=\"true\">A</Object>" ++
      "<Object>mappView/Package.pkg</Object></Objects></Cpu>")
    Mentions "mappView" bytes ∧ (readPackageList bytes >>= (presence · "mappView")).toOption = some ⟨false, none⟩ := by
  unfold Mentions
  decide +kernel

end StudioMigration
