import StudioMigration.Proofs.Except
import StudioMigration.Proofs.Text.Utf8
import StudioMigration.Proofs.Xml.Content

/-!
# Reading back a document

A regular document is read back from its written form but for white space between nodes, and every document
that was read is regular.
-/

namespace StudioMigration

open List

/-- A document without white space between the nodes in it. -/
def XmlDocument.stripped (doc : XmlDocument) : XmlDocument :=
  { doc with children := XmlNode.allStripped doc.children }

/-- Whether a node can stand beside the root: a comment or an instruction. -/
def XmlNode.isAside : XmlNode → Bool
  | .comment _ => true
  | .instruction _ _ => true
  | _ => false

variable {node : XmlNode}

theorem XmlNode.isText_of_isAside (h : node.isAside) : node.isText = false := by
  cases node <;> simp_all [XmlNode.isAside, XmlNode.isText]

theorem XmlNode.eq_of_stripped_isAside {other : XmlNode} (haside : other.isAside)
    (h : node.stripped = other.stripped) : node = other := by
  cases other <;> cases node <;> simp_all [XmlNode.isAside, XmlNode.stripped]

namespace Xml

open Text XmlNode
open Text.Utf8 (Bytes)

variable {draft draft' : Draft} {text content : List Char} {doc : XmlDocument} {frame : Frame}
  {tokens : List Token}

/-! ## Regular documents -/

/-- A node beside the root that is read back from its written form. -/
def RegularAside (node : XmlNode) : Prop := node.isAside ∧ RegularNode node

/-- A document whose parts are read back from their written form. -/
structure RegularDocument (doc : XmlDocument) : Prop where
  before : ∀ node ∈ doc.before, RegularAside node
  tag : RegularTag doc.tag
  children : RegularNodes doc.children
  after : ∀ node ∈ doc.after, RegularAside node

/-! ## The nodes of a document -/

/-- Nodes beside the root or the root itself, each on a line of its own. -/
def writeLines (nodes : List XmlNode) : List Char := nodes.flatMap fun node => writeNode true 0 node ++ ['\n']

/-- What a document looks like behind its declaration. -/
def writeBody (doc : XmlDocument) : List Char :=
  '\n' :: writeLines (doc.before ++ [doc.root] ++ doc.after)

/-- The end of a line beside the root adds nothing. -/
theorem reads_line_end (hframes : draft.frames = []) (htext : ∀ c ∈ text.head?, c = '<') :
    Reads draft ('\n' :: text) draft text := by
  have hstop : text.head?.any (goesOn '\n') = false := by
    cases text with
    | nil => rfl
    | cons c text =>
      obtain rfl := htext c rfl
      exact not_goesOn_of_endsText rfl _
  have hraw : ∀ d ∈ ['\n'], isRaw d := by decide
  have hgoes : ∀ d ∈ ['\n'], goesOn '\n' d := by decide
  refine .single (readToken_piece hraw hgoes hstop) (by simp) ?_
  simp [Draft.take, hframes]
  decide

/-- A node outside the root is read back from the line behind the one that is ended. -/
theorem reads_line (hnode : RegularNode node) (hkind : node.isText = false) (hframes : draft.frames = [])
    (hroom : draft.HasRoom node) (text : List Char) :
    ∃ node', node'.stripped = node.stripped ∧
      Reads draft ('\n' :: (writeNode true 0 node ++ text)) (draft.put node') text := by
  obtain ⟨node', hsame, hread⟩ := reads_node node hnode hkind true 0 draft hroom text
  refine ⟨node', hsame, (reads_line_end hframes ?_).trans hread⟩
  rw [head?_writeNode hkind]
  rintro c ⟨⟩
  rfl

/-- Comments and instructions beside the root are read back. -/
theorem reads_asides {nodes : List XmlNode} (hnodes : ∀ node ∈ nodes, RegularAside node)
    (hframes : draft.frames = []) (text : List Char) :
    Reads draft ('\n' :: (writeLines nodes ++ text)) (nodes.foldl Draft.addNode draft) ('\n' :: text) := by
  induction nodes generalizing draft with
  | nil => exact .refl _ _
  | cons node nodes ih =>
    obtain ⟨⟨haside, hnode⟩, hrest⟩ := forall_mem_cons.1 hnodes
    have hlines : '\n' :: (writeLines (node :: nodes) ++ text) =
        '\n' :: (writeNode true 0 node ++ ('\n' :: (writeLines nodes ++ text))) := by
      simp [writeLines]
    have hput : draft.put node = draft.addNode node := by
      cases node <;> simp_all [isAside, Draft.put]
    have hroom : draft.HasRoom node := by
      rintro - tag children rfl
      simp [isAside] at haside
    obtain ⟨node', hsame, hread⟩ := reads_line hnode (isText_of_isAside haside) hframes hroom
      ('\n' :: (writeLines nodes ++ text))
    obtain rfl := eq_of_stripped_isAside haside hsame
    rw [hput] at hread
    have hframes' : (draft.addNode node').frames = [] := by
      unfold Draft.addNode
      split
      · simp_all
      · split <;> exact hframes
    rw [hlines]
    exact hread.trans (ih hrest hframes')

theorem foldl_addNode_before (nodes before after : List XmlNode) :
    nodes.foldl Draft.addNode ⟨before, [], none, after⟩ = ⟨nodes.reverse ++ before, [], none, after⟩ := by
  induction nodes generalizing before with
  | nil => rfl
  | cons node nodes ih => simp [Draft.addNode, ih]

theorem foldl_addNode_after (nodes before after : List XmlNode) (root : XmlTag × List XmlNode) :
    nodes.foldl Draft.addNode ⟨before, [], some root, after⟩ = ⟨before, [], some root, nodes.reverse ++ after⟩ := by
  induction nodes generalizing after with
  | nil => rfl
  | cons node nodes ih => simp [Draft.addNode, ih]

/-- The tokens of a written document make up the document, but for white space. -/
theorem nest?_writeBody (h : RegularDocument doc) :
    ∃ tokens nested, tokens? .editing (writeBody doc) = some tokens ∧
      nest? .editing tokens = some nested ∧ nested.stripped = doc.stripped := by
  have hlines : writeBody doc = '\n' :: (writeLines doc.before ++
      (writeNode true 0 doc.root ++ ('\n' :: (writeLines doc.after ++ [])))) := by
    simp [writeBody, writeLines]
  have hbefore := reads_asides h.before (rfl : (⟨[], [], none, []⟩ : Draft).frames = [])
    (writeNode true 0 doc.root ++ ('\n' :: (writeLines doc.after ++ [])))
  rw [foldl_addNode_before] at hbefore
  obtain ⟨node, hsame, hread⟩ := reads_line (show RegularNode doc.root from ⟨h.tag, h.children⟩)
    rfl (rfl : (⟨doc.before.reverse ++ [], [], none, []⟩ : Draft).frames = []) (fun _ _ _ _ => rfl)
    ('\n' :: (writeLines doc.after ++ []))
  obtain ⟨children, rfl, hchildren⟩ : ∃ children, node = .element doc.tag children ∧
      allStripped children = allStripped doc.children := by
    cases node <;> simp_all [XmlDocument.root, stripped]
  have hafter := reads_asides h.after
    (rfl : (⟨doc.before.reverse ++ [], [], some (doc.tag, children), []⟩ : Draft).frames = []) []
  rw [foldl_addNode_after] at hafter
  have hend := hafter.trans (reads_line_end rfl (by simp))
  obtain ⟨tokens, htokens, hfold⟩ := (hbefore.trans (hread.trans hend)).exists_readTokens rfl le_rfl
  rw [← hlines] at htokens
  refine ⟨tokens, ⟨doc.before, doc.tag, children, doc.after⟩, htokens, ?_, ?_⟩
  · simp [nest?, hfold]
  · simp [XmlDocument.stripped, hchildren]

/-! ## The text of a document -/

/-- What the writer puts for a character fits into a document if the character does. -/
theorem isDocumentText_escape {escape : Char → List Char}
    (hescape : ∀ c, (∃ body, (c, body) ∈ writtenReferences ∧ escape c = '&' :: (body ++ [';'])) ∨ escape c = [c])
    (h : IsDocumentText text) : IsDocumentText (text.flatMap escape) := by
  have hclosed : ∀ x ∈ writtenReferences, ∀ c ∈ '&' :: (x.2 ++ [';']), isDocumentChar c := by decide
  intro c hc
  obtain ⟨d, hd, hc⟩ := mem_flatMap.1 hc
  rcases hescape d with ⟨body, hbody, heq⟩ | heq
  · rw [heq] at hc
    exact hclosed _ hbody c hc
  · rw [heq, mem_singleton] at hc
    exact hc ▸ h d hd

theorem IsWritten.isDocumentText {word : List Char} (h : IsWritten word) : IsDocumentText word := by
  cases word with
  | nil => exact absurd h id
  | cons c rest =>
    refine forall_mem_cons.2 ⟨?_, fun d hd => isDocumentChar_of_isWrittenChar (h.2 d hd)⟩
    exact isDocumentChar_of_isWrittenChar (isWrittenChar_of_start h.1)

theorem RegularTag.isDocumentText {tag : XmlTag} (h : RegularTag tag) : IsDocumentText (writeTag tag) := by
  rw [writeTag_eq, isDocumentText_append]
  refine ⟨h.name.written.isDocumentText, ?_⟩
  intro c hc
  obtain ⟨a, ha, hc⟩ := mem_flatMap.1 hc
  have hvalue : IsDocumentText (a.2.flatMap escapeValueChar) :=
    isDocumentText_escape (fun d => (escapeValueChar_cases d).imp id And.left) (h.values a ha)
  have hmarks : ∀ d ∈ [' ', '=', '"'], isDocumentChar d := by decide
  simp only [writeAttribute, cons_append, mem_cons, mem_append, not_mem_nil, or_false] at hc
  rcases hc with rfl | ((hc | rfl | rfl) | hc) | rfl
  · exact hmarks _ (by simp)
  · exact (h.names a ha).written.isDocumentText c hc
  · exact hmarks _ (by simp)
  · exact hmarks _ (by simp)
  · exact hvalue c hc
  · exact hmarks _ (by simp)

theorem isDocumentText_indent (level : Nat) : IsDocumentText (indent level) := by
  intro c hc
  rw [eq_of_mem_replicate hc]
  decide

mutual

theorem isDocumentText_writeNode (node : XmlNode) (h : RegularNode node) (pretty : Bool) (level : Nat) :
    IsDocumentText (writeNode pretty level node) := by
  cases node with
  | text content =>
    refine isDocumentText_escape (fun c => ?_) h
    cases hraw : isRaw c with
    | true => exact .inr (escapeTextChar_of_isRaw hraw)
    | false => exact .inl (escapeTextChar_of_not_isRaw hraw)
  | comment content =>
    have hmarks : IsDocumentText "<!--".toList ∧ IsDocumentText "-->".toList := by decide
    simp only [writeNode, isDocumentText_append]
    exact ⟨⟨hmarks.1, h.fits⟩, hmarks.2⟩
  | instruction target content =>
    have hmarks : IsDocumentText "<?".toList ∧ IsDocumentText "?>".toList := by decide
    simp only [writeNode, isDocumentText_append]
    refine ⟨⟨⟨hmarks.1, h.written.isDocumentText⟩, ?_⟩, hmarks.2⟩
    cases content with
    | none => exact fun c hc => absurd hc not_mem_nil
    | some text => exact forall_mem_cons.2 ⟨by decide, h.fits text rfl⟩
  | element tag children =>
    obtain ⟨htag, hchildren⟩ := h
    have hcontent : IsDocumentText (writeContent pretty level children) := by
      unfold writeContent
      split
      · rw [isDocumentText_cons, isDocumentText_append]
        exact ⟨by decide, isDocumentText_writeNodes children hchildren true (level + 1),
          isDocumentText_indent level⟩
      · exact isDocumentText_writeNodes children hchildren false (level + 1)
    cases hempty : children.isEmpty with
    | true =>
      have htext : writeNode pretty level (.element tag children) = '<' :: writeTag tag ++ ['/', '>'] := by
        simp [writeNode, hempty]
      rw [htext, isDocumentText_append, isDocumentText_cons]
      exact ⟨⟨by decide, htag.isDocumentText⟩, by decide⟩
    | false =>
      rw [← append_nil (writeNode ..), writeNode_eq pretty level tag hempty]
      simp only [closing, isDocumentText_append, isDocumentText_cons]
      exact ⟨⟨by decide, htag.isDocumentText⟩, by decide, hcontent,
        ⟨by decide, by decide, htag.name.written.isDocumentText⟩, by decide, by decide⟩

theorem isDocumentText_writeNodes (nodes : List XmlNode) (h : RegularNodes nodes) (pretty : Bool)
    (level : Nat) : IsDocumentText (writeNodes pretty level nodes) := by
  cases nodes with
  | nil => exact fun c hc => absurd hc not_mem_nil
  | cons node rest =>
    obtain ⟨hnode, -, hrest⟩ := h
    have hfirst := isDocumentText_writeNode node hnode pretty level
    have hothers := isDocumentText_writeNodes rest hrest pretty level
    simp only [writeNodes, isDocumentText_append]
    refine ⟨⟨⟨?_, hfirst⟩, ?_⟩, hothers⟩
    · split
      · exact isDocumentText_indent level
      · decide
    · split <;> decide

end

/-- The declaration that the writer puts in front. -/
def writtenDeclaration : Declaration := ⟨"1.0".toList, some "UTF-8".toList⟩

def declarationText : List Char := "<?xml version='1.0' encoding='UTF-8'?>".toList

theorem write_eq (doc : XmlDocument) : write doc = declarationText ++ writeBody doc := by
  have hline : "<?xml version='1.0' encoding='UTF-8'?>\n".toList = declarationText ++ ['\n'] := by
    decide +kernel
  unfold write writeBody writeLines
  rw [hline, append_assoc, singleton_append]

theorem pseudoAttribute?_version (text : List Char) :
    pseudoAttribute? "version" (" version='1.0'".toList ++ text) = some ("1.0".toList, text) := by
  have hlength : "version".length = 7 := rfl
  simp [pseudoAttribute?, isBlank, hlength]

theorem pseudoAttribute?_encoding (text : List Char) :
    pseudoAttribute? "encoding" (" encoding='UTF-8'".toList ++ text) = some ("UTF-8".toList, text) := by
  have hlength : "encoding".length = 8 := rfl
  simp [pseudoAttribute?, isBlank, hlength]

theorem readDeclaration_declarationText (text : List Char) :
    readDeclaration .editing (declarationText ++ text) = some (some writtenDeclaration, text) := by
  have htext : declarationText ++ text = '<' :: '?' :: 'x' :: 'm' :: 'l' ::
      (" version='1.0'".toList ++ (" encoding='UTF-8'".toList ++ ('?' :: '>' :: text))) := rfl
  have hblank : (" version='1.0'".toList ++
      (" encoding='UTF-8'".toList ++ ('?' :: '>' :: text))).head?.any isBlank := rfl
  have hencoding : optionalAttribute "encoding" (" encoding='UTF-8'".toList ++ ('?' :: '>' :: text)) =
      (some "UTF-8".toList, '?' :: '>' :: text) := by
    rw [optionalAttribute, pseudoAttribute?_encoding]
  have hstandalone : optionalAttribute "standalone" ('?' :: '>' :: text) = (none, '?' :: '>' :: text) := rfl
  have hversion : isVersion .editing "1.0".toList := by decide
  have hname : isEncodingName "UTF-8".toList := by decide
  have hclose : ('?' :: '>' :: text).dropWhile isBlank = '?' :: '>' :: text := rfl
  rw [htext]
  simp only [readDeclaration, hblank, pseudoAttribute?_version, hencoding, hstandalone, hversion, hname,
    hclose, Option.bind_eq_bind, Option.bind_some, Option.all_some]
  rfl

theorem isDocumentText_writeBody (h : RegularDocument doc) : IsDocumentText (writeBody doc) := by
  refine isDocumentText_cons.2 ⟨by decide, ?_⟩
  intro c hc
  obtain ⟨node, hnode, hc⟩ := mem_flatMap.1 hc
  have hregular : RegularNode node := by
    simp only [mem_append, mem_singleton] at hnode
    rcases hnode with (hnode | rfl) | hnode
    · exact (h.before node hnode).2
    · exact ⟨h.tag, h.children⟩
    · exact (h.after node hnode).2
  have hline : IsDocumentText (writeNode true 0 node ++ ['\n']) :=
    isDocumentText_append.2 ⟨isDocumentText_writeNode node hregular true 0, by decide⟩
  exact hline c hc

/-- A document that starts with a bracket and a question mark in ASCII does not tell its encoding. -/
theorem detect_ascii (rest : Bytes) : detect .editing (0x3C :: 0x3F :: rest) = (none, 0x3C :: 0x3F :: rest) := by
  simp [detect]

/-- The text of a written document is found behind its declaration, if all its characters fit. -/
theorem documentText_write (doc : XmlDocument) :
    documentText .editing (Utf8.encode (write doc)) =
      if (write doc).all isDocumentChar then .ok (some writtenDeclaration, writeBody doc)
      else .error .malformed := by
  have hbytes : Utf8.encode (write doc) = Utf8.encode declarationText ++ Utf8.encode (writeBody doc) := by
    rw [write_eq, Utf8.encode, flatMap_append]
    rfl
  have hascii : Utf8.encode declarationText = 0x3C :: 0x3F :: (Utf8.encode declarationText).drop 2 := by
    decide +kernel
  have hdetect : detect .editing (Utf8.encode (write doc)) = (none, Utf8.encode (write doc)) := by
    rw [hbytes, hascii]
    exact detect_ascii _
  have hstart : readDeclaration .editing (Latin1.decode (Utf8.encode (write doc))) =
      some (some writtenDeclaration, Latin1.decode (Utf8.encode (writeBody doc))) := by
    have hsame : Latin1.decode (Utf8.encode declarationText) = declarationText := by decide +kernel
    have hsplit : Latin1.decode (Utf8.encode (write doc)) =
        declarationText ++ Latin1.decode (Utf8.encode (writeBody doc)) := by
      rw [hbytes, ← hsame]
      exact map_append
    rw [hsplit, readDeclaration_declarationText]
  have hcharset : charsetFor .editing none (writtenDeclaration.encoding) = .ok .utf8 := by decide +kernel
  have hdecode : Charset.utf8.decode (Utf8.encode (write doc)) = some (write doc) := by
    simp [Charset.decode, Utf8.decode_encode, Except.toOption]
  have hrest := readDeclaration_declarationText (writeBody doc)
  rw [← write_eq] at hrest
  simp only [documentText, hdetect, hstart, Option.bind_some, hcharset, hdecode, hrest, ok_bind]
  rfl

theorem RegularDocument.documentText_write (h : RegularDocument doc) :
    documentText .editing (Utf8.encode (write doc)) = .ok (some writtenDeclaration, writeBody doc) := by
  have hall : IsDocumentText (write doc) := by
    rw [write_eq, isDocumentText_append]
    exact ⟨by decide +kernel, isDocumentText_writeBody h⟩
  rw [Xml.documentText_write, if_pos (all_eq_true.2 hall)]

/-! ## What was read -/

/-- An open element whose parts are read back from their written form. -/
structure RegularFrame (frame : Frame) : Prop where
  tag : RegularTag frame.tag
  children : RegularNodes frame.children.reverse

/-- A draft whose parts are read back from their written form. -/
structure RegularDraft (draft : Draft) : Prop where
  before : ∀ node ∈ draft.before, RegularAside node
  frames : ∀ frame ∈ draft.frames, RegularFrame frame
  root : ∀ root ∈ draft.root, RegularTag root.1 ∧ RegularNodes root.2
  after : ∀ node ∈ draft.after, RegularAside node

theorem RegularFrame.add (h : RegularFrame frame) (hnode : RegularNode node)
    (hapart : node.isText → frame.children.head?.any isText = false) : RegularFrame (frame.add node) := by
  refine ⟨h.tag, ?_⟩
  rw [Frame.add, reverse_cons, regularNodes_concat, getLast?_reverse]
  refine ⟨h.children, hnode, ?_⟩
  rintro ⟨hlast, htext⟩
  rw [hapart htext] at hlast
  exact absurd hlast Bool.false_ne_true

theorem RegularFrame.addText (h : RegularFrame frame) (hcontent : IsDocumentText content) :
    RegularFrame (frame.addText content) := by
  unfold Frame.addText
  split
  · rename_i earlier rest hchildren
    have hbefore := h.children
    rw [hchildren, reverse_cons, regularNodes_concat] at hbefore
    obtain ⟨hrest, hearlier, hapart⟩ := hbefore
    refine ⟨h.tag, ?_⟩
    rw [reverse_cons, regularNodes_concat]
    exact ⟨hrest, isDocumentText_append.2 ⟨hearlier, hcontent⟩, hapart⟩
  · rename_i hchildren
    refine h.add hcontent fun _ => ?_
    cases hlast : frame.children with
    | nil => rfl
    | cons node rest =>
      cases node with
      | text earlier => exact absurd hlast (hchildren earlier rest)
      | element _ _ => rfl
      | comment _ => rfl
      | instruction _ _ => rfl

theorem RegularFrame.addPiece (h : RegularFrame frame) (hcontent : IsDocumentText content) (follow : Follow) :
    RegularFrame (frame.addPiece .editing content follow) := by
  rcases addPiece_cases frame content follow with ⟨-, -, hsame⟩ | ⟨spacing, hadded⟩
  · rw [hsame]
    exact h
  · rw [hadded]
    exact ⟨(h.addText hcontent).tag, (h.addText hcontent).children⟩

/-- Changing the innermost open element keeps a draft regular. -/
theorem RegularDraft.replace (h : RegularDraft draft) {frame' : Frame} {frames : List Frame}
    (hframes : draft.frames = frame :: frames) (hframe : RegularFrame frame → RegularFrame frame') :
    RegularDraft { draft with frames := frame' :: frames } := by
  have hall := h.frames
  rw [hframes, forall_mem_cons] at hall
  exact ⟨h.before, forall_mem_cons.2 ⟨hframe hall.1, hall.2⟩, h.root, h.after⟩

theorem RegularDraft.addNode (h : RegularDraft draft) (hnode : RegularAside node) :
    RegularDraft (draft.addNode node) := by
  unfold Draft.addNode
  split
  · rename_i frame frames hframes
    refine h.replace hframes fun hframe => hframe.add hnode.2 fun htext => ?_
    rw [isText_of_isAside hnode.1] at htext
    exact absurd htext Bool.false_ne_true
  · split
    · exact ⟨forall_mem_cons.2 ⟨hnode, h.before⟩, h.frames, h.root, h.after⟩
    · exact ⟨h.before, h.frames, h.root, forall_mem_cons.2 ⟨hnode, h.after⟩⟩

theorem RegularDraft.addElement (h : RegularDraft draft) {tag : XmlTag} {children : List XmlNode}
    (htag : RegularTag tag) (hchildren : RegularNodes children) : RegularDraft (draft.addElement tag children) := by
  unfold Draft.addElement
  split
  · rename_i frame frames hframes
    have hnode : RegularNode (.element tag children) := ⟨htag, hchildren⟩
    exact h.replace hframes fun hframe => hframe.add hnode (by simp [isText])
  · refine ⟨h.before, h.frames, ?_, h.after⟩
    rintro _ ⟨⟩
    exact ⟨htag, hchildren⟩

theorem RegularDraft.take (h : RegularDraft draft) {token : Token} (htoken : RegularToken token)
    (htake : draft.take .editing token = some draft') : RegularDraft draft' := by
  cases token with
  | start tag isEmpty =>
    simp only [Draft.take] at htake
    split at htake
    · simp at htake
    · split at htake
      · cases htake
        exact h.addElement htoken trivial
      · cases htake
        exact ⟨h.before, forall_mem_cons.2 ⟨⟨htoken, trivial⟩, h.frames⟩, h.root, h.after⟩
  | finish name =>
    simp only [Draft.take] at htake
    split at htake
    · simp at htake
    · rename_i frame frames hframes
      split at htake
      · cases htake
        have hall := h.frames
        rw [hframes, forall_mem_cons] at hall
        have houter : RegularDraft { draft with frames := frames } := ⟨h.before, hall.2, h.root, h.after⟩
        exact houter.addElement hall.1.tag hall.1.children
      · simp at htake
  | text content follow =>
    simp only [Draft.take] at htake
    split at htake
    · split at htake
      · cases htake
        exact h
      · simp at htake
    · rename_i frame frames hframes
      cases htake
      exact h.replace hframes fun hframe => hframe.addPiece htoken follow
  | reference c =>
    simp only [Draft.take] at htake
    split at htake
    · simp at htake
    · rename_i frame frames hframes
      cases htake
      exact h.replace hframes fun hframe =>
        hframe.addText (isDocumentText_cons.2 ⟨htoken, fun d hd => absurd hd not_mem_nil⟩)
  | verbatim content =>
    simp only [Draft.take] at htake
    split at htake
    · simp at htake
    · rename_i frame frames hframes
      cases htake
      exact h.replace hframes fun hframe => hframe.addText htoken
  | comment content =>
    cases htake
    exact h.addNode ⟨rfl, htoken⟩
  | instruction target content =>
    cases htake
    exact h.addNode ⟨rfl, htoken⟩

theorem RegularDraft.foldlM (htokens : ∀ token ∈ tokens, RegularToken token) (h : RegularDraft draft)
    (hfold : tokens.foldlM (Draft.take .editing) draft = some draft') : RegularDraft draft' := by
  induction tokens generalizing draft with
  | nil =>
    cases hfold
    exact h
  | cons token tokens ih =>
    obtain ⟨hfirst, hrest⟩ := forall_mem_cons.1 htokens
    rw [foldlM_cons, Option.bind_eq_bind, Option.bind_eq_some_iff] at hfold
    obtain ⟨between, htake, hfold⟩ := hfold
    exact ih hrest (h.take hfirst htake) hfold

theorem regular_of_readTokens {fuel : Nat} (h : readTokens .editing fuel text = some tokens)
    (htext : IsDocumentText text) : ∀ token ∈ tokens, RegularToken token := by
  induction fuel generalizing text tokens with
  | zero =>
    cases text with
    | nil =>
      cases h
      exact fun token htoken => absurd htoken not_mem_nil
    | cons c text => simp [readTokens] at h
  | succ fuel ih =>
    cases text with
    | nil =>
      cases h
      exact fun token htoken => absurd htoken not_mem_nil
    | cons c text =>
      simp only [readTokens, Option.bind_eq_bind, Option.bind_eq_some_iff] at h
      obtain ⟨⟨token, rest⟩, htoken, tokens', htokens, h⟩ := h
      cases h
      obtain ⟨hregular, hrest⟩ := regular_of_readToken htoken htext
      exact forall_mem_cons.2 ⟨hregular, ih htokens (htext.of_suffix hrest)⟩

theorem regular_of_nest? (htext : IsDocumentText text) (htokens : tokens? .editing text = some tokens)
    (h : nest? .editing tokens = some doc) : RegularDocument doc := by
  simp only [nest?, Option.bind_eq_bind, Option.bind_eq_some_iff] at h
  obtain ⟨draft, hfold, h⟩ := h
  have hempty : RegularDraft ⟨[], [], none, []⟩ := ⟨by simp, by simp, by simp, by simp⟩
  have hdraft := hempty.foldlM (regular_of_readTokens htokens htext) hfold
  split at h
  · simp only [Option.bind_eq_some_iff] at h
    obtain ⟨⟨tag, children⟩, hroot, h⟩ := h
    cases h
    obtain ⟨htag, hchildren⟩ := hdraft.root _ hroot
    exact ⟨by simpa using hdraft.before, htag, hchildren, by simpa using hdraft.after⟩
  · simp at h

end Xml

end StudioMigration
