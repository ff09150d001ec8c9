import StudioMigration.Proofs.Xml.Token
import StudioMigration.Xml.Reader

/-!
# Reading back the content of elements

What the writer makes of the nodes in an element is read back as the same nodes, but for pieces of text
that are white space only: the reader may leave such a piece out, and it may keep white space that the
writer has added.

* `Reads` relates a draft and the text still to be read to those some tokens later.
* `reads_text` reads a piece of text back, and `reads_node` a node that is no text.
-/

namespace StudioMigration

open List

/-! ## Nodes without white space -/

/-- Whether a node is a piece of text without anything but white space. -/
def XmlNode.isBlankText : XmlNode → Bool
  | .text content => content.all Xml.isBlank
  | _ => false

mutual

/-- A node without the white space between the nodes in it. -/
def XmlNode.stripped : XmlNode → XmlNode
  | .element tag children => .element tag (XmlNode.allStripped children)
  | node => node

/-- Some nodes without the white space between them or in them. -/
def XmlNode.allStripped : List XmlNode → List XmlNode
  | [] => []
  | node :: rest =>
    if node.isBlankText then XmlNode.allStripped rest else node.stripped :: XmlNode.allStripped rest

end

namespace XmlNode

theorem allStripped_append (nodes more : List XmlNode) :
    allStripped (nodes ++ more) = allStripped nodes ++ allStripped more := by
  induction nodes with
  | nil => simp [allStripped]
  | cons node nodes ih =>
    simp only [cons_append, allStripped, ih]
    split <;> rfl

theorem isText_stripped (node : XmlNode) : node.stripped.isText = node.isText := by
  cases node <;> simp [stripped, isText]

/-- Nodes that are the same but for white space in them stand for the same nodes. -/
theorem allStripped_singleton {node other : XmlNode} (h : node.stripped = other.stripped) :
    allStripped [node] = allStripped [other] := by
  have hblank : ∀ node : XmlNode, node.stripped.isBlankText = node.isBlankText := by
    intro node
    cases node <;> simp [stripped, isBlankText]
  simp only [allStripped, ← hblank node, ← hblank other, h]

/-- One node has been moved from the front of some nodes to the nodes before them. -/
theorem allStripped_move {node other : XmlNode} (h : node.stripped = other.stripped) (earlier rest : List XmlNode) :
    allStripped (node :: earlier).reverse ++ allStripped rest =
      allStripped earlier.reverse ++ allStripped (other :: rest) := by
  rw [reverse_cons, allStripped_append, allStripped_singleton h, append_assoc, ← allStripped_append, singleton_append]

end XmlNode

namespace Xml

open Text XmlNode

variable {nodes children : List XmlNode} {node : XmlNode} {draft after : Draft} {text rest final : List Char} {c : Char}
  {tag : XmlTag}

/-! ## Regular nodes -/

mutual

/-- A node whose parts are read back from their written form. -/
def RegularNode : XmlNode → Prop
  | .element tag children => RegularTag tag ∧ RegularNodes children
  | .text content => IsDocumentText content
  | .comment content => RegularComment content
  | .instruction target content => RegularInstruction target.toList content

/-- Regular nodes of which no two texts are neighbours. -/
def RegularNodes : List XmlNode → Prop
  | [] => True
  | node :: rest =>
    RegularNode node ∧ ¬(node.isText ∧ rest.head?.any isText) ∧ RegularNodes rest

end

/-- One more node may follow regular nodes if it is regular and not text behind text. -/
theorem regularNodes_concat (nodes : List XmlNode) (node : XmlNode) :
    RegularNodes (nodes ++ [node]) ↔
      RegularNodes nodes ∧ RegularNode node ∧ ¬(nodes.getLast?.any isText ∧ node.isText) := by
  induction nodes with
  | nil => simp [RegularNodes]
  | cons first nodes ih =>
    have hcons : ∀ more, RegularNodes (first :: more) ↔
        RegularNode first ∧ ¬(first.isText ∧ more.head?.any isText) ∧ RegularNodes more := fun _ => Iff.rfl
    rw [cons_append, hcons, hcons, ih]
    cases nodes with
    | nil =>
      grind
    | cons second nodes =>
      rw [getLast?_cons_cons]
      simp only [cons_append, head?_cons, and_assoc]

theorem RegularNodes.mem (h : RegularNodes nodes) (hnode : node ∈ nodes) : RegularNode node := by
  induction nodes with
  | nil => exact absurd hnode not_mem_nil
  | cons first nodes ih =>
    obtain ⟨hfirst, -, hrest⟩ := h
    rcases mem_cons.1 hnode with rfl | hnode
    · exact hfirst
    · exact ih hrest hnode

theorem RegularNodes.of_append {more : List XmlNode} (h : RegularNodes (nodes ++ more)) : RegularNodes nodes := by
  induction nodes with
  | nil => trivial
  | cons first nodes ih =>
    obtain ⟨hfirst, hapart, hrest⟩ := h
    refine ⟨hfirst, ?_, ih hrest⟩
    cases nodes with
    | nil => simp
    | cons second nodes => exact hapart

theorem RegularNodes.replace {earlier later : List XmlNode} {other : XmlNode}
    (h : RegularNodes (earlier ++ node :: later)) (hother : RegularNode other) (hkind : other.isText = node.isText) :
    RegularNodes (earlier ++ other :: later) := by
  induction earlier with
  | nil =>
    obtain ⟨-, hapart, hrest⟩ := h
    exact ⟨hother, hkind ▸ hapart, hrest⟩
  | cons first earlier ih =>
    obtain ⟨hfirst, hapart, hrest⟩ := h
    refine ⟨hfirst, ?_, ih hrest⟩
    cases earlier with
    | nil => simpa [hkind] using hapart
    | cons second earlier => exact hapart

/-! ## Reading token by token -/

/-- From a draft and a text, some tokens lead to another draft and to what is left of the text. -/
inductive Reads : Draft → List Char → Draft → List Char → Prop
  | refl (draft : Draft) (text : List Char) : Reads draft text draft text
  | step {draft between after : Draft} {text rest final : List Char} {token : Token}
      (htoken : readToken .editing text = some (token, rest)) (hrest : rest.length < text.length)
      (htake : draft.take .editing token = some between) (hreads : Reads between rest after final) :
      Reads draft text after final

theorem Reads.trans {between : Draft} (h : Reads draft text between rest) (h' : Reads between rest after final) :
    Reads draft text after final := by
  induction h with
  | refl => exact h'
  | step htoken hrest htake _ ih => exact .step htoken hrest htake (ih h')

theorem Reads.single {token : Token} (htoken : readToken .editing text = some (token, rest))
    (hrest : rest.length < text.length) (htake : draft.take .editing token = some after) :
    Reads draft text after rest :=
  .step htoken hrest htake (.refl after rest)

theorem Reads.exists_readTokens (h : Reads draft text after final) (hfinal : final = []) {fuel : Nat}
    (hfuel : text.length ≤ fuel) :
    ∃ tokens, readTokens .editing fuel text = some tokens ∧ tokens.foldlM (Draft.take .editing) draft = some after := by
  induction h generalizing fuel with
  | refl draft text =>
    subst hfinal
    exact ⟨[], by cases fuel <;> rfl, rfl⟩
  | @step draft between after text rest final token htoken hrest htake _ ih =>
    obtain ⟨fuel, rfl⟩ : ∃ n, fuel = n + 1 := ⟨fuel - 1, by omega⟩
    obtain ⟨tokens, htokens, hfold⟩ := ih hfinal (show rest.length ≤ fuel by omega)
    refine ⟨token :: tokens, ?_, ?_⟩
    · cases text with
      | nil => exact absurd hrest (Nat.not_lt_zero _)
      | cons c text => simp [readTokens, htoken, htokens]
    · simp [htake, hfold]

theorem Reads.readTokens_eq_none (h : Reads draft text after final) (hfinal : final ≠ [])
    (hnone : readToken .editing final = none) (fuel : Nat) : readTokens .editing fuel text = none := by
  induction h generalizing fuel with
  | refl draft text =>
    obtain ⟨c, rest, rfl⟩ := exists_cons_of_ne_nil hfinal
    cases fuel with
    | zero => rfl
    | succ fuel => simp [readTokens, hnone]
  | @step draft between after text rest final token htoken hrest htake _ ih =>
    cases text with
    | nil => exact absurd hrest (Nat.not_lt_zero _)
    | cons c text =>
      cases fuel with
      | zero => rfl
      | succ fuel => simp [readTokens, htoken, ih hfinal hnone fuel]

/-! ## Running text -/

/-- Whether a character of text is written as it is. -/
def isRaw (c : Char) : Bool := !(['&', '<', '>', '\r'].contains c)

theorem escapeTextChar_of_isRaw (h : isRaw c) : escapeTextChar c = [c] := by
  unfold escapeTextChar
  split
  · exact absurd h (by decide)
  · exact absurd h (by decide)
  · exact absurd h (by decide)
  · exact absurd h (by decide)
  · rfl

theorem escapeTextChar_of_not_isRaw (h : isRaw c = false) :
    ∃ body, (c, body) ∈ writtenReferences ∧ escapeTextChar c = '&' :: (body ++ [';']) := by
  unfold escapeTextChar
  split
  · exact ⟨"amp".toList, by decide, rfl⟩
  · exact ⟨"lt".toList, by decide, rfl⟩
  · exact ⟨"gt".toList, by decide, rfl⟩
  · exact ⟨"#13".toList, by decide, rfl⟩
  · simp_all [isRaw]

theorem flatMap_escapeTextChar_of_isRaw (h : ∀ c ∈ text, isRaw c) : text.flatMap escapeTextChar = text := by
  induction text with
  | nil => rfl
  | cons c text ih =>
    rw [forall_mem_cons] at h
    rw [flatMap_cons, escapeTextChar_of_isRaw h.1, ih h.2]
    rfl

/-- The characters that go on a piece of text that starts with `c`. -/
def goesOn (c : Char) : Char → Bool := if isPlain c then isPlain else fun d => !endsText d

theorem not_goesOn_of_endsText {d : Char} (h : endsText d) (c : Char) : goesOn c d = false := by
  have hplain : isPlain d = false := by
    simp only [endsText, Bool.or_eq_true, beq_iff_eq] at h
    rcases h with rfl | rfl <;> decide
  unfold goesOn
  split
  · exact hplain
  · simp [h]

theorem goesOn_self (h : isRaw c) : goesOn c c := by
  unfold goesOn
  split
  · assumption
  · simp_all [isRaw, endsText]

theorem readToken_piece {piece : List Char} (hraw : ∀ d ∈ c :: piece, isRaw d)
    (hpiece : ∀ d ∈ c :: piece, goesOn c d) (hrest : rest.head?.any (goesOn c) = false) :
    readToken .editing (c :: piece ++ rest) = some (.text (c :: piece) (followOf rest), rest) := by
  have hmarks : ∀ d ∈ c :: piece, d ≠ '&' ∧ d ≠ '<' ∧ d ≠ '>' ∧ d ≠ '\r' := by
    intro d hd
    simpa [isRaw] using hraw d hd
  have hsize : pieceLength (c :: piece ++ rest) = (c :: piece).length := by
    have htake := takeWhile_append_of_stop hpiece hrest
    unfold pieceLength
    split
    · rename_i heq
      exact absurd (List.cons.inj heq).1 (hmarks c mem_cons_self).2.2.2
    · rename_i heq
      rw [← (List.cons.inj heq).1]
      unfold goesOn at htake
      split
      · rename_i hplain
        rw [if_pos hplain] at htake
        rw [htake]
      · rename_i hplain
        rw [if_neg hplain] at htake
        rw [htake]
    · rename_i heq
      simp at heq
  have hclosing : hasInfix [']', ']', '>'] (c :: piece) = false :=
    hasInfix_eq_false (by decide) fun hmem => (hmarks _ hmem).2.2.1 rfl
  unfold readToken
  split
  · rename_i heq
    exact absurd (List.cons.inj heq).1 (hmarks c mem_cons_self).2.1
  · rename_i heq
    exact absurd (List.cons.inj heq).1 (hmarks c mem_cons_self).1
  · simp only [hsize, take_left, drop_left, hclosing]
    rw [unifyNewlines_of_not_mem fun hmem => (hmarks _ hmem).2.2.2 rfl]
    rfl

/-- What follows text inside text is a reference or another character. -/
theorem followOf_text {content : List Char} (h : content ≠ []) (tail : List Char) :
    followOf (content.flatMap escapeTextChar ++ tail) = .reference ∨
      followOf (content.flatMap escapeTextChar ++ tail) = .other := by
  cases content with
  | nil => exact absurd rfl h
  | cons c content =>
    cases hraw : isRaw c with
    | false =>
      obtain ⟨body, -, hescape⟩ := escapeTextChar_of_not_isRaw hraw
      rw [flatMap_cons, hescape]
      exact .inl rfl
    | true =>
      have hmarks : c ≠ '&' ∧ c ≠ '<' ∧ c ≠ '>' ∧ c ≠ '\r' := by simpa [isRaw] using hraw
      rw [flatMap_cons, escapeTextChar_of_isRaw hraw]
      unfold followOf
      split <;> simp_all

def Draft.opened (draft : Draft) (frame : Frame) : Draft := { draft with frames := frame :: draft.frames }

theorem reads_reference (hraw : isRaw c = false) (draft : Draft) (frame : Frame) (text : List Char) :
    Reads (draft.opened frame) (escapeTextChar c ++ text) (draft.opened (frame.addText [c])) text := by
  obtain ⟨body, hbody, hescape⟩ := escapeTextChar_of_not_isRaw hraw
  have htext : escapeTextChar c ++ text = '&' :: (body ++ ';' :: text) := by simp [hescape]
  have htoken : readToken .editing ('&' :: (body ++ ';' :: text)) = some (.reference c, text) := by
    simp only [readToken, reference?_written hbody, Option.bind_eq_bind, Option.bind_some]
    simp
  rw [htext]
  refine .single htoken ?_ rfl
  simp only [length_cons, length_append]
  omega

/-- Text that starts with a raw character is taken into the open element up to the end of its first
piece. -/
theorem reads_piece (hc : isRaw c) (more : List Char) {tail : List Char} (htail : tail.head? = some '<')
    (draft : Draft) (frame : Frame) :
    ∃ piece rest, more = piece ++ rest ∧
      Reads (draft.opened frame) ((c :: more).flatMap escapeTextChar ++ tail)
        (draft.opened (frame.addPiece .editing (c :: piece)
          (followOf (rest.flatMap escapeTextChar ++ tail)))) (rest.flatMap escapeTextChar ++ tail) := by
  let inPiece : Char → Bool := fun d => isRaw d && goesOn c d
  have hmore : more = more.takeWhile inPiece ++ more.dropWhile inPiece := takeWhile_append_dropWhile.symm
  have hpiece : ∀ d ∈ more.takeWhile inPiece, isRaw d ∧ goesOn c d := by
    intro d hd
    simpa [inPiece] using mem_takeWhile_imp hd
  have hraw : ∀ d ∈ c :: more.takeWhile inPiece, isRaw d := forall_mem_cons.2 ⟨hc, fun d hd => (hpiece d hd).1⟩
  have hgoes : ∀ d ∈ c :: more.takeWhile inPiece, goesOn c d :=
    forall_mem_cons.2 ⟨goesOn_self hc, fun d hd => (hpiece d hd).2⟩
  have hstop : ((more.dropWhile inPiece).flatMap escapeTextChar ++ tail).head?.any (goesOn c) = false := by
    have hfirst := head?_dropWhile_not inPiece more
    cases hrest : more.dropWhile inPiece with
    | nil =>
      simp only [flatMap_nil, nil_append, htail, Option.any_some]
      exact not_goesOn_of_endsText (by decide) c
    | cons d rest =>
      have hd : inPiece d = false := by simpa [hrest] using hfirst
      cases hraw : isRaw d with
      | false =>
        obtain ⟨body, -, hescape⟩ := escapeTextChar_of_not_isRaw hraw
        simp only [flatMap_cons, hescape, cons_append, head?_cons, Option.any_some]
        exact not_goesOn_of_endsText (by decide) c
      | true =>
        simp only [flatMap_cons, escapeTextChar_of_isRaw hraw, cons_append, head?_cons, Option.any_some]
        simpa [inPiece, hraw] using hd
  have htext : (c :: more).flatMap escapeTextChar ++ tail =
      c :: more.takeWhile inPiece ++ ((more.dropWhile inPiece).flatMap escapeTextChar ++ tail) := by
    conv => lhs; rw [hmore]
    rw [← cons_append, flatMap_append, flatMap_escapeTextChar_of_isRaw hraw, append_assoc]
  refine ⟨more.takeWhile inPiece, more.dropWhile inPiece, hmore, ?_⟩
  rw [htext]
  refine .single (readToken_piece hraw hgoes hstop) ?_ rfl
  simp only [cons_append, length_cons, length_append]
  omega

/-- A piece of text is left out, which only happens to white space, or it is added as text. -/
theorem addPiece_cases (frame : Frame) (content : List Char) (follow : Follow) :
    (content.all isBlank ∧ frame.ignores follow ∧ frame.addPiece .editing content follow = frame) ∨
      ∃ spacing, frame.addPiece .editing content follow =
        { frame.addText content with spacing := spacing } := by
  unfold Frame.addPiece
  split
  · rename_i hblank
    simp only [beq_self_eq_true, Bool.true_and, Bool.and_eq_true] at hblank
    exact .inl ⟨hblank.1, hblank.2, rfl⟩
  · right
    simp only []
    split
    · exact ⟨_, rfl⟩
    · exact ⟨_, rfl⟩

theorem reads_more_text (draft : Draft) (tag : XmlTag) (older : List XmlNode) {tail : List Char}
    (htail : tail.head? = some '<') (earlier content : List Char) (spacing : Spacing) :
    ∃ spacing', Reads (draft.opened ⟨tag, .text earlier :: older, spacing⟩)
      (content.flatMap escapeTextChar ++ tail)
      (draft.opened ⟨tag, .text (earlier ++ content) :: older, spacing'⟩) tail := by
  match content with
  | [] => exact ⟨spacing, by simpa using Reads.refl _ _⟩
  | c :: more =>
    cases hraw : isRaw c with
    | false =>
      obtain ⟨spacing', hreads⟩ := reads_more_text draft tag older htail (earlier ++ [c]) more spacing
      refine ⟨spacing', ?_⟩
      rw [flatMap_cons, append_assoc, append_cons earlier c more]
      exact (reads_reference hraw draft _ _).trans hreads
    | true =>
      obtain ⟨piece, rest, hmore, hfirst⟩ := reads_piece hraw more htail draft ⟨tag, .text earlier :: older, spacing⟩
      -- White space beside text is kept.
      rcases addPiece_cases ⟨tag, .text earlier :: older, spacing⟩ (c :: piece)
        (followOf (rest.flatMap escapeTextChar ++ tail)) with ⟨-, hignores, -⟩ | ⟨middle, hpiece⟩
      · simp [Frame.ignores, isText] at hignores
      · rw [hpiece] at hfirst
        have hlength : rest.length < (c :: more).length := by
          rw [hmore, length_cons, length_append]
          omega
        obtain ⟨spacing', hreads⟩ := reads_more_text draft tag older htail (earlier ++ c :: piece) rest middle
        have hcontent : earlier ++ c :: more = earlier ++ c :: piece ++ rest := by simp [hmore]
        exact ⟨spacing', hcontent ▸ hfirst.trans hreads⟩
termination_by content.length

/-- Text behind other nodes is read back, but white space may be left out. -/
theorem reads_text (draft : Draft) (tag : XmlTag) (hchildren : children.head?.any isText = false)
    {tail : List Char} (htail : tail.head? = some '<') (content : List Char) (spacing : Spacing) :
    ∃ children' spacing', Reads (draft.opened ⟨tag, children, spacing⟩)
      (content.flatMap escapeTextChar ++ tail) (draft.opened ⟨tag, children', spacing'⟩) tail ∧
      (children' = .text content :: children ∨ content.all isBlank ∧ children' = children) := by
  have hadd : ∀ text : List Char, Frame.addText ⟨tag, children, spacing⟩ text =
      ⟨tag, .text text :: children, spacing⟩ := by
    intro text
    cases children with
    | nil => rfl
    | cons node children => cases node <;> simp_all [Frame.addText, Frame.add, isText]
  cases content with
  | nil => exact ⟨children, spacing, .refl _ _, .inr ⟨rfl, rfl⟩⟩
  | cons c more =>
    cases hraw : isRaw c with
    | false =>
      have hfirst := reads_reference hraw draft ⟨tag, children, spacing⟩ (more.flatMap escapeTextChar ++ tail)
      rw [hadd] at hfirst
      obtain ⟨spacing', hreads⟩ := reads_more_text draft tag children htail [c] more spacing
      refine ⟨.text (c :: more) :: children, spacing', ?_, .inl rfl⟩
      rw [flatMap_cons, append_assoc]
      exact hfirst.trans hreads
    | true =>
      obtain ⟨piece, rest, hmore, hfirst⟩ := reads_piece hraw more htail draft ⟨tag, children, spacing⟩
      rcases addPiece_cases ⟨tag, children, spacing⟩ (c :: piece)
        (followOf (rest.flatMap escapeTextChar ++ tail)) with ⟨hblank, hignores, hsame⟩ | ⟨middle, hpiece⟩
      · -- White space is only left out in front of markup, hence at the end of the text.
        have hrest : rest = [] := by
          by_contra hne
          rcases followOf_text hne tail with hfollow | hfollow <;>
            simp [Frame.ignores, hfollow] at hignores
        subst hrest
        rw [hsame] at hfirst
        refine ⟨children, spacing, hfirst, .inr ⟨?_, rfl⟩⟩
        simpa [hmore] using hblank
      · rw [hpiece, hadd] at hfirst
        obtain ⟨spacing', hreads⟩ := reads_more_text draft tag children htail (c :: piece) rest middle
        have hcontent : c :: more = c :: piece ++ rest := by simp [hmore]
        exact ⟨.text (c :: more) :: children, spacing', hcontent ▸ hfirst.trans hreads, .inl rfl⟩

/-! ## Nodes -/

/-- In an open element with some children, the last one first, the reader adds children that stand for some nodes,
but for white space. -/
def ReadsNodes (draft : Draft) (tag : XmlTag) (children : List XmlNode) (spacing : Spacing) (text tail : List Char)
    (nodes : List XmlNode) : Prop :=
  ∃ children' spacing', Reads (draft.opened ⟨tag, children, spacing⟩) text
      (draft.opened ⟨tag, children', spacing'⟩) tail ∧
    allStripped children'.reverse = allStripped children.reverse ++ allStripped nodes

/-- White space behind other nodes adds nothing but white space. -/
theorem reads_gap (draft : Draft) (tag : XmlTag) (hchildren : children.head?.any isText = false)
    {tail : List Char} (htail : tail.head? = some '<') {gap : List Char} (hgap : ∀ c ∈ gap, c = ' ' ∨ c = '\n')
    (spacing : Spacing) : ReadsNodes draft tag children spacing (gap ++ tail) tail [] := by
  have hraw : ∀ c ∈ gap, isRaw c := by
    intro c hc
    rcases hgap c hc with rfl | rfl <;> decide
  have hblank : gap.all isBlank := by
    rw [all_eq_true]
    intro c hc
    rcases hgap c hc with rfl | rfl <;> decide
  obtain ⟨children', spacing', hreads, hadded⟩ := reads_text draft tag hchildren htail gap spacing
  rw [flatMap_escapeTextChar_of_isRaw hraw] at hreads
  refine ⟨children', spacing', hreads, ?_⟩
  rcases hadded with rfl | ⟨-, rfl⟩
  · rw [reverse_cons, allStripped_append]
    simp [allStripped, isBlankText, hblank]
  · exact (append_nil _).symm

def Draft.put (draft : Draft) : XmlNode → Draft
  | .element tag children => draft.addElement tag children
  | node => draft.addNode node

theorem Draft.put_opened (draft : Draft) (frame : Frame) (node : XmlNode) :
    (draft.opened frame).put node = draft.opened (frame.add node) := by
  cases node <;> rfl

/-- Whether there is room for a node: outside the root there is for one element only. -/
def Draft.HasRoom (draft : Draft) (node : XmlNode) : Prop :=
  draft.frames = [] → ∀ tag children, node = .element tag children → draft.root = none

theorem Draft.hasRoom_opened (draft : Draft) (frame : Frame) (node : XmlNode) :
    (draft.opened frame).HasRoom node := by
  intro h
  exact absurd h (cons_ne_nil _ _)

theorem gap_indent (level : Nat) : ∀ c ∈ '\n' :: indent level, c = ' ' ∨ c = '\n' := by
  intro c hc
  rcases mem_cons.1 hc with rfl | hc
  · exact .inr rfl
  · exact .inl (eq_of_mem_replicate hc)

theorem head?_writeNode (h : node.isText = false) (pretty : Bool) (level : Nat) (tail : List Char) :
    (writeNode pretty level node ++ tail).head? = some '<' := by
  cases node with
  | element tag children =>
    simp only [writeNode]
    split <;> rfl
  | text content => exact absurd h (by simp [isText])
  | comment content => rfl
  | instruction target content => rfl

theorem Draft.HasRoom.isFree (h : draft.HasRoom (.element tag children)) :
    (draft.frames.isEmpty && draft.root.isSome) = false := by
  cases hframes : draft.frames with
  | nil => simp [h hframes tag children rfl]
  | cons frame frames => rfl

theorem reads_start (htag : RegularTag tag) (draft : Draft) (hroom : draft.HasRoom (.element tag children))
    (text : List Char) :
    ∃ spacing, Reads draft ('<' :: writeTag tag ++ ('>' :: text)) (draft.opened ⟨tag, [], spacing⟩) text := by
  have htoken := readToken_start htag (mem_cons_self : (['>'], false) ∈ _) text
  have htake : draft.take .editing (.start tag false) =
      some (draft.opened ⟨tag, [], spacingOf (draft.frames.head?.map Frame.spacing) tag⟩) := by
    simp [Draft.take, hroom.isFree, Draft.opened]
  refine ⟨_, .single htoken ?_ htake⟩
  simp only [cons_append, length_cons, length_append]
  omega

theorem reads_empty (htag : RegularTag tag) (draft : Draft) (hroom : draft.HasRoom (.element tag []))
    (tail : List Char) :
    Reads draft ('<' :: writeTag tag ++ (['/', '>'] ++ tail)) (draft.put (.element tag [])) tail := by
  have htoken := readToken_start htag (mem_cons_of_mem _ mem_cons_self : (['/', '>'], true) ∈ _) tail
  have htake : draft.take .editing (.start tag true) = some (draft.put (.element tag [])) := by
    simp [Draft.take, hroom.isFree, Draft.put]
  refine .single htoken ?_ htake
  simp only [cons_append, length_cons, length_append]
  omega

/-- What is left of a text whose first part is the end of an element. -/
def closing (tag : XmlTag) (tail : List Char) : List Char := '<' :: '/' :: tag.name.render.toList ++ '>' :: tail

theorem reads_finish (htag : RegularTag tag) (draft : Draft) (children : List XmlNode) (spacing : Spacing)
    (tail : List Char) :
    Reads (draft.opened ⟨tag, children, spacing⟩) (closing tag tail) (draft.put (.element tag children.reverse)) tail := by
  refine .single (readToken_finish htag.name.written tail) ?_ ?_
  · simp only [closing, cons_append, length_cons, length_append]
    omega
  · simp [Draft.take, Draft.opened, Draft.put]

/-- The content of an element as it is written, with white space around it if there is any between its
nodes. -/
def writeContent (pretty : Bool) (level : Nat) (children : List XmlNode) : List Char :=
  if pretty && !children.any isText then
    '\n' :: (writeNodes true (level + 1) children ++ indent level)
  else writeNodes false (level + 1) children

theorem writeNodes_append (pretty : Bool) (level : Nat) (nodes more : List XmlNode) :
    writeNodes pretty level (nodes ++ more) = writeNodes pretty level nodes ++ writeNodes pretty level more := by
  induction nodes with
  | nil => rfl
  | cons node nodes ih => simp [writeNodes, ih]

theorem writeNode_eq (pretty : Bool) (level : Nat) (tag : XmlTag) (h : children.isEmpty = false) (tail : List Char) :
    writeNode pretty level (.element tag children) ++ tail =
      '<' :: writeTag tag ++ ('>' :: (writeContent pretty level children ++ closing tag tail)) := by
  simp only [writeNode, h, writeContent]
  cases hinner : pretty && !children.any isText <;> simp [closing]

/-- A node that is no text is added to the open element, and the nodes behind it are read. -/
theorem ReadsNodes.cons {children : List XmlNode} {spacing : Spacing} {tail : List Char}
    (hnode : ∃ node', node'.stripped = node.stripped ∧
      Reads (draft.opened ⟨tag, children, spacing⟩) text ((draft.opened ⟨tag, children, spacing⟩).put node') rest)
    (hkind : node.isText = false) (hrest : ∀ node' : XmlNode, node'.isText = false →
      ReadsNodes draft tag (node' :: children) spacing rest tail nodes) :
    ReadsNodes draft tag children spacing text tail (node :: nodes) := by
  obtain ⟨node', hsame, hfirst⟩ := hnode
  have hkind' : node'.isText = false := by
    rw [← node'.isText_stripped, hsame, node.isText_stripped, hkind]
  rw [Draft.put_opened] at hfirst
  obtain ⟨children', spacing', hreads, hstripped⟩ := hrest node' hkind'
  refine ⟨children', spacing', hfirst.trans hreads, ?_⟩
  rw [hstripped, allStripped_move hsame]

mutual

theorem reads_node (node : XmlNode) (hnode : RegularNode node) (hkind : node.isText = false) (pretty : Bool)
    (level : Nat) (draft : Draft) (hroom : draft.HasRoom node) (tail : List Char) :
    ∃ node', node'.stripped = node.stripped ∧
      Reads draft (writeNode pretty level node ++ tail) (draft.put node') tail := by
  cases node with
  | text content => exact absurd hkind (by simp [isText])
  | comment content =>
    refine ⟨.comment content, rfl, .single (readToken_comment hnode tail) ?_ rfl⟩
    simp [writeNode]
    omega
  | instruction target content =>
    refine ⟨.instruction target content, rfl, .single (readToken_instruction hnode tail) ?_ rfl⟩
    simp [writeNode]
    omega
  | element tag children =>
    obtain ⟨htag, hchildren⟩ := hnode
    cases hempty : children.isEmpty with
    | true =>
      obtain rfl := isEmpty_iff.1 hempty
      refine ⟨.element tag [], rfl, ?_⟩
      have htext : writeNode pretty level (.element tag []) ++ tail = '<' :: writeTag tag ++ (['/', '>'] ++ tail) := by
        simp [writeNode]
      rw [htext]
      exact reads_empty htag draft hroom tail
    | false =>
      obtain ⟨spacing, hstart⟩ := reads_start htag draft hroom
        (writeContent pretty level children ++ closing tag tail)
      obtain ⟨children', spacing', hcontent, hstripped⟩ : ReadsNodes draft tag [] spacing
          (writeContent pretty level children ++ closing tag tail) (closing tag tail) children := by
        unfold writeContent
        split
        · rename_i hinner
          simp only [Bool.and_eq_true, Bool.not_eq_true'] at hinner
          rw [cons_append, append_assoc]
          exact reads_lines children hchildren hinner.2 draft tag [] spacing rfl (level + 1) level rfl
        · exact reads_nodes children hchildren draft tag [] spacing (fun _ => rfl) (level + 1) rfl
      refine ⟨.element tag children'.reverse, ?_, ?_⟩
      · simp only [stripped, hstripped, reverse_nil, allStripped, nil_append]
      · rw [writeNode_eq pretty level tag hempty]
        exact (hstart.trans hcontent).trans (reads_finish htag draft children' spacing' tail)

/-- Nodes that are written without white space between them are read back. -/
theorem reads_nodes (nodes : List XmlNode) (hnodes : RegularNodes nodes) (draft : Draft) (tag : XmlTag)
    (children : List XmlNode) (spacing : Spacing)
    (happart : nodes.head?.any isText → children.head?.any isText = false)
    (level : Nat) {tail : List Char} (htail : tail.head? = some '<') :
    ReadsNodes draft tag children spacing (writeNodes false level nodes ++ tail) tail nodes := by
  cases nodes with
  | nil => exact ⟨children, spacing, .refl _ _, by simp [allStripped]⟩
  | cons node rest =>
    obtain ⟨hnode, hneighbour, hrest⟩ := hnodes
    have htext : writeNodes false level (node :: rest) ++ tail =
        writeNode false level node ++ (writeNodes false level rest ++ tail) := by
      simp [writeNodes]
    rw [htext]
    cases hkind : node.isText with
    | true =>
      obtain ⟨content, rfl⟩ : ∃ content, node = .text content := by
        cases node <;> simp_all [isText]
      -- What follows is markup, since texts are never neighbours.
      have hnext : (writeNodes false level rest ++ tail).head? = some '<' := by
        cases rest with
        | nil => exact htail
        | cons next rest =>
          have hother : next.isText = false := by simpa [hkind] using hneighbour
          have hsplit : writeNodes false level (next :: rest) ++ tail =
              writeNode false level next ++ (writeNodes false level rest ++ tail) := by
            simp [writeNodes]
          rw [hsplit]
          exact head?_writeNode hother false level _
      obtain ⟨children₁, spacing₁, hfirst, hadded⟩ :=
        reads_text draft tag (happart (by simp [isText])) hnext content spacing
      obtain ⟨children₂, spacing₂, hreads, hstripped⟩ :=
        reads_nodes rest hrest draft tag children₁ spacing₁
          (fun htext => absurd ⟨hkind, htext⟩ hneighbour) level htail
      refine ⟨children₂, spacing₂, hfirst.trans hreads, ?_⟩
      rw [hstripped]
      rcases hadded with rfl | ⟨hblank, rfl⟩
      · exact allStripped_move rfl children rest
      · simp [allStripped, isBlankText, hblank]
    | false =>
      exact .cons (reads_node node hnode hkind false level _ (draft.hasRoom_opened _ _) _) hkind fun node' hkind' =>
        reads_nodes rest hrest draft tag (node' :: children) spacing (fun _ => by simp [hkind']) level htail

theorem reads_lines (nodes : List XmlNode) (hnodes : RegularNodes nodes)
    (hkinds : nodes.any isText = false) (draft : Draft) (tag : XmlTag) (children : List XmlNode) (spacing : Spacing)
    (hchildren : children.head?.any isText = false)
    (level last : Nat) {tail : List Char} (htail : tail.head? = some '<') :
    ReadsNodes draft tag children spacing ('\n' :: (writeNodes true level nodes ++ (indent last ++ tail))) tail nodes := by
  cases nodes with
  | nil => exact reads_gap draft tag hchildren htail (gap_indent last) spacing
  | cons node rest =>
    obtain ⟨hnode, -, hrest⟩ := hnodes
    simp only [any_cons, Bool.or_eq_false_iff] at hkinds
    obtain ⟨hkind, hkinds⟩ := hkinds
    have htext : '\n' :: (writeNodes true level (node :: rest) ++ (indent last ++ tail)) =
        '\n' :: indent level ++ (writeNode true level node ++
          ('\n' :: (writeNodes true level rest ++ (indent last ++ tail)))) := by
      simp [writeNodes]
    rw [htext]
    obtain ⟨children₁, spacing₁, hgap, hstripped₁⟩ :=
      reads_gap draft tag hchildren (head?_writeNode hkind true level _) (gap_indent level) spacing
    obtain ⟨children', spacing', hreads, hstripped⟩ : ReadsNodes draft tag children₁ spacing₁ _ tail (node :: rest) :=
      .cons (reads_node node hnode hkind true level _ (draft.hasRoom_opened _ _) _) hkind fun node' hkind' =>
        reads_lines rest hrest hkinds draft tag (node' :: children₁) spacing₁ (by simp [hkind']) level last htail
    refine ⟨children', spacing', hgap.trans hreads, ?_⟩
    rw [hstripped, hstripped₁, allStripped, append_nil]

end

/-- The content of an element can be read up to any of its nodes, whatever that node is. -/
theorem reads_until (hnodes : RegularNodes nodes) (hkind : node.isText = false) (later : List XmlNode) (pretty : Bool)
    (level : Nat) (draft : Draft) (tag : XmlTag) (spacing : Spacing) (tail : List Char) :
    ∃ inner frame rest, Reads (draft.opened ⟨tag, [], spacing⟩)
      (writeContent pretty level (nodes ++ node :: later) ++ tail) (draft.opened frame)
      (writeNode inner (level + 1) node ++ rest) := by
  unfold writeContent
  split
  · rename_i hlines
    have hkinds : nodes.any isText = false := by
      simp only [Bool.and_eq_true, Bool.not_eq_true', any_append, Bool.or_eq_false_iff] at hlines
      exact hlines.2.1
    have htext : '\n' :: (writeNodes true (level + 1) (nodes ++ node :: later) ++ indent level) ++ tail =
        '\n' :: (writeNodes true (level + 1) nodes ++ (indent (level + 1) ++
          (writeNode true (level + 1) node ++
            ('\n' :: (writeNodes true (level + 1) later ++ indent level ++ tail))))) := by
      simp [writeNodes_append, writeNodes]
    obtain ⟨children', spacing', hreads, -⟩ :=
      reads_lines nodes hnodes hkinds draft tag [] spacing rfl (level + 1) (level + 1)
        (head?_writeNode hkind true (level + 1) _)
    rw [htext]
    exact ⟨true, _, _, hreads⟩
  · have htext : writeNodes false (level + 1) (nodes ++ node :: later) ++ tail =
        writeNodes false (level + 1) nodes ++
          (writeNode false (level + 1) node ++ (writeNodes false (level + 1) later ++ tail)) := by
      simp [writeNodes_append, writeNodes]
    obtain ⟨children', spacing', hreads, -⟩ :=
      reads_nodes nodes hnodes draft tag [] spacing (fun _ => rfl) (level + 1)
        (head?_writeNode hkind false (level + 1) _)
    rw [htext]
    exact ⟨false, _, _, hreads⟩

theorem reads_inside (htag : RegularTag tag) (hnodes : RegularNodes nodes) (hkind : node.isText = false)
    (later : List XmlNode) (pretty : Bool) (level : Nat) (draft : Draft)
    (hroom : draft.HasRoom (.element tag (nodes ++ node :: later))) (tail : List Char) :
    ∃ inner frame rest, Reads draft
      (writeNode pretty level (.element tag (nodes ++ node :: later)) ++ tail) (draft.opened frame)
      (writeNode inner (level + 1) node ++ rest) := by
  obtain ⟨spacing, hstart⟩ := reads_start htag draft hroom
    (writeContent pretty level (nodes ++ node :: later) ++ closing tag tail)
  obtain ⟨inner, frame, rest, huntil⟩ :=
    reads_until hnodes hkind later pretty level draft tag spacing (closing tag tail)
  rw [writeNode_eq pretty level tag (by simp)]
  exact ⟨inner, frame, rest, hstart.trans huntil⟩

end Xml

end StudioMigration
