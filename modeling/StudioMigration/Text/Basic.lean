import StudioMigration.Text.CharClass

/-!
# Operations on texts

A text is a `List Char`. This module has the operations that do not depend on letter case or on an
encoding: searching and replacing a literal piece, splitting, trimming and line ends.
-/

namespace StudioMigration.Text

/-! ## Literal pieces -/

def hasInfix (piece : List Char) : List Char → Bool
  | [] => piece.isEmpty
  | c :: rest => piece.isPrefixOf (c :: rest) || hasInfix piece rest

def occursIn (piece s : String) : Bool := hasInfix piece.toList s.toList

/-- Replacing with `skip` characters of an occurrence still to be passed over. -/
def replaceFrom (old new : List Char) : Nat → List Char → List Char
  | _, [] => []
  | skip + 1, _ :: rest => replaceFrom old new skip rest
  | 0, c :: rest =>
    if old.isPrefixOf (c :: rest) then new ++ replaceFrom old new (old.length - 1) rest
    else c :: replaceFrom old new 0 rest

/-- Replaces every occurrence of `old`, from left to right and without overlaps. The empty piece
occurs before every character and at the end. -/
def replaceAll (old new : List Char) (text : List Char) : List Char :=
  if old.isEmpty then text.foldr (fun c rest => new ++ c :: rest) new
  else replaceFrom old new 0 text

/-- Counting with `skip` characters of an occurrence still to be passed over. -/
def countFrom (piece : List Char) : Nat → List Char → Nat
  | _, [] => 0
  | skip + 1, _ :: rest => countFrom piece skip rest
  | 0, c :: rest =>
    if piece.isPrefixOf (c :: rest) then 1 + countFrom piece (piece.length - 1) rest
    else countFrom piece 0 rest

/-- The number of occurrences of `piece`, from left to right and without overlaps. -/
def countOf (piece : List Char) (text : List Char) : Nat :=
  if piece.isEmpty then text.length + 1 else countFrom piece 0 text

def replaceString (old new s : String) : String :=
  String.ofList (replaceAll old.toList new.toList s.toList)

/-! ## Splitting and joining -/

/-- Splits at every character that `isBreak` accepts. The result has at least one piece. -/
def splitWhere (isBreak : Char → Bool) : List Char → List (List Char)
  | [] => [[]]
  | c :: rest =>
    if isBreak c then [] :: splitWhere isBreak rest
    else
      match splitWhere isBreak rest with
      | [] => [[c]]
      | piece :: pieces => (c :: piece) :: pieces

variable (text : List Char)

/-- What the words of a text stand for. A word with slashes stands for several: for what is before the first slash,
followed by each of the endings behind it. -/
def variantsOf : List (List Char) :=
  ((splitWhere isSpace text).filter (!·.isEmpty)).flatMap fun word =>
    match splitWhere (· == '/') word with
    | stem :: ending :: endings => (ending :: endings).map (stem ++ ·)
    | whole => whole

def variants (s : String) : List String := (variantsOf s.toList).map String.ofList

def joinWith (separator : List Char) : List (List Char) → List Char
  | [] => []
  | [piece] => piece
  | piece :: pieces => piece ++ separator ++ joinWith separator pieces

def joinStrings (separator : String) (pieces : List String) : String :=
  String.ofList (joinWith separator.toList (pieces.map String.toList))

def repeated (n : Nat) (s : String) : String := String.join (List.replicate n s)

/-! ## Trimming and padding -/

def trimWhere (drop : Char → Bool) (text : List Char) : List Char :=
  ((text.dropWhile drop).reverse.dropWhile drop).reverse

def trimEndWhere (drop : Char → Bool) (text : List Char) : List Char :=
  (text.reverse.dropWhile drop).reverse

def trim : List Char := trimWhere isSpace text

def trimString (s : String) : String := String.ofList (trim s.toList)

/-- Right-aligns a text in a field of the given width. -/
def padLeft (width : Nat) (text : List Char) : List Char :=
  List.replicate (width - text.length) ' ' ++ text

/-! ## Lines -/

/-- Reads a carriage return, alone or before a line feed, as one line feed. -/
def unifyNewlines : List Char → List Char
  | [] => []
  | '\r' :: '\n' :: rest => '\n' :: unifyNewlines rest
  | '\r' :: rest => '\n' :: unifyNewlines rest
  | c :: rest => c :: unifyNewlines rest

def isLineBreak (c : Char) : Bool :=
  let n := c.toNat
  (10 ≤ n && n ≤ 13) || (0x1C ≤ n && n ≤ 0x1E) || n == 0x85 || n == 0x2028 || n == 0x2029

/-- Reads a carriage return before a line feed as part of one line end. -/
def joinReturnFeed : List Char → List Char
  | [] => []
  | '\r' :: '\n' :: rest => '\n' :: joinReturnFeed rest
  | c :: rest => c :: joinReturnFeed rest

/-- The lines of a text without their line ends. A line end at the very end of the text opens no
further line. -/
def lines : List (List Char) :=
  let pieces := splitWhere isLineBreak (joinReturnFeed text)
  if pieces.getLast? == some [] then pieces.dropLast else pieces

/-! ## Small laws -/

theorem splitWhere_ne_nil (isBreak : Char → Bool) (text : List Char) : splitWhere isBreak text ≠ [] := by
  cases text with
  | nil => simp [splitWhere]
  | cons c rest =>
    simp only [splitWhere]
    split
    · simp
    · split <;> simp

/-- No carriage return is left once line ends are unified. -/
theorem not_mem_unifyNewlines : '\r' ∉ unifyNewlines text := by
  fun_induction unifyNewlines text with
  | case1 => simp
  | case2 rest ih => simp [ih]
  | case3 rest _ ih => simp [ih]
  | case4 c rest _ hc ih => simp [ih, Ne.symm hc]

end StudioMigration.Text
