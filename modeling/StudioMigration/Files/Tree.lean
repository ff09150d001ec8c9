import StudioMigration.Files.Path
import StudioMigration.Text.Utf8

/-!
# File trees

A tree maps locations to entries. It is kept as a list in walking order: in every directory the
entries come first, by name, and then the contents of the sub-directories, by name. A search below a
directory is therefore a filter on the list.

Main statements: `Tree.get?_insert` says what a look-up finds after an entry was put.
-/

namespace StudioMigration

open StudioMigration.Text.Utf8 (Bytes)

/-- A place in a tree: the names from the top down. -/
abbrev Location := List String

inductive Entry where
  | directory
  | file (bytes : Bytes)
  /-- A device that can be opened for writing but takes no data. -/
  | fullDevice
  deriving DecidableEq, Repr

def Entry.isDirectory : Entry → Bool
  | .directory => true
  | _ => false

def Entry.isFile : Entry → Bool
  | .file _ => true
  | _ => false

/-! ## Walking order -/

/-- Walking order: names of one directory are compared, and whatever stands in a directory comes
before everything that lies deeper. -/
def walkBefore : Location → Location → Bool
  | [], q => !q.isEmpty
  | _ :: _, [] => false
  | [a], [b] => a < b
  | [_], _ :: _ :: _ => true
  | _ :: _ :: _, [_] => false
  | a :: a' :: p, b :: b' :: q => if a = b then walkBefore (a' :: p) (b' :: q) else a < b

theorem walkBefore_trans {p q r : Location} (hpq : walkBefore p q = true)
    (hqr : walkBefore q r = true) : walkBefore p r = true := by
  fun_induction walkBefore p q generalizing r with
  | case1 q =>
    cases r with
    | nil => cases q <;> simp_all [walkBefore]
    | cons => simp [walkBefore]
  | case2 => simp at hpq
  | case3 a b =>
    match r, hqr with
    | [c], h =>
      simp only [walkBefore, decide_eq_true_eq] at hpq h ⊢
      exact String.lt_trans hpq h
    | _ :: _ :: _, _ => simp [walkBefore]
    | [], h => simp [walkBefore] at h
  | case4 a b b' q =>
    match r, hqr with
    | [c], h => simp [walkBefore] at h
    | _ :: _ :: _, _ => simp [walkBefore]
    | [], h => simp [walkBefore] at h
  | case5 => simp at hpq
  | case6 a' p a b' q ih =>
    match r, hqr with
    | [c], h => simp [walkBefore] at h
    | [], h => simp [walkBefore] at h
    | c :: c' :: r, h =>
      simp only [walkBefore] at h ⊢
      split at h
      · rename_i hac
        subst hac
        simpa using ih hpq h
      · rename_i hac
        simp only [hac, if_false]
        exact h
  | case7 a a' p b b' q hab =>
    match r, hqr with
    | [c], h => simp [walkBefore] at h
    | [], h => simp [walkBefore] at h
    | c :: c' :: r, h =>
      simp only [walkBefore] at h ⊢
      simp only [decide_eq_true_eq] at hpq
      split at h
      · rename_i hbc
        subst hbc
        simp only [hab, if_false, decide_eq_true_eq]
        exact hpq
      · simp only [decide_eq_true_eq] at h
        have hac := String.lt_trans hpq h
        have hne : a ≠ c := by
          rintro rfl
          exact String.lt_irrefl _ hac
        simp only [hne, if_false, decide_eq_true_eq]
        exact hac

theorem walkBefore_irrefl (p : Location) : walkBefore p p = false := by
  induction p with
  | nil => simp [walkBefore]
  | cons a p ih =>
    cases p with
    | nil => simp [walkBefore]
    | cons a' p => simpa [walkBefore] using ih

theorem walkBefore_total {p q : Location} (hne : p ≠ q) (h : walkBefore p q = false) : walkBefore q p = true := by
  fun_induction walkBefore p q with
  | case1 q => cases q <;> simp_all
  | case2 => simp [walkBefore]
  | case3 a b =>
    simp only [walkBefore, decide_eq_true_eq, decide_eq_false_iff_not] at h ⊢
    by_cases hlt : b < a
    · exact hlt
    · exact absurd (by rw [String.le_antisymm (String.not_lt.1 hlt) (String.not_lt.1 h)]) hne
  | case4 => simp at h
  | case5 => simp [walkBefore]
  | case6 a' p a b' q ih =>
    simp only [walkBefore, if_true]
    exact ih (by simpa using hne) h
  | case7 a a' p b b' q hab =>
    simp only [walkBefore, decide_eq_false_iff_not] at h ⊢
    simp only [Ne.symm hab, if_false, decide_eq_true_eq]
    by_cases hlt : b < a
    · exact hlt
    · exact absurd (String.le_antisymm (String.not_lt.1 hlt) (String.not_lt.1 h)) hab

/-! ## Trees -/

/-- Entries in strict walking order. -/
def Walked (entries : List (Location × Entry)) : Prop :=
  entries.Pairwise fun a b => walkBefore a.1 b.1 = true

/-- A file tree. The top directory is always there and is not listed. -/
structure Tree where
  entries : List (Location × Entry)
  walked : Walked entries

/-- Puts an entry into a list in walking order, in place of one at the same location. -/
def putEntry (location : Location) (entry : Entry) :
    List (Location × Entry) → List (Location × Entry)
  | [] => [(location, entry)]
  | (other, found) :: rest =>
    if other = location then (location, entry) :: rest
    else if walkBefore location other then (location, entry) :: (other, found) :: rest
    else (other, found) :: putEntry location entry rest

theorem mem_putEntry {location : Location} {entry : Entry} {x : Location × Entry}
    {entries : List (Location × Entry)} (h : x ∈ putEntry location entry entries) :
    x = (location, entry) ∨ x ∈ entries := by
  induction entries with
  | nil => simpa [putEntry] using h
  | cons y rest ih =>
    simp only [putEntry] at h
    split at h
    · rcases List.mem_cons.1 h with h | h
      · exact .inl h
      · exact .inr (List.mem_cons_of_mem _ h)
    · split at h
      · rcases List.mem_cons.1 h with h | h
        · exact .inl h
        · exact .inr h
      · rcases List.mem_cons.1 h with h | h
        · exact .inr (h ▸ List.mem_cons_self)
        · exact (ih h).imp id (List.mem_cons_of_mem _)

theorem walked_putEntry (location : Location) (entry : Entry) {entries : List (Location × Entry)}
    (h : Walked entries) : Walked (putEntry location entry entries) := by
  induction entries with
  | nil => simp [putEntry, Walked]
  | cons x rest ih =>
    have hx := List.pairwise_cons.1 h
    simp only [putEntry]
    split
    · rename_i heq
      exact List.pairwise_cons.2 ⟨fun y hy => heq ▸ hx.1 y hy, hx.2⟩
    · rename_i hne
      split
      · rename_i hlt
        refine List.pairwise_cons.2 ⟨fun y hy => ?_, h⟩
        rcases List.mem_cons.1 hy with rfl | hy
        · exact hlt
        · exact walkBefore_trans hlt (hx.1 y hy)
      · rename_i hnlt
        refine List.pairwise_cons.2 ⟨fun y hy => ?_, ih hx.2⟩
        rcases mem_putEntry hy with rfl | hy
        · exact walkBefore_total (Ne.symm hne) (by simpa using hnlt)
        · exact hx.1 y hy

namespace Tree

def empty : Tree := ⟨[], List.Pairwise.nil⟩

instance : Inhabited Tree := ⟨empty⟩

variable (tree : Tree) (location : Location)

def get? : Option Entry :=
  if location = [] then some .directory
  else (tree.entries.find? fun x => x.1 = location).map (·.2)

def insert (entry : Entry) : Tree :=
  ⟨putEntry location entry tree.entries, walked_putEntry location entry tree.walked⟩

def erase : Tree :=
  ⟨tree.entries.filter fun x => !location.isPrefixOf x.1, tree.walked.filter _⟩

def isDirectory (tree : Tree) (location : Location) : Bool :=
  (tree.get? location).any Entry.isDirectory

/-- Puts a directory at a location and at every location above it where nothing stands yet. -/
def insertDirectories : Tree :=
  (List.range location.length).foldl (fun t n =>
    let here := location.take (n + 1)
    if (t.get? here).isSome then t else t.insert here .directory) tree

/-- The names and entries that stand directly in a directory, by name. -/
def children : List (String × Entry) :=
  tree.entries.filterMap fun x =>
    match x.1.getLast? with
    | some name => if x.1.dropLast = location then some (name, x.2) else none
    | none => none

/-- Everything below a directory with its location seen from there, in walking order. -/
def below : List (Location × Entry) :=
  tree.entries.filterMap fun x =>
    if location.isPrefixOf x.1 && location.length < x.1.length then
      some (x.1.drop location.length, x.2)
    else none

end Tree

theorem find?_putEntry_self (location : Location) (entry : Entry) (entries : List (Location × Entry)) :
    ((putEntry location entry entries).find? fun x => x.1 = location) = some (location, entry) := by
  induction entries with
  | nil => simp [putEntry]
  | cons x rest ih =>
    simp only [putEntry]
    split
    · simp
    · rename_i hne
      split
      · simp
      · simp [hne, ih]

theorem find?_putEntry_of_ne {location other : Location} (entry : Entry) (hne : other ≠ location)
    (entries : List (Location × Entry)) :
    ((putEntry location entry entries).find? fun x => x.1 = other) =
      entries.find? fun x => x.1 = other := by
  induction entries with
  | nil => simp [putEntry, Ne.symm hne]
  | cons x rest ih =>
    simp only [putEntry]
    split
    · rename_i heq
      have : x.1 ≠ other := heq ▸ Ne.symm hne
      simp [this, Ne.symm hne]
    · split
      · simp [List.find?_cons, Ne.symm hne]
      · simp only [List.find?_cons, ih]

/-- After an entry was put at a location, it is found there, and every other location is as
before. -/
theorem Tree.get?_insert (tree : Tree) {location : Location} (h : location ≠ []) (entry : Entry) (other : Location) :
    (tree.insert location entry).get? other =
      if other = location then some entry else tree.get? other := by
  unfold Tree.get? Tree.insert
  by_cases hother : other = location
  · subst hother
    simp [h, find?_putEntry_self]
  · simp [hother, find?_putEntry_of_ne entry hother]

end StudioMigration
