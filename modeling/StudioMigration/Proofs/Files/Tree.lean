import Mathlib.Data.List.Induction
import StudioMigration.Files.Workspace

/-!
# Sound file trees

A tree is sound if its locations are made of proper file names and everything in it stands in a directory.
Every tree of a file system is sound; a tree as a list of locations need not be.

* `Tree.get?_eq_some_iff` ties the look-up to the list of entries.
* `Tree.Sound.insert` says which insertions keep a tree sound.
* `Tree.Sound.follow_eq` says that the steps to something in a sound tree lead to it.
* `Tree.follow_mono` says that steps lead to the same place as long as the directories are still there.
-/

namespace StudioMigration

open List
open Text.Utf8 (byteLength)

/-! ## Proper names -/

/-- Whether a string can be the name of a file. -/
structure IsFileName (name : String) : Prop where
  ne_empty : name ≠ ""
  ne_dot : name ≠ "."
  ne_dots : name ≠ ".."
  no_slash : '/' ∉ name.toList
  no_null : hasNull name = false
  short : byteLength name ≤ maxPartLength

instance (name : String) : Decidable (IsFileName name) :=
  decidable_of_iff (name ≠ "" ∧ name ≠ "." ∧ name ≠ ".." ∧ '/' ∉ name.toList ∧ hasNull name = false ∧
      byteLength name ≤ maxPartLength)
    ⟨fun ⟨h₁, h₂, h₃, h₄, h₅, h₆⟩ => ⟨h₁, h₂, h₃, h₄, h₅, h₆⟩,
      fun ⟨h₁, h₂, h₃, h₄, h₅, h₆⟩ => ⟨h₁, h₂, h₃, h₄, h₅, h₆⟩⟩

namespace Tree

variable {loc names : Location} {entry : Entry} {name : String} {tree' tree : Tree}

/-! ## Looking up -/

/-- In walking order no location occurs twice, so that the look-up finds every entry. -/
theorem find?_of_walked {entries : List (Location × Entry)} (hwalked : Walked entries)
    (hmem : (loc, entry) ∈ entries) : (entries.find? fun x => x.1 = loc) = some (loc, entry) := by
  induction entries with
  | nil => exact absurd hmem not_mem_nil
  | cons x rest ih =>
    obtain ⟨hfirst, hrest⟩ := pairwise_cons.1 hwalked
    rcases mem_cons.1 hmem with rfl | hmem
    · simp
    · have hne : x.1 ≠ loc := by
        intro heq
        have hbefore := hfirst _ hmem
        rw [heq, walkBefore_irrefl] at hbefore
        exact absurd hbefore Bool.false_ne_true
      simpa [hne] using ih hrest hmem

@[simp] theorem get?_nil (tree : Tree) : tree.get? [] = some .directory := by
  simp [get?]

theorem get?_eq_some_iff (tree : Tree) (h : loc ≠ []) : tree.get? loc = some entry ↔ (loc, entry) ∈ tree.entries := by
  simp only [get?, h, if_false, Option.map_eq_some_iff]
  constructor
  · rintro ⟨⟨found, _⟩, hfind, rfl⟩
    have hfound : found = loc := by simpa using find?_some hfind
    subst hfound
    exact mem_of_find?_eq_some hfind
  · intro hmem
    exact ⟨_, find?_of_walked tree.walked hmem, rfl⟩

theorem isDirectory_iff (tree : Tree) (loc : Location) : tree.isDirectory loc ↔ tree.get? loc = some .directory := by
  unfold isDirectory
  rcases tree.get? loc with _ | (_ | _ | _) <;> simp [Entry.isDirectory]

theorem ne_nil_of_get? (hget : tree.get? loc = some entry) (hentry : entry ≠ .directory) : loc ≠ [] := by
  rintro rfl
  simp [Ne.symm hentry] at hget

theorem mem_below_iff (tree : Tree) (loc : Location) :
    (names, entry) ∈ tree.below loc ↔ names ≠ [] ∧ tree.get? (loc ++ names) = some entry := by
  simp only [below, mem_filterMap]
  constructor
  · rintro ⟨⟨found, _⟩, hmem, hif⟩
    split at hif
    · rename_i hbelow
      simp only [Bool.and_eq_true, isPrefixOf_iff_prefix, decide_eq_true_eq] at hbelow
      obtain ⟨⟨more, rfl⟩, hlength⟩ := hbelow
      simp only [drop_left, Option.some.injEq, Prod.mk.injEq] at hif
      obtain ⟨rfl, rfl⟩ := hif
      have hmore : more ≠ [] := by
        rintro rfl
        simp at hlength
      exact ⟨hmore, (tree.get?_eq_some_iff (by simp [hmore])).2 hmem⟩
    · simp at hif
  · rintro ⟨hne, hget⟩
    refine ⟨(loc ++ names, entry), (tree.get?_eq_some_iff (by simp [hne])).1 hget, ?_⟩
    have hlength : 0 < names.length := length_pos_iff.2 hne
    simp [hlength]

/-- Nothing is listed twice below a directory. -/
theorem pairwise_below (tree : Tree) (loc : Location) : (tree.below loc).Pairwise fun x y => x.1 ≠ y.1 := by
  unfold below
  rw [pairwise_filterMap]
  refine tree.walked.imp ?_
  intro a b hbefore x hx y hy heq
  have hshape : ∀ {a x : Location × Entry}, (if loc.isPrefixOf a.1 && loc.length < a.1.length then
      some (a.1.drop loc.length, a.2) else none) = some x → a.1 = loc ++ x.1 := by
    intro a x hx
    split at hx
    · rename_i hbelow
      simp only [Bool.and_eq_true, isPrefixOf_iff_prefix, decide_eq_true_eq] at hbelow
      obtain ⟨more, hmore⟩ := hbelow.1
      cases hx
      simp [← hmore]
    · simp at hx
  rw [hshape hx, hshape hy, heq, walkBefore_irrefl] at hbefore
  exact absurd hbefore Bool.false_ne_true

/-- What lies below a directory among everything there is. -/
theorem below_eq_filterMap (tree : Tree) (loc : Location) :
    tree.below loc = (tree.below []).filterMap fun x =>
      if loc.isPrefixOf x.1 && loc.length < x.1.length then
        some (x.1.drop loc.length, x.2)
      else none := by
  unfold below
  rw [filterMap_filterMap]
  congr 1
  funext x
  by_cases hx : x.1 = []
  · simp [hx]
  · have hpos : 0 < x.1.length := length_pos_iff.2 hx
    simp [hpos]

theorem mem_children_iff (tree : Tree) (loc : Location) :
    (name, entry) ∈ tree.children loc ↔ tree.get? (loc ++ [name]) = some entry := by
  rw [tree.get?_eq_some_iff (by simp)]
  simp only [children, mem_filterMap]
  constructor
  · rintro ⟨⟨found, _⟩, hmem, hmatch⟩
    rcases eq_nil_or_concat found with rfl | ⟨above, last, rfl⟩
    · simp at hmatch
    · simp only [concat_eq_append, getLast?_append, getLast?_singleton,
        Option.some_or, dropLast_concat, Option.ite_none_right_eq_some, Option.some.injEq,
        Prod.mk.injEq] at hmatch hmem
      obtain ⟨rfl, rfl, rfl⟩ := hmatch
      exact hmem
  · intro hmem
    exact ⟨_, hmem, by simp⟩

theorem walkBefore_concat (loc : Location) (a b : String) :
    walkBefore (loc ++ [a]) (loc ++ [b]) = decide (a < b) := by
  induction loc with
  | nil => simp [walkBefore]
  | cons step loc ih =>
    cases loc with
    | nil => simp [walkBefore]
    | cons next loc => simpa [walkBefore] using ih

theorem pairwise_children (tree : Tree) (loc : Location) : (tree.children loc).Pairwise fun x y => x.1 < y.1 := by
  unfold children
  rw [pairwise_filterMap]
  refine tree.walked.imp ?_
  intro a b hbefore x hx y hy
  have hlast : ∀ {place : Location} {name : String}, place.getLast? = some name → place.dropLast = loc →
      place = loc ++ [name] := by
    intro place name hname hdrop
    rcases eq_nil_or_concat place with rfl | ⟨above, last, rfl⟩
    · simp at hname
    · simp_all
  split at hx
  · rename_i name hname
    split at hy
    · rename_i other hother
      simp only [Option.ite_none_right_eq_some, Option.some.injEq] at hx hy
      obtain ⟨hdrop, rfl⟩ := hx
      obtain ⟨hdrop', rfl⟩ := hy
      rw [hlast hname hdrop, hlast hother hdrop', walkBefore_concat, decide_eq_true_eq] at hbefore
      exact hbefore
    · simp at hy
  · simp at hx

/-- Lists in order of their names are equal if they have the same members. -/
theorem eq_of_pairwise_lt {α : Type} (name : α → String) {xs ys : List α}
    (hxs : xs.Pairwise fun x y => name x < name y) (hys : ys.Pairwise fun x y => name x < name y)
    (h : ∀ x, x ∈ xs ↔ x ∈ ys) : xs = ys := by
  have hnodup : ∀ {zs : List α}, (zs.Pairwise fun x y => name x < name y) → zs.Nodup := by
    intro zs hzs
    refine hzs.imp fun hlt heq => ?_
    rw [heq] at hlt
    exact String.lt_irrefl _ hlt
  refine List.Perm.eq_of_pairwise (fun x y _ _ hxy hyx => ?_) hxs hys
    ((perm_ext_iff_of_nodup (hnodup hxs) (hnodup hys)).2 h)
  exact absurd (String.lt_trans hxy hyx) (String.lt_irrefl _)

/-- A directory is listed alike if the same stands in it. -/
theorem children_congr (h : ∀ name, tree'.get? (loc ++ [name]) = tree.get? (loc ++ [name])) :
    tree'.children loc = tree.children loc := by
  apply eq_of_pairwise_lt (·.1) (tree'.pairwise_children loc) (tree.pairwise_children loc)
  rintro ⟨name, entry⟩
  rw [mem_children_iff, mem_children_iff, h]

/-- The first accepted name in a directory depends on the accepted names only. -/
theorem find?_children_congr {accepts : String → Bool}
    (h : ∀ name, accepts name → tree'.get? (loc ++ [name]) = tree.get? (loc ++ [name])) :
    ((tree'.children loc).map (·.1)).find? accepts = ((tree.children loc).map (·.1)).find? accepts := by
  have hsorted : ∀ tree : Tree,
      (((tree.children loc).map (·.1)).filter accepts).Pairwise fun x y => x < y := fun tree =>
    (pairwise_map.2 (tree.pairwise_children loc)).filter _
  have hsame : ((tree'.children loc).map (·.1)).filter accepts =
      ((tree.children loc).map (·.1)).filter accepts := by
    apply eq_of_pairwise_lt id (hsorted tree') (hsorted tree)
    intro name
    simp only [mem_filter, mem_map, Prod.exists, exists_and_right, exists_eq_right, mem_children_iff]
    constructor
    · rintro ⟨⟨entry, hget⟩, haccepted⟩
      exact ⟨⟨entry, h name haccepted ▸ hget⟩, haccepted⟩
    · rintro ⟨⟨entry, hget⟩, haccepted⟩
      exact ⟨⟨entry, (h name haccepted).trans hget⟩, haccepted⟩
  rw [← head?_filter, hsame, head?_filter]

theorem pairwise_folders (tree : Tree) (loc : Location) :
    ((tree.children loc).filter (·.2.isDirectory)).Pairwise fun x y => x.1 ≠ y.1 := by
  refine ((tree.pairwise_children loc).imp fun hlt heq => ?_).filter _
  rw [heq] at hlt
  exact String.lt_irrefl _ hlt

theorem mem_folders_iff :
    (name, entry) ∈ (tree.children loc).filter (·.2.isDirectory) ↔
      tree.get? (loc ++ [name]) = some .directory ∧ entry = .directory := by
  rw [mem_filter, mem_children_iff]
  cases entry <;> simp [Entry.isDirectory]

/-! ## Soundness -/

/-- All locations are made of file names, and everything stands in a directory. -/
structure Sound (tree : Tree) : Prop where
  named : ∀ x ∈ tree.entries, ∀ name ∈ x.1, IsFileName name
  housed : ∀ x ∈ tree.entries, tree.get? x.1.dropLast = some .directory

instance (tree : Tree) : Decidable tree.Sound :=
  decidable_of_iff ((∀ x ∈ tree.entries, ∀ name ∈ x.1, IsFileName name) ∧
      ∀ x ∈ tree.entries, tree.get? x.1.dropLast = some .directory)
    ⟨fun ⟨h₁, h₂⟩ => ⟨h₁, h₂⟩, fun ⟨h₁, h₂⟩ => ⟨h₁, h₂⟩⟩

/-- Every directory of the first tree is one of the second. -/
def KeepsDirectories (tree tree' : Tree) : Prop :=
  ∀ loc, tree.get? loc = some .directory → tree'.get? loc = some .directory

namespace Sound

variable (h : tree.Sound)
include h

theorem isFileName (hget : tree.get? loc = some entry) (hname : name ∈ loc) : IsFileName name := by
  have hne : loc ≠ [] := ne_nil_of_mem hname
  exact h.named _ ((tree.get?_eq_some_iff hne).1 hget) name hname

theorem get?_dropLast (hget : tree.get? loc = some entry) : tree.get? loc.dropLast = some .directory := by
  by_cases hne : loc = []
  · simp [hne]
  · exact h.housed _ ((tree.get?_eq_some_iff hne).1 hget)

/-- Whatever something stands below is a directory. -/
theorem get?_above {names : Location} (hne : names ≠ []) (hget : tree.get? (loc ++ names) = some entry) :
    tree.get? loc = some .directory := by
  induction names using List.reverseRecOn generalizing entry with
  | nil => exact absurd rfl hne
  | append_singleton names name ih =>
    have habove := h.get?_dropLast hget
    rw [← append_assoc, dropLast_concat] at habove
    by_cases hnames : names = []
    · simpa [hnames] using habove
    · exact ih hnames habove

/-- A tree with nothing new in it and with all directories kept is still sound. -/
theorem of_keepsDirectories {tree' : Tree} (hkept : KeepsDirectories tree tree')
    (hold : ∀ loc, tree'.get? loc ≠ none → tree.get? loc ≠ none) : tree'.Sound := by
  have hentry : ∀ x ∈ tree'.entries, ∃ entry, tree.get? x.1 = some entry := by
    intro x hx
    by_cases hne : x.1 = []
    · exact ⟨.directory, by simp [hne]⟩
    · have hget : tree'.get? x.1 = some x.2 := (tree'.get?_eq_some_iff hne).2 hx
      exact Option.ne_none_iff_exists'.1 (hold x.1 (by simp [hget]))
  constructor
  · intro x hx name hname
    obtain ⟨entry, hget⟩ := hentry x hx
    exact h.isFileName hget hname
  · intro x hx
    obtain ⟨entry, hget⟩ := hentry x hx
    exact hkept _ (h.get?_dropLast hget)

/-- An entry may be put under a proper name into a directory, unless it hides a directory. -/
theorem insert (hname : IsFileName name) (hhouse : tree.get? loc = some .directory)
    (hkept : tree.get? (loc ++ [name]) = some .directory → entry = .directory) :
    (tree.insert (loc ++ [name]) entry).Sound := by
  have hdir : ∀ place, tree.get? place = some .directory →
      (tree.insert (loc ++ [name]) entry).get? place = some .directory := by
    intro place hplace
    rw [Tree.get?_insert tree (by simp)]
    split
    · rename_i heq
      rw [hkept (heq ▸ hplace)]
    · exact hplace
  constructor
  · intro x hx part hpart
    rcases mem_putEntry hx with rfl | hx
    · rcases mem_append.1 hpart with hpart | hpart
      · exact h.isFileName hhouse hpart
      · rw [mem_singleton.1 hpart]
        exact hname
    · exact h.named x hx part hpart
  · intro x hx
    apply hdir
    rcases mem_putEntry hx with rfl | hx
    · simpa using hhouse
    · exact h.housed x hx

end Sound

/-! ## Following steps -/

theorem follow_append (tree : Tree) (loc : Location) (steps more : List String) :
    tree.follow loc (steps ++ more) =
      (tree.follow loc steps).bind fun reached => tree.follow reached more := by
  induction steps generalizing loc with
  | nil => rfl
  | cons step steps ih =>
    simp only [cons_append, follow]
    rcases tree.get? loc with _ | (_ | _ | _)
    · rfl
    · simp only []
      split
      · exact ih _
      · split
        · exact ih _
        · split
          · rfl
          · exact ih _
    · rfl
    · rfl

theorem follow_name (tree : Tree) (hname : IsFileName name) (hget : tree.get? loc = some .directory) :
    tree.follow loc [name] = .ok (loc ++ [name]) := by
  have hshort := Nat.not_lt.2 hname.short
  simp [follow, hget, hname.ne_dot, hname.ne_dots, hshort]

/-- The steps to something in a sound tree lead to it. -/
theorem Sound.follow_eq (h : tree.Sound) (hget : tree.get? (loc ++ names) = some entry) :
    tree.follow loc names = .ok (loc ++ names) := by
  induction names generalizing loc with
  | nil => simp [follow]
  | cons name names ih =>
    have hhouse := h.get?_above (cons_ne_nil name names) hget
    have hname := h.isFileName hget (mem_append_right _ mem_cons_self)
    have hfirst := follow_append tree loc [name] names
    rw [follow_name tree hname hhouse] at hfirst
    rw [append_cons] at hget ⊢
    exact hfirst.trans (ih hget)

theorem follow_ne_nameTooLong (tree : Tree) (hnames : ∀ name ∈ names, IsFileName name) :
    tree.follow loc names ≠ .error .nameTooLong := by
  induction names generalizing loc with
  | nil => simp [follow]
  | cons name names ih =>
    have hname := hnames name mem_cons_self
    rw [forall_mem_cons] at hnames
    simp only [follow]
    rcases tree.get? loc with _ | (_ | _ | _)
    · simp
    · simp only [beq_iff_eq, hname.ne_dot, hname.ne_dots, if_false, Nat.not_lt.2 hname.short]
      exact ih hnames.2
    · simp
    · simp

/-- Where the directories are kept, steps that led somewhere still lead there. -/
theorem follow_mono (hkept : KeepsDirectories tree tree') {reached : Location} {steps : List String}
    (h : tree.follow loc steps = .ok reached) : tree'.follow loc steps = .ok reached := by
  induction steps generalizing loc with
  | nil => exact h
  | cons step steps ih =>
    simp only [follow] at h ⊢
    rcases hget : tree.get? loc with _ | (_ | _ | _)
    · simp [hget] at h
    · rw [hget] at h
      rw [hkept loc hget]
      simp only []
      split
      · rename_i hdot
        rw [if_pos hdot] at h
        exact ih h
      · rename_i hdot
        rw [if_neg hdot] at h
        split
        · rename_i hdots
          rw [if_pos hdots] at h
          exact ih h
        · rename_i hdots
          rw [if_neg hdots] at h
          split
          · rename_i hlong
            simp [hlong] at h
          · rename_i hshort
            rw [if_neg hshort] at h
            exact ih h
    · simp [hget] at h
    · simp [hget] at h

end Tree

end StudioMigration
