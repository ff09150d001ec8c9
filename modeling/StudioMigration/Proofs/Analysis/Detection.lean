import Mathlib.Data.List.Nodup
import Mathlib.Data.String.Basic
import StudioMigration.Analysis.FileDevice
import StudioMigration.Analysis.Hardware
import StudioMigration.Proofs.Analysis.Arrival
import StudioMigration.Proofs.Pattern.Written

/-!
# What scans report and what they leave out

Findings in hardware files are reported by configuration, and the order in which they come in shows in nothing but
the order of the configurations. A scan for functions that are gone stops at the first of them in a source, and a
scan for FTP partitions passes over every configuration that sets the server up, whether that turns it on or off.

* `Grouped` says what it takes to report findings by group, and `Grouped.perm` that this leaves only the order of the
  groups open.
* `grouped_blocksOf` says that the reports of the library are made that way.
* `groupedReports_of_collects` puts both together for the checks of hardware and of file devices.
* `uses_of_collects` says which functions are found in the sources of a directory.
* `scanFtp_iff` says which configurations are found to open the system partition.
-/

namespace StudioMigration

open List Inspection

variable {α β : Type} {files : List Path} {scan : FileScan α} {merged : List α}

/-! ## Lists without repetitions, in order -/

theorem nodup_eraseDups [BEq α] [LawfulBEq α] (items : List α) : items.eraseDups.Nodup := by
  induction hlength : items.length using Nat.strongRecOn generalizing items with
  | ind n ih =>
    subst hlength
    cases items with
    | nil => exact nodup_nil
    | cons item items =>
      rw [eraseDups_cons, nodup_cons]
      constructor
      · rw [mem_eraseDups, mem_filter]
        rintro ⟨-, hsame⟩
        simp at hsame
      · exact ih _ (Nat.lt_succ_of_le (length_filter_le _ _)) _ rfl

/-- An order by which lists can be sorted in one way only. -/
structure IsSortOrder {β : Type} (le : β → β → Bool) : Prop where
  trans : ∀ a b c, le a b → le b c → le a c
  total : ∀ a b, (le a b || le b a)
  antisymm : ∀ a b, le a b → le b a → a = b

theorem isSortOrder_names : IsSortOrder fun a b : String => decide (a ≤ b) where
  trans a b c hab hbc := by
    simp only [decide_eq_true_eq] at *
    exact le_trans hab hbc
  total a b := by
    simp only [Bool.or_eq_true, decide_eq_true_eq]
    exact le_total a b
  antisymm a b hab hba := by
    simp only [decide_eq_true_eq] at *
    exact le_antisymm hab hba

theorem pairLe_iff (a b : String × String) : pairLe a b ↔ a.1 < b.1 ∨ (a.1 = b.1 ∧ a.2 ≤ b.2) := by
  simp [pairLe]

theorem isSortOrder_pairs : IsSortOrder pairLe where
  trans a b c hab hbc := by
    rw [pairLe_iff] at *
    rcases hab with hab | ⟨hab, hab'⟩
    · rcases hbc with hbc | ⟨hbc, -⟩
      · exact .inl (lt_trans hab hbc)
      · exact .inl (hbc ▸ hab)
    · rcases hbc with hbc | ⟨hbc, hbc'⟩
      · exact .inl (hab ▸ hbc)
      · exact .inr ⟨hab.trans hbc, le_trans hab' hbc'⟩
  total a b := by
    rw [Bool.or_eq_true, pairLe_iff, pairLe_iff]
    rcases lt_trichotomy a.1 b.1 with hlt | heq | hgt
    · exact .inl (.inl hlt)
    · exact (le_total a.2 b.2).imp (fun hle => .inr ⟨heq, hle⟩) fun hle => .inr ⟨heq.symm, hle⟩
    · exact .inr (.inl hgt)
  antisymm a b hab hba := by
    rw [pairLe_iff] at *
    rcases hab with hab | ⟨hab, hab'⟩
    · rcases hba with hba | ⟨hba, -⟩
      · exact absurd hba (lt_asymm hab)
      · exact absurd hba hab.ne'
    · rcases hba with hba | ⟨-, hba'⟩
      · exact absurd hab hba.ne'
      · exact Prod.ext hab (le_antisymm hab' hba')

/-! ## Groups -/

/-- Findings by group: every group once, and in it everything that belongs there once, in order. -/
structure Grouped {β : Type} (le : β → β → Bool) (found : String → β → Prop) (blocks : List (String × List β)) :
    Prop where
  distinct : (blocks.map (·.1)).Nodup
  sorted : ∀ block ∈ blocks, block.2.Pairwise fun a b => le a b ∧ a ≠ b
  filled : ∀ block ∈ blocks, block.2 ≠ []
  mem_iff : ∀ name value, (∃ values, (name, values) ∈ blocks ∧ value ∈ values) ↔ found name value

namespace Grouped

variable {le : β → β → Bool} {found : String → β → Prop} {blocks blocks' : List (String × List β)}

theorem value_mem_iff (h : Grouped le found blocks) {name : String} {values : List β} (hmem : (name, values) ∈ blocks)
    {value : β} : value ∈ values ↔ found name value := by
  rw [← h.mem_iff]
  refine ⟨fun hvalue => ⟨values, hmem, hvalue⟩, ?_⟩
  rintro ⟨others, hothers, hvalue⟩
  obtain ⟨-, rfl⟩ := Prod.mk.inj (inj_on_of_nodup_map h.distinct hmem hothers rfl)
  exact hvalue

/-- What is found leaves nothing open but the order of the groups. -/
theorem perm (hle : IsSortOrder le) (h : Grouped le found blocks) (h' : Grouped le found blocks') :
    blocks'.Perm blocks := by
  have hsub : ∀ {blocks blocks'}, Grouped le found blocks → Grouped le found blocks' → blocks ⊆ blocks' := by
    rintro blocks blocks' h h' ⟨name, values⟩ hmem
    -- the group is not empty, so the other list has one of that name
    obtain ⟨value, hvalue⟩ := exists_mem_of_ne_nil _ (h.filled _ hmem)
    obtain ⟨others, hothers, -⟩ := (h'.mem_iff name value).2 ((h.value_mem_iff hmem).1 hvalue)
    have hsorted := h.sorted _ hmem
    have hsorted' := h'.sorted _ hothers
    have hperm : values.Perm others := by
      apply (perm_ext_iff_of_nodup (hsorted.imp fun hlt => hlt.2) (hsorted'.imp fun hlt => hlt.2)).2
      intro a
      rw [h.value_mem_iff hmem, h'.value_mem_iff hothers]
    have heq : values = others := by
      apply hperm.eq_of_pairwise _ (hsorted.imp fun hlt => hlt.1) (hsorted'.imp fun hlt => hlt.1)
      intro a b _ _ hab hba
      exact hle.antisymm a b hab hba
    exact heq ▸ hothers
  apply (perm_ext_iff_of_nodup (h'.distinct.of_map _) (h.distinct.of_map _)).2
  exact fun block => ⟨fun hmem => hsub h' h hmem, fun hmem => hsub h h' hmem⟩

end Grouped

/-- Gathering findings and sorting each group without repetitions groups them. -/
theorem grouped_blocksOf [BEq β] [LawfulBEq β] {le : β → β → Bool} (hle : IsSortOrder le)
    (findings : List (String × β)) :
    Grouped le (fun name value => (name, value) ∈ findings)
      (blocksOf (fun values => values.eraseDups.mergeSort le) findings) := by
  have hmem : ∀ name values, (name, values) ∈ blocksOf (fun values => values.eraseDups.mergeSort le) findings ↔
      (∃ value, (name, value) ∈ findings) ∧
        ((findings.filter (·.1 == name)).map (·.2)).eraseDups.mergeSort le = values := by
    intro name values
    simp only [blocksOf, gather, map_map, mem_map, mem_eraseDups, Function.comp_def, Prod.mk.injEq]
    constructor
    · rintro ⟨group, ⟨⟨_, value⟩, hfound, rfl⟩, rfl, hvalues⟩
      exact ⟨⟨value, hfound⟩, hvalues⟩
    · rintro ⟨⟨value, hfound⟩, hvalues⟩
      exact ⟨name, ⟨(name, value), hfound, rfl⟩, rfl, hvalues⟩
  have hvalue : ∀ name value, value ∈ ((findings.filter (·.1 == name)).map (·.2)).eraseDups.mergeSort le ↔
      (name, value) ∈ findings := by
    intro name value
    simp only [mem_mergeSort, mem_eraseDups, mem_map, mem_filter, beq_iff_eq]
    constructor
    · rintro ⟨⟨_, _⟩, ⟨hfound, rfl⟩, rfl⟩
      exact hfound
    · intro hfound
      exact ⟨(name, value), ⟨hfound, rfl⟩, rfl⟩
  constructor
  · have hnames : (blocksOf (fun values => values.eraseDups.mergeSort le) findings).map (·.1) =
        (findings.map (·.1)).eraseDups := by
      simp [blocksOf, gather, Function.comp_def]
    rw [hnames]
    exact nodup_eraseDups _
  · rintro ⟨name, values⟩ hblock
    obtain ⟨-, rfl⟩ := (hmem name values).1 hblock
    apply (pairwise_mergeSort hle.trans hle.total _).and
    exact (mergeSort_perm _ _).nodup_iff.2 (nodup_eraseDups _)
  · rintro ⟨name, values⟩ hblock
    obtain ⟨⟨value, hfound⟩, rfl⟩ := (hmem name values).1 hblock
    exact ne_nil_of_mem ((hvalue name value).2 hfound)
  · intro name value
    constructor
    · rintro ⟨values, hblock, hin⟩
      obtain ⟨-, rfl⟩ := (hmem name values).1 hblock
      exact (hvalue name value).1 hin
    · intro hfound
      exact ⟨_, (hmem name _).2 ⟨⟨value, hfound⟩, rfl⟩, (hvalue name value).2 hfound⟩

/-! ## What is found in the files of a configuration -/

/-- Whether something is found in one of some files that stands in a folder of the given name. -/
def FoundIn {α β : Type} (ws : Workspace) (files : List Path) (scan : FileScan α) (item : α → β) (folder : String)
    (value : β) : Prop :=
  ∃ file ∈ files, folderOf file.render = folder ∧ ∃ text, ws.readLenient (Path.ofString file.render) = .ok text ∧
    ∃ finding ∈ scan file.render text, item finding = value

/-- A run that ends well has put together what is in the files, and nothing else. -/
theorem Arrival.Runs.mem_merged_iff {ws : Workspace} (h : Runs ws scan List.Perm files (.ok merged)) {finding : α} :
    finding ∈ merged ↔ ∃ file ∈ files, ∃ text, ws.readLenient (Path.ofString file.render) = .ok text ∧
      finding ∈ scan file.render text := by
  obtain ⟨done, rfl, hfiles, hlisted⟩ := h.exists_of_ok
  have hread : ∀ x ∈ done, ∃ text, ws.readLenient (Path.ofString x.1.render) = .ok text ∧
      (scan x.1.render text).Perm x.2 := by
    intro x hx
    obtain ⟨found, hfound, hperm⟩ := hlisted x hx
    unfold Workspace.foundIn at hfound
    cases hread : ws.readLenient (Path.ofString x.1.render) with
    | error fault =>
      rw [hread] at hfound
      cases hfound
    | ok text =>
      rw [hread] at hfound
      cases hfound
      exact ⟨text, rfl, hperm⟩
  rw [mem_flatMap]
  constructor
  · rintro ⟨x, hx, hfinding⟩
    obtain ⟨text, htext, hperm⟩ := hread x hx
    exact ⟨x.1, hfiles.subset (mem_map_of_mem hx), text, htext, hperm.symm.subset hfinding⟩
  · rintro ⟨file, hfile, text, htext, hfinding⟩
    obtain ⟨x, hx, rfl⟩ := mem_map.1 (hfiles.symm.subset hfile)
    obtain ⟨text', htext', hperm⟩ := hread x hx
    obtain rfl : text = text' := Except.ok.inj (htext.symm.trans htext')
    exact ⟨x, hx, hperm.subset hfinding⟩

/-- However the results come in, what is made of them is grouped by the folders of the files. -/
theorem Arrival.Runs.grouped [BEq β] [LawfulBEq β] {ws : Workspace} (h : Runs ws scan List.Perm files (.ok merged))
    {le : β → β → Bool} (hle : IsSortOrder le) {file : α → String}
    (hfile : ∀ name text, ∀ finding ∈ scan name text, file finding = name) (item : α → β) :
    Grouped le (FoundIn ws files scan item) (blocksOf (fun values => values.eraseDups.mergeSort le)
      (merged.map fun finding => (folderOf (file finding), item finding))) := by
  have hfound : (fun name value =>
      (name, value) ∈ merged.map fun finding => (folderOf (file finding), item finding)) =
      FoundIn ws files scan item := by
    funext folder value
    simp only [mem_map, h.mem_merged_iff, Prod.mk.injEq, eq_iff_iff]
    constructor
    · rintro ⟨finding, ⟨path, hpath, text, htext, hin⟩, hfolder, hvalue⟩
      rw [hfile _ _ _ hin] at hfolder
      exact ⟨path, hpath, hfolder, text, htext, finding, hin, hvalue⟩
    · rintro ⟨path, hpath, hfolder, text, htext, finding, hin, hvalue⟩
      refine ⟨finding, ⟨path, hpath, text, htext, hin⟩, ?_, hvalue⟩
      rw [hfile _ _ _ hin, hfolder]
  exact hfound ▸ grouped_blocksOf hle _

theorem file_of_mem_scanHardware (catalogue : HardwareCatalogue) (name : String) (text : List Char) :
    ∀ finding ∈ scanHardware catalogue name text, finding.file = name := by
  intro finding h
  simp only [scanHardware, mem_eraseDups, mem_flatMap, mem_map] at h
  obtain ⟨_, -, _, -, rfl⟩ := h
  rfl

theorem file_of_mem_scanFileDevices (name : String) (text : List Char) :
    ∀ finding ∈ scanFileDevices name text, finding.file = name := by
  intro finding h
  simp only [scanFileDevices, mem_eraseDups, mem_map] at h
  obtain ⟨_, -, rfl⟩ := h
  rfl

theorem file_of_mem_scanFtp (name : String) (text : List Char) :
    ∀ finding ∈ scanFtp name text, finding.file = name := by
  intro finding h
  unfold scanFtp at h
  split at h
  · cases h
  · simp only [mem_eraseDups, mem_map] at h
    obtain ⟨_, -, rfl⟩ := h
    rfl

/-! ## The checks -/

def hardwareHeading : Note := .heading "Checking for invalid hardware..."

def deviceHeading : Note := .heading "Checking for invalid file devices and ftp configurations..."

section Checks

variable {ws : Workspace} {physical : Path} {scanner : Scanner}
  (h : scanner.Collects ws physical fun _ => List.Perm) (verbose : Bool)

include h

theorem report_inspectHardwareWith (hreads : ws.Reads physical [".hw"] files) :
    ∃ blocks, Grouped pairLe
        (FoundIn ws files (scanHardware Catalogue.unsupportedHardware) HardwareFinding.item) blocks ∧
      (inspectHardwareWith scanner verbose).report ws = (hardwareHeading :: hardwareReport verbose blocks, .ok ()) := by
  obtain ⟨findings, hscan, hruns⟩ := h.report_of_reads hreads (scanHardware Catalogue.unsupportedHardware)
  refine ⟨_, hruns.grouped isSortOrder_pairs (file_of_mem_scanHardware _) HardwareFinding.item, ?_⟩
  refine (report_say_bind ws _ _).trans ?_
  rw [report_bind_ok hscan, report_sayAll]
  rfl

theorem report_inspectFileDevicesWith (hreads : ws.Reads physical [".hw"] files) :
    ∃ devices partitions,
      Grouped pairLe (FoundIn ws files scanFileDevices DeviceFinding.item) devices ∧
      Grouped (fun a b : String => decide (a ≤ b)) (FoundIn ws files scanFtp PartitionFinding.partition) partitions ∧
      (inspectFileDevicesWith scanner verbose).report ws =
        (deviceHeading :: deviceReport verbose devices ++ partitionReport verbose partitions, .ok ()) := by
  obtain ⟨devices, hdevices, hruns⟩ := h.report_of_reads hreads scanFileDevices
  obtain ⟨partitions, hpartitions, hruns'⟩ := h.report_of_reads hreads scanFtp
  refine ⟨_, _, hruns.grouped isSortOrder_pairs file_of_mem_scanFileDevices DeviceFinding.item,
    hruns'.grouped isSortOrder_names file_of_mem_scanFtp PartitionFinding.partition, ?_⟩
  refine (report_say_bind ws _ _).trans ?_
  rw [report_bind_ok hdevices, report_bind_ok hpartitions, report_bind_ok (report_sayAll _ _), report_sayAll]
  rfl

/-- Where a file cannot be read, the checks get no further than their headings. -/
theorem report_of_not_reads (hnone : ∀ files, ¬ws.Reads physical [".hw"] files) :
    ∃ fault fault', (inspectHardwareWith scanner verbose).report ws = ([hardwareHeading], .error fault) ∧
      (inspectFileDevicesWith scanner verbose).report ws = ([deviceHeading], .error fault') := by
  obtain ⟨fault, hscan⟩ := h.report_of_not_reads hnone (scanHardware Catalogue.unsupportedHardware)
  obtain ⟨fault', hscan'⟩ := h.report_of_not_reads hnone scanFileDevices
  refine ⟨fault, fault', (report_say_bind ws _ _).trans ?_, (report_say_bind ws _ _).trans ?_⟩
  · rw [report_bind_error hscan]
    rfl
  · rw [report_bind_error hscan']
    rfl

end Checks

/-- Two configurations, one of them with files in two places. -/
def hardwareTree : Workspace where
  tree := ((((((Tree.empty.insert ["P"] .directory).insert ["P", "C1"] .directory).insert
    ["P", "C1", "C2"] .directory).insert ["P", "C2"] .directory).insert
    ["P", "C1", "a.hw"] (.file (Text.Utf8.encodeString
      "<Module Type=\"X20CP1485\"/><Module Type=\"3AI350.6\"/>"))).insert
    ["P", "C1", "C2", "b.hw"] (.file (Text.Utf8.encodeString "<Module Type=\"3AI350.6\"/>"))).insert
    ["P", "C2", "c.hw"] (.file (Text.Utf8.encodeString "<Module Type=\"3AI350.6\"/><Module Type=\"3AI350.6\"/>"))
  here := []

theorem reads_hardwareTree : hardwareTree.Reads ⟨.here, ["P"]⟩ [".hw"]
    [⟨.here, ["P", "C1", "a.hw"]⟩, ⟨.here, ["P", "C1", "C2", "b.hw"]⟩, ⟨.here, ["P", "C2", "c.hw"]⟩] := by
  constructor
  · rfl
  · intro file hfile
    simp only [mem_cons, not_mem_nil, or_false] at hfile
    rcases hfile with rfl | rfl | rfl
    · exact ⟨_, rfl⟩
    · exact ⟨_, rfl⟩
    · exact ⟨_, rfl⟩

open Pattern

/-! ## Functions -/

/-- An entry occurs in a text as a whole word, and none of those before it does. -/
def FirstUse (catalogue : Catalogue) (text : List Char) (entry : String × String) : Prop :=
  ∃ front rest, catalogue = front ++ entry :: rest ∧ (word entry.1.toList).occursIn text ∧
    ∀ other ∈ front, (word other.1.toList).occursIn text = false

theorem mem_scanUses_iff {catalogue : Catalogue} {file : String} {text : List Char} {finding : Finding} :
    finding ∈ scanUses catalogue file text ↔
      finding.file = file ∧ FirstUse catalogue text (finding.name, finding.reason) := by
  obtain ⟨name, reason, place⟩ := finding
  simp only [scanUses, Option.mem_toList, Option.map_eq_some_iff, find?_eq_some_iff_append, Prod.exists,
    Finding.mk.injEq, Bool.not_eq_true', FirstUse]
  constructor
  · rintro ⟨name, reason, ⟨hoccurs, front, rest, hcatalogue, hfront⟩, rfl, rfl, rfl⟩
    exact ⟨rfl, front, rest, hcatalogue, hoccurs, hfront⟩
  · rintro ⟨rfl, front, rest, hcatalogue, hoccurs, hfront⟩
    exact ⟨name, reason, ⟨hoccurs, front, rest, hcatalogue, hfront⟩, rfl, rfl, rfl⟩

theorem exists_firstUse {catalogue : Catalogue} {text : List Char}
    (h : ∃ entry ∈ catalogue, (word entry.1.toList).occursIn text) : ∃ entry, FirstUse catalogue text entry := by
  obtain ⟨entry, hentry⟩ := Option.isSome_iff_exists.1 (find?_isSome.2 h)
  obtain ⟨hoccurs, front, rest, hcatalogue, hfront⟩ := find?_eq_some_iff_append.1 hentry
  exact ⟨entry, front, rest, hcatalogue, hoccurs, fun other hother => by simpa using hfront other hother⟩

/-- A source is found to use the first entry of the catalogue that occurs in it as a whole word, and no other. So every
source with one of the entries is found, but not with each of them. -/
theorem uses_of_collects {ws : Workspace} {scanner : Scanner} {start : Path} {endings : List String}
    {files : List Path} (hcollects : scanner.Collects ws start fun _ => Perm) (hreads : ws.Reads start endings files)
    (catalogue : Catalogue) :
    ∃ findings, (scanner Finding endings (scanUses catalogue)).report ws = ([], .ok findings) ∧
      (∀ finding, finding ∈ findings ↔ ∃ file ∈ files, ∃ text, ws.readLenient (.ofString file.render) = .ok text ∧
        finding.file = file.render ∧ FirstUse catalogue text (finding.name, finding.reason)) ∧
      ∀ file ∈ files, ∀ text, ws.readLenient (.ofString file.render) = .ok text →
        (∃ entry ∈ catalogue, (word entry.1.toList).occursIn text) →
        ∃ finding ∈ findings, finding.file = file.render := by
  obtain ⟨findings, hreport, hruns⟩ := hcollects.report_of_reads hreads (scanUses catalogue)
  refine ⟨findings, hreport, fun finding => ?_, fun file hfile text htext hany => ?_⟩
  · simp only [hruns.mem_merged_iff, mem_scanUses_iff]
  · obtain ⟨entry, hfirst⟩ := exists_firstUse hany
    refine ⟨⟨entry.1, entry.2, file.render⟩, hruns.mem_merged_iff.2 ?_, rfl⟩
    exact ⟨file, hfile, text, htext, mem_scanUses_iff.2 ⟨rfl, hfirst⟩⟩

theorem uses_of_collects_sample :
    ∃ findings, (inTurn ⟨.here, ["P"]⟩ Finding [".hw"] (scanUses [("Module", "")])).report hardwareTree =
      ([], .ok findings) := by
  have hturn := collects_inTurn hardwareTree ⟨.here, ["P"]⟩ fun _ found => Perm.refl found
  obtain ⟨findings, hreport, -⟩ := uses_of_collects hturn reads_hardwareTree [("Module", "")]
  exact ⟨findings, hreport⟩

/-- Of two functions in one source, the second is left out. -/
theorem scanUses_second :
    scanUses [("AVT_info", "gone"), ("AVT_ident", "gone too")] "a.st" "AVT_info; AVT_ident;".toList =
      [⟨"AVT_info", "gone", "a.st"⟩] := rfl

/-! ## FTP partitions -/

theorem mem_scanFtp_iff {file : String} {text : List Char} {finding : PartitionFinding} :
    finding ∈ scanFtp file text ↔ finding = ⟨systemPartition, file⟩ ∧ ftpServerPattern.occursIn text = false ∧
      systemPartition.toList ∈ partitionPattern.findGroups text := by
  unfold scanFtp
  cases ftpServerPattern.occursIn text with
  | true => simp
  | false =>
    simp only [Bool.false_eq_true, if_false, mem_eraseDups, mem_map, mem_filter, beq_iff_eq, true_and]
    constructor
    · rintro ⟨name, ⟨hname, rfl⟩, rfl⟩
      exact ⟨by simp, hname⟩
    · rintro ⟨rfl, hname⟩
      exact ⟨_, ⟨hname, rfl⟩, by simp⟩

theorem spells_chars (text : List Char) : (chars text).Spells text := by
  induction text with
  | nil => exact spells_empty
  | cons c text ih =>
    have hchar : (char (· == c)).Spells [c] := spells_char (beq_self_eq_true c)
    exact hchar.seq ih

/-- A setting of the server, with any digit for its value. -/
def serverSetting (spaces : List Char) (value : Char) : List Char :=
  "<Parameter ID=\"ActivateFtpServer\"".toList ++ (spaces ++ ("Value=\"".toList ++ ([value] ++ "\" />".toList)))

theorem spells_serverSetting {spaces : List Char} {value : Char} (hne : spaces ≠ [])
    (hspaces : ∀ c ∈ spaces, Text.isSpace c) (hvalue : Text.isDecimal value) :
    ftpServerPattern.Spells (serverSetting spaces value) := by
  obtain ⟨c, more, rfl⟩ := exists_cons_of_ne_nil hne
  rw [forall_mem_cons] at hspaces
  have hgap : (many1 Text.isSpace).Spells ([c] ++ more) := (spells_char hspaces.1).seq (spells_many hspaces.2)
  have hend := (spells_char hvalue).seq ((spells_chars "\" />".toList).seq spells_empty)
  exact (spells_chars _).seq (hgap.seq ((spells_chars _).seq hend))

/-- A configuration is found to open the system partition if one of its partitions is that one and the server is not set
up. Every value of the setting hides it. -/
theorem scanFtp_iff (file : String) (text : List Char) :
    (∀ finding, finding ∈ scanFtp file text ↔ finding = ⟨systemPartition, file⟩ ∧
      ftpServerPattern.occursIn text = false ∧ systemPartition.toList ∈ partitionPattern.findGroups text) ∧
    ∀ spaces value, spaces ≠ [] → (∀ c ∈ spaces, Text.isSpace c) → Text.isDecimal value →
      serverSetting spaces value <:+: text → scanFtp file text = [] := by
  refine ⟨fun finding => mem_scanFtp_iff, fun spaces value hne hspaces hvalue hset => ?_⟩
  exact if_pos ((spells_serverSetting hne hspaces hvalue).occursIn hset)

/-- The server is turned on, and yet the partition is not found. -/
theorem scanFtp_turned_on :
    scanFtp "Hardware.hw" ("<Parameter ID=\"ActivateFtpServer\" Value=\"1\" />\n" ++
      "<Parameter ID=\"FTPMSPartition1\" Value=\"SYSTEM\" />").toList = [] := rfl

end StudioMigration
