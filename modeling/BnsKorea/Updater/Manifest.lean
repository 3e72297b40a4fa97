import BnsKorea.Library.Numbered
import BnsKorea.Updater.Model

/-!
# The list of the published files

`SetMD5` numbers the files of `CopyFile` by their place in the listing, leaves
out those that are not compressed, and writes the count of the others.  The
client reads the numbers up to the count.  A number that is left out keeps what
an earlier list had under it.
-/

namespace BnsKorea
namespace Updater

open Library

/-- The listing of the directory `CopyFile`, an array. -/
structure CopyFile where
  files : List FileInfo
  nodup : (files.map FileInfo.Name).Nodup
  length_lt : files.length < 2 ^ 31

/-- The directory `Update`, which is served, and the profile in it. -/
structure FileServer where
  update : WString -> Option Content
  updateList : Profile

section

variable (P : Platform)

/-- The turn of the loop for a compressed file with its number. -/
def FileServer.setFile (n : Nat) (File_ : FileInfo) (s : FileServer) : FileServer where
  update := Function.update s.update File_.Name (some File_.content)
  updateList :=
    (s.updateList.write (.file n) File_.Name).write (.fileMd5 n)
      (P.md5 File_.content)

/-- The loop from the index on, with the count so far. -/
def setMD5Loop : Nat -> List FileInfo -> Nat -> FileServer -> Nat × FileServer
  | _, [], FileCount, s => (FileCount, s)
  | i, File_ :: FileInfoArray, FileCount, s =>
      if Contains File_.Name (L ".gz") then
        setMD5Loop (i + 1) FileInfoArray (FileCount + 1) (s.setFile P (i + 1) File_)
      else setMD5Loop (i + 1) FileInfoArray FileCount s

def setMD5 (dir : CopyFile) (s : FileServer) : FileServer :=
  let (FileCount, s) := setMD5Loop P 0 dir.files 0 s
  { s with updateList :=
      s.updateList.write .fileCount (Printf.numeral 10 FileCount) }

/-!
## What is listed and what is read
-/

def item (File_ : FileInfo) : ConsoleFileSrc where
  strFileName := File_.Name
  strFileMd5 := P.md5 File_.content

def entry (profile : Profile) (n : Nat) : ConsoleFileSrc where
  strFileName := getValue P profile (.file n)
  strFileMd5 := getValue P profile (.fileMd5 n)

variable (dir : CopyFile)

def CopyFile.present : List ConsoleFileSrc :=
  (dir.files.filter fun File_ => Compressed File_.Name).map (item P)

/-- The files with the numbers that `SetMD5` gives them. -/
def CopyFile.numbered : List (FileInfo × Nat) :=
  dir.files.zipIdx 1

def CopyFile.fileCount : Nat :=
  dir.files.countP fun File_ => Contains File_.Name (L ".gz")

/-- The client reads the number, and the name is the one that was written. -/
def Found (count : Nat) (x : FileInfo × Nat) : Prop :=
  x.2 ≤ count ∧ P.profileString x.1.Name = x.1.Name

instance (count : Nat) (x : FileInfo × Nat) : Decidable (Found P count x) :=
  inferInstanceAs (Decidable (_ ∧ _))

def mislaid : List ConsoleFileSrc :=
  dir.numbered.filterMap fun x =>
    if Contains x.1.Name (L ".gz") ∧ ¬ Found P dir.fileCount x then
      some (item P x.1)
    else none

/--
What the client reads under a number that is not the file of the number: the
name in another form, or what was there before.
-/
def foreign (old : Profile) : List ConsoleFileSrc :=
  dir.numbered.filterMap fun x =>
    if x.2 ≤ dir.fileCount then
      if Contains x.1.Name (L ".gz") then
        if P.profileString x.1.Name = x.1.Name then none
        else
          some { item P x.1 with strFileName := P.profileString x.1.Name }
      else some (entry P old x.2)
    else none

end

/-!
## The loop
-/

section

variable {P : Platform}

theorem setMD5Loop_count (FileInfoArray : List FileInfo) (i FileCount : Nat)
    (s : FileServer) :
    (setMD5Loop P i FileInfoArray FileCount s).1 =
      FileCount + FileInfoArray.countP fun File_ => Contains File_.Name (L ".gz") := by
  induction FileInfoArray generalizing i FileCount s with
  | nil => rfl
  | cons File_ FileInfoArray ih =>
      unfold setMD5Loop
      by_cases hgz : Contains File_.Name (L ".gz")
      · rw [if_pos hgz, ih, List.countP_cons_of_pos (by simpa using hgz)]
        omega
      · rw [if_neg hgz, ih, List.countP_cons_of_neg (by simpa using hgz)]

theorem setMD5Loop_earlier (FileInfoArray : List FileInfo) {i n : Nat} (hn : n ≤ i)
    (FileCount : Nat) (s : FileServer) :
    entry P (setMD5Loop P i FileInfoArray FileCount s).2.updateList n =
      entry P s.updateList n := by
  induction FileInfoArray generalizing i FileCount s with
  | nil => rfl
  | cons File_ FileInfoArray ih =>
      unfold setMD5Loop
      by_cases hgz : Contains File_.Name (L ".gz")
      · rw [if_pos hgz, ih (Nat.le_succ_of_le hn)]
        have hne : n ≠ i + 1 := by omega
        simp [entry, getValue, FileServer.setFile, Profile.write, hne]
      · rw [if_neg hgz, ih (Nat.le_succ_of_le hn)]

theorem setMD5Loop_entry (FileInfoArray : List FileInfo) (i FileCount : Nat)
    (s : FileServer) {x : FileInfo × Nat}
    (hx : x ∈ FileInfoArray.zipIdx (i + 1)) :
    entry P (setMD5Loop P i FileInfoArray FileCount s).2.updateList x.2 =
      if Contains x.1.Name (L ".gz") then
        { item P x.1 with strFileName := P.profileString x.1.Name }
      else entry P s.updateList x.2 := by
  induction FileInfoArray generalizing i FileCount s with
  | nil => cases hx
  | cons File_ FileInfoArray ih =>
      rw [List.zipIdx_cons] at hx
      unfold setMD5Loop
      rcases List.mem_cons.mp hx with hhead | htail
      · rw [hhead]
        by_cases hgz : Contains File_.Name (L ".gz")
        · rw [if_pos hgz, if_pos hgz, setMD5Loop_earlier _ (Nat.le_refl _)]
          simp [entry, getValue, FileServer.setFile, Profile.write, item,
            P.profileString_md5]
        · rw [if_neg hgz, if_neg hgz, setMD5Loop_earlier _ (Nat.le_refl _)]
      · have hlater : i + 1 < x.2 := List.le_snd_of_mem_zipIdx htail
        by_cases hgz : Contains File_.Name (L ".gz")
        · rw [if_pos hgz, ih _ _ _ htail]
          have hne : x.2 ≠ i + 1 := by omega
          simp [entry, getValue, FileServer.setFile, Profile.write, hne]
        · rw [if_neg hgz, ih _ _ _ htail]

/-!
## What the client reads
-/

variable (dir : CopyFile) (s : FileServer)

theorem fileCount_le : dir.fileCount ≤ dir.files.length :=
  List.countP_le_length

theorem setMD5_updateList :
    (setMD5 P dir s).updateList =
      (setMD5Loop P 0 dir.files 0 s).2.updateList.write .fileCount
        (Printf.numeral 10 (setMD5Loop P 0 dir.files 0 s).1) :=
  rfl

theorem setMD5_fileCount :
    getValue P (setMD5 P dir s).updateList .fileCount =
      Printf.numeral 10 dir.fileCount := by
  have hcount := setMD5Loop_count (P := P) dir.files 0 0 s
  rw [Nat.zero_add] at hcount
  have hlt : dir.fileCount < 2 ^ 31 :=
    Nat.lt_of_le_of_lt (fileCount_le dir) dir.length_lt
  rw [getValue, setMD5_updateList, Profile.write_same, hcount]
  exact P.profileString_number dir.fileCount hlt

theorem setMD5_entry (n : Nat) :
    entry P (setMD5 P dir s).updateList n =
      entry P (setMD5Loop P 0 dir.files 0 s).2.updateList n := by
  simp [entry, getValue, setMD5_updateList, Profile.write]

theorem read_eq :
    getServerFileMd5 P (setMD5 P dir s).updateList =
      some ((List.range' 1 dir.fileCount).map
        (entry P (setMD5 P dir s).updateList)) := by
  have hlt : dir.fileCount < 2 ^ 31 :=
    Nat.lt_of_le_of_lt (fileCount_le dir) dir.length_lt
  unfold getServerFileMd5 getFileMd5
  rw [setMD5_fileCount, intParse_numeral hlt, Option.map_some, Int.toNat_natCast,
    List.range'_eq_map_range, List.map_map]
  congr 2
  funext i
  rw [Function.comp_apply, Nat.add_comm]
  rfl

theorem entry_numbered {x : FileInfo × Nat} (hx : x ∈ dir.numbered) :
    entry P (setMD5 P dir s).updateList x.2 =
      if Contains x.1.Name (L ".gz") then
        { item P x.1 with strFileName := P.profileString x.1.Name }
      else entry P s.updateList x.2 := by
  rw [setMD5_entry]
  exact setMD5Loop_entry dir.files 0 0 s hx

private def foundItems (P : Platform) (dir : CopyFile) : List ConsoleFileSrc :=
  dir.numbered.filterMap fun x =>
    if Contains x.1.Name (L ".gz") ∧ Found P dir.fileCount x then some (item P x.1)
    else none

theorem read_perm :
    ((List.range' 1 dir.fileCount).map
      (entry P (setMD5 P dir s).updateList)).Perm
        (foundItems P dir ++ foreign P dir s.updateList) := by
  have hbound : dir.fileCount ≤ 0 + dir.files.length := by
    rw [Nat.zero_add]
    exact fileCount_le dir
  rw [← Nat.sub_zero dir.fileCount, ← Numbered.filterMap_upTo _ _ hbound]
  apply Numbered.filterMap_split_perm
  intro x hx
  rw [entry_numbered dir s hx]
  by_cases hread : x.2 ≤ dir.fileCount
  · by_cases hgz : Contains x.1.Name (L ".gz")
    · by_cases hname : P.profileString x.1.Name = x.1.Name
      · refine Or.inl ⟨?_, ?_⟩
        · simp [hread, hgz, hname, Found, item]
        · simp [hgz, hname]
      · refine Or.inr ⟨?_, ?_⟩
        · simp [hread, hgz, hname]
        · simp [hname, Found]
    · refine Or.inr ⟨?_, ?_⟩
      · simp [hread, hgz]
      · simp [hgz]
  · refine Or.inl ⟨?_, ?_⟩
    · simp [hread, Found]
    · simp [hread]

theorem listed_perm :
    ((dir.files.filter fun File_ => Contains File_.Name (L ".gz")).map
      (item P)).Perm (foundItems P dir ++ mislaid P dir) := by
  have hlisted : (dir.files.filter fun File_ => Contains File_.Name (L ".gz")).map
      (item P) = dir.numbered.filterMap fun x =>
        if Contains x.1.Name (L ".gz") then some (item P x.1) else none := by
    have hfiles : dir.numbered.map Prod.fst = dir.files := by
      simp [CopyFile.numbered]
    conv => lhs; rw [← hfiles]
    rw [List.filter_map, List.map_map, ← List.filterMap_eq_map,
      List.filterMap_filter]
    simp [Function.comp_def]
  rw [hlisted]
  apply Numbered.filterMap_split_perm
  intro x _
  by_cases hgz : Contains x.1.Name (L ".gz")
  · by_cases hfound : Found P dir.fileCount x
    · refine Or.inl ⟨?_, ?_⟩
      · simp [hgz, hfound]
      · simp [hfound]
    · refine Or.inr ⟨?_, ?_⟩
      · simp [hgz, hfound]
      · simp [hfound]
  · refine Or.inl ⟨?_, ?_⟩
    · simp [hgz]
    · simp [hgz]

/-!
## Completeness
-/

/-- What the client reads are the files that are present, one for one. -/
def Complete (P : Platform) (dir : CopyFile) (s : FileServer) : Prop :=
  exists lst, getServerFileMd5 P (setMD5 P dir s).updateList = some lst ∧
    lst.Perm (dir.present P)

theorem compressed_of_complete (h : Complete P dir s) :
    (dir.files.filter fun File_ => Compressed File_.Name) =
      dir.files.filter fun File_ => Contains File_.Name (L ".gz") := by
  rcases h with ⟨lst, hread, hperm⟩
  have hsub : (dir.files.filter fun File_ => Compressed File_.Name).Sublist
      (dir.files.filter fun File_ => Contains File_.Name (L ".gz")) := by
    apply List.monotone_filter_right
    intro File_ hFile
    rw [decide_eq_true_iff] at hFile ⊢
    exact hFile.contains
  have hlength := hperm.length_eq
  rw [read_eq, Option.some.injEq] at hread
  rw [← hread, List.length_map, List.length_range', CopyFile.present,
    List.length_map, CopyFile.fileCount, List.countP_eq_length_filter] at hlength
  exact hsub.eq_of_length hlength.symm

theorem names_of_complete (h : Complete P dir s) {File_ : FileInfo}
    (hFile : File_ ∈ dir.files) (hgz : Contains File_.Name (L ".gz")) :
    Compressed File_.Name := by
  have hlisted : File_ ∈
      dir.files.filter fun File_ => Contains File_.Name (L ".gz") :=
    List.mem_filter.mpr ⟨hFile, decide_eq_true hgz⟩
  rw [← compressed_of_complete dir s h] at hlisted
  exact of_decide_eq_true (List.mem_filter.mp hlisted).right

theorem perm_of_complete (h : Complete P dir s) :
    (foreign P dir s.updateList).Perm (mislaid P dir) := by
  have hsame := compressed_of_complete dir s h
  rcases h with ⟨lst, hread, hperm⟩
  rw [read_eq, Option.some.injEq] at hread
  rw [← hread, CopyFile.present, hsame] at hperm
  have hparts := ((read_perm dir s).symm.trans hperm).trans (listed_perm dir)
  exact (List.perm_append_left_iff _).mp hparts

theorem complete_of_perm
    (hnames : forall File_, File_ ∈ dir.files -> Contains File_.Name (L ".gz") ->
      Compressed File_.Name)
    (hforeign : (foreign P dir s.updateList).Perm (mislaid P dir)) :
    Complete P dir s := by
  have hsame : (dir.files.filter fun File_ => Compressed File_.Name) =
      dir.files.filter fun File_ => Contains File_.Name (L ".gz") := by
    apply List.filter_congr
    intro File_ hFile
    rw [decide_eq_decide]
    exact ⟨Compressed.contains, hnames File_ hFile⟩
  refine ⟨_, read_eq dir s, ?_⟩
  rw [CopyFile.present, hsame]
  have hparts := (List.perm_append_left_iff (foundItems P dir)).mpr hforeign
  exact ((read_perm dir s).trans hparts).trans (listed_perm dir).symm

theorem foreign_length :
    (foreign P dir s.updateList).length = (mislaid P dir).length := by
  have hread := (read_perm (P := P) dir s).length_eq
  have hlisted := (listed_perm (P := P) dir).length_eq
  rw [List.length_map, List.length_range', List.length_append] at hread
  rw [List.length_map, List.length_append, ← List.countP_eq_length_filter] at hlisted
  exact Nat.add_left_cancel (hread.symm.trans hlisted)

/--
A first list, of names that the profile does not change, is complete exactly if
besides no file that is not compressed has a number up to the count.
-/
theorem complete_fresh_iff (hfresh : forall n, s.updateList (.file n) = none)
    (hnames : forall File_, File_ ∈ dir.files -> Contains File_.Name (L ".gz") ->
      P.profileString File_.Name = File_.Name) :
    Complete P dir s ↔
      (forall File_, File_ ∈ dir.files -> Contains File_.Name (L ".gz") ->
        Compressed File_.Name) ∧
      forall x, x ∈ dir.numbered -> x.2 ≤ dir.fileCount ->
        Contains x.1.Name (L ".gz") := by
  constructor
  · intro h
    refine ⟨fun _ hFile hgz => names_of_complete dir s h hFile hgz, ?_⟩
    have hperm := perm_of_complete dir s h
    intro x hx hread
    by_contra hgz
    have hzero : (entry P s.updateList x.2).strFileName = L "0" := by
      rw [entry, getValue, hfresh, Option.getD_none]
      exact P.profileString_number 0 (by decide)
    have hforeign : entry P s.updateList x.2 ∈ foreign P dir s.updateList :=
      List.mem_filterMap.mpr ⟨x, hx, by rw [if_pos hread, if_neg hgz]⟩
    rcases List.mem_filterMap.mp (hperm.mem_iff.mp hforeign) with ⟨y, _, hy⟩
    split at hy
    · rename_i hmislaid
      have hname : y.1.Name = L "0" := by
        rw [← Option.some.inj hy] at hzero
        exact hzero
      have hgz' := hmislaid.left
      rw [hname] at hgz'
      revert hgz'
      decide
    · cases hy
  · intro h
    rcases h with ⟨hcompressed, hfirst⟩
    have hnone : foreign P dir s.updateList = [] := by
      apply List.filterMap_eq_nil_iff.mpr
      intro x hx
      by_cases hread : x.2 ≤ dir.fileCount
      · have hgz := hfirst x hx hread
        have hname := hnames x.1 (List.fst_mem_of_mem_zipIdx hx) hgz
        rw [if_pos hread, if_pos hgz, if_pos hname]
      · rw [if_neg hread]
    have hlength := foreign_length (P := P) dir s
    rw [hnone, List.length_nil] at hlength
    apply complete_of_perm dir s hcompressed
    rw [hnone, List.eq_nil_of_length_eq_zero hlength.symm]

def textFirst : CopyFile where
  files := [{ Name := L "a.txt", content := [] },
    { Name := L "b.dll.gz", content := Platform.gzipOfA }]
  nodup := by decide
  length_lt := by decide

end

end Updater
end BnsKorea
