import BnsKorea.Updater.Manifest

/-!
# The update

`Main` of the client from the fetched list to the message that the update is
complete.  Directories are lists of files as `GetFiles` gives them; the list of
the published files is kept apart from the other files of `tmpDownload`.  A run
that never ends, or that throws, gives no state.
-/

namespace BnsKorea
namespace Updater

open Library

/-- `ToLower`, on the letters that the suffixes are made of. -/
def toLower (name : WString) : WString :=
  name.map fun c => if 65 ≤ c ∧ c ≤ 90 then c + 32 else c

abbrev Directory := List FileInfo

namespace Directory

def read (dir : Directory) (name : WString) : Option Content :=
  (dir.find? fun File_ => File_.Name = name).map FileInfo.content

def delete (dir : Directory) (name : WString) : Directory :=
  dir.filter fun File_ => File_.Name ≠ name

def write (dir : Directory) (name : WString) (content : Content) : Directory :=
  dir.delete name ++ [{ Name := name, content := content }]

theorem read_append (dir dir' : Directory) (name : WString) :
    read (dir ++ dir') name = (read dir name).or (read dir' name) := by
  rw [read, List.find?_append]
  cases h : dir.find? fun File_ => File_.Name = name with
  | none => simp [read, h]
  | some File_ => simp [read, h]

theorem read_delete_self (dir : Directory) (name : WString) :
    (dir.delete name).read name = none := by
  rw [read, Option.map_eq_none_iff, List.find?_eq_none]
  intro File_ hFile
  simpa using (List.mem_filter.mp hFile).right

theorem read_delete_other (dir : Directory) {name name' : WString}
    (h : name' ≠ name) : (dir.delete name).read name' = dir.read name' := by
  rw [read, read, delete, List.find?_filter]
  congr 2
  funext File_
  by_cases hname : File_.Name = name'
  · simp [hname, h]
  · simp [hname]

@[simp] theorem read_write_self (dir : Directory) (name : WString)
    (content : Content) : (dir.write name content).read name = some content := by
  rw [write, read_append, read_delete_self]
  simp [read]

theorem read_write_other (dir : Directory) {name name' : WString}
    (h : name' ≠ name) (content : Content) :
    (dir.write name content).read name' = dir.read name' := by
  have hnew : read [{ Name := name, content := content }] name' = none := by
    simp [read, h.symm]
  rw [write, read_append, read_delete_other dir h, hnew, Option.or_none]

theorem mem_names_iff (dir : Directory) (name : WString) :
    name ∈ dir.map FileInfo.Name ↔ exists content, dir.read name = some content := by
  constructor
  · intro h
    rcases List.mem_map.mp h with ⟨File_, hFile, hname⟩
    cases hread : dir.read name with
    | none =>
        rw [read, Option.map_eq_none_iff, List.find?_eq_none] at hread
        exact absurd (decide_eq_true hname) (hread File_ hFile)
    | some content => exact ⟨content, rfl⟩
  · intro h
    rcases h with ⟨content, hread⟩
    rcases Option.map_eq_some_iff.mp hread with ⟨File_, hfind, _⟩
    have hname := List.find?_some hfind
    exact List.mem_map.mpr
      ⟨File_, List.mem_of_find?_eq_some hfind, by simpa using hname⟩

end Directory

/-!
## The server
-/

section

variable (P : Platform)

/-- What `CompressFile` looks for in a name. -/
def strArray : List WString :=
  [L ".dll", L ".exe", L ".inf", L ".ini", L ".xml", L ".bnspath"]

/-- The file goes, and the compressed one comes unless the file is hidden. -/
def compress (dir : Directory) (File_ : FileInfo) : Directory :=
  let CompressFileName := File_.Name ++ L ".gz"
  let dir := dir.delete CompressFileName
  let dir :=
    if File_.Hidden = false ∧ ¬ Compressed File_.Name then
      dir.write CompressFileName (P.gzip File_.content)
    else dir
  dir.delete File_.Name

def CompressesFile (File_ : FileInfo) : Prop :=
  (exists itm, itm ∈ strArray ∧ Contains (toLower File_.Name) itm) ∧
    ¬ Contains File_.Name (L ".gz")

instance (File_ : FileInfo) : Decidable (CompressesFile File_) :=
  inferInstanceAs (Decidable (_ ∧ _))

/-- The loop over the files that are there when it begins. -/
def compressFile (files : Directory) : Directory :=
  files.foldl
    (fun dir File_ => if CompressesFile File_ then compress P dir File_ else dir)
    files

/-- `Main` of the server from the listing that `CompressFile` leaves. -/
def publish (fileVersion : WString) (dir : CopyFile) (s : FileServer) : FileServer :=
  let s := { s with updateList :=
    (s.updateList.write .lock (L "1")).write .fileVersion fileVersion }
  let s := setMD5 P dir s
  { s with updateList := s.updateList.write .lock (L "0") }

/-!
## The client
-/

structure Directories where
  tmpDownload : Directory
  tmpUpdateList : Profile
  copyFile : Directory
  currentDirectory : Directory
  script : Directory
  setting : Directory
  bnsPath : Directory

/-- `HttpDownloadFile` does not return where there is no such file. -/
def downloadFiles (server : FileServer) (lst : List WString) (dir : Directory) :
    Option Directory :=
  lst.foldlM
    (fun dir item => (server.update item).map fun content => dir.write item content)
    dir

/-- A turn of the loop of `DecompressFile`. -/
def decompress (dir : Directory) (item : WString) : Option Directory :=
  if Contains item (L ".gz") then
    ((dir.read item).bind P.gunzip).map fun content =>
      dir.write (removeExtension item) content
  else some dir

def decompressFile (dir : Directory) : Option Directory :=
  (dir.map FileInfo.Name).foldlM (decompress P) dir

def downLoadFile (server : FileServer) (lst : List WString) (dir : Directory) :
    Option Directory :=
  (downloadFiles server lst dir).bind (decompressFile P)

end

def findFile (dir : Directory) (strFileSuffix : WString) : List WString :=
  (dir.map FileInfo.Name).filter fun Name =>
    Contains (toLower Name) strFileSuffix ∧ ¬ Contains Name (L "UpdateList") ∧
      ¬ Contains (toLower Name) (L ".gz")

def moveFile (tmpDownload : Directory) (lst : List WString) (path : Directory) :
    Directory :=
  lst.foldl
    (fun path itm =>
      match tmpDownload.read itm with
      | some content => path.write itm content
      | none => path)
    path

def moveFileToDirectory (updateList : Profile) (s : Directories) : Directories :=
  let tmp := s.tmpDownload
  { s with
    copyFile := moveFile tmp (findFile tmp (L ".dll")) s.copyFile
    currentDirectory := moveFile tmp (findFile tmp (L ".exe")) s.currentDirectory
    script := moveFile tmp (findFile tmp (L ".inf")) s.script
    setting := moveFile tmp (findFile tmp (L ".txt")) s.setting
    bnsPath := moveFile tmp (findFile tmp (L ".bnspath")) s.bnsPath
    tmpUpdateList := updateList }

def update (P : Platform) (server : FileServer) (s : Directories) :
    Option Directories := do
  let updateList := server.updateList
  let tmpDownloadFileList <- getTmpDownloadFileMd5 P s.tmpUpdateList
  let ServerFileList <- getServerFileMd5 P updateList
  let DownloadList := getDownloadFile tmpDownloadFileList ServerFileList
  let tmpDownload <- downLoadFile P server DownloadList s.tmpDownload
  pure (moveFileToDirectory updateList { s with tmpDownload := tmpDownload })

/-- `Main` of the client; it has a state where the update is complete. -/
def main (P : Platform) (server : FileServer) (s : Directories) :
    Option Directories :=
  if getValue P server.updateList .lock = L "1" then none
  else if getValue P server.updateList .consoleFileClientVersion ≠ clientVersion then
    none
  else if checkUpdateFile P server.updateList s.tmpUpdateList = some true then
    (update P server s).filter fun s =>
      checkUpdateFile P server.updateList s.tmpUpdateList = some false
  else none

/-!
## What the server has published
-/

section

variable {P : Platform}

theorem append_gz_contains (X : WString) : Contains (X ++ L ".gz") (L ".gz") :=
  (List.suffix_append X (L ".gz")).isInfix

theorem compress_read_other (dir : Directory) {File_ : FileInfo} {X : WString}
    (hname : ¬ Contains File_.Name (L ".gz")) (hne : File_.Name ≠ X) :
    (compress P dir File_).read (X ++ L ".gz") = dir.read (X ++ L ".gz") := by
  have hother : X ++ L ".gz" ≠ File_.Name := by
    intro heq
    rw [← heq] at hname
    exact hname (append_gz_contains X)
  have hgz : X ++ L ".gz" ≠ File_.Name ++ L ".gz" :=
    fun heq => hne (List.append_cancel_right heq).symm
  unfold compress
  rw [Directory.read_delete_other _ hother]
  split
  · rw [Directory.read_write_other _ hgz, Directory.read_delete_other _ hgz]
  · rw [Directory.read_delete_other _ hgz]

theorem compress_read_self (dir : Directory) {File_ : FileInfo}
    (hname : ¬ Contains File_.Name (L ".gz")) (hvisible : File_.Hidden = false) :
    (compress P dir File_).read (File_.Name ++ L ".gz") =
      some (P.gzip File_.content) := by
  have hother : File_.Name ++ L ".gz" ≠ File_.Name := by
    intro heq
    rw [← heq] at hname
    exact hname (append_gz_contains File_.Name)
  have hcompressed : ¬ Compressed File_.Name := fun h => hname h.contains
  unfold compress
  rw [Directory.read_delete_other _ hother, if_pos ⟨hvisible, hcompressed⟩,
    Directory.read_write_self]

theorem compressFile_read {files : Directory}
    (hnodup : (files.map FileInfo.Name).Nodup) {File_ : FileInfo}
    (hFile : File_ ∈ files) (hcompresses : CompressesFile File_)
    (hvisible : File_.Hidden = false) :
    (compressFile P files).read (File_.Name ++ L ".gz") =
      some (P.gzip File_.content) := by
  have hlater : forall (rest : List FileInfo) (dir : Directory),
      File_.Name ∉ rest.map FileInfo.Name ->
      (rest.foldl (fun dir File_ =>
          if CompressesFile File_ then compress P dir File_ else dir) dir).read
        (File_.Name ++ L ".gz") = dir.read (File_.Name ++ L ".gz") := by
    intro rest
    induction rest with
    | nil => exact fun _ _ => rfl
    | cons other rest ih =>
        intro dir hout
        rw [List.map_cons, List.mem_cons, not_or] at hout
        rw [List.foldl_cons, ih _ hout.right]
        split
        · rename_i hother
          exact compress_read_other dir hother.right (Ne.symm hout.left)
        · rfl
  rcases List.append_of_mem hFile with ⟨earlier, later, hfiles⟩
  have hout : File_.Name ∉ later.map FileInfo.Name := by
    rw [hfiles, List.map_append, List.map_cons, List.nodup_append] at hnodup
    exact (List.nodup_cons.mp hnodup.right.left).left
  unfold compressFile
  conv => lhs; arg 1; arg 3; rw [hfiles]
  rw [List.foldl_append, List.foldl_cons, hlater _ _ hout, if_pos hcompresses]
  exact compress_read_self _ hcompresses.right hvisible

/-- The loop of `SetMD5` copies nothing over a file that it does not list. -/
theorem setMD5Loop_update_other (FileInfoArray : List FileInfo) {name : WString}
    (hname : name ∉ FileInfoArray.map FileInfo.Name) (i FileCount : Nat)
    (s : FileServer) :
    (setMD5Loop P i FileInfoArray FileCount s).2.update name = s.update name := by
  induction FileInfoArray generalizing i FileCount s with
  | nil => rfl
  | cons File_ FileInfoArray ih =>
      rw [List.map_cons, List.mem_cons, not_or] at hname
      unfold setMD5Loop
      split
      · rw [ih hname.right]
        simp [FileServer.setFile, hname.left]
      · rw [ih hname.right]

theorem setMD5Loop_update (FileInfoArray : List FileInfo)
    (hnodup : (FileInfoArray.map FileInfo.Name).Nodup) {File_ : FileInfo}
    (hFile : File_ ∈ FileInfoArray) (hgz : Contains File_.Name (L ".gz"))
    (i FileCount : Nat) (s : FileServer) :
    (setMD5Loop P i FileInfoArray FileCount s).2.update File_.Name =
      some File_.content := by
  induction FileInfoArray generalizing i FileCount s with
  | nil => cases hFile
  | cons first FileInfoArray ih =>
      rw [List.map_cons, List.nodup_cons] at hnodup
      unfold setMD5Loop
      rcases List.mem_cons.mp hFile with heq | hrest
      · rw [← heq] at hnodup ⊢
        rw [if_pos hgz, setMD5Loop_update_other _ hnodup.left]
        simp [FileServer.setFile]
      · split
        · exact ih hnodup.right hrest _ _ _
        · exact ih hnodup.right hrest _ _ _

theorem publish_update (fileVersion : WString) (dir : CopyFile) (s : FileServer)
    {File_ : FileInfo} (hFile : File_ ∈ dir.files)
    (hgz : Contains File_.Name (L ".gz")) :
    (publish P fileVersion dir s).update File_.Name = some File_.content :=
  setMD5Loop_update dir.files dir.nodup hFile hgz 0 0 _

/-!
## The steps of the client
-/

/-- A name has `.gz` at its end or not at all. -/
def Plain (name : WString) : Prop :=
  Contains name (L ".gz") ->
    exists X, name = X ++ L ".gz" ∧ ¬ Contains X (L ".gz")

theorem removeExtension_gz (X : WString) : removeExtension (X ++ L ".gz") = X := by
  have hgz : L ".gz" = [46, 103, 122] := by decide
  have hdot : (46 : UInt16) ∈ X ++ [46, 103, 122] := by simp
  rw [hgz, removeExtension, if_pos hdot, List.reverse_append]
  simp

theorem downloadFiles_read {server : FileServer} {lst : List WString}
    {dir dir' : Directory} (h : downloadFiles server lst dir = some dir')
    (name : WString) :
    dir'.read name = if name ∈ lst then server.update name else dir.read name := by
  induction lst generalizing dir with
  | nil =>
      cases h
      rfl
  | cons item lst ih =>
      unfold downloadFiles at h
      rw [List.foldlM_cons] at h
      rcases Option.bind_eq_some_iff.mp h with ⟨dir1, hitem, hrest⟩
      rcases Option.map_eq_some_iff.mp hitem with ⟨content, hcontent, hdir1⟩
      rw [ih hrest, ← hdir1]
      by_cases hlater : name ∈ lst
      · rw [if_pos hlater, if_pos (List.mem_cons_of_mem item hlater)]
      · rw [if_neg hlater]
        by_cases heq : name = item
        · rw [heq, Directory.read_write_self, if_pos List.mem_cons_self, hcontent]
        · rw [Directory.read_write_other _ heq, if_neg]
          simp [heq, hlater]

theorem decompress_cases {item : WString} {dir dir1 : Directory}
    (hplain : Plain item) (h : decompress P dir item = some dir1) :
    ¬ Contains item (L ".gz") ∧ dir1 = dir ∨
      exists Y content, item = Y ++ L ".gz" ∧ ¬ Contains Y (L ".gz") ∧
        (dir.read item).bind P.gunzip = some content ∧ dir1 = dir.write Y content := by
  unfold decompress at h
  by_cases hcontains : Contains item (L ".gz")
  · rw [if_pos hcontains] at h
    rcases Option.map_eq_some_iff.mp h with ⟨content, hcontent, hdir1⟩
    rcases hplain hcontains with ⟨Y, hY, hplainY⟩
    rw [hY, removeExtension_gz] at hdir1
    exact Or.inr ⟨Y, content, hY, hplainY, hcontent, hdir1.symm⟩
  · rw [if_neg hcontains] at h
    exact Or.inl ⟨hcontains, (Option.some.inj h).symm⟩

theorem decompress_gz {item : WString} {dir dir1 : Directory} (hplain : Plain item)
    (h : decompress P dir item = some dir1) {name : WString}
    (hname : Contains name (L ".gz")) : dir1.read name = dir.read name := by
  rcases decompress_cases hplain h with ⟨_, hdir1⟩ | ⟨Y, content, _, hY, _, hdir1⟩
  · rw [hdir1]
  · have hne : name ≠ Y := by
      intro heq
      rw [heq] at hname
      exact hY hname
    rw [hdir1, Directory.read_write_other _ hne]

theorem decompress_plain {item : WString} {dir dir1 : Directory} (hplain : Plain item)
    (h : decompress P dir item = some dir1) (X : WString) :
    if X ++ L ".gz" = item then
      exists content, (dir.read item).bind P.gunzip = some content ∧
        dir1.read X = some content
    else dir1.read X = dir.read X := by
  rcases decompress_cases hplain h with
    ⟨hcontains, hdir1⟩ | ⟨Y, content, hitem, _, hcontent, hdir1⟩
  · have hne : X ++ L ".gz" ≠ item := by
      intro heq
      rw [← heq] at hcontains
      exact hcontains (append_gz_contains X)
    rw [if_neg hne, hdir1]
  · by_cases heq : X = Y
    · rw [if_pos (by rw [heq, hitem])]
      exact ⟨content, hcontent, by rw [hdir1, heq, Directory.read_write_self]⟩
    · have hne : X ++ L ".gz" ≠ item := by
        rw [hitem]
        exact fun h => heq (List.append_cancel_right h)
      rw [if_neg hne, hdir1, Directory.read_write_other _ heq]

/--
Decompressing leaves the compressed files as they are; each of them gives the
file of its name without `.gz`, and the others stay.
-/
theorem decompress_foldlM {items : List WString} {dir dir' : Directory}
    (hplain : forall item, item ∈ items -> Plain item)
    (h : items.foldlM (decompress P) dir = some dir') (X : WString) :
    if X ++ L ".gz" ∈ items then
      exists content, (dir.read (X ++ L ".gz")).bind P.gunzip = some content ∧
        dir'.read X = some content
    else dir'.read X = dir.read X := by
  induction items generalizing dir with
  | nil =>
      cases h
      rw [if_neg List.not_mem_nil]
  | cons item items ih =>
      rw [List.foldlM_cons] at h
      rcases Option.bind_eq_some_iff.mp h with ⟨dir1, hitem, hrest⟩
      have hfirst := hplain item List.mem_cons_self
      have hlater := ih (fun x hx => hplain x (List.mem_cons_of_mem item hx)) hrest
      rw [decompress_gz hfirst hitem (append_gz_contains X)] at hlater
      have hread := decompress_plain hfirst hitem X
      by_cases hmem : X ++ L ".gz" ∈ items
      · rw [if_pos hmem] at hlater
        rw [if_pos (List.mem_cons_of_mem item hmem)]
        exact hlater
      · rw [if_neg hmem] at hlater
        by_cases heq : X ++ L ".gz" = item
        · rw [if_pos heq] at hread
          rw [heq, if_pos List.mem_cons_self, hlater]
          exact hread
        · rw [if_neg heq] at hread
          rw [if_neg fun h => (List.mem_cons.mp h).elim heq hmem, hlater, hread]

theorem decompressFile_read {dir dir' : Directory}
    (hplain : forall name, name ∈ dir.map FileInfo.Name -> Plain name)
    (h : decompressFile P dir = some dir') (X : WString) :
    match dir.read (X ++ L ".gz") with
    | some gz => exists content, P.gunzip gz = some content ∧
        dir'.read X = some content
    | none => dir'.read X = dir.read X := by
  have hread := decompress_foldlM hplain h X
  cases hgz : dir.read (X ++ L ".gz") with
  | none =>
      have hout : X ++ L ".gz" ∉ dir.map FileInfo.Name := by
        intro hmem
        rcases (Directory.mem_names_iff dir _).mp hmem with ⟨content, hcontent⟩
        rw [hgz] at hcontent
        cases hcontent
      rw [if_neg hout] at hread
      exact hread
  | some gz =>
      have hin := (Directory.mem_names_iff dir _).mpr ⟨gz, hgz⟩
      rw [if_pos hin, hgz] at hread
      exact hread

theorem moveFile_read (tmpDownload : Directory) (lst : List WString)
    (path : Directory) (name : WString) :
    (moveFile tmpDownload lst path).read name =
      if name ∈ lst then (tmpDownload.read name).or (path.read name)
      else path.read name := by
  induction lst generalizing path with
  | nil => rfl
  | cons itm lst ih =>
      unfold moveFile at ih ⊢
      rw [List.foldl_cons, ih]
      by_cases heq : name = itm
      · rw [heq]
        cases hread : tmpDownload.read itm with
        | none => simp
        | some content => simp
      · have hsame : (match tmpDownload.read itm with
            | some content => path.write itm content
            | none => path).read name = path.read name := by
          cases tmpDownload.read itm with
          | none => rfl
          | some content => exact Directory.read_write_other _ heq content
        rw [hsame]
        simp [heq]

end

/-!
## What is to be installed, and what arrives
-/

/-- The kinds of files that have a directory. -/
inductive Kind where
  | dll
  | exe
  | inf
  | ini
  | bnspath
deriving DecidableEq

namespace Kind

def suffix : Kind -> WString
  | dll => L ".dll"
  | exe => L ".exe"
  | inf => L ".inf"
  | ini => L ".ini"
  | bnspath => L ".bnspath"

/-- What `MoveFileToDirectory` looks for to fill the directory of the kind. -/
def searched : Kind -> WString
  | dll => L ".dll"
  | exe => L ".exe"
  | inf => L ".inf"
  | ini => L ".txt"
  | bnspath => L ".bnspath"

def directory : Kind -> Directories -> Directory
  | dll, s => s.copyFile
  | exe, s => s.currentDirectory
  | inf, s => s.script
  | ini, s => s.setting
  | bnspath, s => s.bnsPath

end Kind

structure Published (P : Platform) (dir : CopyFile) (kind : Kind) (X : WString)
    (content : Content) : Prop where
  file : exists File_, File_ ∈ dir.files ∧ File_.Name = X ++ L ".gz" ∧
    P.gunzip File_.content = some content
  suffix : kind.suffix <:+ toLower X
  ownSuffix : ¬ Contains (toLower X) (L ".gz")
  noList : ¬ Contains X (L "UpdateList")

def Installed (kind : Kind) (X : WString) (content : Content) (s : Directories) :
    Prop :=
  (kind.directory s).read X = some content

/-- The name is listed with another sum than `tmpDownload` has for it. -/
def Wanted (P : Platform) (server : FileServer) (s : Directories) (name : WString) :
    Prop :=
  exists tmpLst lst, getTmpDownloadFileMd5 P s.tmpUpdateList = some tmpLst ∧
    getServerFileMd5 P server.updateList = some lst ∧
      exists item, item ∈ lst ∧ item.strFileName = name ∧ ¬ Matched tmpLst item

/-- What the name has in `tmpDownload` when everything wanted is there. -/
def Fetched (P : Platform) (server : FileServer) (s : Directories) (name : WString)
    (file : Option Content) : Prop :=
  Wanted P server s name ∧ server.update name = file ∨
    ¬ Wanted P server s name ∧ s.tmpDownload.read name = file

/--
The compressed file is wanted, or it is there already with the content, or it is
not there and the file itself is: with the content in `tmpDownload`, or not
there either and with the content where it belongs.
-/
def Arrives (P : Platform) (server : FileServer) (s : Directories) (kind : Kind)
    (X : WString) (content : Content) : Prop :=
  Wanted P server s (X ++ L ".gz") ∨
    (exists gz, s.tmpDownload.read (X ++ L ".gz") = some gz ∧
      P.gunzip gz = some content) ∨
    s.tmpDownload.read (X ++ L ".gz") = none ∧
      (Fetched P server s X (some content) ∨
        Fetched P server s X none ∧ Installed kind X content s)

/-- A file that no pass looks for has to be where it belongs before. -/
def Delivered (P : Platform) (server : FileServer) (s : Directories) (kind : Kind)
    (X : WString) (content : Content) : Prop :=
  if Contains (toLower X) kind.searched then Arrives P server s kind X content
  else Installed kind X content s

section

variable {P : Platform} {server : FileServer} {s s' : Directories}

theorem main_cases (h : main P server s = some s') :
    exists tmpLst lst tmp, getTmpDownloadFileMd5 P s.tmpUpdateList = some tmpLst ∧
      getServerFileMd5 P server.updateList = some lst ∧
      downLoadFile P server (getDownloadFile tmpLst lst) s.tmpDownload = some tmp ∧
      s' = moveFileToDirectory server.updateList { s with tmpDownload := tmp } := by
  have hupdate : update P server s = some s' := by
    unfold main at h
    split at h
    · cases h
    · split at h
      · cases h
      · split at h
        · exact (Option.filter_eq_some_iff.mp h).left
        · cases h
  rcases Option.bind_eq_some_iff.mp hupdate with ⟨tmpLst, htmpLst, hrest⟩
  rcases Option.bind_eq_some_iff.mp hrest with ⟨lst, hlst, hrest⟩
  rcases Option.bind_eq_some_iff.mp hrest with ⟨tmp, htmp, hrest⟩
  cases hrest
  exact ⟨tmpLst, lst, tmp, htmpLst, hlst, htmp, rfl⟩

theorem mem_getDownloadFile {tmpLst lst : List ConsoleFileSrc}
    (htmp : getTmpDownloadFileMd5 P s.tmpUpdateList = some tmpLst)
    (hlst : getServerFileMd5 P server.updateList = some lst) (name : WString) :
    name ∈ getDownloadFile tmpLst lst ↔ Wanted P server s name := by
  constructor
  · intro h
    rcases List.mem_map.mp h with ⟨item, hitem, hname⟩
    rcases List.mem_filter.mp hitem with ⟨hmem, hnot⟩
    exact ⟨tmpLst, lst, htmp, hlst, item, hmem, hname, by simpa using hnot⟩
  · intro h
    rcases h with ⟨tmpLst', lst', htmp', hlst', item, hmem, hname, hnot⟩
    rw [htmp, Option.some.injEq] at htmp'
    rw [hlst, Option.some.injEq] at hlst'
    rw [← hlst'] at hmem
    rw [← htmp'] at hnot
    exact List.mem_map.mpr
      ⟨item, List.mem_filter.mpr ⟨hmem, by simpa using hnot⟩, hname⟩

theorem fetched_iff {lst : List WString} {tmp : Directory}
    (hlst : forall name, name ∈ lst ↔ Wanted P server s name)
    (h : downloadFiles server lst s.tmpDownload = some tmp) (name : WString)
    (file : Option Content) : Fetched P server s name file ↔ tmp.read name = file := by
  rw [downloadFiles_read h name]
  by_cases hwanted : Wanted P server s name
  · rw [if_pos ((hlst name).mpr hwanted)]
    simp [Fetched, hwanted]
  · rw [if_neg (fun hmem => hwanted ((hlst name).mp hmem))]
    simp [Fetched, hwanted]

theorem moveFileToDirectory_read (updateList : Profile) (tmp : Directory)
    (kind : Kind) (name : WString) :
    (kind.directory (moveFileToDirectory updateList
        { s with tmpDownload := tmp })).read name =
      if name ∈ findFile tmp kind.searched then
        (tmp.read name).or ((kind.directory s).read name)
      else (kind.directory s).read name := by
  cases kind with
  | dll => exact moveFile_read _ _ _ _
  | exe => exact moveFile_read _ _ _ _
  | inf => exact moveFile_read _ _ _ _
  | ini => exact moveFile_read _ _ _ _
  | bnspath => exact moveFile_read _ _ _ _

/-- The names of the files that are there before and of those that are listed. -/
structure PlainNames (P : Platform) (server : FileServer) (s : Directories) :
    Prop where
  tmpDownload : forall File_, File_ ∈ s.tmpDownload -> Plain File_.Name
  listed : forall lst, getServerFileMd5 P server.updateList = some lst ->
    forall item, item ∈ lst -> Plain item.strFileName

theorem PlainNames.downloaded (h : PlainNames P server s) {lst : List WString}
    {tmp : Directory} (hlst : forall name, name ∈ lst ↔ Wanted P server s name)
    (hdownload : downloadFiles server lst s.tmpDownload = some tmp) :
    forall name, name ∈ tmp.map FileInfo.Name -> Plain name := by
  intro name hname
  rcases (Directory.mem_names_iff tmp name).mp hname with ⟨content, hread⟩
  rw [downloadFiles_read hdownload] at hread
  by_cases hmem : name ∈ lst
  · rcases (hlst name).mp hmem with ⟨_, lst', _, hlst', item, hitem, heq, _⟩
    rw [← heq]
    exact h.listed lst' hlst' item hitem
  · rw [if_neg hmem] at hread
    have hold := (Directory.mem_names_iff s.tmpDownload name).mpr ⟨content, hread⟩
    rcases List.mem_map.mp hold with ⟨File_, hFile, heq⟩
    rw [← heq]
    exact h.tmpDownload File_ hFile

theorem arrives_iff {dir : CopyFile} {kind : Kind} {X : WString}
    {content : Content} {tmp1 tmp : Directory}
    (hfetched : forall name file, Fetched P server s name file ↔ tmp1.read name = file)
    (hpublished : Published P dir kind X content)
    (hserved : forall File_, File_ ∈ dir.files -> Contains File_.Name (L ".gz") ->
      server.update File_.Name = some File_.content)
    (hread : match tmp1.read (X ++ L ".gz") with
      | some gz => exists content, P.gunzip gz = some content ∧
          tmp.read X = some content
      | none => tmp.read X = tmp1.read X) :
    (tmp.read X).or ((kind.directory s).read X) = some content ↔
      Arrives P server s kind X content := by
  by_cases hwanted : Wanted P server s (X ++ L ".gz")
  · rcases hpublished.file with ⟨File_, hFile, hname, hgunzip⟩
    have hgz : tmp1.read (X ++ L ".gz") = some File_.content := by
      apply (hfetched _ _).mp
      refine Or.inl ⟨hwanted, ?_⟩
      rw [← hname]
      apply hserved File_ hFile
      rw [hname]
      exact append_gz_contains X
    rw [hgz] at hread
    rcases hread with ⟨content', hcontent', hX⟩
    rw [hgunzip, Option.some.injEq] at hcontent'
    rw [hX, hcontent']
    exact iff_of_true rfl (Or.inl hwanted)
  · have hgz : tmp1.read (X ++ L ".gz") = s.tmpDownload.read (X ++ L ".gz") :=
      (hfetched _ _).mp (Or.inr ⟨hwanted, rfl⟩)
    rw [hgz] at hread
    cases hold : s.tmpDownload.read (X ++ L ".gz") with
    | some gz =>
        rw [hold] at hread
        rcases hread with ⟨content', hcontent', hX⟩
        rw [hX]
        simp [Arrives, hwanted, hold, hcontent']
    | none =>
        rw [hold] at hread
        rw [hread, Option.or_eq_some_iff]
        simp [Arrives, hwanted, hold, hfetched, Installed]

theorem installed_iff_delivered {dir : CopyFile} {kind : Kind} {X : WString}
    {content : Content} (hnames : PlainNames P server s)
    (hmain : main P server s = some s') (hpublished : Published P dir kind X content)
    (hserved : forall File_, File_ ∈ dir.files -> Contains File_.Name (L ".gz") ->
      server.update File_.Name = some File_.content) :
    Installed kind X content s' ↔ Delivered P server s kind X content := by
  rcases main_cases hmain with ⟨tmpLst, lst, tmp, htmpLst, hlst, hdownLoad, hs'⟩
  rcases Option.bind_eq_some_iff.mp hdownLoad with ⟨tmp1, htmp1, htmp⟩
  have hwanted : forall name, name ∈ getDownloadFile tmpLst lst ↔
      Wanted P server s name := mem_getDownloadFile htmpLst hlst
  have hread := decompressFile_read (hnames.downloaded hwanted htmp1) htmp X
  have hfound : X ∈ findFile tmp kind.searched ↔
      (exists content, tmp.read X = some content) ∧
        Contains (toLower X) kind.searched := by
    rw [findFile, List.mem_filter, Directory.mem_names_iff]
    simp [hpublished.noList, hpublished.ownSuffix]
  rw [Installed, hs', moveFileToDirectory_read, Delivered]
  by_cases hsearched : Contains (toLower X) kind.searched
  · have hcopied : (if X ∈ findFile tmp kind.searched then
          (tmp.read X).or ((kind.directory s).read X)
        else (kind.directory s).read X) =
        (tmp.read X).or ((kind.directory s).read X) := by
      cases hX : tmp.read X with
      | none => simp
      | some content => rw [if_pos (hfound.mpr ⟨⟨content, hX⟩, hsearched⟩)]
    rw [if_pos hsearched, hcopied]
    exact arrives_iff (fetched_iff hwanted htmp1) hpublished hserved hread
  · rw [if_neg hsearched, if_neg (fun hmem => hsearched (hfound.mp hmem).right)]
    exact Iff.rfl

theorem Published.searched {dir : CopyFile} {kind : Kind} {X : WString}
    {content : Content} (h : Published P dir kind X content) (hkind : kind ≠ .ini) :
    Contains (toLower X) kind.searched := by
  have hsuffix := h.suffix.isInfix
  cases kind with
  | dll => exact hsuffix
  | exe => exact hsuffix
  | inf => exact hsuffix
  | ini => exact absurd rfl hkind
  | bnspath => exact hsuffix

end

/--
A complete update installs everything that is published exactly if all of it is
delivered: a file whose name has the suffix that the client looks for arrives,
and any other is where it belongs already.
-/
theorem installs_published_iff (P : Platform) (fileVersion : WString)
    (dir : CopyFile) (old : FileServer) {s s' : Directories}
    (hnames : PlainNames P (publish P fileVersion dir old) s)
    (hmain : main P (publish P fileVersion dir old) s = some s') :
    (forall kind X content, Published P dir kind X content ->
        Installed kind X content s') ↔
      forall kind X content, Published P dir kind X content ->
        Delivered P (publish P fileVersion dir old) s kind X content := by
  have hserved : forall File_, File_ ∈ dir.files ->
      Contains File_.Name (L ".gz") ->
        (publish P fileVersion dir old).update File_.Name = some File_.content :=
    fun File_ hFile hgz => publish_update fileVersion dir old hFile hgz
  constructor
  · intro h kind X content hpublished
    have hiff := installed_iff_delivered hnames hmain hpublished hserved
    exact hiff.mp (h kind X content hpublished)
  · intro h kind X content hpublished
    have hiff := installed_iff_delivered hnames hmain hpublished hserved
    exact hiff.mpr (h kind X content hpublished)

/-!
## From the source to its directory
-/

theorem contains_toLower {name part : WString} (h : Contains name part) :
    Contains (toLower name) (toLower part) := by
  rcases h with ⟨before, after, rfl⟩
  exact ⟨toLower before, toLower after, by simp [toLower]⟩

theorem Kind.suffix_mem (kind : Kind) : kind.suffix ∈ strArray := by
  cases kind <;> decide

/-- What `CompressFile` makes of a visible file is published with the file's content. -/
theorem published_source {P : Platform} {files : Directory} {dir : CopyFile}
    (hnodup : (files.map FileInfo.Name).Nodup)
    (hlisting : dir.files.Perm (compressFile P files)) {kind : Kind} {File_ : FileInfo}
    (hFile : File_ ∈ files) (hvisible : File_.Hidden = false)
    (hsuffix : kind.suffix <:+ toLower File_.Name)
    (hownSuffix : ¬ Contains (toLower File_.Name) (L ".gz"))
    (hnoList : ¬ Contains File_.Name (L "UpdateList")) :
    Published P dir kind File_.Name File_.content := by
  have hgz : ¬ Contains File_.Name (L ".gz") :=
    fun h => hownSuffix (contains_toLower h)
  have hcompresses : CompressesFile File_ :=
    ⟨⟨kind.suffix, kind.suffix_mem, hsuffix.isInfix⟩, hgz⟩
  have hread := compressFile_read (P := P) hnodup hFile hcompresses hvisible
  rcases Option.map_eq_some_iff.mp hread with ⟨compressed, hfind, hcontent⟩
  have hname := List.find?_some hfind
  have hmem := hlisting.mem_iff.mpr (List.mem_of_find?_eq_some hfind)
  have hgunzip : P.gunzip compressed.content = some File_.content := by
    rw [hcontent]
    exact P.gunzip_gzip File_.content
  exact
    { file := ⟨compressed, hmem, by simpa using hname, hgunzip⟩
      suffix := hsuffix
      ownSuffix := hownSuffix
      noList := hnoList }

/--
From the server's directory to the client's: a visible file that is compressed,
listed and published has its own content where it belongs after a complete update
exactly if it is delivered.
-/
theorem source_installed (P : Platform) (fileVersion : WString) {files : Directory}
    (hnodup : (files.map FileInfo.Name).Nodup) {dir : CopyFile}
    (hlisting : dir.files.Perm (compressFile P files)) (old : FileServer)
    {s s' : Directories} (hnames : PlainNames P (publish P fileVersion dir old) s)
    (hmain : main P (publish P fileVersion dir old) s = some s') {kind : Kind}
    {File_ : FileInfo} (hFile : File_ ∈ files) (hvisible : File_.Hidden = false)
    (hsuffix : kind.suffix <:+ toLower File_.Name)
    (hownSuffix : ¬ Contains (toLower File_.Name) (L ".gz"))
    (hnoList : ¬ Contains File_.Name (L "UpdateList")) :
    Installed kind File_.Name File_.content s' ↔
      Delivered P (publish P fileVersion dir old) s kind File_.Name File_.content :=
  installed_iff_delivered hnames hmain
    (published_source hnodup hlisting hFile hvisible hsuffix hownSuffix hnoList)
    fun _ hlisted hgz => publish_update fileVersion dir old hlisted hgz

/-!
## A file for the directory Setting
-/

def oneDllOneIni : CopyFile where
  files := [{ Name := L "a.dll.gz", content := Platform.gzipOfA },
    { Name := L "b.ini.gz", content := Platform.gzipOfA }]
  nodup := by decide
  length_lt := by decide

def oneDllOneIniServer : FileServer :=
  publish Platform.standard (L "1.02") oneDllOneIni
    { update := fun _ => none
      updateList := fun key =>
        if key = .consoleFileClientVersion then some clientVersion else none }

def newClient : Directories where
  tmpDownload := []
  tmpUpdateList := fun _ => none
  copyFile := []
  currentDirectory := []
  script := []
  setting := []
  bnsPath := []

def updatedClient : Directories :=
  (main Platform.standard oneDllOneIniServer newClient).getD newClient

theorem main_newClient :
    main Platform.standard oneDllOneIniServer newClient = some updatedClient := by
  have hsome : (main Platform.standard oneDllOneIniServer newClient).isSome := by
    decide +kernel
  rcases Option.isSome_iff_exists.mp hsome with ⟨s, hs⟩
  rw [updatedClient, hs]
  rfl

theorem plainNames_newClient :
    PlainNames Platform.standard oneDllOneIniServer newClient := by
  refine ⟨fun File_ hFile => (by cases hFile), ?_⟩
  intro lst hlst item hitem _
  have hread : getServerFileMd5 Platform.standard oneDllOneIniServer.updateList =
      some [
        { strFileName := L "a.dll" ++ L ".gz"
          strFileMd5 := L "1d92e2485ac1e211413230d0de3d4ed1" },
        { strFileName := L "b.ini" ++ L ".gz"
          strFileMd5 := L "1d92e2485ac1e211413230d0de3d4ed1" }] := by
    decide +kernel
  have heq := Option.some.inj (hread.symm.trans hlst)
  rw [← heq, List.mem_pair] at hitem
  rcases hitem with hdll | hini
  · rw [hdll]
    exact ⟨L "a.dll", rfl, by decide⟩
  · rw [hini]
    exact ⟨L "b.ini", rfl, by decide⟩

theorem installs_published_iff_newClient :
    (forall kind X content,
        Published Platform.standard oneDllOneIni kind X content ->
          Installed kind X content updatedClient) ↔
      forall kind X content,
        Published Platform.standard oneDllOneIni kind X content ->
          Delivered Platform.standard oneDllOneIniServer newClient kind X content :=
  installs_published_iff Platform.standard (L "1.02") oneDllOneIni _
    plainNames_newClient main_newClient

def oneDllOneIniSource : Directory :=
  [{ Name := L "a.dll", content := [97] }, { Name := L "b.ini", content := [97] }]

theorem source_installed_newClient :
    Installed .dll (L "a.dll") [97] updatedClient ↔
      Delivered Platform.standard oneDllOneIniServer newClient .dll (L "a.dll") [97] := by
  have hlisting : oneDllOneIni.files.Perm
      (compressFile Platform.standard oneDllOneIniSource) := by
    have heq : compressFile Platform.standard oneDllOneIniSource =
        oneDllOneIni.files := by
      decide +kernel
    rw [heq]
  exact @source_installed Platform.standard (L "1.02") oneDllOneIniSource (by decide)
    oneDllOneIni hlisting _ newClient updatedClient plainNames_newClient main_newClient
    .dll { Name := L "a.dll", content := [97] } List.mem_cons_self rfl (by decide)
    (by decide) (by decide)

theorem ini_not_installed :
    main Platform.standard oneDllOneIniServer newClient = some updatedClient ∧
      ¬ forall kind X content,
        Published Platform.standard oneDllOneIni kind X content ->
          Installed kind X content updatedClient := by
  refine ⟨main_newClient, ?_⟩
  intro h
  have hpublished : Published Platform.standard oneDllOneIni .ini (L "b.ini") [97] :=
    { file := ⟨_, List.mem_cons_of_mem _ List.mem_cons_self, rfl, by decide⟩
      suffix := by decide
      ownSuffix := by decide
      noList := by decide }
  have hread : updatedClient.setting.read (L "b.ini") = none := by
    decide +kernel
  have hinstalled := h .ini (L "b.ini") [97] hpublished
  rw [Installed, Kind.directory, hread] at hinstalled
  cases hinstalled

end Updater
end BnsKorea
