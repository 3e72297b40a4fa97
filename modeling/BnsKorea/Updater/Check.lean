import Mathlib.Logic.Function.Basic
import BnsKorea.Library.Machines
import BnsKorea.Updater.Model

/-!
# The check of the client

`CheckUpdateFile` compares the list that was fetched with the list that the last
update left in `tmpDownload`.  It never computes a sum.  An update downloads what
the lists differ in, decompresses what is in `tmpDownload`, copies it to where it
belongs and stores the new list in the end; it may stop anywhere.

What comes over the network and what becomes of a file between two runs are
arguments of the steps.
-/

namespace BnsKorea
namespace Updater

open Library

/-- How far a run has come, and the list that it fetched. -/
inductive Phase where
  | stopped
  | fetched (UpdateList : Content)
  | downloading (UpdateList : Content) (DownloadList : List WString)
  | decompressing (UpdateList : Content) (FileArray : List WString)
  | moved (UpdateList : Content)
  | stored (UpdateList : Content)
deriving DecidableEq

/-- The directory `tmpDownload` and the run. -/
structure Client where
  tmpDownload : WString -> Option Content := fun _ => none
  phase : Phase := .stopped
  /-- What was written since the list in `tmpDownload` was stored. -/
  replaced : List WString := []
  /-- What this run has written. -/
  written : List WString := []

inductive Label where
  /-- A run begins; its loop ends with this list. -/
  | fetch (UpdateList : Content)
  /-- The comparison of the versions, and the first `CheckUpdateFile`. -/
  | check
  | download (content : Content)
  /-- The run stops in a download; the old file is deleted first. -/
  | downloadPart (content : Option Content)
  /-- All files are downloaded, and those of `tmpDownload` are listed. -/
  | getFiles (FileArray : List WString)
  | decompress
  /-- The run stops in `Decompress`, which may throw. -/
  | decompressPart (content : Option Content)
  /-- The five passes of `MoveFileToDirectory`. -/
  | move
  | store
  /-- The second `CheckUpdateFile`. -/
  | checkAgain
  | stop
  /-- A file of `tmpDownload` is damaged, or lost, between two runs. -/
  | damage (name : WString) (content : Option Content)
deriving DecidableEq

def updateListName : WString := L "UpdateList.inf"

section

variable (P : Platform) (readProfile : Content -> Profile)

/-- The profile in a file; a file that is not there has no values. -/
def profileOf (file : Option Content) : Profile :=
  match file with
  | none => fun _ => none
  | some content => readProfile content

def Client.tmpUpdateList (s : Client) : Profile :=
  profileOf readProfile (s.tmpDownload updateListName)

/-- A file of `tmpDownload` is written by the run. -/
def Client.write (name : WString) (content : Option Content) (s : Client) : Client :=
  { s with
    tmpDownload := Function.update s.tmpDownload name content
    replaced := name :: s.replaced
    written := name :: s.written }

/-- What the run does after the first `CheckUpdateFile`. -/
def Client.afterCheck (UpdateList : Content) (s : Client) : Phase :=
  if getValue P (readProfile UpdateList) .consoleFileClientVersion ≠ clientVersion then
    .stopped
  else
    match checkUpdateFile P (readProfile UpdateList) (s.tmpUpdateList readProfile),
        getTmpDownloadFileMd5 P (s.tmpUpdateList readProfile),
        getServerFileMd5 P (readProfile UpdateList) with
    | some true, some tmpDownloadFileList, some ServerFileList =>
        .downloading UpdateList (getDownloadFile tmpDownloadFileList ServerFileList)
    | _, _, _ => .stopped

/-- One turn of the loop of `DecompressFile`, without a value where it throws. -/
def Client.decompress (item : WString) (s : Client) : Option Client :=
  if Contains item (L ".gz") then
    ((s.tmpDownload item).bind P.gunzip).map fun content =>
      s.write (removeExtension item) (some content)
  else some s

def enabled : Label -> Client -> Prop
  | .fetch UpdateList, s =>
      s.phase = .stopped ∧ getValue P (readProfile UpdateList) .lock ≠ L "1"
  | .check, s => exists UpdateList, s.phase = .fetched UpdateList
  | .download _, s =>
      exists UpdateList item DownloadList,
        s.phase = .downloading UpdateList (item :: DownloadList)
  | .downloadPart _, s =>
      exists UpdateList item DownloadList,
        s.phase = .downloading UpdateList (item :: DownloadList)
  | .getFiles _, s => exists UpdateList, s.phase = .downloading UpdateList []
  | .decompress, s =>
      exists UpdateList item FileArray,
        s.phase = .decompressing UpdateList (item :: FileArray) ∧
          exists t, s.decompress P item = some t
  | .decompressPart _, s =>
      exists UpdateList item FileArray,
        s.phase = .decompressing UpdateList (item :: FileArray) ∧
          Contains item (L ".gz")
  | .move, s => exists UpdateList, s.phase = .decompressing UpdateList []
  | .store, s => exists UpdateList, s.phase = .moved UpdateList
  | .checkAgain, s => exists UpdateList, s.phase = .stored UpdateList
  | .stop, _ => True
  | .damage _ _, s => s.phase = .stopped

def apply : Label -> Client -> Client
  | .fetch UpdateList, s => { s with phase := .fetched UpdateList, written := [] }
  | .check, s =>
      match s.phase with
      | .fetched UpdateList =>
          { s with phase := s.afterCheck P readProfile UpdateList }
      | _ => s
  | .download content, s =>
      match s.phase with
      | .downloading UpdateList (item :: DownloadList) =>
          { s.write item (some content) with
            phase := .downloading UpdateList DownloadList }
      | _ => s
  | .downloadPart content, s =>
      match s.phase with
      | .downloading _ (item :: _) => { s.write item content with phase := .stopped }
      | _ => s
  | .getFiles FileArray, s =>
      match s.phase with
      | .downloading UpdateList [] =>
          { s with phase := .decompressing UpdateList FileArray }
      | _ => s
  | .decompress, s =>
      match s.phase with
      | .decompressing UpdateList (item :: FileArray) =>
          match s.decompress P item with
          | some t => { t with phase := .decompressing UpdateList FileArray }
          | none => s
      | _ => s
  | .decompressPart content, s =>
      match s.phase with
      | .decompressing _ (item :: _) =>
          { s.write (removeExtension item) content with phase := .stopped }
      | _ => s
  | .move, s =>
      match s.phase with
      | .decompressing UpdateList [] => { s with phase := .moved UpdateList }
      | _ => s
  | .store, s =>
      match s.phase with
      | .moved UpdateList =>
          { s with
            tmpDownload := Function.update s.tmpDownload updateListName
              (some UpdateList)
            phase := .stored UpdateList
            replaced := [] }
      | _ => s
  | .checkAgain, s => { s with phase := .stopped }
  | .stop, s => { s with phase := .stopped }
  | .damage name content, s =>
      { s with tmpDownload := Function.update s.tmpDownload name content }

def machine : Machine Client Label where
  enabled := enabled P readProfile
  step := apply P readProfile

/-!
## What is asked of an answer
-/

/-- The file is in `tmpDownload` and has the sum that is listed. -/
def Present (s : Client) (item : ConsoleFileSrc) : Prop :=
  exists content, s.tmpDownload item.strFileName = some content ∧
    P.md5 content = item.strFileMd5

/--
If no update is needed, every compressed file that the fetched list names, under
whatever number, is there with the sum that the list has for it.
-/
def AnswersRight (UpdateList : Content) (s : Client) : Prop :=
  checkUpdateFile P (readProfile UpdateList) (s.tmpUpdateList readProfile) =
      some false ->
    forall n strFileName, readProfile UpdateList (.file n) = some strFileName ->
      Compressed strFileName ->
      exists content, s.tmpDownload strFileName = some content ∧
        readProfile UpdateList (.fileMd5 n) = some (P.md5 content)

def Right : Label -> Client -> Prop
  | .check, s => forall UpdateList, s.phase = .fetched UpdateList ->
      AnswersRight P readProfile UpdateList s
  | .checkAgain, s => forall UpdateList, s.phase = .stored UpdateList ->
      AnswersRight P readProfile UpdateList s
  | _, _ => True

/--
The client reads every compressed file that the list names, with its sum: the
numbers are within `FileCount`, and the texts within the buffer.
-/
def ReadsAll (UpdateList : Content) : Prop :=
  forall n strFileName, readProfile UpdateList (.file n) = some strFileName ->
    Compressed strFileName ->
    forall lst, getServerFileMd5 P (readProfile UpdateList) = some lst ->
      exists item, item ∈ lst ∧ item.strFileName = strFileName ∧
        readProfile UpdateList (.fileMd5 n) = some item.strFileMd5

/-- Nothing that is listed as `tmpDownload` lists it has been replaced since. -/
def Unreplaced (UpdateList : Content) (s : Client) : Prop :=
  forall tmpLst lst,
    getTmpDownloadFileMd5 P (s.tmpUpdateList readProfile) = some tmpLst ->
    getServerFileMd5 P (readProfile UpdateList) = some lst ->
    forall item, item ∈ lst -> Compressed item.strFileName ->
      Matched tmpLst item -> item.strFileName ∉ s.replaced

/-- The next write of the run is not to the list in `tmpDownload`. -/
def SparesList (s : Client) : Prop :=
  forall UpdateList item rest,
    (s.phase = .downloading UpdateList (item :: rest) -> item ≠ updateListName) ∧
      (s.phase = .decompressing UpdateList (item :: rest) ->
        removeExtension item ≠ updateListName)

/-- What is damaged is not in the list, or it is the list and is lost. -/
def Harmless (name : WString) (content : Option Content) (s : Client) : Prop :=
  if name = updateListName then content = none
  else
    forall lst, getTmpDownloadFileMd5 P (s.tmpUpdateList readProfile) = some lst ->
      forall item, item ∈ lst -> Compressed item.strFileName ->
        item.strFileName ≠ name

/--
The client reads all of a list that it checks; no file that an interrupted update has
replaced is listed again as the list in `tmpDownload` has it; an update stores its list
over files that it has written with the sums of the list, and does not touch the list
before; what is damaged or lost between two runs is not in the list, or it is the list
that is lost.
-/
def Careful : Label -> Client -> Prop
  | .fetch UpdateList, s => Unreplaced P readProfile UpdateList s
  | .check, s => forall UpdateList, s.phase = .fetched UpdateList ->
      ReadsAll P readProfile UpdateList
  | .checkAgain, s => forall UpdateList, s.phase = .stored UpdateList ->
      ReadsAll P readProfile UpdateList
  | .download _, s => SparesList s
  | .downloadPart _, s => SparesList s
  | .decompress, s => SparesList s
  | .decompressPart _, s => SparesList s
  | .store, s => forall UpdateList, s.phase = .moved UpdateList ->
      forall lst, getServerFileMd5 P (readProfile UpdateList) = some lst ->
        forall item, item ∈ lst -> Compressed item.strFileName ->
          item.strFileName ∈ s.written -> Present P s item
  | .damage name content, s => Harmless P readProfile name content s
  | _, _ => True

/-!
## What a run keeps
-/

/-- What is listed is still to come, or was written by the run, or is right. -/
def Pending (UpdateList : Content) (DownloadList : List WString) (s : Client) :
    Prop :=
  forall lst, getServerFileMd5 P (readProfile UpdateList) = some lst ->
    forall item, item ∈ lst -> Compressed item.strFileName ->
      item.strFileName ∈ DownloadList ∨ item.strFileName ∈ s.written ∨
        Present P s item

def At : Phase -> Client -> Prop
  | .stopped, _ => True
  | .fetched UpdateList, s => Unreplaced P readProfile UpdateList s
  | .downloading UpdateList DownloadList, s =>
      Pending P readProfile UpdateList DownloadList s
  | .decompressing UpdateList _, s => Pending P readProfile UpdateList [] s
  | .moved UpdateList, s => Pending P readProfile UpdateList [] s
  | .stored _, s => s.replaced = []

/-- What the list in `tmpDownload` says of a file is right until it is replaced. -/
def Listed (s : Client) : Prop :=
  forall lst, getTmpDownloadFileMd5 P (s.tmpUpdateList readProfile) = some lst ->
    forall item, Compressed item.strFileName -> Matched lst item ->
      item.strFileName ∉ s.replaced -> Present P s item

structure Kept (s : Client) : Prop where
  listed : Listed P readProfile s
  phase : At P readProfile s.phase s

end

section

variable {P : Platform} {readProfile : Content -> Profile} {s : Client}

theorem checkUpdateFile_false {updateList tmpUpdateList : Profile}
    (h : checkUpdateFile P updateList tmpUpdateList = some false) :
    exists tmpLst lst, getTmpDownloadFileMd5 P tmpUpdateList = some tmpLst ∧
      getServerFileMd5 P updateList = some lst ∧
        forall item, item ∈ lst -> Matched tmpLst item := by
  unfold checkUpdateFile at h
  split at h
  · cases h
  · cases htmp : getTmpDownloadFileMd5 P tmpUpdateList with
    | none =>
        rw [htmp] at h
        cases h
    | some tmpLst =>
        cases hserver : getServerFileMd5 P updateList with
        | none =>
            rw [htmp, hserver] at h
            cases h
        | some lst =>
            refine ⟨tmpLst, lst, rfl, rfl, ?_⟩
            rw [htmp, hserver] at h
            simp only [Option.bind_eq_bind, Option.bind_some] at h
            split at h
            · cases h
            · intro item hitem
              by_contra hnot
              have hany : (lst.any fun ServerItem =>
                  !decide (Matched tmpLst ServerItem)) = true := by
                rw [List.any_eq_true]
                exact ⟨item, hitem, by simpa using hnot⟩
              rw [hany] at h
              cases h

theorem answersRight (hs : Listed P readProfile s) {UpdateList : Content}
    (hunreplaced : Unreplaced P readProfile UpdateList s)
    (hreads : ReadsAll P readProfile UpdateList) :
    AnswersRight P readProfile UpdateList s := by
  intro hanswer n strFileName hnamed hgz
  rcases checkUpdateFile_false hanswer with ⟨tmpLst, lst, htmp, hserver, hmatched⟩
  rcases hreads n strFileName hnamed hgz lst hserver with ⟨item, hitem, hname, hsum⟩
  rw [← hname] at hgz ⊢
  have hmatch := hmatched item hitem
  have hpresent := hs tmpLst htmp item hgz hmatch
    (hunreplaced tmpLst lst htmp hserver item hitem hgz hmatch)
  rcases hpresent with ⟨content, hcontent, hmd5⟩
  exact ⟨content, hcontent, by rw [hsum, hmd5]⟩

theorem right_of_kept {l : Label} (hs : Kept P readProfile s)
    (hcareful : Careful P readProfile l s) : Right P readProfile l s := by
  cases l with
  | check =>
      intro UpdateList hphase
      have hunreplaced := hs.phase
      rw [hphase] at hunreplaced
      exact answersRight hs.listed hunreplaced (hcareful UpdateList hphase)
  | checkAgain =>
      intro UpdateList hphase
      have hnone := hs.phase
      rw [hphase] at hnone
      refine answersRight hs.listed ?_ (hcareful UpdateList hphase)
      intro tmpLst lst _ _ item _ _ _ hreplaced
      rw [show s.replaced = [] from hnone] at hreplaced
      cases hreplaced
  | fetch UpdateList => exact trivial
  | download content => exact trivial
  | downloadPart content => exact trivial
  | getFiles FileArray => exact trivial
  | decompress => exact trivial
  | decompressPart content => exact trivial
  | move => exact trivial
  | store => exact trivial
  | stop => exact trivial
  | damage name content => exact trivial

/-!
## Writing a file
-/

theorem Client.write_other {name name' : WString} (h : name' ≠ name)
    (content : Option Content) :
    (s.write name content).tmpDownload name' = s.tmpDownload name' := by
  simp [Client.write, h]

theorem Client.write_tmpUpdateList {name : WString} (h : name ≠ updateListName)
    (content : Option Content) :
    (s.write name content).tmpUpdateList readProfile = s.tmpUpdateList readProfile := by
  rw [Client.tmpUpdateList, Client.tmpUpdateList, Client.write_other h.symm]

theorem Present.write {item : ConsoleFileSrc} (h : Present P s item)
    {name : WString} (hne : item.strFileName ≠ name) (content : Option Content) :
    Present P (s.write name content) item := by
  rcases h with ⟨old, hold, hsum⟩
  refine ⟨old, ?_, hsum⟩
  rw [Client.write_other hne]
  exact hold

theorem Listed.write (hs : Listed P readProfile s) {name : WString}
    (h : name ≠ updateListName) (content : Option Content) :
    Listed P readProfile (s.write name content) := by
  intro lst hlst item hgz hmatch hreplaced
  rw [Client.write_tmpUpdateList h] at hlst
  have hne : item.strFileName ≠ name := by
    intro heq
    rw [heq] at hreplaced
    exact hreplaced List.mem_cons_self
  have hold : item.strFileName ∉ s.replaced :=
    fun hmem => hreplaced (List.mem_cons_of_mem name hmem)
  exact (hs lst hlst item hgz hmatch hold).write hne content

theorem Pending.write {UpdateList : Content} {DownloadList rest : List WString}
    {name : WString} (hs : Pending P readProfile UpdateList DownloadList s)
    (hrest : forall x, x ∈ DownloadList -> x = name ∨ x ∈ rest)
    (content : Option Content) :
    Pending P readProfile UpdateList rest (s.write name content) := by
  intro lst hlst item hitem hgz
  by_cases heq : item.strFileName = name
  · rw [heq]
    exact Or.inr (Or.inl List.mem_cons_self)
  · rcases hs lst hlst item hitem hgz with hcome | hwritten | hpresent
    · rcases hrest _ hcome with hname | hin
      · exact absurd hname heq
      · exact Or.inl hin
    · exact Or.inr (Or.inl (List.mem_cons_of_mem name hwritten))
    · exact Or.inr (Or.inr (hpresent.write heq content))

/-!
## The steps of a run
-/

theorem kept_check (hs : Kept P readProfile s) {UpdateList : Content}
    (hphase : s.phase = .fetched UpdateList) :
    Kept P readProfile (apply P readProfile .check s) := by
  have hunreplaced := hs.phase
  rw [hphase] at hunreplaced
  have happly : apply P readProfile .check s =
      { s with phase := s.afterCheck P readProfile UpdateList } := by
    simp only [apply, hphase]
  rw [happly]
  refine ⟨hs.listed, ?_⟩
  show At P readProfile (s.afterCheck P readProfile UpdateList) _
  unfold Client.afterCheck
  split
  · exact trivial
  · split
    · rename_i tmpLst lst _ htmp hserver
      intro lst' hlst' item hitem hgz
      rw [hserver, Option.some.injEq] at hlst'
      rw [← hlst'] at hitem
      by_cases hmatch : Matched tmpLst item
      · have hkeeps := hunreplaced tmpLst lst htmp hserver item hitem hgz hmatch
        exact Or.inr (Or.inr (hs.listed tmpLst htmp item hgz hmatch hkeeps))
      · refine Or.inl (List.mem_map.mpr ⟨item, ?_, rfl⟩)
        exact List.mem_filter.mpr ⟨hitem, by simpa using hmatch⟩
    · exact trivial

theorem kept_download (hs : Kept P readProfile s) {UpdateList : Content}
    {item : WString} {DownloadList : List WString}
    (hphase : s.phase = .downloading UpdateList (item :: DownloadList))
    (hspares : SparesList s) (content : Content) :
    Kept P readProfile (apply P readProfile (.download content) s) := by
  have hpending := hs.phase
  rw [hphase] at hpending
  have happly : apply P readProfile (.download content) s =
      { s.write item (some content) with
        phase := .downloading UpdateList DownloadList } := by
    simp only [apply, hphase]
  rw [happly]
  refine ⟨hs.listed.write ((hspares _ _ _).left hphase) _, ?_⟩
  exact Pending.write hpending (fun x hx => List.mem_cons.mp hx) _

theorem kept_downloadPart (hs : Kept P readProfile s) {UpdateList : Content}
    {item : WString} {DownloadList : List WString}
    (hphase : s.phase = .downloading UpdateList (item :: DownloadList))
    (hspares : SparesList s) (content : Option Content) :
    Kept P readProfile (apply P readProfile (.downloadPart content) s) := by
  have happly : apply P readProfile (.downloadPart content) s =
      { s.write item content with phase := .stopped } := by
    simp only [apply, hphase]
  rw [happly]
  exact ⟨hs.listed.write ((hspares _ _ _).left hphase) _, trivial⟩

theorem kept_decompress (hs : Kept P readProfile s) {UpdateList : Content}
    {item : WString} {FileArray : List WString} {t : Client}
    (hphase : s.phase = .decompressing UpdateList (item :: FileArray))
    (ht : s.decompress P item = some t) (hspares : SparesList s) :
    Kept P readProfile (apply P readProfile .decompress s) := by
  have hpending := hs.phase
  rw [hphase] at hpending
  have happly : apply P readProfile .decompress s =
      { t with phase := .decompressing UpdateList FileArray } := by
    simp only [apply, hphase, ht]
  rw [happly]
  unfold Client.decompress at ht
  split at ht
  · rcases Option.map_eq_some_iff.mp ht with ⟨content, _, hwrite⟩
    rw [← hwrite]
    refine ⟨hs.listed.write ((hspares _ _ _).right hphase) _, ?_⟩
    exact Pending.write hpending (fun x hx => by cases hx) _
  · rw [Option.some.injEq] at ht
    rw [← ht]
    exact ⟨hs.listed, hpending⟩

theorem kept_decompressPart (hs : Kept P readProfile s) {UpdateList : Content}
    {item : WString} {FileArray : List WString}
    (hphase : s.phase = .decompressing UpdateList (item :: FileArray))
    (hspares : SparesList s) (content : Option Content) :
    Kept P readProfile (apply P readProfile (.decompressPart content) s) := by
  have happly : apply P readProfile (.decompressPart content) s =
      { s.write (removeExtension item) content with phase := .stopped } := by
    simp only [apply, hphase]
  rw [happly]
  exact ⟨hs.listed.write ((hspares _ _ _).right hphase) _, trivial⟩

theorem Matched.mem {lst : List ConsoleFileSrc} {item : ConsoleFileSrc}
    (h : Matched lst item) : item ∈ lst := by
  rcases Option.map_eq_some_iff.mp h with ⟨found, hfound, hsum⟩
  have hname := List.find?_some hfound
  have heq : found = item := by
    cases found
    cases item
    simp only [decide_eq_true_eq] at hname hsum
    rw [hname, hsum]
  rw [← heq]
  exact List.mem_of_find?_eq_some hfound

theorem not_compressed_updateListName : ¬ Compressed updateListName := by
  decide

theorem kept_store (hs : Kept P readProfile s) {UpdateList : Content}
    (hphase : s.phase = .moved UpdateList)
    (hwritten : Careful P readProfile .store s) :
    Kept P readProfile (apply P readProfile .store s) := by
  have hpending := hs.phase
  rw [hphase] at hpending
  have happly : apply P readProfile .store s =
      { s with
        tmpDownload := Function.update s.tmpDownload updateListName (some UpdateList)
        phase := .stored UpdateList
        replaced := [] } := by
    simp only [apply, hphase]
  rw [happly]
  refine ⟨?_, rfl⟩
  intro lst hlst item hgz hmatch _
  have hserver : getServerFileMd5 P (readProfile UpdateList) = some lst := by
    simp only [Client.tmpUpdateList, Function.update_self] at hlst
    exact hlst
  have hpresent : Present P s item := by
    rcases hpending lst hserver item hmatch.mem hgz with hcome | hmem | hpresent
    · cases hcome
    · exact hwritten UpdateList hphase lst hserver item hmatch.mem hgz hmem
    · exact hpresent
  have hne : item.strFileName ≠ updateListName := by
    intro heq
    rw [heq] at hgz
    exact not_compressed_updateListName hgz
  rcases hpresent with ⟨content, hcontent, hsum⟩
  exact ⟨content, by simpa [hne] using hcontent, hsum⟩

theorem getFileMd5_none : getFileMd5 P (profileOf readProfile none) = some [] := by
  have hzero : getValue P (profileOf readProfile none) .fileCount =
      Printf.numeral 10 0 :=
    P.profileString_number 0 (by decide)
  rw [getFileMd5, hzero, intParse_numeral (by decide)]
  rfl

theorem kept_damage (hs : Kept P readProfile s) {name : WString}
    {content : Option Content} (hphase : s.phase = .stopped)
    (hharmless : Harmless P readProfile name content s) :
    Kept P readProfile (apply P readProfile (.damage name content) s) := by
  refine ⟨?_, ?_⟩
  · intro lst hlst item hgz hmatch hreplaced
    unfold Harmless at hharmless
    by_cases hname : name = updateListName
    · rw [if_pos hname] at hharmless
      have hempty : getTmpDownloadFileMd5 P
          ((apply P readProfile (.damage name content) s).tmpUpdateList readProfile) =
            some [] := by
        simp only [Client.tmpUpdateList, apply, hname, hharmless, Function.update_self]
        exact getFileMd5_none
      rw [hempty, Option.some.injEq] at hlst
      rw [← hlst] at hmatch
      cases hmatch
    · rw [if_neg hname] at hharmless
      have hsame : (apply P readProfile (.damage name content) s).tmpUpdateList
          readProfile = s.tmpUpdateList readProfile := by
        simp only [Client.tmpUpdateList, apply, Function.update_of_ne (Ne.symm hname)]
      rw [hsame] at hlst
      have hne := hharmless lst hlst item hmatch.mem hgz
      rcases hs.listed lst hlst item hgz hmatch hreplaced with ⟨old, hold, hsum⟩
      exact ⟨old, by simpa [apply, hne] using hold, hsum⟩
  · show At P readProfile s.phase _
    rw [hphase]
    exact trivial

theorem kept_step {l : Label} (henabled : enabled P readProfile l s)
    (hcareful : Careful P readProfile l s) (hs : Kept P readProfile s) :
    Kept P readProfile (apply P readProfile l s) := by
  cases l with
  | fetch UpdateList => exact ⟨hs.listed, hcareful⟩
  | check =>
      rcases henabled with ⟨UpdateList, hphase⟩
      exact kept_check hs hphase
  | download content =>
      rcases henabled with ⟨UpdateList, item, DownloadList, hphase⟩
      exact kept_download hs hphase hcareful content
  | downloadPart content =>
      rcases henabled with ⟨UpdateList, item, DownloadList, hphase⟩
      exact kept_downloadPart hs hphase hcareful content
  | getFiles FileArray =>
      rcases henabled with ⟨UpdateList, hphase⟩
      have hpending := hs.phase
      rw [hphase] at hpending
      have happly : apply P readProfile (.getFiles FileArray) s =
          { s with phase := .decompressing UpdateList FileArray } := by
        simp only [apply, hphase]
      rw [happly]
      exact ⟨hs.listed, hpending⟩
  | decompress =>
      rcases henabled with ⟨UpdateList, item, FileArray, hphase, t, ht⟩
      exact kept_decompress hs hphase ht hcareful
  | decompressPart content =>
      rcases henabled with ⟨UpdateList, item, FileArray, hphase, _⟩
      exact kept_decompressPart hs hphase hcareful content
  | move =>
      rcases henabled with ⟨UpdateList, hphase⟩
      have hpending := hs.phase
      rw [hphase] at hpending
      have happly : apply P readProfile .move s =
          { s with phase := .moved UpdateList } := by
        simp only [apply, hphase]
      rw [happly]
      exact ⟨hs.listed, hpending⟩
  | store =>
      rcases henabled with ⟨UpdateList, hphase⟩
      exact kept_store hs hphase hcareful
  | checkAgain => exact ⟨hs.listed, trivial⟩
  | stop => exact ⟨hs.listed, trivial⟩
  | damage name content => exact kept_damage hs henabled hcareful

/-!
## Whole runs
-/

theorem kept_start : Kept P readProfile {} := by
  refine ⟨?_, trivial⟩
  intro lst hlst item _ hmatch _
  have hempty : getTmpDownloadFileMd5 P (Client.tmpUpdateList readProfile {}) =
      some [] := getFileMd5_none
  rw [hempty, Option.some.injEq] at hlst
  rw [← hlst] at hmatch
  cases hmatch

/--
From an empty `tmpDownload` on, whatever is fetched and wherever runs stop, every
answer that no update is needed is right, if every step is careful.
-/
theorem answers_right (P : Platform) (readProfile : Content -> Profile)
    {labels : List Label} (h : (machine P readProfile).Admits labels {})
    (hcareful : (machine P readProfile).Each (Careful P readProfile) labels {}) :
    (machine P readProfile).Each (Right P readProfile) labels {} :=
  h.each hcareful (Kept P readProfile)
    (fun _ _ henabled hcareful hs => kept_step henabled hcareful hs)
    (fun _ _ _ hcareful hs => right_of_kept hs hcareful) kept_start

theorem sparesList_of_downloading {UpdateList : Content} {item : WString}
    {rest : List WString} (h : s.phase = .downloading UpdateList (item :: rest))
    (hne : item ≠ updateListName) : SparesList s := by
  intro UpdateList' item' rest'
  rw [h]
  constructor
  · intro heq
    cases heq
    exact hne
  · intro heq
    cases heq

theorem sparesList_of_decompressing {UpdateList : Content} {item : WString}
    {rest : List WString} (h : s.phase = .decompressing UpdateList (item :: rest))
    (hne : removeExtension item ≠ updateListName) : SparesList s := by
  intro UpdateList' item' rest'
  rw [h]
  constructor
  · intro heq
    cases heq
  · intro heq
    cases heq
    exact hne

theorem careful_store {UpdateList : Content} (h : s.phase = .moved UpdateList)
    {lst : List ConsoleFileSrc}
    (hlst : getServerFileMd5 P (readProfile UpdateList) = some lst)
    (hpresent : forall item, item ∈ lst -> Present P s item) :
    Careful P readProfile .store s := by
  intro UpdateList' hphase lst' hlst' item hitem _ _
  rw [h] at hphase
  cases hphase
  rw [hlst, Option.some.injEq] at hlst'
  rw [← hlst'] at hitem
  exact hpresent item hitem

theorem not_answersRight {UpdateList : Content} {n : Nat} {strFileName : WString}
    (hanswer : checkUpdateFile P (readProfile UpdateList)
      (s.tmpUpdateList readProfile) = some false)
    (hnamed : readProfile UpdateList (.file n) = some strFileName)
    (hgz : Compressed strFileName) (hlost : s.tmpDownload strFileName = none) :
    ¬ AnswersRight P readProfile UpdateList s := by
  intro h
  rcases h hanswer n strFileName hnamed hgz with ⟨content, hcontent, _⟩
  rw [hlost] at hcontent
  cases hcontent

def oneFileText : Content :=
  [91, 67, 111, 110, 102, 105, 103, 93, 13, 10, 76, 111, 99, 107, 61, 48, 13, 10,
    70, 105, 108, 101, 86, 101, 114, 115, 105, 111, 110, 61, 49, 46, 48, 50, 13,
    10, 67, 111, 110, 115, 111, 108, 101, 70, 105, 108, 101, 67, 108, 105, 101,
    110, 116, 86, 101, 114, 115, 105, 111, 110, 61, 49, 46, 48, 49, 13, 10, 70,
    105, 108, 101, 49, 61, 97, 46, 100, 108, 108, 46, 103, 122, 13, 10, 70, 105,
    108, 101, 49, 77, 100, 53, 61, 49, 100, 57, 50, 101, 50, 52, 56, 53, 97, 99,
    49, 101, 50, 49, 49, 52, 49, 51, 50, 51, 48, 100, 48, 100, 101, 51, 100, 52,
    101, 100, 49, 13, 10, 70, 105, 108, 101, 67, 111, 117, 110, 116, 61, 49, 13, 10]

def oneFileProfile : Profile
  | .lock => some (L "0")
  | .fileVersion => some (L "1.02")
  | .consoleFileClientVersion => some (L "1.01")
  | .file 1 => some (L "a.dll.gz")
  | .fileMd5 1 => some (L "1d92e2485ac1e211413230d0de3d4ed1")
  | .fileCount => some (L "1")
  | _ => none

def readOneFile (content : Content) : Profile :=
  if content = oneFileText then oneFileProfile else fun _ => none

def oneUpdate : List Label :=
  [.fetch oneFileText, .check, .download Platform.gzipOfA,
    .getFiles [L "a.dll.gz"], .decompress, .move, .store, .checkAgain]

theorem oneUpdate_admits :
    (machine Platform.standard readOneFile).Admits oneUpdate {} := by
  refine ⟨⟨rfl, ?_⟩, ⟨oneFileText, rfl⟩, ⟨oneFileText, L "a.dll.gz", [], ?_⟩,
    ⟨oneFileText, ?_⟩,
    ⟨oneFileText, L "a.dll.gz", [], ?_, _, Option.some_get ?_ |>.symm⟩,
    ⟨oneFileText, ?_⟩, ⟨oneFileText, ?_⟩, ⟨oneFileText, ?_⟩, trivial⟩
  all_goals decide +kernel

theorem readOneFile_lists :
    getServerFileMd5 Platform.standard (readOneFile oneFileText) =
      some [{
        strFileName := L "a.dll.gz"
        strFileMd5 := L "1d92e2485ac1e211413230d0de3d4ed1" }] := by
  decide +kernel

theorem readOneFile_readsAll : ReadsAll Platform.standard readOneFile oneFileText := by
  intro n strFileName hnamed _ lst hlst
  have hprofile : readOneFile oneFileText = oneFileProfile := if_pos rfl
  rw [readOneFile_lists, Option.some.injEq] at hlst
  rw [hprofile] at hnamed ⊢
  match n, hnamed with
  | 1, hnamed =>
      have hname : L "a.dll.gz" = strFileName := Option.some.inj hnamed
      rw [← hlst, ← hname]
      exact ⟨_, List.mem_cons_self, rfl, rfl⟩

theorem answers_right_oneUpdate :
    (machine Platform.standard readOneFile).Each
      (Right Platform.standard readOneFile) oneUpdate {} := by
  refine answers_right Platform.standard readOneFile oneUpdate_admits
    ⟨?_, ?_, ?_, trivial, ?_, trivial, ?_, ?_, trivial⟩
  · intro tmpLst lst _ _ item _ _ _ hreplaced
    cases hreplaced
  · intro UpdateList hphase
    cases hphase
    exact readOneFile_readsAll
  · apply @sparesList_of_downloading _ oneFileText (L "a.dll.gz") []
    · decide +kernel
    · decide
  · apply @sparesList_of_decompressing _ oneFileText (L "a.dll.gz") []
    · decide +kernel
    · decide
  · apply @careful_store _ _ _ oneFileText _ _ readOneFile_lists
    · intro item hitem
      rw [List.mem_singleton.mp hitem]
      exact ⟨Platform.gzipOfA, by decide +kernel, by decide +kernel⟩
    · decide +kernel
  · intro UpdateList hphase
    have hstored : ((machine Platform.standard readOneFile).play
        (oneUpdate.take 7) {}).phase = .stored oneFileText := by
      decide +kernel
    have hsame : Phase.stored oneFileText = Phase.stored UpdateList :=
      hstored.symm.trans hphase
    cases hsame
    exact readOneFile_readsAll

def lostFile : List Label :=
  oneUpdate ++ [.damage (L "a.dll.gz") none, .fetch oneFileText, .check]

theorem lostFile_not_noticed :
    (machine Platform.standard readOneFile).Admits lostFile {} ∧
      ¬ (machine Platform.standard readOneFile).Each
        (Right Platform.standard readOneFile) lostFile {} := by
  constructor
  · refine Machine.admits_append.mpr ⟨oneUpdate_admits, ?_, ⟨?_, ?_⟩,
      ⟨oneFileText, ?_⟩, trivial⟩
    · show ((machine Platform.standard readOneFile).play oneUpdate {}).phase = .stopped
      decide +kernel
    all_goals decide +kernel
  · intro h
    have hlast := (Machine.each_append.mp h).right.right.right.left oneFileText rfl
    refine @not_answersRight _ _ _ oneFileText 1 (L "a.dll.gz") ?_ ?_ ?_ ?_ hlast
    all_goals decide +kernel

end

end Updater
end BnsKorea
