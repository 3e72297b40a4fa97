import BnsKorea.Common.ServerCommon
import BnsKorea.Library.Renames

/-!
# The game files that the console renames

The console optimises the game by giving a table of its files other endings, and
takes that back when it ends.  A move fails where the system refuses it, and a
pass that is broken off leaves its last moves out.
-/

namespace BnsKorea
namespace Console

open Library

/-- What is stored under every path. -/
abbrev Files (content : Type) := WString -> Option content

namespace COptimizeGame

def pakPath (wsGamePath : WString) (bOptimize : Bool) (itm : WString) : WString :=
  wsGamePath ++ L "\\CookedPC\\" ++ itm ++ (if bOptimize then L ".upk" else L ".cpk")

def splashPath (wsGamePath : WString) (bOptimize : Bool) : WString :=
  wsGamePath ++ L "\\Splash\\" ++ L "splash.bmp" ++
    (if bOptimize then L ".bmp" else L ".cmp")

/-- `wsFilePath` and `wsNewFileName`, turn by turn. -/
def filePaths (GetVecFile : List WString) (wsGamePath : WString) (bOptimize : Bool) :
    List (WString × WString) :=
  GetVecFile.map (fun itm =>
      (pakPath wsGamePath bOptimize itm, pakPath wsGamePath (!bOptimize) itm)) ++
    [(splashPath wsGamePath bOptimize, splashPath wsGamePath (!bOptimize))]

section

variable {content : Type} (FileExist : Files content -> WString -> Bool)
  (GetVecFile : List WString)

/-- The pass makes as many moves as there are tries, and a try tells whether the
system refuses the move. -/
def ActionForFile (wsGamePath : WString) (bOptimize : Bool) (tries : List Bool)
    (files : Files content) : Files content × Bool :=
  let after := ((filePaths GetVecFile wsGamePath bOptimize).zip tries).foldl
    (fun files m => move m.2 m.1.1 m.1.2 files) files
  (after,
    if bOptimize then FileExist after (wsGamePath ++ L "\\CookedPC\\00001029.cpk")
    else FileExist after (wsGamePath ++ L "\\CookedPC\\00001029.upk"))

def Open (wsGamePath : WString) (tries : List Bool) (files : Files content) :
    Files content × Bool :=
  ActionForFile FileExist GetVecFile (wsGamePath ++ L "\\contents\\bns\\") true tries
    files

def Close (wsGamePath : WString) (tries : List Bool) (files : Files content) :
    Files content × Bool :=
  ActionForFile FileExist GetVecFile (wsGamePath ++ L "\\contents\\bns\\") false tries
    files

def allTries : List Bool :=
  List.replicate (GetVecFile.length + 1) false

end

/-!
## The two names of a file
-/

inductive Stem where
  | pak (itm : WString)
  | splash

def Stem.path (wsGamePath : WString) (bOptimize : Bool) : Stem -> WString
  | .pak itm => pakPath wsGamePath bOptimize itm
  | .splash => splashPath wsGamePath bOptimize

def stems (GetVecFile : List WString) : List Stem :=
  GetVecFile.map .pak ++ [.splash]

theorem filePaths_eq (GetVecFile : List WString) (wsGamePath : WString)
    (bOptimize : Bool) :
    filePaths GetVecFile wsGamePath bOptimize = (stems GetVecFile).map fun stem =>
      (stem.path wsGamePath bOptimize, stem.path wsGamePath (!bOptimize)) := by
  simp [filePaths, stems, Stem.path, List.map_map]

def Stem.base (wsGamePath : WString) : Stem -> WString
  | .pak itm => wsGamePath ++ L "\\CookedPC\\" ++ itm
  | .splash => wsGamePath ++ L "\\Splash\\" ++ L "splash.bmp"

def Stem.isSplash : Stem -> Bool
  | .pak _ => false
  | .splash => true

def ending (isSplash bOptimize : Bool) : WString :=
  match isSplash, bOptimize with
  | false, true => L ".upk"
  | false, false => L ".cpk"
  | true, true => L ".bmp"
  | true, false => L ".cmp"

theorem ending_length : forall isSplash bOptimize : Bool,
    (ending isSplash bOptimize).length = 4 := by
  decide

theorem ending_inj : forall isSplash bOptimize isSplash' bOptimize' : Bool,
    ending isSplash bOptimize = ending isSplash' bOptimize' ->
      isSplash = isSplash' ∧ bOptimize = bOptimize' := by
  decide

theorem Stem.path_eq (wsGamePath : WString) (bOptimize : Bool) (stem : Stem) :
    stem.path wsGamePath bOptimize =
      stem.base wsGamePath ++ ending stem.isSplash bOptimize := by
  cases stem with
  | pak itm => cases bOptimize <;> rfl
  | splash => cases bOptimize <;> rfl

theorem Stem.eq_of_path {wsGamePath : WString} {bOptimize bOptimize' : Bool}
    {stem stem' : Stem}
    (h : stem.path wsGamePath bOptimize = stem'.path wsGamePath bOptimize') :
    stem = stem' ∧ bOptimize = bOptimize' := by
  rw [Stem.path_eq, Stem.path_eq] at h
  have hlength : (ending stem.isSplash bOptimize).length =
      (ending stem'.isSplash bOptimize').length := by
    rw [ending_length, ending_length]
  rcases List.append_inj' h hlength with ⟨hbase, hending⟩
  rcases ending_inj _ _ _ _ hending with ⟨hkind, hdirection⟩
  refine ⟨?_, hdirection⟩
  cases stem with
  | pak itm =>
      cases stem' with
      | pak itm' => rw [List.append_cancel_left hbase]
      | splash => cases hkind
  | splash =>
      cases stem' with
      | pak itm' => cases hkind
      | splash => rfl

def names (wsGamePath : WString) : Twins Stem WString where
  shown stem := stem.path wsGamePath true
  hidden stem := stem.path wsGamePath false
  shown_injective _ _ h := (Stem.eq_of_path h).left
  hidden_injective _ _ h := (Stem.eq_of_path h).left
  shown_ne_hidden _ _ h := Bool.noConfusion (Stem.eq_of_path h).right

/-!
## Passes
-/

section

variable {content : Type} (FileExist : Files content -> WString -> Bool)
  (GetVecFile : List WString)

theorem actionForFile_files (wsGamePath : WString) (bOptimize : Bool)
    (tries : List Bool) (files : Files content) :
    (ActionForFile FileExist GetVecFile wsGamePath bOptimize tries files).1 =
      ((stems GetVecFile).zip tries).foldl
        (fun files m => (names wsGamePath).turn bOptimize m.2 m.1 files) files := by
  simp only [ActionForFile, filePaths_eq, List.zip_map_left, List.foldl_map]
  cases bOptimize with
  | true => rfl
  | false => rfl

theorem stems_allTries (wsGamePath : WString) (files : Files content) :
    ((stems GetVecFile).zip (allTries GetVecFile)).foldl
        (fun files m => (names wsGamePath).turn false m.2 m.1 files) files =
      (stems GetVecFile).foldl
        (fun files stem => (names wsGamePath).turn false false stem files) files := by
  have hlength : (stems GetVecFile).length = GetVecFile.length + 1 := by
    simp [stems]
  rw [allTries, ← hlength, ← List.map_const', List.zip_map_right, List.zip_eq_zipWith,
    List.zipWith_self, List.map_map, List.foldl_map]
  rfl

/-- A call of `Open` or `Close`, with the moves that the system refuses. -/
structure Pass where
  bOptimize : Bool
  tries : List Bool

def Pass.run (wsGamePath : WString) (files : Files content) (pass : Pass) :
    Files content :=
  if pass.bOptimize then (Open FileExist GetVecFile wsGamePath pass.tries files).1
  else (Close FileExist GetVecFile wsGamePath pass.tries files).1

theorem passes_kept {wsGamePath : WString} {before files : Files content}
    (h : (names (wsGamePath ++ L "\\contents\\bns\\")).Kept (stems GetVecFile)
      before files) (passes : List Pass) :
    (names (wsGamePath ++ L "\\contents\\bns\\")).Kept (stems GetVecFile) before
      (passes.foldl (Pass.run FileExist GetVecFile wsGamePath) files) := by
  have hmoves : forall (tries : List Bool) m,
      m ∈ (stems GetVecFile).zip tries -> m.1 ∈ stems GetVecFile :=
    fun _ _ hm => (List.of_mem_zip hm).left
  induction passes generalizing files with
  | nil => exact h
  | cons pass passes ih =>
      apply ih
      unfold Pass.run Open Close
      split
      · rw [actionForFile_files]
        exact h.turns true _ (hmoves pass.tries)
      · rw [actionForFile_files]
        exact h.turns false _ (hmoves pass.tries)

/--
On a game without renamed files, whatever passes are made, refused or broken off,
every file of the table has one of its names and no other file is touched; a
`Close` that is not disturbed then brings everything back.
-/
theorem close_restores (wsGamePath : WString) {files : Files content}
    (hclean : forall paths,
      paths ∈ filePaths GetVecFile (wsGamePath ++ L "\\contents\\bns\\") true ->
        files paths.2 = none)
    (passes : List Pass) :
    let after := passes.foldl (Pass.run FileExist GetVecFile wsGamePath) files
    (forall paths,
      paths ∈ filePaths GetVecFile (wsGamePath ++ L "\\contents\\bns\\") true ->
        (after paths.1 = files paths.1 ∧ after paths.2 = none) ∨
          (after paths.1 = none ∧ after paths.2 = files paths.1)) ∧
      (forall p, (forall paths,
        paths ∈ filePaths GetVecFile (wsGamePath ++ L "\\contents\\bns\\") true ->
          p ≠ paths.1 ∧ p ≠ paths.2) -> after p = files p) ∧
      (Close FileExist GetVecFile wsGamePath (allTries GetVecFile) after).1 =
        files := by
  intro after
  rw [filePaths_eq] at hclean ⊢
  have hhidden : forall stem, stem ∈ stems GetVecFile ->
      files ((names (wsGamePath ++ L "\\contents\\bns\\")).hidden stem) = none :=
    fun stem hstem => hclean _ (List.mem_map_of_mem hstem)
  have hkept := passes_kept FileExist GetVecFile (Twins.kept_self hhidden) passes
  refine ⟨?_, ?_, ?_⟩
  · intro paths hpaths
    rcases List.mem_map.mp hpaths with ⟨stem, hstem, hnames⟩
    rw [← hnames]
    exact hkept.place stem hstem
  · intro p hp
    exact hkept.other p fun stem hstem => hp _ (List.mem_map_of_mem hstem)
  · rw [Close, actionForFile_files, stems_allTries]
    exact hkept.restored hhidden

end

def oneFile : Files Nat := fun path =>
  if path = L "D:\\contents\\bns\\\\CookedPC\\00001029.upk" then some 1 else none

def brokenOff : List Pass :=
  [{ bOptimize := true, tries := [false] }]

theorem oneFile_close_restores :
    (brokenOff.foldl (Pass.run (fun files path => (files path).isSome)
        [L "00001029"] (L "D:")) oneFile)
        (L "D:\\contents\\bns\\\\CookedPC\\00001029.cpk") = some 1 ∧
      (Close (fun files path => (files path).isSome) [L "00001029"] (L "D:")
        (allTries [L "00001029"])
        (brokenOff.foldl (Pass.run (fun files path => (files path).isSome)
          [L "00001029"] (L "D:")) oneFile)).1 = oneFile := by
  have hclean : forall paths,
      paths ∈ filePaths [L "00001029"] (L "D:" ++ L "\\contents\\bns\\") true ->
        oneFile paths.2 = none := by
    decide
  have hrestored := close_restores (fun files path => (files path).isSome)
    [L "00001029"] (L "D:") hclean brokenOff
  exact ⟨by decide, hrestored.right.right⟩

end COptimizeGame

end Console
end BnsKorea
