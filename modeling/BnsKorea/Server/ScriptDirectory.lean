import Mathlib.Logic.Function.Basic
import BnsKorea.Game.TransferScript
import BnsKorea.Library.Machines

/-!
# Reading the script directory

The server reads the scripts of all its directories at the start, and again when
an operator asks for it.  The whole is read under the lock, and the daily tasks are
taken over under two other ones.  When the reading fails, the table is emptied and
the thread that read it sleeps for good.  The commands of the operator are called by
a library: that it makes one call after the other is a hypothesis of its own.
-/

namespace BnsKorea
namespace Server

open Library
open Game (SizesFit readScript_eq)

/-- What the code uses of the system and of the libraries. -/
structure ScriptTools where
  zlib : Zlib
  memory : Memory
  getCRC32_DWORD : List BYTE -> DWORD
  makeFormatText : WString -> List WString -> WString
  wstrstr_my : WString -> WString -> Bool
  getRemoveLeft : WString -> WString -> WString
  /-- `CScript::Read` on the text in a buffer. -/
  read : List BYTE -> Bool

/-- The files as they are found when the directories are read. -/
structure ScriptFiles where
  wszScriptFilePath : WString
  /-- `FindFirstFileW` and `FindNextFileW` on the directory; none if it is missing. -/
  cFileName : WString -> List WString
  readUnicodeFile : WString -> Option WString

structure CapterScript where
  wsCapter : WString
  pExpressScript : List BYTE
  Script : CipherScriptText

structure CScriptMap where
  mapScript : Std.TreeMap WString CapterScript := ∅
  bRepeat : Bool := false

namespace CScriptMap

variable (T : ScriptTools) (t : ScriptFiles)

def vecDirectory : List WString :=
  [L "1章", L "2章", L "3章", L "4章", L "5章", L "6章", L "7章", L "初章", L "简章",
    L "日常", L "8章", L "Script", L "一次性"]

def scriptPath (itm wsScriptName : WString) : WString :=
  T.makeFormatText (L "%s\\TaskScript\\%s\\%s")
    [cStr t.wszScriptFilePath, cStr itm, cStr wsScriptName]

def readScriptFileContent (itm wsScriptName : WString) (s : CScriptMap) :
    Option (Bool × CScriptMap) :=
  match t.readUnicodeFile (scriptPath T t itm wsScriptName) with
  | none => some (false, s)
  | some wsText =>
      (CScriptFile.readScript T.zlib T.memory T.getCRC32_DWORD wsScriptName wsText).map
        fun script =>
          match s.mapScript[wsScriptName]? with
          | some _ => (false, { s with bRepeat := true })
          | none =>
              (true,
                { s with
                  mapScript := s.mapScript.insertIfNew wsScriptName
                    { wsCapter := itm
                      pExpressScript := script.1
                      Script := script.2 } })

/-- The loop over the files of a directory; the first that fails ends it. -/
def readDirectory (itm : WString) : List WString -> CScriptMap ->
    Option (Bool × CScriptMap)
  | [], s => some (true, s)
  | cFileName :: rest, s =>
      if T.wstrstr_my cFileName (L ".inf") then
        (readScriptFileContent T t itm cFileName s).bind fun done =>
          if done.1 then readDirectory itm rest done.2 else some done
      else readDirectory itm rest s

def readDirectories : List WString -> CScriptMap -> Option (Bool × CScriptMap)
  | [], s => some (true, s)
  | itm :: VecDirectory, s =>
      (readDirectory T t itm (t.cFileName itm) s).bind fun done =>
        if done.1 then readDirectories VecDirectory done.2 else some done

def testEffectiveScriptContent (s : CScriptMap) : Bool :=
  s.mapScript.toList.all fun itm => T.read itm.2.pExpressScript

def traverseDirectory : Option (Bool × CScriptMap) :=
  (readDirectories T t vecDirectory {}).map fun done =>
    (done.1 && (!done.2.bRepeat && testEffectiveScriptContent T done.2), done.2)

def findScriptText_By_ScriptName (wsScriptName : WString) (s : CScriptMap) :
    Option CapterScript :=
  s.mapScript[wsScriptName]?

/-- The loop of `ReLoadDailyTask`. -/
def dailyScripts (s : CScriptMap) : List WString :=
  (s.mapScript.toList.filter fun itm => itm.2.wsCapter == L "日常").map
    fun itm => itm.2.Script.wsScriptName

end CScriptMap

/-- A turn of the loop of `ReFillVecDailyTaskName`. -/
def dailyTaskName (T : ScriptTools) (itm : WString) : WString :=
  if itm.tails.any (L ".inf").isPrefixOf then T.getRemoveLeft itm (L ".inf") else itm

def reFillVecDailyTaskName (T : ScriptTools) (Vec : List WString) : List WString :=
  Vec.map (dailyTaskName T)

/-!
## The threads that read
-/

/-- Where a thread is in `Initialize`. -/
inductive Phase where
  | idle
  /-- In front of `ReLoadDailyTask`. -/
  | traversed
  /-- In front of `ReFillVecDailyTaskName`, with the names for it. -/
  | collected (Vec : List WString)
  /-- In the sleep that does not end. -/
  | asleep

/-- The two tables, and where the threads are. -/
structure ScriptServer where
  scripts : CScriptMap := {}
  vecDailyTasName : List WString := []
  phase : Nat -> Phase := fun _ => .idle

/-- What a thread does under one lock. -/
inductive Step where
  | traverse (t : ScriptFiles)
  | collect
  | reFill

namespace ScriptServer

variable (T : ScriptTools) (th : Nat)

def setPhase (p : Phase) (s : ScriptServer) : ScriptServer :=
  { s with phase := Function.update s.phase th p }

def enabled : Step -> ScriptServer -> Prop
  | .traverse t, s =>
      s.phase th = .idle ∧ (CScriptMap.traverseDirectory T t).isSome = true
  | .collect, s => s.phase th = .traversed
  | .reFill, s => exists Vec, s.phase th = .collected Vec

/-- The parts of `ReadScriptFileToMemory`. -/
def apply : Step -> ScriptServer -> ScriptServer
  | .traverse t, s =>
      match CScriptMap.traverseDirectory T t with
      | none => s
      | some done =>
          if done.1 then setPhase th .traversed { s with scripts := done.2 }
          else
            setPhase th .asleep { s with scripts := { done.2 with mapScript := ∅ } }
  | .collect, s => setPhase th (.collected s.scripts.dailyScripts) s
  | .reFill, s =>
      match s.phase th with
      | .collected Vec =>
          setPhase th .idle { s with vecDailyTasName := reFillVecDailyTaskName T Vec }
      | _ => s

def machine : Machine ScriptServer (Nat × Step) where
  enabled l := enabled T l.1 l.2
  step l := apply T l.1 l.2

/-- The library begins a call when the one before it has come back. -/
def OneAfterTheOther : Nat × Step -> ScriptServer -> Prop
  | (_, .traverse _), s => forall x, s.phase x = .idle
  | _, _ => True

def filesRead : List (Nat × Step) -> List ScriptFiles
  | [] => []
  | (_, .traverse t) :: steps => t :: filesRead steps
  | (_, .collect) :: steps => filesRead steps
  | (_, .reFill) :: steps => filesRead steps

end ScriptServer

/-!
## Reading file after file
-/

namespace CScriptMap

variable (T : ScriptTools) (t : ScriptFiles)

def listed : List (WString × WString) :=
  vecDirectory.flatMap fun itm =>
    ((t.cFileName itm).filter fun cFileName => T.wstrstr_my cFileName (L ".inf")).map
      fun cFileName => (itm, cFileName)

def scriptOf (f : WString × WString) : Option CapterScript :=
  (t.readUnicodeFile (scriptPath T t f.1 f.2)).bind fun wsText =>
    (CScriptFile.readScript T.zlib T.memory T.getCRC32_DWORD f.2 wsText).map
      fun script =>
        { wsCapter := f.1
          pExpressScript := script.1
          Script := script.2 }

def readFiles : List (WString × WString) -> CScriptMap -> Option (Bool × CScriptMap)
  | [], s => some (true, s)
  | f :: files, s =>
      (readScriptFileContent T t f.1 f.2 s).bind fun done =>
        if done.1 then readFiles files done.2 else some done

variable {T t}

theorem readFiles_append (xs ys : List (WString × WString)) (s : CScriptMap) :
    readFiles T t (xs ++ ys) s =
      (readFiles T t xs s).bind fun done =>
        if done.1 then readFiles T t ys done.2 else some done := by
  induction xs generalizing s with
  | nil => rfl
  | cons f xs ih =>
      simp only [List.cons_append, readFiles, Option.bind_assoc]
      congr 1
      funext done
      cases done with
      | mk bRead s' =>
          cases bRead with
          | true => exact ih s'
          | false => rfl

theorem readDirectory_eq (itm : WString) (names : List WString) (s : CScriptMap) :
    readDirectory T t itm names s =
      readFiles T t
        ((names.filter fun cFileName => T.wstrstr_my cFileName (L ".inf")).map
          fun cFileName => (itm, cFileName)) s := by
  induction names generalizing s with
  | nil => rfl
  | cons cFileName rest ih =>
      cases hinf : T.wstrstr_my cFileName (L ".inf") with
      | true =>
          simp only [readDirectory, hinf, if_true, List.filter_cons_of_pos,
            List.map_cons, readFiles, ih]
      | false =>
          simp only [readDirectory, hinf, Bool.false_eq_true, if_false,
            not_false_eq_true, List.filter_cons_of_neg, ih]

theorem readDirectories_eq (VecDirectory : List WString) (s : CScriptMap) :
    readDirectories T t VecDirectory s =
      readFiles T t
        (VecDirectory.flatMap fun itm =>
          ((t.cFileName itm).filter fun cFileName =>
            T.wstrstr_my cFileName (L ".inf")).map fun cFileName => (itm, cFileName))
        s := by
  induction VecDirectory generalizing s with
  | nil => rfl
  | cons itm VecDirectory ih =>
      simp only [readDirectories, List.flatMap_cons, readFiles_append, readDirectory_eq,
        ih]

/-- The sizes of the texts are 32-bit numbers. -/
def TextsFit (T : ScriptTools) (t : ScriptFiles) : Prop :=
  forall wsPath wsText, t.readUnicodeFile wsPath = some wsText -> SizesFit T.zlib wsText

theorem readScript_of_fit {wsText : WString} (hfit : SizesFit T.zlib wsText)
    (wsScriptName : WString) :
    exists pExpressScript,
      CScriptFile.readScript T.zlib T.memory T.getCRC32_DWORD wsScriptName wsText =
        some (pExpressScript,
          Game.scriptRecord T.zlib T.memory T.getCRC32_DWORD wsScriptName wsText) :=
  readScript_eq hfit wsScriptName

theorem readScriptFileContent_cases (hfit : TextsFit T t) (f : WString × WString)
    (s : CScriptMap) :
    (scriptOf T t f = none ∧
        readScriptFileContent T t f.1 f.2 s = some (false, s)) ∨
      ((scriptOf T t f).isSome ∧ s.mapScript[f.2]? ≠ none ∧
        readScriptFileContent T t f.1 f.2 s =
          some (false, { s with bRepeat := true })) ∨
      (exists Script, scriptOf T t f = some Script ∧ s.mapScript[f.2]? = none ∧
        readScriptFileContent T t f.1 f.2 s =
          some (true, { s with mapScript := s.mapScript.insertIfNew f.2 Script })) := by
  unfold scriptOf readScriptFileContent
  cases hfile : t.readUnicodeFile (scriptPath T t f.1 f.2) with
  | none => exact Or.inl ⟨rfl, rfl⟩
  | some wsText =>
      rcases readScript_of_fit (hfit _ _ hfile) f.2 with ⟨pExpressScript, hread⟩
      rw [Option.bind_some]
      dsimp only
      rw [hread]
      cases htaken : s.mapScript[f.2]? with
      | some old => exact Or.inr (Or.inl ⟨rfl, fun h => (by cases h), rfl⟩)
      | none => exact Or.inr (Or.inr ⟨_, rfl, rfl, rfl⟩)

theorem forall_free_insertIfNew {f : WString × WString} {s : CScriptMap}
    (Script : CapterScript) (hfree : s.mapScript[f.2]? = none)
    {files : List (WString × WString)} :
    (forall g, g ∈ files -> (s.mapScript.insertIfNew f.2 Script)[g.2]? = none) ↔
      f.2 ∉ files.map Prod.snd ∧ forall g, g ∈ files -> s.mapScript[g.2]? = none := by
  constructor
  · intro h
    have hnew : f.2 ∉ files.map Prod.snd := by
      intro hmem
      rcases List.mem_map.mp hmem with ⟨g, hg, hname⟩
      have hnone := h g hg
      rw [hname, OrderedMaps.getElem?_insertIfNew_of_none Script hfree] at hnone
      cases hnone
    refine ⟨hnew, fun g hg => ?_⟩
    have hname : f.2 ≠ g.2 := fun hname => hnew (hname ▸ List.mem_map_of_mem hg)
    rw [← OrderedMaps.getElem?_insertIfNew_of_ne s.mapScript Script hname]
    exact h g hg
  · intro h g hg
    have hname : f.2 ≠ g.2 := fun hname => h.left (hname ▸ List.mem_map_of_mem hg)
    rw [OrderedMaps.getElem?_insertIfNew_of_ne s.mapScript Script hname]
    exact h.right g hg

theorem readFiles_spec (hfit : TextsFit T t) (files : List (WString × WString))
    (s : CScriptMap) :
    exists bRead s', readFiles T t files s = some (bRead, s') ∧
      (bRead = true ↔ (forall f, f ∈ files -> (scriptOf T t f).isSome) ∧
        (files.map Prod.snd).Nodup ∧ forall f, f ∈ files -> s.mapScript[f.2]? = none) ∧
      (bRead = true -> s'.bRepeat = s.bRepeat ∧
        forall name, s'.mapScript[name]? =
          (s.mapScript[name]?).or
            ((files.find? fun f => f.2 == name).bind (scriptOf T t))) := by
  induction files generalizing s with
  | nil =>
      refine ⟨true, s, rfl, iff_of_true rfl ?_, fun _ => ⟨rfl, fun name => ?_⟩⟩
      · simp
      · simp
  | cons f files ih =>
      rcases readScriptFileContent_cases hfit f s with
        ⟨hmissing, hread⟩ | ⟨_, htaken, hread⟩ | ⟨Script, hscript, hfree, hread⟩
      · refine ⟨false, s, ?_, ?_, fun h => by cases h⟩
        · simp [readFiles, hread]
        · constructor
          · intro h
            cases h
          · intro h
            have hsome := h.left f List.mem_cons_self
            rw [hmissing] at hsome
            cases hsome
      · refine ⟨false, { s with bRepeat := true }, ?_, ?_, fun h => by cases h⟩
        · simp [readFiles, hread]
        · constructor
          · intro h
            cases h
          · intro h
            exact absurd (h.right.right f List.mem_cons_self) htaken
      · rcases ih { s with mapScript := s.mapScript.insertIfNew f.2 Script } with
          ⟨bRead, s', hrest, hgood, hholds⟩
        refine ⟨bRead, s', ?_, ?_, ?_⟩
        · simp [readFiles, hread, hrest]
        · rw [hgood]
          rw [forall_free_insertIfNew Script hfree, List.map_cons, List.nodup_cons]
          constructor
          · rintro ⟨hall, hnodup, hnew, hnone⟩
            refine ⟨?_, ⟨hnew, hnodup⟩, ?_⟩
            · intro g hg
              rcases List.mem_cons.mp hg with hgf | hg
              · rw [hgf, hscript]
                rfl
              · exact hall g hg
            · intro g hg
              rcases List.mem_cons.mp hg with hgf | hg
              · rw [hgf]
                exact hfree
              · exact hnone g hg
          · rintro ⟨hall, ⟨hnew, hnodup⟩, hnone⟩
            exact ⟨fun g hg => hall g (List.mem_cons_of_mem _ hg), hnodup, hnew,
              fun g hg => hnone g (List.mem_cons_of_mem _ hg)⟩
        · intro hbRead
          rcases hholds hbRead with ⟨hrepeat, hlookup⟩
          refine ⟨hrepeat, fun name => ?_⟩
          rw [hlookup name]
          by_cases hname : f.2 = name
          · rw [← hname, OrderedMaps.getElem?_insertIfNew_of_none Script hfree, hfree]
            simp [hscript]
          · rw [OrderedMaps.getElem?_insertIfNew_of_ne s.mapScript Script hname,
              List.find?_cons_of_neg (by simpa using hname)]

/-- Both tables hold the same scripts, one without their directories. -/
def SameScripts (s : CScriptMap) (c : CScriptFile) : Prop :=
  c.bRepeat = s.bRepeat ∧
    forall name : WString,
      c.mapScript[name]? = (s.mapScript[name]?).map CapterScript.Script

theorem readScriptFileContent_same {s : CScriptMap} {c : CScriptFile}
    (h : SameScripts s c) {itm name : WString} {done : Bool × CScriptMap}
    (hread : readScriptFileContent T t itm name s = some done) :
    exists c', CScriptFile.readScriptFileContent T.zlib T.memory T.getCRC32_DWORD
        t.readUnicodeFile (scriptPath T t itm name) name c = some (done.1, c') ∧
      SameScripts done.2 c' := by
  rcases h with ⟨hrepeat, hsame⟩
  unfold readScriptFileContent at hread
  unfold CScriptFile.readScriptFileContent
  cases hfile : t.readUnicodeFile (scriptPath T t itm name) with
  | none =>
      rw [hfile] at hread
      rw [← Option.some.inj hread]
      exact ⟨c, rfl, hrepeat, hsame⟩
  | some wsText =>
      rw [hfile] at hread
      rcases Option.map_eq_some_iff.mp hread with ⟨script, hscript, hdone⟩
      dsimp only
      rw [hscript, Option.map_some, hsame name]
      rw [← hdone]
      cases htaken : s.mapScript[name]? with
      | some old => exact ⟨{ c with bRepeat := true }, rfl, rfl, hsame⟩
      | none =>
          refine ⟨_, rfl, hrepeat, fun other => ?_⟩
          by_cases hname : name = other
          · have hfree : c.mapScript[name]? = none := by rw [hsame name, htaken]; rfl
            rw [← hname, OrderedMaps.getElem?_insertIfNew_of_none _ hfree,
              OrderedMaps.getElem?_insertIfNew_of_none _ htaken]
            rfl
          · rw [OrderedMaps.getElem?_insertIfNew_of_ne _ _ hname,
              OrderedMaps.getElem?_insertIfNew_of_ne _ _ hname]
            exact hsame other

/-!
## A whole reading
-/

/-- Every file can be read, no two have one name, and every script is one. -/
structure Fine (T : ScriptTools) (t : ScriptFiles) : Prop where
  readable : forall f, f ∈ listed T t -> (scriptOf T t f).isSome
  distinct : ((listed T t).map Prod.snd).Nodup
  effective : forall f, f ∈ listed T t -> forall Script, scriptOf T t f = some Script ->
    T.read Script.pExpressScript = true

/-- The table holds the scripts of the files and nothing else. -/
def Shows (T : ScriptTools) (t : ScriptFiles) (s : CScriptMap) : Prop :=
  forall name Script, s.mapScript[name]? = some Script ↔
    exists itm, (itm, name) ∈ listed T t ∧ scriptOf T t (itm, name) = some Script

theorem find?_name {files : List (WString × WString)}
    (hdistinct : (files.map Prod.snd).Nodup) {f : WString × WString} (hf : f ∈ files) :
    (files.find? fun g => g.2 == f.2) = some f := by
  induction files with
  | nil => cases hf
  | cons g files ih =>
      rcases List.nodup_cons.mp hdistinct with ⟨hnew, hrest⟩
      rcases List.mem_cons.mp hf with hfg | hf
      · rw [hfg, List.find?_cons_of_pos (by simp)]
      · have hname : g.2 ≠ f.2 := fun hname => hnew (hname ▸ List.mem_map_of_mem hf)
        rw [List.find?_cons_of_neg (by simpa using hname)]
        exact ih hrest hf

theorem shows_of_lookups {s : CScriptMap}
    (hdistinct : ((listed T t).map Prod.snd).Nodup)
    (h : forall name, s.mapScript[name]? =
      ((listed T t).find? fun f => f.2 == name).bind (scriptOf T t)) : Shows T t s := by
  intro name Script
  rw [h name]
  constructor
  · intro hfound
    rcases Option.bind_eq_some_iff.mp hfound with ⟨f, hfind, hscript⟩
    have hname : f.2 = name := by simpa using List.find?_some hfind
    refine ⟨f.1, ?_, ?_⟩
    · rw [← hname]
      exact List.mem_of_find?_eq_some hfind
    · rw [← hname]
      exact hscript
  · rintro ⟨itm, hf, hscript⟩
    rw [find?_name hdistinct hf]
    exact hscript

theorem testEffectiveScriptContent_iff {s : CScriptMap} (h : Shows T t s) :
    testEffectiveScriptContent T s = true ↔
      forall f, f ∈ listed T t -> forall Script, scriptOf T t f = some Script ->
        T.read Script.pExpressScript = true := by
  rw [testEffectiveScriptContent, List.all_eq_true]
  constructor
  · intro hall f hf Script hscript
    have hfound := (h f.2 Script).mpr ⟨f.1, hf, hscript⟩
    exact hall (f.2, Script) (OrderedMaps.mem_toList_iff.mpr hfound)
  · intro hall itm hitm
    rcases (h itm.1 itm.2).mp (OrderedMaps.mem_toList_iff.mp hitm) with
      ⟨wsCapter, hf, hscript⟩
    exact hall _ hf itm.2 hscript

theorem traverseDirectory_spec (hfit : TextsFit T t) :
    exists bRead s, traverseDirectory T t = some (bRead, s) ∧
      (bRead = true ↔ Fine T t) ∧ (bRead = true -> Shows T t s) := by
  rcases readFiles_spec hfit (listed T t) {} with ⟨bRead, s, hread, hgood, hholds⟩
  have hdirectories : readDirectories T t vecDirectory {} = some (bRead, s) := by
    rw [readDirectories_eq]
    exact hread
  rw [traverseDirectory, hdirectories]
  refine ⟨_, s, rfl, ?_⟩
  cases hbRead : bRead with
  | false =>
      simp only [Bool.false_and, Bool.false_eq_true, false_iff, false_implies, and_true]
      intro hfine
      rw [hbRead] at hgood
      have hnot := mt hgood.mpr (by simp)
      exact hnot ⟨hfine.readable, hfine.distinct, fun _ _ => by simp⟩
  | true =>
      rcases hgood.mp hbRead with ⟨hreadable, hdistinct, _⟩
      rcases hholds hbRead with ⟨hrepeat, hlookup⟩
      have hshows : Shows T t s := by
        apply shows_of_lookups hdistinct
        intro name
        rw [hlookup name]
        simp
      simp only [Bool.true_and, hrepeat, Bool.not_false]
      rw [testEffectiveScriptContent_iff hshows]
      exact ⟨⟨fun heffective => ⟨hreadable, hdistinct, heffective⟩,
        fun hfine => hfine.effective⟩, fun _ => hshows⟩

theorem scriptOf_names (hfit : TextsFit T t) {f : WString × WString}
    {Script : CapterScript} (h : scriptOf T t f = some Script) :
    Script.wsCapter = f.1 ∧ Script.Script.wsScriptName = f.2 := by
  rcases Option.bind_eq_some_iff.mp h with ⟨wsText, hfile, hscript⟩
  rcases readScript_of_fit (hfit _ _ hfile) f.2 with ⟨pExpressScript, hread⟩
  rw [hread, Option.map_some] at hscript
  rw [← Option.some.inj hscript]
  exact ⟨rfl, rfl⟩

theorem mem_dailyScripts (hfit : TextsFit T t) (hreadable : forall f, f ∈ listed T t ->
    (scriptOf T t f).isSome) {s : CScriptMap} (h : Shows T t s) {name : WString} :
    name ∈ s.dailyScripts ↔ (L "日常", name) ∈ listed T t := by
  unfold dailyScripts
  constructor
  · intro hmem
    rcases List.mem_map.mp hmem with ⟨itm, hitm, hname⟩
    rcases List.mem_filter.mp hitm with ⟨hentry, hcapter⟩
    rcases (h itm.1 itm.2).mp (OrderedMaps.mem_toList_iff.mp hentry) with
      ⟨wsCapter, hf, hscript⟩
    rcases scriptOf_names hfit hscript with ⟨hdirectory, hnamed⟩
    have hdaily : itm.2.wsCapter = L "日常" := by simpa using hcapter
    rw [← hname, hnamed, ← hdaily, hdirectory]
    exact hf
  · intro hf
    rcases Option.isSome_iff_exists.mp (hreadable _ hf) with ⟨Script, hscript⟩
    rcases scriptOf_names hfit hscript with ⟨hdirectory, hnamed⟩
    have hentry := (h name Script).mpr ⟨_, hf, hscript⟩
    refine List.mem_map.mpr ⟨(name, Script), List.mem_filter.mpr ⟨?_, ?_⟩, hnamed⟩
    · exact OrderedMaps.mem_toList_iff.mpr hentry
    · simp [hdirectory]

end CScriptMap

/-!
## Every reading there is
-/

namespace ScriptServer

open CScriptMap (Fine Shows TextsFit listed)

variable {T : ScriptTools} {t : ScriptFiles} {th : Nat} {s : ScriptServer}

@[simp] theorem phase_setPhase_self (p : Phase) : (setPhase th p s).phase th = p := by
  simp [setPhase]

theorem phase_setPhase_of_ne {x : Nat} (hx : x ≠ th) (p : Phase) :
    (setPhase th p s).phase x = s.phase x := by
  simp [setPhase, hx]

@[simp] theorem scripts_setPhase (p : Phase) : (setPhase th p s).scripts = s.scripts :=
  rfl

@[simp] theorem vecDailyTasName_setPhase (p : Phase) :
    (setPhase th p s).vecDailyTasName = s.vecDailyTasName :=
  rfl

theorem apply_traverse_fine (hfit : TextsFit T t) (hfine : Fine T t) (th : Nat)
    (s : ScriptServer) :
    exists scripts, apply T th (.traverse t) s =
        setPhase th .traversed { s with scripts := scripts } ∧ Shows T t scripts := by
  rcases CScriptMap.traverseDirectory_spec hfit with
    ⟨bRead, scripts, hread, hgood, hshows⟩
  have hbRead := hgood.mpr hfine
  refine ⟨scripts, ?_, hshows hbRead⟩
  simp [apply, hread, hbRead]

theorem apply_traverse_bad (hfit : TextsFit T t) (hbad : ¬ Fine T t) (th : Nat)
    (s : ScriptServer) :
    exists bRepeat, apply T th (.traverse t) s =
      setPhase th .asleep { s with scripts := ⟨∅, bRepeat⟩ } := by
  rcases CScriptMap.traverseDirectory_spec hfit with ⟨bRead, scripts, hread, hgood, _⟩
  have hbRead : bRead = false := by
    cases bRead with
    | false => rfl
    | true => exact absurd (hgood.mp rfl) hbad
  exact ⟨scripts.bRepeat, by simp [apply, hread, hbRead]⟩

theorem enabled_traverse (hfit : TextsFit T t) (hidle : s.phase th = .idle) :
    enabled T th (.traverse t) s := by
  rcases CScriptMap.traverseDirectory_spec hfit with ⟨bRead, scripts, hread, _⟩
  exact ⟨hidle, by rw [hread]; rfl⟩

theorem filesRead_append (xs ys : List (Nat × Step)) :
    filesRead (xs ++ ys) = filesRead xs ++ filesRead ys := by
  induction xs with
  | nil => rfl
  | cons l xs ih =>
      rcases l with ⟨th, step⟩
      cases step with
      | traverse t => exact congrArg (t :: ·) ih
      | collect => exact ih
      | reFill => exact ih

/-- The daily tasks are those of the last of the files, at first there are none. -/
def DailyOf (T : ScriptTools) (ts : List ScriptFiles) (Vec : List WString) : Prop :=
  match ts.getLast? with
  | none => Vec = []
  | some t => forall wsTaskName, wsTaskName ∈ Vec ↔
      exists name, (L "日常", name) ∈ listed T t ∧ dailyTaskName T name = wsTaskName

theorem dailyOf_snoc (earlier : List ScriptFiles) (hfit : TextsFit T t)
    (hfine : Fine T t) {scripts : CScriptMap} (hshows : Shows T t scripts) :
    DailyOf T (earlier ++ [t]) (reFillVecDailyTaskName T scripts.dailyScripts) := by
  rw [DailyOf, List.getLast?_append, List.getLast?_singleton]
  intro wsTaskName
  rw [reFillVecDailyTaskName, List.mem_map]
  exact exists_congr fun name => and_congr_left fun _ =>
    CScriptMap.mem_dailyScripts hfit hfine.readable hshows

/-- Where the server is when one reading comes after the other. -/
inductive Stands (T : ScriptTools) : List ScriptFiles -> ScriptServer -> Prop where
  | idle {ts : List ScriptFiles} {s : ScriptServer}
      (hfine : forall t, t ∈ ts -> Fine T t)
      (hphase : forall x, s.phase x = .idle)
      (hshows : forall t, ts.getLast? = some t -> Shows T t s.scripts)
      (hdaily : DailyOf T ts s.vecDailyTasName) : Stands T ts s
  | reading {earlier : List ScriptFiles} {t : ScriptFiles} {s : ScriptServer} (th : Nat)
      (hearlier : forall t, t ∈ earlier -> Fine T t)
      (hfit : TextsFit T t) (hfine : Fine T t)
      (hothers : forall x, x ≠ th -> s.phase x = .idle)
      (hown : s.phase th = .traversed ∨
        s.phase th = .collected s.scripts.dailyScripts)
      (hshows : Shows T t s.scripts)
      (hdaily : DailyOf T earlier s.vecDailyTasName) : Stands T (earlier ++ [t]) s
  | asleep {earlier : List ScriptFiles} {bad : ScriptFiles} {s : ScriptServer} (th : Nat)
      (hearlier : forall t, t ∈ earlier -> Fine T t) (hbad : ¬ Fine T bad)
      (hothers : forall x, x ≠ th -> s.phase x = .idle)
      (hown : s.phase th = .asleep)
      (hempty : s.scripts.mapScript = ∅)
      (hdaily : DailyOf T earlier s.vecDailyTasName) : Stands T (earlier ++ [bad]) s

theorem stands_initial : Stands T [] {} :=
  .idle (fun t ht => by cases ht) (fun _ => rfl) (fun t ht => by cases ht) rfl

theorem Stands.traverse {ts : List ScriptFiles} (h : Stands T ts s)
    (hfit : TextsFit T t) (hidle : forall x, s.phase x = .idle) (th : Nat) :
    Stands T (ts ++ [t]) (apply T th (.traverse t) s) := by
  cases h with
  | idle hfine _ _ hdaily =>
      by_cases ht : Fine T t
      · rcases apply_traverse_fine hfit ht th s with ⟨scripts, happly, hshows⟩
        rw [happly]
        refine .reading th hfine hfit ht (fun x hx => ?_) (Or.inl (by simp)) hshows hdaily
        rw [phase_setPhase_of_ne hx]
        exact hidle x
      · rcases apply_traverse_bad hfit ht th s with ⟨bRepeat, happly⟩
        rw [happly]
        refine .asleep th hfine ht (fun x hx => ?_) (by simp) rfl hdaily
        rw [phase_setPhase_of_ne hx]
        exact hidle x
  | reading own _ _ _ _ hown =>
      rw [hidle own] at hown
      rcases hown with hown | hown
      · cases hown
      · cases hown
  | asleep own _ _ _ hown =>
      rw [hidle own] at hown
      cases hown

theorem Stands.collect {ts : List ScriptFiles} (h : Stands T ts s)
    (hphase : s.phase th = .traversed) : Stands T ts (apply T th .collect s) := by
  cases h with
  | idle _ hidle =>
      rw [hidle th] at hphase
      cases hphase
  | reading own hearlier hfit hfine hothers _ hshows hdaily =>
      have hsame : th = own := by
        by_contra hne
        rw [hothers th hne] at hphase
        cases hphase
      rw [hsame]
      refine .reading own hearlier hfit hfine (fun x hx => ?_) (Or.inr (by simp [apply]))
        hshows hdaily
      rw [apply, phase_setPhase_of_ne hx]
      exact hothers x hx
  | asleep own _ _ hothers hown =>
      by_cases hsame : th = own
      · rw [hsame, hown] at hphase
        cases hphase
      · rw [hothers th hsame] at hphase
        cases hphase

theorem Stands.reFill {ts : List ScriptFiles} (h : Stands T ts s) {Vec : List WString}
    (hphase : s.phase th = .collected Vec) : Stands T ts (apply T th .reFill s) := by
  have happly : apply T th .reFill s =
      setPhase th .idle { s with vecDailyTasName := reFillVecDailyTaskName T Vec } := by
    simp [apply, hphase]
  cases h with
  | idle _ hidle =>
      rw [hidle th] at hphase
      cases hphase
  | reading own hearlier hfit hfine hothers hown hshows hdaily =>
      have hsame : th = own := by
        by_contra hne
        rw [hothers th hne] at hphase
        cases hphase
      rw [hsame] at hphase happly ⊢
      have hVec : Vec = s.scripts.dailyScripts := by
        rw [hphase] at hown
        rcases hown with hown | hown
        · cases hown
        · exact Phase.collected.inj hown
      rw [happly]
      refine .idle (List.forall_mem_append.mpr
        ⟨hearlier, List.forall_mem_singleton.mpr hfine⟩) (fun x => ?_) ?_ ?_
      · by_cases hx : x = own
        · rw [hx, phase_setPhase_self]
        · rw [phase_setPhase_of_ne hx]
          exact hothers x hx
      · intro u hu
        rw [List.getLast?_append, List.getLast?_singleton] at hu
        rw [← Option.some.inj hu]
        exact hshows
      · rw [vecDailyTasName_setPhase, hVec]
        exact dailyOf_snoc _ hfit hfine hshows
  | asleep own _ _ hothers hown =>
      by_cases hsame : th = own
      · rw [hsame, hown] at hphase
        cases hphase
      · rw [hothers th hsame] at hphase
        cases hphase

theorem stands_play (steps : List (Nat × Step)) (hadmits : (machine T).Admits steps {})
    (hone : (machine T).Each OneAfterTheOther steps {})
    (hfit : forall t, t ∈ filesRead steps -> TextsFit T t) :
    Stands T (filesRead steps) ((machine T).play steps {}) := by
  induction steps using List.reverseRecOn with
  | nil => exact stands_initial
  | append_singleton steps l ih =>
      rw [filesRead_append] at hfit
      rcases Machine.admits_append.mp hadmits with ⟨hbefore, henabled, _⟩
      rcases Machine.each_append.mp hone with ⟨hbeforeOne, hlast, _⟩
      have hstands := ih hbefore hbeforeOne
        fun t ht => hfit t (List.mem_append_left _ ht)
      rw [filesRead_append, Machine.play_append]
      rcases l with ⟨th, step⟩
      cases step with
      | traverse t =>
          have ht := hfit t (List.mem_append_right _ List.mem_cons_self)
          exact hstands.traverse ht hlast th
      | collect =>
          rw [filesRead, filesRead, List.append_nil]
          exact hstands.collect henabled
      | reFill =>
          rw [filesRead, filesRead, List.append_nil]
          rcases henabled with ⟨Vec, hphase⟩
          exact hstands.reFill hphase

/--
Whichever threads read, as long as the readings come one after the other: while every
one finds fine files, the server hands out exactly the scripts of the last ones, its
daily tasks are those of the one directory as soon as the reading is over, and another
reading can be made.  After the first reading that does not find them no other one is
made and there is no script at all, while the daily tasks are still those from before.
-/
theorem readings (steps : List (Nat × Step)) (hadmits : (machine T).Admits steps {})
    (hone : (machine T).Each OneAfterTheOther steps {})
    (hfit : forall t, t ∈ filesRead steps -> TextsFit T t) :
    ((forall t, t ∈ filesRead steps -> Fine T t) ->
      (forall t, (filesRead steps).getLast? = some t ->
        Shows T t ((machine T).play steps {}).scripts) ∧
      ((forall x, ((machine T).play steps {}).phase x = .idle) ->
        DailyOf T (filesRead steps) ((machine T).play steps {}).vecDailyTasName ∧
        forall th t, TextsFit T t ->
          (machine T).enabled (th, .traverse t) ((machine T).play steps {}))) ∧
    forall earlier bad later, filesRead steps = earlier ++ bad :: later ->
      (forall t, t ∈ earlier -> Fine T t) -> ¬ Fine T bad ->
        later = [] ∧
        (forall name, ((machine T).play steps {}).scripts.findScriptText_By_ScriptName
          name = none) ∧
        DailyOf T earlier ((machine T).play steps {}).vecDailyTasName := by
  have hstands := stands_play steps hadmits hone hfit
  generalize (machine T).play steps {} = s at hstands ⊢
  generalize filesRead steps = ts at hstands ⊢
  cases hstands with
  | idle hfine hphase hshows hdaily =>
      refine ⟨fun _ => ⟨hshows, fun _ => ⟨hdaily, fun th t ht =>
        enabled_traverse ht (hphase th)⟩⟩, ?_⟩
      intro earlier bad later hts _ hbad
      exact absurd (hfine bad (by simp [hts])) hbad
  | @reading before t _ th hearlier hfitLast hfine hothers hown hshows hdaily =>
      refine ⟨fun _ => ⟨fun u hu => ?_, fun hidle => ?_⟩, ?_⟩
      · rw [List.getLast?_append, List.getLast?_singleton] at hu
        rw [← Option.some.inj hu]
        exact hshows
      · rw [hidle th] at hown
        rcases hown with hown | hown
        · cases hown
        · cases hown
      · intro earlier bad later hts _ hbad
        have hmem : bad ∈ before ++ [t] := by simp [hts]
        have hall := List.forall_mem_append.mpr
          ⟨hearlier, List.forall_mem_singleton.mpr hfine⟩
        exact absurd (hall bad hmem) hbad
  | @asleep before last _ th hearlier hbadLast hothers hown hempty hdaily =>
      refine ⟨fun hall => absurd (hall last (by simp)) hbadLast, ?_⟩
      intro earlier bad later hts _ hbad
      have hlater : later = [] := by
        rcases List.eq_nil_or_concat later with hnil | ⟨more, x, hmore⟩
        · exact hnil
        · rw [hmore, List.concat_eq_append, ← List.cons_append, ← List.append_assoc] at hts
          have hin : bad ∈ before := by
            rw [(List.append_inj' hts rfl).left]
            simp
          exact absurd (hearlier bad hin) hbad
      rw [hlater] at hts
      have hsame := (List.append_inj' hts rfl).left
      rw [← hsame]
      refine ⟨hlater, fun name => ?_, hdaily⟩
      simp [CScriptMap.findScriptText_By_ScriptName, hempty]

/-- The functions as their names describe them; every text is a script. -/
def tools : ScriptTools where
  zlib := Game.storing
  memory := Memory.standard
  getCRC32_DWORD := Server.crc32
  makeFormatText := Printf.swprintfTexts
  wstrstr_my ws wsKey := ws.tails.any wsKey.isPrefixOf
  getRemoveLeft ws wsKey := ws.take (ws.tails.findIdx wsKey.isPrefixOf)
  read _ := true

def oneScript : ScriptFiles where
  wszScriptFilePath := L "D:"
  cFileName itm := if itm = L "日常" then [L "1.inf", L "1.txt"] else []
  readUnicodeFile _ := some (L "a")

theorem listed_oneScript : listed tools oneScript = [(L "日常", L "1.inf")] := by
  decide

theorem mem_listed_oneScript : (L "日常", L "1.inf") ∈ listed tools oneScript := by
  rw [listed_oneScript]
  exact List.mem_cons_self

theorem textsFit_oneScript : TextsFit tools oneScript := by
  intro wsPath wsText h
  have htext : L "a" = wsText := Option.some.inj h
  rw [← htext]
  exact ⟨by decide, by decide⟩

theorem fine_oneScript : Fine tools oneScript where
  readable f hf := by
    have hfile : oneScript.readUnicodeFile
        (CScriptMap.scriptPath tools oneScript f.1 f.2) = some (L "a") := rfl
    rcases CScriptMap.readScript_of_fit (textsFit_oneScript _ _ hfile) f.2 with
      ⟨pExpressScript, hread⟩
    rw [CScriptMap.scriptOf, hfile, Option.bind_some, hread]
    rfl
  distinct := by
    rw [listed_oneScript]
    exact List.nodup_singleton _
  effective _ _ _ _ := rfl

def noScript : ScriptFiles :=
  { oneScript with readUnicodeFile := fun _ => none }

theorem not_fine_noScript : ¬ Fine tools noScript := by
  intro hfine
  cases hfine.readable _ mem_listed_oneScript

def startAndCommand : List (Nat × Step) :=
  [(0, .traverse oneScript), (0, .collect), (0, .reFill), (1, .traverse noScript)]

theorem startAndCommand_readings :
    (forall name, CScriptMap.findScriptText_By_ScriptName name
        ((machine tools).play startAndCommand {}).scripts = none) ∧
      L "1" ∈ ((machine tools).play startAndCommand {}).vecDailyTasName := by
  rcases apply_traverse_fine textsFit_oneScript fine_oneScript 0 {} with
    ⟨scripts, hfirst, _⟩
  -- the state in front of the command
  have hbefore : apply tools 0 .reFill (apply tools 0 .collect
      (apply tools 0 (.traverse oneScript) {})) =
        setPhase 0 .idle
          { setPhase 0 (.collected scripts.dailyScripts)
              (setPhase 0 .traversed { scripts := scripts }) with
            vecDailyTasName := reFillVecDailyTaskName tools scripts.dailyScripts } := by
    rw [hfirst]
    rfl
  have hidle : forall x, (apply tools 0 .reFill (apply tools 0 .collect
      (apply tools 0 (.traverse oneScript) {}))).phase x = .idle := by
    intro x
    rw [hbefore]
    by_cases hx : x = 0
    · rw [hx, phase_setPhase_self]
    · rw [phase_setPhase_of_ne hx]
      simp [setPhase, hx]
  have hfit : forall t, t ∈ filesRead startAndCommand -> TextsFit tools t := by
    intro t ht
    have hmem : t ∈ [oneScript, noScript] := ht
    rcases List.mem_pair.mp hmem with rfl | rfl
    · exact textsFit_oneScript
    · intro wsPath wsText hread
      cases hread
  have hadmits : (machine tools).Admits startAndCommand {} := by
    refine ⟨enabled_traverse textsFit_oneScript rfl, ?_, ?_,
      enabled_traverse (hfit noScript (by simp [filesRead, startAndCommand])) (hidle 1),
      trivial⟩
    · show (apply tools 0 (.traverse oneScript) {}).phase 0 = .traversed
      rw [hfirst, phase_setPhase_self]
    · show exists Vec, (apply tools 0 .collect
        (apply tools 0 (.traverse oneScript) {})).phase 0 = .collected Vec
      exact ⟨_, phase_setPhase_self _⟩
  rcases readings startAndCommand hadmits ⟨fun _ => rfl, trivial, trivial, hidle, trivial⟩
    hfit with ⟨_, hbad⟩
  rcases hbad [oneScript] noScript [] rfl (List.forall_mem_singleton.mpr fine_oneScript)
    not_fine_noScript with ⟨_, hnone, hdaily⟩
  exact ⟨hnone, (hdaily (L "1")).mpr ⟨L "1.inf", mem_listed_oneScript, by decide⟩⟩

end ScriptServer

end Server
end BnsKorea
