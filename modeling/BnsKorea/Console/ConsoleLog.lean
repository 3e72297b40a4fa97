import BnsKorea.Console.CardQuery
import BnsKorea.Library.Machines
import BnsKorea.Library.Printf

/-!
# What the console shows of its games

The games and the library of the console write lines to the console's window.
`SendMessageW` comes back when the line is in the console's queue, and a thread of
the console takes the lines out of it and puts them in the row of the account whose
name stands in front of the first colon.
-/

namespace BnsKorea
namespace Console

open Library

namespace CConsoleLog

inductive EmConsoleLog where
  | status
  | content
  | result
  | bugReport
deriving DecidableEq

/-- The library of the console knows no bug report. -/
inductive Writer where
  | consoleDLL
  | game
deriving DecidableEq

structure CopyDataStruct where
  dwData : Nat
  lpData : WString

structure Log where
  writer : Writer
  emType : EmConsoleLog
  wsAccountName : WString
  wsLogContent : WString

def dwData : Writer -> EmConsoleLog -> Nat
  | _, .status => 0x1
  | _, .content => 0x2
  | _, .result => 0x4
  | .consoleDLL, .bugReport => 0x0
  | .game, .bugReport => 0x5

/-- What the code relies on of the class of text functions. -/
structure LogTools where
  makeFormatText : WString -> List WString -> WString
  makeFormatText_eq : forall ws1 ws2, makeFormatText (L "%s:%s") [ws1, ws2] =
    Printf.swprintfTexts (L "%s:%s") [ws1, ws2]

variable (C : LogTools)

def copyData (l : Log) : CopyDataStruct where
  dwData := dwData l.writer l.emType
  lpData :=
    cStr (C.makeFormatText (L "%s:%s") [cStr l.wsAccountName, cStr l.wsLogContent])

/-!
## The console
-/

structure CConsoleContent where
  AccountName : WString
  LogContent : WString
  nType : Nat
deriving DecidableEq

def colon : UInt16 := 58

def getConsoleContent (nType : Nat) (Text : WString) : Option CConsoleContent :=
  if colon ∈ Text ∧ 0 < nType ∧ nType ≤ 10 then
    some
      { AccountName := Text.takeWhile fun c => c != colon
        LogContent := (Text.dropWhile fun c => c != colon).tail
        nType := nType }
  else none

/-- An account of `g_AccountList` with the cells of its row. -/
structure AccountRow where
  strUserName : WString
  strCloseReason : WString := []
  nRepeatCount : INT := 0
  statusCell : WString := []
  logCell : WString := []
  reasonCell : WString := []

structure Display where
  queue : List CConsoleContent := []
  rows : List AccountRow
  /-- The bug reports that were started. -/
  bugReports : List (WString × WString) := []

def addToQueue (m : CopyDataStruct) (s : Display) : Display :=
  match getConsoleContent m.dwData m.lpData with
  | some Content => { s with queue := s.queue ++ [Content] }
  | none => s

def isSpecialText_In_LogText (strText : WString) : Bool :=
  strText.tails.any (L "超过600秒任务").isPrefixOf ||
    strText.tails.any (L "超过3分钟不动").isPrefixOf

def repeatText (nRepeatCount : INT) (LogContent : WString) : WString :=
  L "#" ++ Printf.dec nRepeatCount.toUInt32 ++ L " " ++ LogContent

/-- The switch of `_RefushThread` on a row. -/
def setDgvValue (Content : CConsoleContent) (row : AccountRow) : AccountRow :=
  if Content.nType = 1 then { row with statusCell := Content.LogContent }
  else if Content.nType = 2 then { row with logCell := Content.LogContent }
  else if Content.nType = 4 then
    if isSpecialText_In_LogText Content.LogContent ∧
        Content.LogContent = row.strCloseReason then
      { row with
        nRepeatCount := row.nRepeatCount + 1
        reasonCell := repeatText (row.nRepeatCount + 1) Content.LogContent }
    else
      { row with
        strCloseReason := Content.LogContent
        reasonCell := Content.LogContent }
  else row

def showContent (Content : CConsoleContent) (s : Display) : Display :=
  match s.rows.findIdx? fun itm => itm.strUserName == Content.AccountName with
  | none => s
  | some Index =>
      { s with
        rows := s.rows.modify Index (setDgvValue Content)
        bugReports :=
          if Content.nType = 5 then
            s.bugReports ++ [(Content.AccountName, Content.LogContent)]
          else s.bugReports }

/-- A turn of `_RefushThread`. -/
def refush (s : Display) : Display :=
  match s.queue with
  | [] => s
  | Content :: queue => showContent Content { s with queue := queue }

inductive Step where
  | write (l : Log)
  | refush

def apply : Step -> Display -> Display
  | .write l, s => addToQueue (copyData C l) s
  | .refush, s => refush s

def machine : Machine Display Step where
  enabled _ _ := True
  step := apply C

def written : List Step -> List Log
  | [] => []
  | .write l :: steps => l :: written steps
  | .refush :: steps => written steps

/-!
## The line and its parts
-/

variable {C}

theorem swprintf_line (ws1 ws2 : WString) :
    Printf.swprintfTexts (L "%s:%s") [ws1, ws2] = ws1 ++ colon :: ws2 := by
  have hformat : L "%s:%s" = [37, 115, 58, 37, 115] := by decide
  rw [hformat]
  simp [Printf.swprintfTexts, colon]

def Log.line (l : Log) : WString :=
  cStr l.wsAccountName ++ colon :: cStr l.wsLogContent

def Log.shownName (l : Log) : WString :=
  l.line.takeWhile fun c => c != colon

def Log.shownText (l : Log) : WString :=
  (l.line.dropWhile fun c => c != colon).tail

def contentOf (l : Log) : Option CConsoleContent :=
  if dwData l.writer l.emType = 0 then none
  else
    some
      { AccountName := l.shownName
        LogContent := l.shownText
        nType := dwData l.writer l.emType }

theorem dwData_le (w : Writer) (kind : EmConsoleLog) : dwData w kind ≤ 10 := by
  cases w <;> cases kind <;> decide

theorem copyData_lpData (l : Log) : (copyData C l).lpData = l.line := by
  unfold copyData Log.line
  rw [C.makeFormatText_eq, swprintf_line]
  apply cStr_of_not_mem
  intro hzero
  rcases List.mem_append.mp hzero with hzero | hzero
  · exact zero_not_mem_cStr _ hzero
  · rcases List.mem_cons.mp hzero with hzero | hzero
    · exact absurd hzero (by decide)
    · exact zero_not_mem_cStr _ hzero

theorem addToQueue_copyData (l : Log) (s : Display) :
    addToQueue (copyData C l) s =
      { s with queue := s.queue ++ (contentOf l).toList } := by
  have hcolon : colon ∈ l.line := by simp [Log.line]
  have htype : (copyData C l).dwData = dwData l.writer l.emType := rfl
  unfold addToQueue contentOf getConsoleContent
  rw [copyData_lpData, htype]
  by_cases hzero : dwData l.writer l.emType = 0
  · simp [hzero]
  · have hpos := Nat.pos_of_ne_zero hzero
    simp [hzero, hpos, hcolon, dwData_le, Log.shownName, Log.shownText]

theorem shown_of_not_mem {l : Log} (hname : colon ∉ cStr l.wsAccountName) :
    l.shownName = cStr l.wsAccountName ∧ l.shownText = cStr l.wsLogContent := by
  have hletters : forall c, c ∈ cStr l.wsAccountName -> (c != colon) = true := by
    intro c hc
    have hne : c ≠ colon := fun heq => hname (heq ▸ hc)
    simpa using hne
  unfold Log.shownName Log.shownText Log.line
  rw [List.takeWhile_append_of_pos hletters, List.dropWhile_append_of_pos hletters]
  simp

/-!
## The queue
-/

def showAll (Contents : List CConsoleContent) (s : Display) : Display :=
  Contents.foldl (fun s Content => showContent Content s) s

theorem showContent_queue (Content : CConsoleContent) (s : Display)
    (queue : List CConsoleContent) :
    showContent Content { s with queue := queue } =
      { showContent Content s with queue := queue } := by
  unfold showContent
  dsimp only
  split
  · rfl
  · rfl

theorem written_append (xs ys : List Step) :
    written (xs ++ ys) = written xs ++ written ys := by
  induction xs with
  | nil => rfl
  | cons step xs ih =>
      cases step with
      | write l => exact congrArg (l :: ·) ih
      | refush => exact ih

theorem showAll_append (xs ys : List CConsoleContent) (s : Display) :
    showAll (xs ++ ys) s = showAll ys (showAll xs s) :=
  List.foldl_append

theorem play_shows (steps : List Step) (rows : List AccountRow) :
    exists shown waiting, written steps = shown ++ waiting ∧
      (machine C).play steps { rows := rows } =
        { showAll (shown.filterMap contentOf) { rows := rows } with
          queue := waiting.filterMap contentOf } := by
  induction steps using List.reverseRecOn with
  | nil => exact ⟨[], [], rfl, rfl⟩
  | append_singleton steps step ih =>
      rcases ih with ⟨shown, waiting, hwritten, hplay⟩
      rw [written_append, Machine.play_append, hplay, hwritten]
      cases step with
      | write l =>
          refine ⟨shown, waiting ++ [l], by simp [written], ?_⟩
          have hadd := addToQueue_copyData (C := C) l
            { showAll (shown.filterMap contentOf) { rows := rows } with
              queue := waiting.filterMap contentOf }
          refine hadd.trans ?_
          cases hcontent : contentOf l with
          | none => simp [hcontent]
          | some Content => simp [hcontent]
      | refush =>
          cases hqueue : waiting.filterMap contentOf with
          | nil =>
              refine ⟨shown, waiting, by simp [written], ?_⟩
              rw [hqueue]
              rfl
          | cons Content queue =>
              rcases List.filterMap_eq_cons_iff.mp hqueue with
                ⟨ignored, l, rest, hwaiting, hignored, hcontent, hrest⟩
              refine ⟨shown ++ ignored ++ [l], rest, by simp [written, hwaiting], ?_⟩
              have hshown : (shown ++ ignored ++ [l]).filterMap contentOf =
                  shown.filterMap contentOf ++ [Content] := by
                have hnone : ignored.filterMap contentOf = [] :=
                  List.filterMap_eq_nil_iff.mpr hignored
                rw [List.filterMap_append, List.filterMap_append, hnone,
                  List.append_nil, List.filterMap_cons_some hcontent,
                  List.filterMap_nil]
              rw [hshown, showAll_append, hrest]
              exact showContent_queue Content
                (showAll (shown.filterMap contentOf) { rows := rows }) queue

/-!
## A row
-/

theorem setDgvValue_name (Content : CConsoleContent) (row : AccountRow) :
    (setDgvValue Content row).strUserName = row.strUserName := by
  unfold setDgvValue
  repeat' split
  all_goals rfl

theorem showContent_names (Content : CConsoleContent) (s : Display) :
    (showContent Content s).rows.map AccountRow.strUserName =
      s.rows.map AccountRow.strUserName := by
  unfold showContent
  split
  · rfl
  · rename_i Index _
    apply List.ext_getElem?
    intro i
    rw [List.getElem?_map, List.getElem?_map, List.getElem?_modify]
    cases s.rows[i]? with
    | none => rfl
    | some row =>
        by_cases hi : Index = i
        · simp [hi, setDgvValue_name]
        · simp [hi]

theorem showContent_row (Content : CConsoleContent) {s : Display} {i : Nat}
    {row : AccountRow} (hrow : s.rows[i]? = some row)
    (hfirst : (s.rows.map AccountRow.strUserName).findIdx? (fun name =>
      name == row.strUserName) = some i) :
    (showContent Content s).rows[i]? =
      some (if Content.AccountName = row.strUserName then setDgvValue Content row
        else row) := by
  rw [List.findIdx?_map] at hfirst
  unfold showContent
  by_cases hname : Content.AccountName = row.strUserName
  · have hindex : (s.rows.findIdx? fun itm => itm.strUserName == Content.AccountName) =
        some i := by
      rw [hname]
      exact hfirst
    rw [hindex]
    simp [hrow, hname]
  · cases hindex : s.rows.findIdx? fun itm =>
        itm.strUserName == Content.AccountName with
    | none => simp [hrow, hname]
    | some Index =>
        have hother : Index ≠ i := by
          intro heq
          rcases List.findIdx?_eq_some_iff_getElem.mp hindex with ⟨hlt, hsame, _⟩
          have hget : s.rows[Index] = row := by
            rw [List.getElem?_eq_getElem (heq ▸ hlt)] at hrow
            simpa [heq] using hrow
          rw [hget] at hsame
          exact hname (eq_of_beq hsame).symm
        simp [hrow, hname, hother]

theorem showAll_row (Contents : List CConsoleContent) {s : Display} {i : Nat}
    {row : AccountRow} (hrow : s.rows[i]? = some row)
    (hfirst : (s.rows.map AccountRow.strUserName).findIdx? (fun name =>
      name == row.strUserName) = some i) :
    (showAll Contents s).rows[i]? =
      some ((Contents.filter fun Content =>
        Content.AccountName == row.strUserName).foldl
          (fun row Content => setDgvValue Content row) row) := by
  induction Contents generalizing s row with
  | nil => exact hrow
  | cons Content Contents ih =>
      have hnext := showContent_row Content hrow hfirst
      by_cases hname : Content.AccountName = row.strUserName
      · rw [if_pos hname] at hnext
        have hrest := ih hnext (by
          rw [showContent_names, setDgvValue_name]
          exact hfirst)
        rw [setDgvValue_name] at hrest
        rw [List.filter_cons_of_pos (by simpa using hname)]
        exact hrest
      · rw [if_neg hname] at hnext
        rw [List.filter_cons_of_neg (by simpa using hname)]
        exact ih hnext (by rw [showContent_names]; exact hfirst)

/-!
## What a row says
-/

def texts (kind : EmConsoleLog) (name : WString) (logs : List Log) : List WString :=
  (logs.filter fun l => l.emType == kind && l.shownName == name).map
    fun l => l.shownText

def repeats : WString -> List WString -> Nat
  | _, [] => 0
  | before, text :: texts =>
      (if isSpecialText_In_LogText text ∧ text = before then 1 else 0) +
        repeats text texts

def showLogs (name : WString) (logs : List Log) (row : AccountRow) : AccountRow :=
  (((logs.filterMap contentOf).filter fun Content =>
    Content.AccountName == name).foldl (fun row Content => setDgvValue Content row) row)

/-- A turn as the kind of the line tells it. -/
def showLog (l : Log) (row : AccountRow) : AccountRow :=
  match l.emType with
  | .status => { row with statusCell := l.shownText }
  | .content => { row with logCell := l.shownText }
  | .result =>
      if isSpecialText_In_LogText (l.shownText) ∧
          l.shownText = row.strCloseReason then
        { row with
          nRepeatCount := row.nRepeatCount + 1
          reasonCell := repeatText (row.nRepeatCount + 1) (l.shownText) }
      else
        { row with
          strCloseReason := l.shownText
          reasonCell := l.shownText }
  | .bugReport => row

theorem setDgvValue_contentOf {l : Log} {Content : CConsoleContent}
    (h : contentOf l = some Content) (row : AccountRow) :
    setDgvValue Content row = showLog l row := by
  unfold contentOf at h
  split at h
  · cases h
  · rw [← Option.some.inj h]
    rename_i hshown
    cases hkind : l.emType with
    | status => simp [setDgvValue, showLog, dwData, hkind]
    | content => simp [setDgvValue, showLog, dwData, hkind]
    | result => simp [setDgvValue, showLog, dwData, hkind]
    | bugReport =>
        cases hwriter : l.writer with
        | consoleDLL =>
            rw [hkind, hwriter] at hshown
            exact absurd rfl hshown
        | game => simp [setDgvValue, showLog, dwData, hkind]

theorem showLog_of_none {l : Log} (h : contentOf l = none) (row : AccountRow) :
    showLog l row = row := by
  cases hkind : l.emType with
  | bugReport => simp [showLog, hkind]
  | status => simp [contentOf, dwData, hkind] at h
  | content => simp [contentOf, dwData, hkind] at h
  | result => simp [contentOf, dwData, hkind] at h

theorem contentOf_name {l : Log} {Content : CConsoleContent}
    (h : contentOf l = some Content) : Content.AccountName = l.shownName := by
  unfold contentOf at h
  split at h
  · cases h
  · rw [← Option.some.inj h]

theorem showLogs_snoc (name : WString) (logs : List Log) (l : Log) (row : AccountRow) :
    showLogs name (logs ++ [l]) row =
      if l.shownName = name then showLog l (showLogs name logs row)
      else showLogs name logs row := by
  unfold showLogs
  rw [List.filterMap_append, List.filter_append, List.foldl_append]
  cases hcontent : contentOf l with
  | none => simp [hcontent, showLog_of_none hcontent]
  | some Content =>
      rw [List.filterMap_cons_some hcontent, List.filterMap_nil]
      by_cases hname : l.shownName = name
      · rw [if_pos hname, List.filter_cons_of_pos, List.filter_nil, List.foldl_cons,
          List.foldl_nil, setDgvValue_contentOf hcontent]
        rw [contentOf_name hcontent, hname]
        exact beq_self_eq_true name
      · rw [if_neg hname, List.filter_cons_of_neg, List.filter_nil, List.foldl_nil]
        rw [contentOf_name hcontent]
        simpa using hname

theorem texts_snoc (kind : EmConsoleLog) (name : WString) (logs : List Log) (l : Log) :
    texts kind name (logs ++ [l]) =
      if l.emType = kind ∧ l.shownName = name then
        texts kind name logs ++ [l.shownText]
      else texts kind name logs := by
  unfold texts
  rw [List.filter_append, List.map_append]
  split
  · rename_i h
    simp [h.left, h.right]
  · rename_i h
    simp [h]

theorem repeats_snoc (before text : WString) (texts : List WString) :
    repeats before (texts ++ [text]) = repeats before texts +
      if isSpecialText_In_LogText text ∧ text = texts.getLastD before then 1
      else 0 := by
  induction texts generalizing before with
  | nil => simp [repeats]
  | cons first texts ih =>
      rw [List.cons_append, repeats, ih first, repeats, List.getLastD_cons]
      omega

structure Says (name : WString) (logs : List Log) (row row' : AccountRow) : Prop where
  status : row'.statusCell = (texts .status name logs).getLastD row.statusCell
  content : row'.logCell = (texts .content name logs).getLastD row.logCell
  reason : row'.strCloseReason = (texts .result name logs).getLastD row.strCloseReason
  count : row'.nRepeatCount = row.nRepeatCount +
    Int32.ofNat (repeats row.strCloseReason (texts .result name logs))
  cell : forall earlier text, texts .result name logs = earlier ++ [text] ->
    row'.reasonCell =
      if isSpecialText_In_LogText text ∧ text = earlier.getLastD row.strCloseReason then
        repeatText row'.nRepeatCount text
      else text

theorem Says.other {name : WString} {logs : List Log} {row row' : AccountRow}
    {l : Log} (h : Says name logs row row') (hname : l.shownName ≠ name) :
    Says name (logs ++ [l]) row row' := by
  have htexts : forall kind, texts kind name (logs ++ [l]) = texts kind name logs := by
    intro kind
    rw [texts_snoc, if_neg fun hboth => hname hboth.right]
  constructor
  · rw [htexts]
    exact h.status
  · rw [htexts]
    exact h.content
  · rw [htexts]
    exact h.reason
  · rw [htexts]
    exact h.count
  · rw [htexts]
    exact h.cell

theorem Says.showLog {name : WString} {logs : List Log} {row row' : AccountRow}
    {l : Log} (h : Says name logs row row') (hname : l.shownName = name) :
    Says name (logs ++ [l]) row (showLog l row') := by
  have hown : forall kind, l.emType = kind -> texts kind name (logs ++ [l]) =
      texts kind name logs ++ [l.shownText] := by
    intro kind hkind
    rw [texts_snoc, if_pos ⟨hkind, hname⟩]
  have hothers : forall kind, l.emType ≠ kind -> texts kind name (logs ++ [l]) =
      texts kind name logs := by
    intro kind hkind
    rw [texts_snoc, if_neg fun hboth => hkind hboth.left]
  cases hkind : l.emType with
  | status =>
      rw [hkind] at hown hothers
      simp only [CConsoleLog.showLog, hkind]
      constructor
      · simp [hown .status rfl]
      · simpa [hothers .content (by decide)] using h.content
      · simpa [hothers .result (by decide)] using h.reason
      · simpa [hothers .result (by decide)] using h.count
      · rw [hothers .result (by decide)]
        exact h.cell
  | content =>
      rw [hkind] at hown hothers
      simp only [CConsoleLog.showLog, hkind]
      constructor
      · simpa [hothers .status (by decide)] using h.status
      · simp [hown .content rfl]
      · simpa [hothers .result (by decide)] using h.reason
      · simpa [hothers .result (by decide)] using h.count
      · rw [hothers .result (by decide)]
        exact h.cell
  | bugReport =>
      rw [hkind] at hothers
      simp only [CConsoleLog.showLog, hkind]
      constructor
      · rw [hothers .status (by decide)]
        exact h.status
      · rw [hothers .content (by decide)]
        exact h.content
      · rw [hothers .result (by decide)]
        exact h.reason
      · rw [hothers .result (by decide)]
        exact h.count
      · rw [hothers .result (by decide)]
        exact h.cell
  | result =>
      rw [hkind] at hown hothers
      simp only [CConsoleLog.showLog, hkind]
      split
      · rename_i hrepeat
        rw [h.reason] at hrepeat
        constructor
        · simpa [hothers .status (by decide)] using h.status
        · simpa [hothers .content (by decide)] using h.content
        · simp [hown .result rfl, h.reason, hrepeat.right]
        · rw [hown .result rfl, repeats_snoc, if_pos hrepeat, h.count, Int32.ofNat_add,
            Int32.add_assoc]
          rfl
        · intro earlier text htext
          rw [hown .result rfl] at htext
          rcases List.append_inj' htext rfl with ⟨hearlier, hlast⟩
          rw [← hearlier, ← (List.cons.inj hlast).left, if_pos hrepeat]
      · rename_i hfresh
        rw [h.reason] at hfresh
        constructor
        · simpa [hothers .status (by decide)] using h.status
        · simpa [hothers .content (by decide)] using h.content
        · simp [hown .result rfl]
        · rw [hown .result rfl, repeats_snoc, if_neg hfresh, h.count, Nat.add_zero]
        · intro earlier text htext
          rw [hown .result rfl] at htext
          rcases List.append_inj' htext rfl with ⟨hearlier, hlast⟩
          rw [← hearlier, ← (List.cons.inj hlast).left, if_neg hfresh]

theorem says_showLogs (name : WString) (logs : List Log) (row : AccountRow) :
    Says name logs row (showLogs name logs row) := by
  induction logs using List.reverseRecOn with
  | nil =>
      refine ⟨rfl, rfl, rfl, ?_, fun earlier text h => ?_⟩
      · exact (Int32.add_zero row.nRepeatCount).symm
      · simp [texts] at h
  | append_singleton logs l ih =>
      rw [showLogs_snoc]
      split
      · rename_i hname
        exact ih.showLog hname
      · rename_i hname
        exact ih.other hname

/-!
## Bug reports
-/

def reportsOf (names : List WString) (logs : List Log) : List (WString × WString) :=
  (logs.filter fun l => dwData l.writer l.emType == 0x5 &&
    names.contains (l.shownName)).map
      fun l => (l.shownName, l.shownText)

theorem showContent_bugReports (Content : CConsoleContent) (s : Display) :
    (showContent Content s).bugReports = s.bugReports ++
      if Content.nType = 5 ∧
          Content.AccountName ∈ s.rows.map AccountRow.strUserName then
        [(Content.AccountName, Content.LogContent)]
      else [] := by
  unfold showContent
  split
  · rename_i hnone
    have hmissing : Content.AccountName ∉ s.rows.map AccountRow.strUserName := by
      intro hmem
      rcases List.mem_map.mp hmem with ⟨itm, hitm, hname⟩
      have hdiffers := List.findIdx?_eq_none_iff.mp hnone itm hitm
      rw [hname, beq_self_eq_true] at hdiffers
      cases hdiffers
    rw [if_neg fun h => hmissing h.right, List.append_nil]
  · rename_i Index hindex
    have hlisted : Content.AccountName ∈ s.rows.map AccountRow.strUserName := by
      rcases List.findIdx?_eq_some_iff_getElem.mp hindex with ⟨hlt, hsame, _⟩
      rw [← eq_of_beq hsame]
      exact List.mem_map_of_mem (List.getElem_mem hlt)
    by_cases htype : Content.nType = 5
    · simp [htype, hlisted]
    · simp [htype]

theorem showAll_bugReports (logs : List Log) (s : Display) :
    (showAll (logs.filterMap contentOf) s).bugReports =
      s.bugReports ++ reportsOf (s.rows.map AccountRow.strUserName) logs := by
  induction logs generalizing s with
  | nil => simp [showAll, reportsOf]
  | cons l logs ih =>
      by_cases hzero : dwData l.writer l.emType = 0
      · have hnone : contentOf l = none := by simp [contentOf, hzero]
        rw [List.filterMap_cons_none hnone, ih]
        simp [reportsOf, hzero]
      · have hsome : contentOf l = some ⟨l.shownName, l.shownText,
            dwData l.writer l.emType⟩ := by
          simp [contentOf, hzero]
        rw [List.filterMap_cons_some hsome]
        refine (ih _).trans ?_
        rw [showContent_bugReports, showContent_names, List.append_assoc]
        congr 1
        by_cases hreport : dwData l.writer l.emType = 5 ∧
            l.shownName ∈ s.rows.map AccountRow.strUserName
        · rw [if_pos hreport]
          simp only [reportsOf]
          rw [List.filter_cons_of_pos]
          · rfl
          · rw [hreport.left, List.contains_iff_mem.mpr hreport.right]
            rfl
        · rw [if_neg hreport]
          simp only [reportsOf]
          rw [List.filter_cons_of_neg]
          · rfl
          · simpa using hreport

/--
However the writers and the thread of the console come to their turns, the console
shows what was written in order, and what is not shown yet is in the queue.  The row
of an account says what arrived under its name, and every bug report that was shown
was started once.  Under a name without a colon arrives what was written for it.
-/
theorem rows_say_what_was_written (C : LogTools) (steps : List Step)
    (rows : List AccountRow) :
    (exists shown waiting, written steps = shown ++ waiting ∧
      ((machine C).play steps { rows := rows }).queue = waiting.filterMap contentOf ∧
      ((machine C).play steps { rows := rows }).rows =
        (showAll (shown.filterMap contentOf) { rows := rows }).rows ∧
      ((machine C).play steps { rows := rows }).bugReports =
        reportsOf (rows.map AccountRow.strUserName) shown ∧
      forall i row, rows[i]? = some row ->
        (rows.map AccountRow.strUserName).findIdx? (fun name =>
          name == row.strUserName) = some i ->
        exists row', ((machine C).play steps { rows := rows }).rows[i]? = some row' ∧
          Says row.strUserName shown row row') ∧
    forall l, l ∈ written steps -> colon ∉ cStr l.wsAccountName ->
      l.shownName = cStr l.wsAccountName ∧ l.shownText = cStr l.wsLogContent := by
  refine ⟨?_, fun l _ hname => shown_of_not_mem hname⟩
  rcases play_shows (C := C) steps rows with ⟨shown, waiting, hwritten, hplay⟩
  refine ⟨shown, waiting, hwritten, by rw [hplay], by rw [hplay], ?_, ?_⟩
  · rw [hplay]
    exact showAll_bugReports shown { rows := rows }
  · intro i row hrow hfirst
    refine ⟨showLogs row.strUserName shown row, ?_, says_showLogs _ _ _⟩
    rw [hplay]
    exact showAll_row (shown.filterMap contentOf) (s := { rows := rows }) hrow hfirst

def LogTools.standard : LogTools where
  makeFormatText := Printf.swprintfTexts
  makeFormatText_eq _ _ := rfl

def twoWriters : List Step :=
  [.write ⟨.game, .status, L "a", L "1级"⟩,
    .write ⟨.consoleDLL, .content, L "b", L "登录中"⟩, .refush]

theorem twoWriters_rows_say :
    exists shown waiting, written twoWriters = shown ++ waiting ∧
      waiting.filterMap contentOf = [⟨L "b", L "登录中", 2⟩] := by
  rcases rows_say_what_was_written LogTools.standard twoWriters
    [{ strUserName := L "a" }, { strUserName := L "b" }] with
    ⟨⟨shown, waiting, hwritten, hqueue, _⟩, _⟩
  exact ⟨shown, waiting, hwritten, hqueue.symm.trans (by decide)⟩

/-- A name with a colon is cut there. -/
example :
    ((machine LogTools.standard).play
      [.write ⟨.game, .status, L "a:b", L "1级"⟩, .refush]
      { rows := [{ strUserName := L "a" }, { strUserName := L "a:b" }] }).rows.map
        AccountRow.statusCell = [L "b:1级", []] := by
  decide

end CConsoleLog

end Console
end BnsKorea
