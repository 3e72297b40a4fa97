import BnsKorea.Server.EchoPacket

/-!
# The daily tasks of an account

For every daily task the database is asked whether the account has finished it.
The first statement that fails ends the loop, with what is in the list by then.
-/

namespace BnsKorea
namespace Server

/-- The names are in a vector, and its size is a number of 32 bits. -/
structure CDailyTask where
  vecDailyTasName : List WString
  size_lt : vecDailyTasName.length < 2 ^ 32

/-- What statement after statement answers; one that fails has no text. -/
abbrev Statements := Nat -> WString -> Option WString

namespace CDailyTask

def scheduleStatement (C : CCharacter) (AccountContent : ClientAccountContent)
    (itm : WString) : WString :=
  C.makeFormatText (L "exec QueryDailyTaskSchedule '%s','%s','%s'")
    [cStr AccountContent.wsAccountName, cStr AccountContent.wsPlayerName, cStr itm]

def isUnfinished (wsResult : WString) : Bool :=
  wsResult.headD 0 == 48

section

variable (C : CCharacter) (excuteSQL_SingleResult : Statements)
  (AccountContent : ClientAccountContent)

def queryLoop : Nat -> List WString -> List WString -> Bool × List WString
  | _, [], VecDailyTaskName => (true, VecDailyTaskName)
  | n, itm :: Vec, VecDailyTaskName =>
      match excuteSQL_SingleResult n (scheduleStatement C AccountContent itm) with
      | none => (false, VecDailyTaskName)
      | some wsResult =>
          queryLoop (n + 1) Vec
            (if isUnfinished wsResult then VecDailyTaskName ++ [itm]
              else VecDailyTaskName)

def queryDailyTaskSchedule (Tasks : CDailyTask) (VecDailyTaskName : List WString) :
    Bool × List WString :=
  queryLoop C excuteSQL_SingleResult AccountContent 0 Tasks.vecDailyTasName
    VecDailyTaskName

def answers : Nat -> List WString -> List (Option WString)
  | _, [] => []
  | n, itm :: Vec =>
      excuteSQL_SingleResult n (scheduleStatement C AccountContent itm) ::
        answers (n + 1) Vec

end

def reply (C : CCharacter) (O : Outside) (excuteSQL_SingleResult : Statements)
    (Tasks : CDailyTask) (GameClient : CGameClient) (s : Services) : Reply :=
  (CEchoPacket.getDailyTaskSchedule
    { O with
      queryDailyTaskSchedule := fun AccountContent =>
        (queryDailyTaskSchedule C excuteSQL_SingleResult AccountContent Tasks []).2 }
    GameClient s).1

/-!
## The list and the answers
-/

def openTasks (Vec : List WString) (texts : List WString) : List WString :=
  ((Vec.zip texts).filter fun itm => (L "0").isPrefixOf itm.2).map Prod.fst

def IsComplete (Vec : List WString) (answered : List (Option WString))
    (VecDailyTask : List WString) : Prop :=
  exists texts, answered = texts.map some ∧ VecDailyTask = openTasks Vec texts

theorem isUnfinished_eq (wsResult : WString) :
    isUnfinished wsResult = (L "0").isPrefixOf wsResult := by
  cases wsResult with
  | nil => rfl
  | cons c wsResult =>
      have hzero : L "0" = [48] := rfl
      rw [hzero]
      show (c == 48) = ((48 == c) && true)
      rw [Bool.and_true, Bool.beq_comm]

@[simp] theorem openTasks_nil (texts : List WString) : openTasks [] texts = [] :=
  rfl

@[simp] theorem openTasks_noTexts (Vec : List WString) : openTasks Vec [] = [] := by
  rw [openTasks, List.zip_nil_right, List.filter_nil, List.map_nil]

theorem openTasks_cons (itm wsResult : WString) (Vec texts : List WString) :
    openTasks (itm :: Vec) (wsResult :: texts) =
      if isUnfinished wsResult then itm :: openTasks Vec texts
      else openTasks Vec texts := by
  rw [openTasks, List.zip_cons_cons, List.filter_cons, isUnfinished_eq]
  split
  · rw [List.map_cons, openTasks]
  · rw [openTasks]

theorem openTasks_sublist (Vec texts : List WString) :
    (openTasks Vec texts).Sublist Vec := by
  induction Vec generalizing texts with
  | nil => exact List.nil_sublist _
  | cons itm Vec ih =>
      cases texts with
      | nil =>
          rw [openTasks_noTexts]
          exact List.nil_sublist _
      | cons wsResult texts =>
          rw [openTasks_cons]
          split
          · exact (ih texts).cons_cons itm
          · exact (ih texts).cons itm

variable {C : CCharacter} {excuteSQL_SingleResult : Statements}
  {AccountContent : ClientAccountContent}

theorem queryLoop_eq (n : Nat) (Vec VecDailyTaskName : List WString) :
    exists texts rest,
      answers C excuteSQL_SingleResult AccountContent n Vec =
        texts.map some ++ rest ∧
      (rest = [] ∨ none ∈ rest) ∧
      queryLoop C excuteSQL_SingleResult AccountContent n Vec VecDailyTaskName =
        (rest.isEmpty, VecDailyTaskName ++ openTasks Vec texts) := by
  induction Vec generalizing n VecDailyTaskName with
  | nil =>
      refine ⟨[], [], rfl, Or.inl rfl, ?_⟩
      rw [queryLoop, openTasks_nil, List.append_nil, List.isEmpty_nil]
  | cons itm Vec ih =>
      rw [answers, queryLoop]
      cases excuteSQL_SingleResult n (scheduleStatement C AccountContent itm) with
      | none =>
          refine ⟨[], _, rfl, Or.inr List.mem_cons_self, ?_⟩
          rw [openTasks_noTexts, List.append_nil]
          rfl
      | some wsResult =>
          dsimp only
          rcases ih (n + 1) (if isUnfinished wsResult then VecDailyTaskName ++ [itm]
            else VecDailyTaskName) with ⟨texts, rest, hanswers, hrest, hloop⟩
          refine ⟨wsResult :: texts, rest, ?_, hrest, ?_⟩
          · rw [hanswers, List.map_cons, List.cons_append]
          · rw [hloop, openTasks_cons]
            split
            · rw [List.append_assoc, List.singleton_append]
            · rfl

theorem queryDailyTaskSchedule_eq (C : CCharacter)
    (excuteSQL_SingleResult : Statements) (AccountContent : ClientAccountContent)
    (Tasks : CDailyTask) :
    exists texts rest,
      answers C excuteSQL_SingleResult AccountContent 0 Tasks.vecDailyTasName =
        texts.map some ++ rest ∧
      (rest = [] ∨ none ∈ rest) ∧
      queryDailyTaskSchedule C excuteSQL_SingleResult AccountContent Tasks [] =
        (rest.isEmpty, openTasks Tasks.vecDailyTasName texts) :=
  queryLoop_eq 0 Tasks.vecDailyTasName []

theorem isComplete_iff {Vec texts : List WString}
    {answered rest : List (Option WString)}
    (hanswered : answered = texts.map some ++ rest)
    (hrest : rest = [] ∨ none ∈ rest) :
    IsComplete Vec answered (openTasks Vec texts) ↔ none ∉ answered := by
  constructor
  · intro hcomplete hnone
    rcases hcomplete with ⟨all, hall, _⟩
    rw [hall] at hnone
    rcases List.mem_map.mp hnone with ⟨wsResult, _, hsome⟩
    cases hsome
  · intro hnone
    have hempty : rest = [] := hrest.resolve_right fun hin =>
      hnone (hanswered ▸ List.mem_append_right _ hin)
    exact ⟨texts, by rw [hanswered, hempty, List.append_nil], rfl⟩

end CDailyTask
end Server
end BnsKorea
