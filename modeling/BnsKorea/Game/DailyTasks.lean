import BnsKorea.Library.Retries
import BnsKorea.Client.Responses
import BnsKorea.Server.DailyTask

/-!
# Asking for the daily tasks

The game asks again until an answer comes, and takes the list that is in it.
-/

namespace BnsKorea
namespace Game

open Library SocketValue Server
open Client.CSocketAPI (annaClient noTeams)

def CSocketAPI.getDailyTaskSchedule (reply : Option SocketBuffer)
    (VecResult : List WString) : Option (List WString) := do
  let SocketBuffer <- reply
  let Vec <- (Client.CSocketAPI.extractList getText).run SocketBuffer.values
  pure (VecResult ++ Vec.1)

namespace CTransferScript

/-- One request: what the database answers, and whether the reply comes back. -/
structure TaskRequest where
  excuteSQL_SingleResult : Statements
  bReply : Bool

section

variable (C : CCharacter) (O : Outside) (Tasks : CDailyTask)
  (GameClient : Server.CGameClient) (s : Services)

def taskAttempt (request : TaskRequest) (VecDailyTask : List WString) :
    List WString × Option Unit :=
  let reply := CDailyTask.reply C O request.excuteSQL_SingleResult Tasks GameClient s
  match CSocketAPI.getDailyTaskSchedule
      (if request.bReply then some reply.buffer else none) VecDailyTask with
  | none => (VecDailyTask, none)
  | some VecDailyTask => (VecDailyTask, some ())

/-- The requests while the game runs; it returns in the game with `some`. -/
def queryDailyTask (requests : List TaskRequest) (VecDailyTask : List WString) :
    List WString × Option Unit :=
  Retries.retry (taskAttempt C O Tasks GameClient s) requests VecDailyTask

end

variable {C : CCharacter} {O : Outside} {Tasks : CDailyTask}
  {GameClient : Server.CGameClient} {s : Services}

theorem getDailyTaskSchedule_reply (excuteSQL_SingleResult : Statements)
    (VecResult : List WString) :
    CSocketAPI.getDailyTaskSchedule
        (some (CDailyTask.reply C O excuteSQL_SingleResult Tasks GameClient s).buffer)
        VecResult =
      some (VecResult ++ (CDailyTask.queryDailyTaskSchedule C excuteSQL_SingleResult
        GameClient.account Tasks []).2) := by
  rcases CDailyTask.queryDailyTaskSchedule_eq C excuteSQL_SingleResult
    GameClient.account Tasks with ⟨texts, rest, _, _, hquery⟩
  let Vec := (CDailyTask.queryDailyTaskSchedule C excuteSQL_SingleResult
    GameClient.account Tasks []).2
  have hsize : Vec.length < 2 ^ 32 := by
    show (CDailyTask.queryDailyTaskSchedule _ _ _ _ _).2.length < _
    rw [hquery]
    exact Nat.lt_of_le_of_lt (CDailyTask.openTasks_sublist _ texts).length_le
      Tasks.size_lt
  have hvalues : (CDailyTask.reply C O excuteSQL_SingleResult Tasks GameClient
      s).buffer.values = size Vec :: Vec.flatMap fun itm => [text itm] := by
    rw [← Client.CSocketAPI.text_flatMap]
    rfl
  have hread := (Client.CSocketAPI.reads_extractList hsize reads_getText).run
  unfold CSocketAPI.getDailyTaskSchedule
  show ((Client.CSocketAPI.extractList getText).run _ >>= _) = _
  rw [hvalues, hread]
  rfl

theorem taskAttempt_of_noReply {request : TaskRequest} (h : request.bReply = false)
    (VecDailyTask : List WString) :
    taskAttempt C O Tasks GameClient s request VecDailyTask = (VecDailyTask, none) := by
  unfold taskAttempt
  rw [h]
  rfl

theorem taskAttempt_of_reply {request : TaskRequest} (h : request.bReply = true)
    (VecDailyTask : List WString) :
    taskAttempt C O Tasks GameClient s request VecDailyTask =
      (VecDailyTask ++ (CDailyTask.queryDailyTaskSchedule C
        request.excuteSQL_SingleResult GameClient.account Tasks []).2, some ()) := by
  unfold taskAttempt
  rw [h]
  dsimp only
  rw [if_pos rfl, getDailyTaskSchedule_reply]

theorem queryDailyTask_noReply {requests : List TaskRequest}
    {VecDailyTask last : List WString}
    (h : queryDailyTask C O Tasks GameClient s requests VecDailyTask = (last, none)) :
    last = VecDailyTask ∧ forall request, request ∈ requests ->
      request.bReply = false := by
  have hsilent : forall (request : TaskRequest) Vec,
      (taskAttempt C O Tasks GameClient s request Vec).2 = none ->
        request.bReply = false := by
    intro request Vec hnone
    cases hreply : request.bReply with
    | false => rfl
    | true =>
        rw [taskAttempt_of_reply hreply] at hnone
        cases hnone
  constructor
  · refine Retries.retry_keeps (fun Vec => Vec = VecDailyTask) ?_ rfl h
    intro request Vec next _ hVec hattempt
    have hreply := hsilent request Vec (by rw [hattempt])
    rw [taskAttempt_of_noReply hreply] at hattempt
    cases hattempt
    exact hVec
  · intro request hmem
    rcases Retries.exists_none_of_retry h hmem with ⟨Vec, hnone⟩
    exact hsilent request Vec hnone

/--
When it returns in the game, the list comes from the first request with a reply, and
is complete exactly if no statement of that request failed.  Failures in requests
without a reply do no harm.
-/
theorem queryDailyTask_complete_iff {requests : List TaskRequest}
    {VecDailyTask : List WString}
    (hreturn : queryDailyTask C O Tasks GameClient s requests [] =
      (VecDailyTask, some ())) :
    exists request, requests.find? (·.bReply) = some request ∧
      VecDailyTask.Sublist Tasks.vecDailyTasName ∧
      (CDailyTask.IsComplete Tasks.vecDailyTasName
          (CDailyTask.answers C request.excuteSQL_SingleResult GameClient.account 0
            Tasks.vecDailyTasName) VecDailyTask ↔
        none ∉ CDailyTask.answers C request.excuteSQL_SingleResult
          GameClient.account 0 Tasks.vecDailyTasName) := by
  rcases Retries.exists_of_retry hreturn with
    ⟨pre, request, post, next, hrequests, hpre, hlast⟩
  rcases queryDailyTask_noReply hpre with ⟨hnext, hsilent⟩
  have hreply : request.bReply = true := by
    cases h : request.bReply with
    | true => rfl
    | false =>
        rw [taskAttempt_of_noReply h] at hlast
        cases hlast
  rw [hnext, taskAttempt_of_reply hreply, List.nil_append] at hlast
  rcases CDailyTask.queryDailyTaskSchedule_eq C request.excuteSQL_SingleResult
    GameClient.account Tasks with ⟨texts, rest, hanswers, hrest, hquery⟩
  have hlist : VecDailyTask = CDailyTask.openTasks Tasks.vecDailyTasName texts := by
    rw [hquery] at hlast
    exact (Prod.mk.inj hlast).left.symm
  refine ⟨request, ?_, ?_, ?_⟩
  · rw [hrequests, List.find?_append, List.find?_cons_of_pos hreply]
    have hnone : pre.find? (·.bReply) = none := by
      apply List.find?_eq_none.mpr
      intro r hr
      rw [hsilent r hr]
      exact Bool.false_ne_true
    rw [hnone, Option.none_or]
  · rw [hlist]
    exact CDailyTask.openTasks_sublist _ texts
  · rw [hlist]
    exact CDailyTask.isComplete_iff hanswers hrest

/-!
## A failure
-/

def twoTasks : CDailyTask where
  vecDailyTasName := [L "a", L "b"]
  size_lt := by decide

/-- The reply to the first request is lost; the second one finds `a` finished. -/
def lostOnce : List TaskRequest :=
  [{ excuteSQL_SingleResult := fun _ _ => none, bReply := false },
    { excuteSQL_SingleResult := fun n _ => some (if n = 0 then L "1" else L "0")
      bReply := true }]

theorem queryDailyTask_lostOnce :
    exists request, lostOnce.find? (·.bReply) = some request ∧
      [L "b"].Sublist twoTasks.vecDailyTasName ∧
      (CDailyTask.IsComplete twoTasks.vecDailyTasName
          (CDailyTask.answers CCharacter.standard request.excuteSQL_SingleResult
            annaClient.account 0 twoTasks.vecDailyTasName) [L "b"] ↔
        none ∉ CDailyTask.answers CCharacter.standard
          request.excuteSQL_SingleResult annaClient.account 0
          twoTasks.vecDailyTasName) :=
  queryDailyTask_complete_iff (C := CCharacter.standard) (O := {}) (s := noTeams)
    (show queryDailyTask _ _ twoTasks annaClient _ lostOnce [] = _ from rfl)

/-- Both tasks are open, the statement for the first fails, and no task is left. -/
theorem failure_delivered :
    let request : TaskRequest :=
      { excuteSQL_SingleResult := fun n _ => if n = 0 then none else some (L "0")
        bReply := true }
    queryDailyTask CCharacter.standard {} twoTasks annaClient noTeams [request] [] =
      ([], some ()) ∧
      ¬ CDailyTask.IsComplete twoTasks.vecDailyTasName
        (CDailyTask.answers CCharacter.standard request.excuteSQL_SingleResult
          annaClient.account 0 twoTasks.vecDailyTasName) [] := by
  intro request
  refine ⟨rfl, ?_⟩
  intro hcomplete
  rcases hcomplete with ⟨texts, htexts, _⟩
  have hnone : none ∈ texts.map some := by
    rw [← htexts]
    exact List.mem_cons_self
  rcases List.mem_map.mp hnone with ⟨wsResult, _, hsome⟩
  cases hsome

end CTransferScript
end Game
end BnsKorea
