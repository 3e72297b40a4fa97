import BnsKorea.Library.Machines
import BnsKorea.Library.Places
import BnsKorea.Common.MyTools

/-!
# The account table of the console

The console keeps its accounts in a shared array and the cards it may give them
in a vector.  Three calls change the array, and the thread that logs the
accounts in walks it once and assigns the cards.  Each call and each turn of the
thread is one step of the machine at the end.

Texts stand for what is before their closing zero.  What the game processes are
and what the account file holds is not part of the state.
-/

namespace BnsKorea
namespace Console

open Library

def MAX_GAME_COUNT : Nat := 5000

/-- `_countof(szUserName)` and `_countof(szPassWord)` of an account. -/
def countof_szUserName : Nat := 64

def countof_szPassWord : Nat := 32

structure ConsoleTools where
  /-- `wstrcmp_my`: whether two texts are the same. -/
  wstrcmpMy : WString -> WString -> Bool
  /-- `wstrcpy_my`: the text, or at most so many units of it, is copied. -/
  wstrcpyMy : WString -> Option Nat -> WString
  /-- `Vec_find_if`: a pointer to the first element that passes the test. -/
  vecFindIf : {α : Type} -> List α -> (α -> Bool) -> Option (Place α)
  wstrcmpMy_eq : forall ws1 ws2, wstrcmpMy ws1 ws2 = decide (ws1 = ws2)
  wstrcpyMy_none : forall ws, wstrcpyMy ws none = ws
  wstrcpyMy_some : forall ws uLen, wstrcpyMy ws (some uLen) = ws.take uLen
  vecFindIf_eq : forall {α : Type} (Vec : List α) (fn : α -> Bool),
    vecFindIf Vec fn = firstPlace fn Vec

namespace ConsoleTools

attribute [simp] wstrcmpMy_eq wstrcpyMy_none wstrcpyMy_some vecFindIf_eq

def standard : ConsoleTools where
  wstrcmpMy ws1 ws2 := decide (ws1 = ws2)
  wstrcpyMy ws uLen :=
    match uLen with
    | none => ws
    | some uLen => ws.take uLen
  vecFindIf := MyTools.standard.dequeFindIf
  wstrcmpMy_eq _ _ := rfl
  wstrcpyMy_none _ := rfl
  wstrcpyMy_some _ _ := rfl
  vecFindIf_eq := MyTools.standard.dequeFindIf_eq

end ConsoleTools

/-!
## The state
-/

/-- `ACCOUNT_INFO_GAME`, a slot of the shared array; all zero is a free slot. -/
structure AccountInfoGame where
  szUserName : WString := []
  szPassWord : WString := []
  szCardNo : WString := []
  dwPid : DWORD := 0
  bExist : Bool := false
deriving DecidableEq

/-- What the calls and the login thread share. -/
structure State where
  nAccountCount : Int := 0
  arrGameInfo : List AccountInfoGame
  VecCard : List CardInfo
  /-- The slot the login thread is at. -/
  i : Nat := 0

def State.start (VecCard : List CardInfo) : State where
  arrGameInfo := List.replicate MAX_GAME_COUNT {}
  VecCard := VecCard

/-!
## The card table
-/

/-- `ExistCard(wsCardNo, fnPtr)`: the table after `fnPtr`, if the card exists. -/
def existCard (T : ConsoleTools) (wsCardNo : WString)
    (fnPtr : CardInfo -> CardInfo) (VecCard : List CardInfo) :
    Option (List CardInfo) :=
  (T.vecFindIf VecCard fun CardInfo_ => CardInfo_.wsCardNo = wsCardNo).map
    fun p => p.put (fnPtr p.here)

/-- `GetNotUseCard`: the first card that is not marked is marked and returned. -/
def getNotUseCard (T : ConsoleTools) (VecCard : List CardInfo) :
    Option (CardInfo × List CardInfo) :=
  (T.vecFindIf VecCard fun tmpCardInfo => !tmpCardInfo.bExit).map fun p =>
    let CardInfo_ := { p.here with bExit := true }
    (CardInfo_, p.put CardInfo_)

def releaseCard (CardInfo_ : CardInfo) : CardInfo :=
  { CardInfo_ with bExit := false }

/-!
## The accounts
-/

/-- `KillGame_By_AccountName`, given which processes exist. -/
def killGame (processExists : DWORD -> Bool) (AccountGame : AccountInfoGame) :
    AccountInfoGame :=
  if AccountGame.dwPid = 0 || !AccountGame.bExist then AccountGame
  else if !processExists AccountGame.dwPid then AccountGame
  else { AccountGame with dwPid := 0 }

/-- `ExistEmptyArrGameInfo`. -/
def existEmptyArrGameInfo (arrGameInfo : List AccountInfoGame) : Option Nat :=
  arrGameInfo.findIdx? fun AccountGame => !AccountGame.bExist

/-- `IsExistAccount`: the first slot that carries the name. -/
def isExistAccount (T : ConsoleTools) (pwszAccountName : WString)
    (arrGameInfo : List AccountInfoGame) : Option Nat :=
  arrGameInfo.findIdx? fun AccountGame =>
    T.wstrcmpMy pwszAccountName AccountGame.szUserName

/-- `SetClearAccount` of the account in the `n`-th slot. -/
def setClearAccount (T : ConsoleTools) (processExists : DWORD -> Bool) (n : Nat)
    (s : State) : State :=
  match s.arrGameInfo[n]? with
  | none => s
  | some AccountInfo =>
      match existCard T AccountInfo.szCardNo releaseCard s.VecCard with
      | none => s
      | some VecCard =>
          { s with
            VecCard := VecCard
            arrGameInfo := s.arrGameInfo.set n
              { killGame processExists AccountInfo with bExist := false } }

/-- `AddAccount` and what it returns. -/
def addAccount (T : ConsoleTools) (pwszAccountName pwszAccountPass : WString)
    (s : State) : Bool × State :=
  match isExistAccount T pwszAccountName s.arrGameInfo with
  | some _ => (true, s)
  | none =>
      match existEmptyArrGameInfo s.arrGameInfo with
      | none => (false, s)
      | some n =>
          match s.arrGameInfo[n]? with
          | none => (false, s)
          | some AccountGame =>
              (true,
                { s with
                  nAccountCount := s.nAccountCount + 1
                  arrGameInfo := s.arrGameInfo.set n
                    { AccountGame with
                      szUserName := T.wstrcpyMy pwszAccountName
                        (some (countof_szUserName - 1))
                      szPassWord := T.wstrcpyMy pwszAccountPass
                        (some (countof_szPassWord - 1))
                      bExist := true } })

/-- `HandleAccount`: the action is given the slot found and its content. -/
def handleAccount (T : ConsoleTools) (wsAccountName : WString)
    (AcionPtr : Nat -> AccountInfoGame -> State -> Bool × State) (s : State) :
    Bool × State :=
  match isExistAccount T wsAccountName s.arrGameInfo with
  | none => (false, s)
  | some n =>
      match s.arrGameInfo[n]? with
      | none => (false, s)
      | some AccountGame => AcionPtr n AccountGame s

/--
`DeleteAccount` and what it returns.  What the kill leaves in the slot goes with
the rest of it.
-/
def deleteAccount (T : ConsoleTools) (pwszAccountName : WString) (s : State) :
    Bool × State :=
  handleAccount T pwszAccountName
    (fun n AccountGame s =>
      (true,
        { s with
          VecCard := (existCard T AccountGame.szCardNo releaseCard s.VecCard).getD
            s.VecCard
          nAccountCount := s.nAccountCount - 1
          arrGameInfo := s.arrGameInfo.set n {} }))
    s

/--
One turn of the login loop of `_RunGameThread`.  Without a free card the thread
tries the same slot again.
-/
def runGameTurn (T : ConsoleTools) (s : State) : State :=
  match s.arrGameInfo[s.i]? with
  | none => s
  | some AccountGame =>
      if !AccountGame.bExist then { s with i := s.i + 1 }
      else
        match getNotUseCard T s.VecCard with
        | none => s
        | some (CardInfo_, VecCard) =>
            { s with
              VecCard := VecCard
              arrGameInfo := s.arrGameInfo.set s.i
                { AccountGame with
                  szCardNo := T.wstrcpyMy CardInfo_.wsCardNo none }
              i := s.i + 1 }

/-- The game of the account in the `n`-th slot has got its process. -/
def setPid (n : Nat) (dwPid : DWORD) (s : State) : State :=
  match s.arrGameInfo[n]? with
  | none => s
  | some AccountGame =>
      { s with
        arrGameInfo := s.arrGameInfo.set n { AccountGame with dwPid := dwPid } }

/-!
## The machine
-/

inductive Call where
  | addAccount (pwszAccountName pwszAccountPass : WString)
  | deleteAccount (pwszAccountName : WString)
  | setClearAccount (processExists : DWORD -> Bool) (n : Nat)
  | runGameTurn
  | setPid (n : Nat) (dwPid : DWORD)

def apply (T : ConsoleTools) : Call -> State -> State
  | .addAccount pwszAccountName pwszAccountPass, s =>
      (addAccount T pwszAccountName pwszAccountPass s).2
  | .deleteAccount pwszAccountName, s => (deleteAccount T pwszAccountName s).2
  | .setClearAccount processExists n, s => setClearAccount T processExists n s
  | .runGameTurn, s => runGameTurn T s
  | .setPid n dwPid, s => setPid n dwPid s

/-- The console; every call is possible at any time. -/
def machine (T : ConsoleTools) : Machine State Call where
  enabled _ _ := True
  step := apply T

/-!
## What each call does
-/

section

variable (T : ConsoleTools)

theorem isExistAccount_eq_none {name : WString}
    {arrGameInfo : List AccountInfoGame} :
    isExistAccount T name arrGameInfo = none ↔
      forall A, A ∈ arrGameInfo -> A.szUserName ≠ name := by
  rw [isExistAccount, List.findIdx?_eq_none_iff]
  simp [eq_comm]

theorem isExistAccount_get {name : WString} {arrGameInfo : List AccountInfoGame}
    {n : Nat} (h : isExistAccount T name arrGameInfo = some n) :
    exists A, arrGameInfo[n]? = some A ∧ A.szUserName = name := by
  rcases List.findIdx?_eq_some_iff_getElem.mp h with ⟨hn, hname, _⟩
  refine ⟨arrGameInfo[n], List.getElem?_eq_getElem hn, ?_⟩
  simpa [eq_comm] using hname

theorem existEmptyArrGameInfo_get {arrGameInfo : List AccountInfoGame} {n : Nat}
    (h : existEmptyArrGameInfo arrGameInfo = some n) :
    exists A, arrGameInfo[n]? = some A ∧ A.bExist = false := by
  rcases List.findIdx?_eq_some_iff_getElem.mp h with ⟨hn, hexist, _⟩
  refine ⟨arrGameInfo[n], List.getElem?_eq_getElem hn, ?_⟩
  simpa using hexist

/-- What `AddAccount` writes into the slot it takes. -/
def added (name pass : WString) (AccountGame : AccountInfoGame) :
    AccountInfoGame :=
  { AccountGame with
    szUserName := name.take (countof_szUserName - 1)
    szPassWord := pass.take (countof_szPassWord - 1)
    bExist := true }

theorem addAccount_cases (name pass : WString) (s : State) :
    (exists n, isExistAccount T name s.arrGameInfo = some n ∧
      addAccount T name pass s = (true, s)) ∨
    (isExistAccount T name s.arrGameInfo = none ∧
      existEmptyArrGameInfo s.arrGameInfo = none ∧
      addAccount T name pass s = (false, s)) ∨
    (exists n A, isExistAccount T name s.arrGameInfo = none ∧
      existEmptyArrGameInfo s.arrGameInfo = some n ∧
      s.arrGameInfo[n]? = some A ∧ A.bExist = false ∧
      addAccount T name pass s =
        (true,
          { s with
            nAccountCount := s.nAccountCount + 1
            arrGameInfo := s.arrGameInfo.set n (added name pass A) })) := by
  cases hfound : isExistAccount T name s.arrGameInfo with
  | some n =>
      refine Or.inl ⟨n, rfl, ?_⟩
      rw [addAccount, hfound]
  | none =>
      cases hempty : existEmptyArrGameInfo s.arrGameInfo with
      | none =>
          refine Or.inr (Or.inl ⟨rfl, rfl, ?_⟩)
          rw [addAccount, hfound, hempty]
      | some n =>
          rcases existEmptyArrGameInfo_get hempty with ⟨A, hA, hexist⟩
          refine Or.inr (Or.inr ⟨n, A, rfl, rfl, hA, hexist, ?_⟩)
          simp [addAccount, hfound, hempty, hA, added]

theorem deleteAccount_cases (name : WString) (s : State) :
    (isExistAccount T name s.arrGameInfo = none ∧
      deleteAccount T name s = (false, s)) ∨
    (exists n A, isExistAccount T name s.arrGameInfo = some n ∧
      s.arrGameInfo[n]? = some A ∧ A.szUserName = name ∧
      deleteAccount T name s =
        (true,
          { s with
            VecCard := (existCard T A.szCardNo releaseCard s.VecCard).getD s.VecCard
            nAccountCount := s.nAccountCount - 1
            arrGameInfo := s.arrGameInfo.set n {} })) := by
  cases hfound : isExistAccount T name s.arrGameInfo with
  | none =>
      refine Or.inl ⟨rfl, ?_⟩
      rw [deleteAccount, handleAccount, hfound]
  | some n =>
      rcases isExistAccount_get T hfound with ⟨A, hA, hname⟩
      refine Or.inr ⟨n, A, rfl, hA, hname, ?_⟩
      rw [deleteAccount, handleAccount, hfound]
      simp [hA]

theorem setClearAccount_cases (processExists : DWORD -> Bool) (n : Nat)
    (s : State) :
    ((forall A, s.arrGameInfo[n]? = some A ->
        existCard T A.szCardNo releaseCard s.VecCard = none) ∧
      setClearAccount T processExists n s = s) ∨
    (exists A VecCard, s.arrGameInfo[n]? = some A ∧
      existCard T A.szCardNo releaseCard s.VecCard = some VecCard ∧
      setClearAccount T processExists n s =
        { s with
          VecCard := VecCard
          arrGameInfo := s.arrGameInfo.set n
            { killGame processExists A with bExist := false } }) := by
  cases hA : s.arrGameInfo[n]? with
  | none =>
      refine Or.inl ⟨?_, ?_⟩
      · intro A hsome
        cases hsome
      · rw [setClearAccount, hA]
  | some A =>
      cases hcard : existCard T A.szCardNo releaseCard s.VecCard with
      | none =>
          refine Or.inl ⟨?_, ?_⟩
          · intro B hsome
            cases hsome
            exact hcard
          · simp [setClearAccount, hA, hcard]
      | some VecCard =>
          refine Or.inr ⟨A, VecCard, rfl, hcard, ?_⟩
          simp [setClearAccount, hA, hcard]

theorem runGameTurn_cases (s : State) :
    ((s.arrGameInfo[s.i]? = none ∨ getNotUseCard T s.VecCard = none) ∧
      runGameTurn T s = s) ∨
    (exists A, s.arrGameInfo[s.i]? = some A ∧ A.bExist = false ∧
      runGameTurn T s = { s with i := s.i + 1 }) ∨
    (exists A CardInfo_ VecCard, s.arrGameInfo[s.i]? = some A ∧ A.bExist = true ∧
      getNotUseCard T s.VecCard = some (CardInfo_, VecCard) ∧
      runGameTurn T s =
        { s with
          VecCard := VecCard
          arrGameInfo :=
            s.arrGameInfo.set s.i { A with szCardNo := CardInfo_.wsCardNo }
          i := s.i + 1 }) := by
  cases hA : s.arrGameInfo[s.i]? with
  | none =>
      refine Or.inl ⟨Or.inl rfl, ?_⟩
      rw [runGameTurn, hA]
  | some A =>
      cases hexist : A.bExist with
      | false =>
          refine Or.inr (Or.inl ⟨A, rfl, hexist, ?_⟩)
          simp [runGameTurn, hA, hexist]
      | true =>
          cases hcard : getNotUseCard T s.VecCard with
          | none =>
              refine Or.inl ⟨Or.inr rfl, ?_⟩
              simp [runGameTurn, hA, hexist, hcard]
          | some got =>
              rcases got with ⟨CardInfo_, VecCard⟩
              refine Or.inr (Or.inr ⟨A, CardInfo_, VecCard, rfl, hexist, rfl, ?_⟩)
              simp [runGameTurn, hA, hexist, hcard]

theorem setPid_cases (n : Nat) (dwPid : DWORD) (s : State) :
    setPid n dwPid s = s ∨
    (exists A, s.arrGameInfo[n]? = some A ∧
      setPid n dwPid s =
        { s with arrGameInfo := s.arrGameInfo.set n { A with dwPid := dwPid } }) := by
  cases hA : s.arrGameInfo[n]? with
  | none =>
      refine Or.inl ?_
      rw [setPid, hA]
  | some A =>
      refine Or.inr ⟨A, rfl, ?_⟩
      simp [setPid, hA]

end

end Console
end BnsKorea
