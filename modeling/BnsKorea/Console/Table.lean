import Mathlib.Data.List.TakeDrop
import BnsKorea.Library.Slots
import BnsKorea.Console.AccountMgr

/-!
# The count and the names of the account table

When the counter of the shared array says how many slots are in use, and the
names of these slots differ.
-/

namespace BnsKorea
namespace Console

open Library

/-- The names of the slots with `bExist` set, in the order of the slots. -/
def accountNames (arrGameInfo : List AccountInfoGame) : List WString :=
  usedKeys AccountInfoGame.bExist AccountInfoGame.szUserName arrGameInfo

theorem mem_accountNames {name : WString} {arrGameInfo : List AccountInfoGame} :
    name ∈ accountNames arrGameInfo ↔
      exists AccountGame, AccountGame ∈ arrGameInfo ∧ AccountGame.bExist = true ∧
        AccountGame.szUserName = name :=
  mem_usedKeys

/-- The counter and the names agree with the slots in use. -/
structure Consistent (nAccountCount : Int) (arrGameInfo : List AccountInfoGame) :
    Prop where
  count : nAccountCount = (accountNames arrGameInfo).length
  distinct : (accountNames arrGameInfo).Nodup

theorem consistent_start (VecCard : List CardInfo) :
    Consistent (State.start VecCard).nAccountCount
      (State.start VecCard).arrGameInfo := by
  have hnone : accountNames (State.start VecCard).arrGameInfo = [] := by
    apply usedKeys_eq_nil
    intro AccountGame h
    rw [List.eq_of_mem_replicate h]
  constructor
  · rw [hnone]
    rfl
  · rw [hnone]
    exact List.nodup_nil

/-!
## Writing one slot
-/

section

variable {arrGameInfo : List AccountInfoGame} {n : Nat} {A B : AccountInfoGame}
  {c : Int}

private theorem names_set (h : arrGameInfo[n]? = some A) (B : AccountInfoGame) :
    (accountNames (arrGameInfo.set n B)).Perm
      (usedKey AccountInfoGame.bExist AccountInfoGame.szUserName B ++
        accountNames (arrGameInfo.eraseIdx n)) := by
  rcases List.getElem?_eq_some_iff.mp h with ⟨hn, _⟩
  exact usedKeys_set B hn

private theorem names_get (h : arrGameInfo[n]? = some A) :
    (accountNames arrGameInfo).Perm
      (usedKey AccountInfoGame.bExist AccountInfoGame.szUserName A ++
        accountNames (arrGameInfo.eraseIdx n)) :=
  usedKeys_get h

theorem names_add (h : arrGameInfo[n]? = some A) (hA : A.bExist = false)
    (hB : B.bExist = true) :
    (accountNames (arrGameInfo.set n B)).Perm
      (B.szUserName :: accountNames arrGameInfo) := by
  have hset := names_set h B
  have hget := names_get h
  simp only [usedKey, hA, hB, if_true, Bool.false_eq_true, if_false,
    List.nil_append, List.singleton_append] at hset hget
  exact hset.trans (hget.symm.cons B.szUserName)

theorem names_remove (h : arrGameInfo[n]? = some A) (hA : A.bExist = true)
    (hB : B.bExist = false) :
    (accountNames arrGameInfo).Perm
      (A.szUserName :: accountNames (arrGameInfo.set n B)) := by
  have hset := names_set h B
  have hget := names_get h
  simp only [usedKey, hA, hB, if_true, Bool.false_eq_true, if_false,
    List.nil_append, List.singleton_append] at hset hget
  exact hget.trans (hset.symm.cons A.szUserName)

theorem names_keep (h : arrGameInfo[n]? = some A) (hexist : B.bExist = A.bExist)
    (hname : B.bExist = true -> B.szUserName = A.szUserName) :
    (accountNames (arrGameInfo.set n B)).Perm (accountNames arrGameInfo) := by
  have hset := names_set h B
  have hget := names_get h
  have hsame : usedKey AccountInfoGame.bExist AccountInfoGame.szUserName B =
      usedKey AccountInfoGame.bExist AccountInfoGame.szUserName A := by
    cases hB : B.bExist with
    | false => simp [usedKey, hB, ← hexist]
    | true => simp [usedKey, hB, ← hexist, hname hB]
  rw [hsame] at hset
  exact hset.trans hget.symm

theorem Consistent.perm {arr arr' : List AccountInfoGame}
    (hperm : (accountNames arr').Perm (accountNames arr)) :
    Consistent c arr' ↔ Consistent c arr := by
  constructor
  · intro h
    exact ⟨by rw [h.count, hperm.length_eq], hperm.nodup_iff.mp h.distinct⟩
  · intro h
    exact ⟨by rw [h.count, hperm.length_eq], hperm.nodup_iff.mpr h.distinct⟩

theorem Consistent.add_iff (hs : Consistent c arrGameInfo)
    (h : arrGameInfo[n]? = some A) (hA : A.bExist = false) (hB : B.bExist = true) :
    Consistent (c + 1) (arrGameInfo.set n B) ↔
      B.szUserName ∉ accountNames arrGameInfo := by
  have hperm := names_add h hA hB
  constructor
  · intro hnext
    have hnodup := hperm.nodup_iff.mp hnext.distinct
    exact (List.nodup_cons.mp hnodup).left
  · intro hfresh
    constructor
    · rw [hs.count, hperm.length_eq]
      simp
    · exact hperm.nodup_iff.mpr (List.nodup_cons.mpr ⟨hfresh, hs.distinct⟩)

theorem Consistent.delete_iff (hs : Consistent c arrGameInfo)
    (h : arrGameInfo[n]? = some A) (hB : B.bExist = false) :
    Consistent (c - 1) (arrGameInfo.set n B) ↔ A.bExist = true := by
  cases hA : A.bExist with
  | true =>
      have hperm := names_remove h hA hB
      have hlength := hperm.length_eq
      have hnodup := hperm.nodup_iff.mp hs.distinct
      simp only [iff_true]
      constructor
      · rw [hs.count, hlength]
        simp
      · exact (List.nodup_cons.mp hnodup).right
  | false =>
      have hperm := names_keep h (hB.trans hA.symm) (by simp [hB])
      simp only [Bool.false_eq_true, iff_false]
      intro hnext
      have hcount := hnext.count
      rw [hs.count, hperm.length_eq] at hcount
      omega

theorem Consistent.clear_iff (hs : Consistent c arrGameInfo)
    (h : arrGameInfo[n]? = some A) (hB : B.bExist = false) :
    Consistent c (arrGameInfo.set n B) ↔ A.bExist = false := by
  cases hA : A.bExist with
  | true =>
      have hlength := (names_remove h hA hB).length_eq
      rw [List.length_cons] at hlength
      simp only [Bool.true_eq_false, iff_false]
      intro hnext
      have hcount := hnext.count
      rw [hs.count] at hcount
      omega
  | false =>
      have hperm := names_keep h (hB.trans hA.symm) (by simp [hB])
      simpa using (Consistent.perm hperm).mpr hs

end

/-!
## Which calls keep the table consistent
-/

def Keeps (T : ConsoleTools) (call : Call) (s : State) : Prop :=
  Consistent (apply T call s).nAccountCount (apply T call s).arrGameInfo ∧
    match call with
    | .addAccount name pass =>
        (addAccount T name pass s).1 = true ->
          name ∈ accountNames (addAccount T name pass s).2.arrGameInfo
    | _ => True

/--
The conditions on the calls: a name that is found belongs to a slot in use, a
name that is added fits its field, and no slot in use is cleared.
-/
def Ordinary (T : ConsoleTools) : Call -> State -> Prop
  | .addAccount name _, s =>
      if (isExistAccount T name s.arrGameInfo).isSome then
        name ∈ accountNames s.arrGameInfo
      else
        (existEmptyArrGameInfo s.arrGameInfo).isSome ->
          name.length < countof_szUserName
  | .deleteAccount name, s =>
      forall n A, isExistAccount T name s.arrGameInfo = some n ->
        s.arrGameInfo[n]? = some A -> A.bExist = true
  | .setClearAccount _ n, s =>
      forall A, s.arrGameInfo[n]? = some A ->
        (existCard T A.szCardNo releaseCard s.VecCard).isSome -> A.bExist = false
  | .runGameTurn, _ => True
  | .setPid _ _, _ => True

section

variable (T : ConsoleTools) {s : State}

theorem addAccount_keeps_iff (hs : Consistent s.nAccountCount s.arrGameInfo)
    (name pass : WString) :
    Keeps T (.addAccount name pass) s ↔ Ordinary T (.addAccount name pass) s := by
  rcases addAccount_cases T name pass s with
    ⟨n, hfound, hadd⟩ | ⟨hfound, hempty, hadd⟩ |
    ⟨n, A, hfound, hempty, hA, hexist, hadd⟩
  · simp [Keeps, Ordinary, apply, hadd, hfound, hs]
  · simp [Keeps, Ordinary, apply, hadd, hfound, hempty, hs]
  · have hnames := names_add hA hexist (B := added name pass A) rfl
    have hconsistent := hs.add_iff hA hexist (B := added name pass A) rfl
    have hnobody : name ∉ accountNames s.arrGameInfo := by
      intro h
      rcases mem_accountNames.mp h with ⟨B, hB, _, hname⟩
      exact (isExistAccount_eq_none T).mp hfound B hB hname
    have hshort : name.length < countof_szUserName ↔
        (added name pass A).szUserName = name := by
      rw [added, List.take_eq_self_iff, countof_szUserName]
      omega
    simp only [Keeps, Ordinary, apply, hadd, hfound, hempty, hnames.mem_iff,
      List.mem_cons, hnobody, or_false, Option.isSome_none, Option.isSome_some,
      Bool.false_eq_true, if_false, forall_const]
    rw [hconsistent, hshort]
    constructor
    · intro h
      exact h.right.symm
    · intro h
      rw [h]
      exact ⟨hnobody, rfl⟩

theorem deleteAccount_keeps_iff (hs : Consistent s.nAccountCount s.arrGameInfo)
    (name : WString) :
    Keeps T (.deleteAccount name) s ↔ Ordinary T (.deleteAccount name) s := by
  rcases deleteAccount_cases T name s with
    ⟨hfound, hdelete⟩ | ⟨n, A, hfound, hA, _, hdelete⟩
  · simp [Keeps, Ordinary, apply, hdelete, hfound, hs]
  · have hconsistent := hs.delete_iff hA (B := {}) rfl
    have hordinary : Ordinary T (.deleteAccount name) s ↔ A.bExist = true := by
      constructor
      · exact fun h => h n A hfound hA
      · intro hexist m B hm hB
        rw [hfound, Option.some.injEq] at hm
        rw [← hm, hA, Option.some.injEq] at hB
        rw [← hB]
        exact hexist
    simp [Keeps, apply, hdelete, hconsistent, hordinary]

theorem setClearAccount_keeps_iff
    (hs : Consistent s.nAccountCount s.arrGameInfo)
    (processExists : DWORD -> Bool) (n : Nat) :
    Keeps T (.setClearAccount processExists n) s ↔
      Ordinary T (.setClearAccount processExists n) s := by
  rcases setClearAccount_cases T processExists n s with
    ⟨hnone, hclear⟩ | ⟨A, VecCard, hA, hcard, hclear⟩
  · have hordinary : Ordinary T (.setClearAccount processExists n) s := by
      intro A hA hsome
      rw [hnone A hA] at hsome
      cases hsome
    simp [Keeps, apply, hclear, hs, hordinary]
  · have hconsistent := hs.clear_iff hA
      (B := { killGame processExists A with bExist := false }) rfl
    simp [Keeps, Ordinary, apply, hclear, hA, hcard, hconsistent]

theorem runGameTurn_keeps (hs : Consistent s.nAccountCount s.arrGameInfo) :
    Consistent (runGameTurn T s).nAccountCount (runGameTurn T s).arrGameInfo := by
  rcases runGameTurn_cases T s with
    ⟨_, hturn⟩ | ⟨_, _, _, hturn⟩ | ⟨A, CardInfo_, VecCard, hA, _, _, hturn⟩
  · rw [hturn]
    exact hs
  · rw [hturn]
    exact hs
  · have hnames := names_keep hA (B := { A with szCardNo := CardInfo_.wsCardNo })
      rfl fun _ => rfl
    rw [hturn]
    exact (Consistent.perm hnames).mpr hs

theorem setPid_keeps (hs : Consistent s.nAccountCount s.arrGameInfo) (n : Nat)
    (dwPid : DWORD) :
    Consistent (setPid n dwPid s).nAccountCount (setPid n dwPid s).arrGameInfo := by
  rcases setPid_cases n dwPid s with hset | ⟨A, hA, hset⟩
  · rw [hset]
    exact hs
  · have hnames := names_keep hA (B := { A with dwPid := dwPid }) rfl fun _ => rfl
    rw [hset]
    exact (Consistent.perm hnames).mpr hs

theorem keeps_iff_ordinary (hs : Consistent s.nAccountCount s.arrGameInfo)
    (call : Call) : Keeps T call s ↔ Ordinary T call s := by
  cases call with
  | addAccount name pass => exact addAccount_keeps_iff T hs name pass
  | deleteAccount name => exact deleteAccount_keeps_iff T hs name
  | setClearAccount processExists n =>
      exact setClearAccount_keeps_iff T hs processExists n
  | runGameTurn => simp [Keeps, Ordinary, apply, runGameTurn_keeps T hs]
  | setPid n dwPid => simp [Keeps, Ordinary, apply, setPid_keeps hs n dwPid]

end

/-!
## Whole runs
-/

/--
Over every sequence of calls on a new console, the counter and the names stay
right, and an account that was added is there, exactly if every call meets its
condition in the state it is made in.
-/
theorem account_table_consistent_iff (T : ConsoleTools) (VecCard : List CardInfo)
    (calls : List Call) :
    (forall n call, calls[n]? = some call ->
        Keeps T call ((machine T).play (calls.take n) (State.start VecCard))) ↔
      forall n call, calls[n]? = some call ->
        Ordinary T call ((machine T).play (calls.take n) (State.start VecCard)) :=
  Machine.play_each_iff
    (fun s => Consistent s.nAccountCount s.arrGameInfo) (Keeps T) (Ordinary T)
    (fun _ _ _ hkeeps => hkeeps.left) (fun call _ hs => keeps_iff_ordinary T hs call)
    calls (consistent_start VecCard)

/--
An account that got a card and is cleared leaves the counter at one with no slot
in use.
-/
theorem cleared_account_stays_counted :
    ¬ forall n call,
      [Call.addAccount (L "A") (L "p"), Call.runGameTurn,
          Call.setClearAccount (fun _ => false) 0][n]? = some call ->
        Keeps ConsoleTools.standard call
          ((machine ConsoleTools.standard).play
            ([Call.addAccount (L "A") (L "p"), Call.runGameTurn,
              Call.setClearAccount (fun _ => false) 0].take n)
            (State.start [{ wsCardNo := L "c1", nSurplusHour := 1 }])) := by
  intro h
  have hclear := (h 2 _ rfl).left.count
  revert hclear
  decide +kernel

end Console
end BnsKorea
