import BnsKorea.Console.AccountMgr

/-!
# Games that are nobody's

The console kills the game processes that belong to none of its accounts.  It looks
for the account of a process in as many slots as the counter says, from the first
one, while the accounts in use may lie anywhere in the array.
-/

namespace BnsKorea
namespace Console

open Library

/-- What the code relies on of `MakeTextToLower`. -/
structure LowerCase where
  makeTextToLower : WString -> WString
  /-- Seven-bit text without capital letters stays as it is. -/
  makeTextToLower_lower : forall wsText,
    (forall c, c ∈ wsText -> c < 128 ∧ ¬ (65 ≤ c ∧ c ≤ 90)) ->
      makeTextToLower wsText = wsText

def LowerCase.standard : LowerCase where
  makeTextToLower wsText :=
    wsText.map fun c => if 65 ≤ c ∧ c ≤ 90 then c + 32 else c
  makeTextToLower_lower := by
    intro wsText h
    conv => rhs; rw [← List.map_id wsText]
    exact List.map_congr_left fun c hc => if_neg (h c hc).right

/-- `PROCESSENTRY32`. -/
structure ProcessEntry where
  szExeFile : WString
  th32ProcessID : DWORD
deriving DecidableEq

def isClient (C : LowerCase) (itm : ProcessEntry) : Bool :=
  C.makeTextToLower itm.szExeFile = L "client.exe"

/-- The loop with so many turns left at slot `i`; behind the array nothing is read. -/
def fnExistPid (arrGameInfo : List AccountInfoGame) (dwPid : DWORD) :
    Nat -> Nat -> Option Bool
  | 0, _ => some false
  | turns + 1, i =>
      match arrGameInfo[i]? with
      | none => none
      | some AccountGame =>
          if AccountGame.bExist && AccountGame.dwPid = dwPid then some true
          else fnExistPid arrGameInfo dwPid turns (i + 1)

def destoryOtherClient (C : LowerCase) (s : State) :
    List ProcessEntry -> Option (List DWORD)
  | [] => some []
  | itm :: VecProc =>
      if isClient C itm then
        match fnExistPid s.arrGameInfo itm.th32ProcessID s.nAccountCount.toNat 0 with
        | none => none
        | some true => destoryOtherClient C s VecProc
        | some false =>
            (destoryOtherClient C s VecProc).map (itm.th32ProcessID :: ·)
      else destoryOtherClient C s VecProc

/-!
## The loop over the slots
-/

def Managed (arrGameInfo : List AccountInfoGame) (dwPid : DWORD) : Prop :=
  exists A, A ∈ arrGameInfo ∧ (A.bExist && A.dwPid = dwPid) = true

instance (arrGameInfo : List AccountInfoGame) (dwPid : DWORD) :
    Decidable (Managed arrGameInfo dwPid) :=
  inferInstanceAs (Decidable (exists A, A ∈ arrGameInfo ∧ _))

section

variable {arrGameInfo : List AccountInfoGame} {dwPid : DWORD} {turns i : Nat}

theorem fnExistPid_found (h : fnExistPid arrGameInfo dwPid turns i = some true) :
    exists n A, n < i + turns ∧ arrGameInfo[n]? = some A ∧
      (A.bExist && A.dwPid = dwPid) = true := by
  induction turns generalizing i with
  | zero => cases h
  | succ turns ih =>
      unfold fnExistPid at h
      split at h
      · cases h
      · rename_i A hA
        split at h
        · rename_i hpid
          exact ⟨i, A, by omega, hA, hpid⟩
        · rcases ih h with ⟨n, B, hn, hB, hpid⟩
          exact ⟨n, B, by omega, hB, hpid⟩

theorem fnExistPid_finds (hwithin : i + turns ≤ arrGameInfo.length) :
    fnExistPid arrGameInfo dwPid turns i =
      some (decide (exists A, A ∈ (arrGameInfo.drop i).take turns ∧
        (A.bExist && A.dwPid = dwPid) = true)) := by
  induction turns generalizing i with
  | zero => simp [fnExistPid]
  | succ turns ih =>
      have hi : i < arrGameInfo.length := by omega
      unfold fnExistPid
      rw [List.getElem?_eq_getElem hi, ih (by omega), List.drop_eq_getElem_cons hi,
        List.take_succ_cons]
      dsimp only
      split
      · rename_i hpid
        exact congrArg some (decide_eq_true ⟨_, List.mem_cons_self, hpid⟩).symm
      · rename_i hpid
        refine congrArg some (decide_eq_decide.mpr ?_)
        rw [List.exists_mem_cons_iff, or_iff_right hpid]

theorem fnExistPid_runs_off (hi : i ≤ arrGameInfo.length)
    (hoff : arrGameInfo.length < i + turns) (hnone : ¬ Managed arrGameInfo dwPid) :
    fnExistPid arrGameInfo dwPid turns i = none := by
  induction turns generalizing i with
  | zero => omega
  | succ turns ih =>
      unfold fnExistPid
      split
      · rfl
      · rename_i A hA
        rw [if_neg fun hpid => hnone ⟨A, List.mem_of_getElem? hA, hpid⟩]
        have hlt := (List.getElem?_eq_some_iff.mp hA).choose
        exact ih (by omega) (by omega)

end

/-!
## Counting over all that is in use
-/

def InUse (arrGameInfo : List AccountInfoGame) (n : Nat) : Prop :=
  exists A, arrGameInfo[n]? = some A ∧ A.bExist = true

/-- The slots in use are among the first so many, and there are so many slots. -/
structure Covered (nAccountCount : Int) (arrGameInfo : List AccountInfoGame) :
    Prop where
  used : forall n : Nat, InUse arrGameInfo n -> (n : Int) < nAccountCount
  within : nAccountCount ≤ arrGameInfo.length

theorem covered_start (VecCard : List CardInfo) :
    Covered (State.start VecCard).nAccountCount
      (State.start VecCard).arrGameInfo where
  used n hn := by
    rcases hn with ⟨A, hA, hexist⟩
    rw [List.eq_of_mem_replicate (List.mem_of_getElem? hA)] at hexist
    cases hexist
  within := Int.natCast_nonneg _

/-- Just the client processes that nobody has are killed. -/
def Spared (C : LowerCase) (s : State) (VecProc : List ProcessEntry) : Prop :=
  destoryOtherClient C s VecProc =
    some ((VecProc.filter fun itm =>
      isClient C itm && !decide (Managed s.arrGameInfo itm.th32ProcessID)).map
        ProcessEntry.th32ProcessID)

instance (C : LowerCase) (s : State) (VecProc : List ProcessEntry) :
    Decidable (Spared C s VecProc) :=
  inferInstanceAs (Decidable (_ = _))

section

variable {C : LowerCase} {s : State}

theorem Covered.finds (h : Covered s.nAccountCount s.arrGameInfo) (dwPid : DWORD) :
    fnExistPid s.arrGameInfo dwPid s.nAccountCount.toNat 0 =
      some (decide (Managed s.arrGameInfo dwPid)) := by
  have hwithin := h.within
  rw [fnExistPid_finds (by omega), List.drop_zero]
  congr 2
  apply propext
  constructor
  · rintro ⟨A, hA, hpid⟩
    exact ⟨A, List.mem_of_mem_take hA, hpid⟩
  · rintro ⟨A, hA, hpid⟩
    rcases List.mem_iff_getElem?.mp hA with ⟨n, hn⟩
    have hlt := h.used n ⟨A, hn, (Bool.and_eq_true_iff.mp hpid).left⟩
    refine ⟨A, List.mem_iff_getElem?.mpr ⟨n, ?_⟩, hpid⟩
    rw [List.getElem?_take_of_lt (by omega), hn]

theorem Covered.spared (h : Covered s.nAccountCount s.arrGameInfo)
    (VecProc : List ProcessEntry) : Spared C s VecProc := by
  induction VecProc with
  | nil => rfl
  | cons itm VecProc ih =>
      unfold Spared at ih ⊢
      unfold destoryOtherClient
      rw [h.finds, ih, List.filter_cons]
      cases hclient : isClient C itm with
      | false => rfl
      | true =>
          cases hmanaged : decide (Managed s.arrGameInfo itm.th32ProcessID) with
          | false => rfl
          | true => rfl

end

/-!
## Other processes
-/

def setPids (pids : List (Nat × DWORD)) (s : State) : State :=
  pids.foldl (fun s p => setPid p.1 p.2 s) s

/-- Whatever processes the accounts get, only those of nobody are killed. -/
def Spares (C : LowerCase) (s : State) : Prop :=
  forall pids, (forall p, p ∈ pids -> InUse s.arrGameInfo p.1) ->
    forall VecProc, Spared C (setPids pids s) VecProc

section

variable {C : LowerCase} {s : State}

theorem setPid_count (n : Nat) (dwPid : DWORD) (s : State) :
    (setPid n dwPid s).nAccountCount = s.nAccountCount := by
  rcases setPid_cases n dwPid s with hset | ⟨A, _, hset⟩
  · rw [hset]
  · rw [hset]

theorem setPid_getElem? (n : Nat) (dwPid : DWORD) (s : State) (i : Nat) :
    (setPid n dwPid s).arrGameInfo[i]? =
      s.arrGameInfo[i]?.map fun A =>
        if i = n then { A with dwPid := dwPid } else A := by
  unfold setPid
  cases hA : s.arrGameInfo[n]? with
  | none =>
      by_cases hi : i = n
      · rw [hi, hA]
        rfl
      · simp [hi]
  | some A =>
      dsimp only
      by_cases hi : i = n
      · have hn := (List.getElem?_eq_some_iff.mp hA).choose
        rw [hi, List.getElem?_set_self hn, hA, Option.map_some, if_pos rfl]
      · rw [List.getElem?_set_ne (fun h => hi h.symm)]
        simp [hi]

theorem setPid_length (n : Nat) (dwPid : DWORD) (s : State) :
    (setPid n dwPid s).arrGameInfo.length = s.arrGameInfo.length := by
  rcases setPid_cases n dwPid s with hset | ⟨A, _, hset⟩
  · rw [hset]
  · rw [hset, List.length_set]

theorem inUse_setPid_iff {n i : Nat} {dwPid : DWORD} :
    InUse (setPid n dwPid s).arrGameInfo i ↔ InUse s.arrGameInfo i := by
  have hexist : forall A : AccountInfoGame,
      (if i = n then { A with dwPid := dwPid } else A).bExist = A.bExist := by
    intro A
    split <;> rfl
  constructor
  · rintro ⟨B, hB, hused⟩
    rw [setPid_getElem?] at hB
    rcases Option.map_eq_some_iff.mp hB with ⟨A, hA, hAB⟩
    exact ⟨A, hA, by rw [← hexist A, hAB, hused]⟩
  · rintro ⟨A, hA, hused⟩
    refine ⟨_, by rw [setPid_getElem?, hA, Option.map_some], ?_⟩
    rw [hexist, hused]

theorem covered_setPid_iff (n : Nat) (dwPid : DWORD) :
    Covered (setPid n dwPid s).nAccountCount (setPid n dwPid s).arrGameInfo ↔
      Covered s.nAccountCount s.arrGameInfo := by
  rw [setPid_count]
  constructor
  · intro h
    exact ⟨fun i hi => h.used i (inUse_setPid_iff.mpr hi),
      setPid_length n dwPid s ▸ h.within⟩
  · intro h
    exact ⟨fun i hi => h.used i (inUse_setPid_iff.mp hi),
      (setPid_length n dwPid s).symm ▸ h.within⟩

theorem Covered.spares (h : Covered s.nAccountCount s.arrGameInfo) : Spares C s := by
  intro pids _ VecProc
  refine Covered.spared ?_ VecProc
  exact foldl_invariant (fun s => Covered s.nAccountCount s.arrGameInfo)
    (fun s p => setPid p.1 p.2 s) (fun _ p hs => (covered_setPid_iff p.1 p.2).mpr hs)
    pids h

theorem setPids_all (dwPid : DWORD) (ns : List Nat) (s : State) (i : Nat) :
    (setPids (ns.map fun n => (n, dwPid)) s).arrGameInfo[i]? =
        s.arrGameInfo[i]?.map fun A =>
          if i ∈ ns then { A with dwPid := dwPid } else A := by
  induction ns generalizing s with
  | nil => simp [setPids]
  | cons n ns ih =>
      show (setPids (ns.map _) (setPid n dwPid s)).arrGameInfo[i]? = _
      rw [ih, setPid_getElem?, Option.map_map]
      congr 1
      funext A
      by_cases hi : i = n
      · simp [hi]
      · simp [hi]

theorem setPids_size (pids : List (Nat × DWORD)) (s : State) :
    (setPids pids s).nAccountCount = s.nAccountCount ∧
      (setPids pids s).arrGameInfo.length = s.arrGameInfo.length :=
  foldl_invariant
    (fun t => t.nAccountCount = s.nAccountCount ∧
      t.arrGameInfo.length = s.arrGameInfo.length)
    (fun s p => setPid p.1 p.2 s)
    (fun t p ht => ⟨(setPid_count p.1 p.2 t).trans ht.left,
      (setPid_length p.1 p.2 t).trans ht.right⟩) pids ⟨rfl, rfl⟩

theorem client_lower (C : LowerCase) :
    C.makeTextToLower (L "client.exe") = L "client.exe" := by
  apply C.makeTextToLower_lower
  have hall : ((L "client.exe").all fun c =>
      decide (c < 128 ∧ ¬ (65 ≤ c ∧ c ≤ 90))) = true := by decide
  exact fun c hc => of_decide_eq_true (List.all_eq_true.mp hall c hc)

theorem Spared.finds {dwPid : DWORD} (h : Spared C s [⟨L "client.exe", dwPid⟩]) :
    fnExistPid s.arrGameInfo dwPid s.nAccountCount.toNat 0 =
      some (decide (Managed s.arrGameInfo dwPid)) := by
  have hclient : isClient C ⟨L "client.exe", dwPid⟩ = true :=
    decide_eq_true (client_lower C)
  unfold Spared destoryOtherClient at h
  rw [hclient, if_pos rfl, List.filter_cons, hclient, Bool.true_and] at h
  dsimp only at h
  cases hfound : fnExistPid s.arrGameInfo dwPid s.nAccountCount.toNat 0 with
  | none =>
      rw [hfound] at h
      cases h
  | some found =>
      rw [hfound] at h
      cases hmanaged : decide (Managed s.arrGameInfo dwPid) with
      | false =>
          rw [hmanaged] at h
          cases found with
          | false => rfl
          | true => cases h
      | true =>
          rw [hmanaged] at h
          cases found with
          | false => cases h
          | true => rfl

theorem exists_inUse (arrGameInfo : List AccountInfoGame) :
    exists ns : List Nat, forall n, n ∈ ns ↔ InUse arrGameInfo n := by
  classical
  refine ⟨(List.range arrGameInfo.length).filter fun n => InUse arrGameInfo n, ?_⟩
  intro n
  rw [List.mem_filter, List.mem_range, decide_eq_true_iff]
  refine and_iff_right_of_imp ?_
  rintro ⟨A, hA, _⟩
  exact (List.getElem?_eq_some_iff.mp hA).choose

theorem exists_noPid (s : State) :
    exists pids, (forall p, p ∈ pids -> InUse s.arrGameInfo p.1) ∧
      (forall i, InUse (setPids pids s).arrGameInfo i ↔ InUse s.arrGameInfo i) ∧
      forall (i : Nat) A, (setPids pids s).arrGameInfo[i]? = some A ->
        A.bExist = true -> A.dwPid = 0 := by
  rcases exists_inUse s.arrGameInfo with ⟨ns, hns⟩
  have hkeeps : forall i,
      InUse (setPids (ns.map fun n => (n, 0)) s).arrGameInfo i ↔
        InUse s.arrGameInfo i :=
    fun i => foldl_invariant
      (fun t => InUse t.arrGameInfo i ↔ InUse s.arrGameInfo i)
      (fun s (p : Nat × DWORD) => setPid p.1 p.2 s)
      (fun _ _ ht => inUse_setPid_iff.trans ht) _ Iff.rfl
  refine ⟨ns.map fun n => (n, 0), ?_, hkeeps, ?_⟩
  · intro p hp
    rcases List.mem_map.mp hp with ⟨n, hn, hpn⟩
    rw [← hpn]
    exact (hns n).mp hn
  · intro i B hB hused
    have hmem : i ∈ ns := (hns i).mpr ((hkeeps i).mp ⟨B, hB, hused⟩)
    rw [setPids_all] at hB
    rcases Option.map_eq_some_iff.mp hB with ⟨A, _, hAB⟩
    rw [if_pos hmem] at hAB
    rw [← hAB]

theorem Spares.within (h : Spares C s) :
    s.nAccountCount ≤ s.arrGameInfo.length := by
  rcases exists_noPid s with ⟨pids, hpids, _, hnone⟩
  rcases setPids_size pids s with ⟨hcount, hlength⟩
  have hfinds := (h pids hpids [⟨L "client.exe", 1⟩]).finds
  have hnobody : ¬ Managed (setPids pids s).arrGameInfo 1 := by
    rintro ⟨A, hA, hpid⟩
    rcases Bool.and_eq_true_iff.mp hpid with ⟨hused, hpid⟩
    rcases List.mem_iff_getElem?.mp hA with ⟨i, hi⟩
    have hone := of_decide_eq_true hpid
    rw [hnone i A hi hused] at hone
    exact absurd hone (by decide)
  rw [hcount] at hfinds
  by_contra hoff
  rw [fnExistPid_runs_off (Nat.zero_le _) (by omega) hnobody] at hfinds
  cases hfinds

theorem Spares.used (h : Spares C s) {n : Nat} (hn : InUse s.arrGameInfo n) :
    (n : Int) < s.nAccountCount := by
  rcases exists_noPid s with ⟨pids, hpids, hkeeps, hnone⟩
  have hlast : setPids (pids ++ [(n, 1)]) s = setPid n 1 (setPids pids s) := by
    rw [setPids, List.foldl_append]
    rfl
  have hspared := h (pids ++ [(n, 1)]) (by
    intro p hp
    rcases List.mem_append.mp hp with hp | hp
    · exact hpids p hp
    · rw [List.mem_singleton.mp hp]
      exact hn) [⟨L "client.exe", 1⟩]
  rw [hlast] at hspared
  rcases (hkeeps n).mpr hn with ⟨A, hA, hused⟩
  have hmanaged : Managed (setPid n 1 (setPids pids s)).arrGameInfo 1 := by
    refine ⟨{ A with dwPid := 1 }, List.mem_iff_getElem?.mpr ⟨n, ?_⟩, ?_⟩
    · rw [setPid_getElem?, hA, Option.map_some, if_pos rfl]
    · simp [hused]
  have hfinds := hspared.finds
  rw [decide_eq_true hmanaged] at hfinds
  rcases fnExistPid_found hfinds with ⟨m, B, hm, hB, hpid⟩
  rw [setPid_count, (setPids_size pids s).left] at hm
  rcases Bool.and_eq_true_iff.mp hpid with ⟨hBused, hpid⟩
  rw [setPid_getElem?] at hB
  rcases Option.map_eq_some_iff.mp hB with ⟨A', hA', hAB⟩
  by_cases hmn : m = n
  · omega
  · rw [if_neg hmn] at hAB
    rw [← hAB] at hBused hpid
    have hone := of_decide_eq_true hpid
    rw [hnone m A' hA' hBused] at hone
    exact absurd hone (by decide)

theorem spares_iff :
    Spares C s ↔ Covered s.nAccountCount s.arrGameInfo :=
  ⟨fun h => ⟨fun _ => h.used, h.within⟩, Covered.spares⟩

end

/-!
## The calls
-/

/--
The conditions on the calls: a free slot is taken with a counter that is not negative
and below the size of the array, and an account is deleted from the last slot that
the counter covers, unless that one is free.
-/
def CountsAll (T : ConsoleTools) : Call -> State -> Prop
  | .addAccount name _, s =>
      isExistAccount T name s.arrGameInfo = none ->
        (existEmptyArrGameInfo s.arrGameInfo).isSome ->
          0 ≤ s.nAccountCount ∧ s.nAccountCount < s.arrGameInfo.length
  | .deleteAccount name, s =>
      forall n, isExistAccount T name s.arrGameInfo = some n ->
        forall m : Nat, (m : Int) + 1 = s.nAccountCount -> InUse s.arrGameInfo m ->
          m = n
  | .setClearAccount _ _, _ => True
  | .runGameTurn, _ => True
  | .setPid _ _, _ => True

section

variable {arrGameInfo : List AccountInfoGame} {n i : Nat} {A B : AccountInfoGame}

theorem inUse_set_self (hn : n < arrGameInfo.length) :
    InUse (arrGameInfo.set n B) n ↔ B.bExist = true := by
  rw [InUse, List.getElem?_set_self hn]
  simp

theorem inUse_set_ne (hi : i ≠ n) :
    InUse (arrGameInfo.set n B) i ↔ InUse arrGameInfo i := by
  rw [InUse, List.getElem?_set_ne hi.symm, InUse]

theorem inUse_set_free (hB : B.bExist = false) :
    InUse (arrGameInfo.set n B) i ↔ InUse arrGameInfo i ∧ i ≠ n := by
  by_cases hi : i = n
  · rw [hi]
    refine iff_of_false ?_ fun h => h.right rfl
    rintro ⟨A, hA, hused⟩
    have hlt := (List.getElem?_eq_some_iff.mp hA).choose
    rw [List.length_set] at hlt
    rw [List.getElem?_set_self hlt] at hA
    rw [← Option.some.inj hA, hB] at hused
    cases hused
  · rw [inUse_set_ne hi, and_iff_left hi]

theorem inUse_set_same (hA : arrGameInfo[n]? = some A) (hB : B.bExist = A.bExist) :
    InUse (arrGameInfo.set n B) i ↔ InUse arrGameInfo i := by
  by_cases hi : i = n
  · have hn := (List.getElem?_eq_some_iff.mp hA).choose
    rw [hi, inUse_set_self hn, hB, InUse, hA]
    simp
  · exact inUse_set_ne hi

theorem inUse_of_lt_empty (h : existEmptyArrGameInfo arrGameInfo = some n)
    (hi : i < n) : InUse arrGameInfo i := by
  rcases List.findIdx?_eq_some_iff_getElem.mp h with ⟨hn, _, hbefore⟩
  refine ⟨_, List.getElem?_eq_getElem (Nat.lt_trans hi hn), ?_⟩
  simpa using hbefore i hi

end

section

variable (T : ConsoleTools) {s : State}

theorem addAccount_covered_iff (hs : Covered s.nAccountCount s.arrGameInfo)
    (name pass : WString) :
    Covered (addAccount T name pass s).2.nAccountCount
        (addAccount T name pass s).2.arrGameInfo ↔
      CountsAll T (.addAccount name pass) s := by
  rcases addAccount_cases T name pass s with
    ⟨n, hfound, hadd⟩ | ⟨_, hempty, hadd⟩ | ⟨n, A, hfound, hempty, hA, _, hadd⟩
  · rw [hadd]
    refine iff_of_true hs fun hnone => ?_
    rw [hfound] at hnone
    cases hnone
  · rw [hadd]
    refine iff_of_true hs fun _ hsome => ?_
    rw [hempty] at hsome
    cases hsome
  · have hn := (List.getElem?_eq_some_iff.mp hA).choose
    rw [hadd]
    show Covered (s.nAccountCount + 1) (s.arrGameInfo.set n _) ↔ _
    constructor
    · intro hnext _ _
      have hlt := hnext.used n ((inUse_set_self hn).mpr rfl)
      have hle := hnext.within
      rw [List.length_set] at hle
      omega
    · intro hcounts
      rcases hcounts hfound (by rw [hempty]; rfl) with ⟨hpos, hlt⟩
      constructor
      · intro i hi
        by_cases hin : i = n
        · cases n with
          | zero => omega
          | succ n =>
              have hused := hs.used n (inUse_of_lt_empty hempty (Nat.lt_succ_self n))
              omega
        · have hused := hs.used i ((inUse_set_ne hin).mp hi)
          omega
      · rw [List.length_set]
        omega

theorem deleteAccount_covered_iff (hs : Covered s.nAccountCount s.arrGameInfo)
    (name : WString) :
    Covered (deleteAccount T name s).2.nAccountCount
        (deleteAccount T name s).2.arrGameInfo ↔
      CountsAll T (.deleteAccount name) s := by
  rcases deleteAccount_cases T name s with
    ⟨hfound, hdelete⟩ | ⟨n, A, hfound, hA, _, hdelete⟩
  · rw [hdelete]
    refine iff_of_true hs fun n hsome => ?_
    rw [hfound] at hsome
    cases hsome
  · rw [hdelete]
    show Covered (s.nAccountCount - 1) (s.arrGameInfo.set n _) ↔ _
    constructor
    · intro hnext k hk m hm hused
      rw [hfound] at hk
      by_contra hne
      rw [← Option.some.inj hk] at hne
      have hlt := hnext.used m ((inUse_set_ne hne).mpr hused)
      omega
    · intro hcounts
      constructor
      · intro i hi
        rcases (inUse_set_free rfl).mp hi with ⟨hi, hne⟩
        have hlt := hs.used i hi
        have hlast : ¬ (i : Int) + 1 = s.nAccountCount :=
          fun hcount => hne (hcounts n hfound i hcount hi)
        omega
      · have hle := hs.within
        rw [List.length_set]
        omega

theorem setClearAccount_covered (hs : Covered s.nAccountCount s.arrGameInfo)
    (processExists : DWORD -> Bool) (n : Nat) :
    Covered (setClearAccount T processExists n s).nAccountCount
      (setClearAccount T processExists n s).arrGameInfo := by
  rcases setClearAccount_cases T processExists n s with
    ⟨_, hclear⟩ | ⟨A, VecCard, _, _, hclear⟩
  · rw [hclear]
    exact hs
  · rw [hclear]
    refine ⟨fun i hi => hs.used i ((inUse_set_free rfl).mp hi).left, ?_⟩
    rw [List.length_set]
    exact hs.within

theorem runGameTurn_covered (hs : Covered s.nAccountCount s.arrGameInfo) :
    Covered (runGameTurn T s).nAccountCount (runGameTurn T s).arrGameInfo := by
  rcases runGameTurn_cases T s with
    ⟨_, hturn⟩ | ⟨_, _, _, hturn⟩ | ⟨A, CardInfo_, VecCard, hA, _, _, hturn⟩
  · rw [hturn]
    exact hs
  · rw [hturn]
    exact hs
  · have hsame : forall n, InUse
        (s.arrGameInfo.set s.i { A with szCardNo := CardInfo_.wsCardNo }) n ↔
          InUse s.arrGameInfo n := fun n => inUse_set_same hA rfl
    rw [hturn]
    refine ⟨fun n hn => hs.used n ((hsame n).mp hn), ?_⟩
    rw [List.length_set]
    exact hs.within

theorem covered_iff_countsAll (hs : Covered s.nAccountCount s.arrGameInfo)
    (call : Call) :
    Covered (apply T call s).nAccountCount (apply T call s).arrGameInfo ↔
      CountsAll T call s := by
  cases call with
  | addAccount name pass => exact addAccount_covered_iff T hs name pass
  | deleteAccount name => exact deleteAccount_covered_iff T hs name
  | setClearAccount processExists n =>
      exact iff_of_true (setClearAccount_covered T hs processExists n) trivial
  | runGameTurn => exact iff_of_true (runGameTurn_covered T hs) trivial
  | setPid n dwPid => exact iff_of_true ((covered_setPid_iff n dwPid).mpr hs) trivial

end

/-!
## Whole runs
-/

/--
After every beginning of a sequence of calls, and whatever processes the accounts
then get, just the game processes that no account in use has are killed, exactly if
every call meets its condition in the state it is made in.
-/
theorem destoryOtherClient_spares_iff (T : ConsoleTools) (C : LowerCase)
    (VecCard : List CardInfo) (calls : List Call) :
    (forall n, Spares C ((machine T).play (calls.take n) (State.start VecCard))) ↔
      forall n call, calls[n]? = some call ->
        CountsAll T call ((machine T).play (calls.take n) (State.start VecCard)) := by
  simp only [spares_iff]
  refine Machine.play_always_iff (fun _ => True)
    (fun s => Covered s.nAccountCount s.arrGameInfo) (CountsAll T)
    (fun _ _ _ => trivial) ?_ calls trivial (covered_start VecCard)
  intro call s _ hs
  exact covered_iff_countsAll T hs call

def twoAccounts : List Call :=
  [.addAccount (L "A") (L "p"), .addAccount (L "B") (L "p"), .setPid 1 77,
    .deleteAccount (L "A")]

/-- With the first account gone, the game of the second one is killed. -/
theorem twoAccounts_killed :
    let s := (machine ConsoleTools.standard).play twoAccounts (State.start [])
    Managed s.arrGameInfo 77 ∧
      destoryOtherClient LowerCase.standard s [⟨L "Client.exe", 77⟩] = some [77] ∧
      ¬ Spared LowerCase.standard s [⟨L "Client.exe", 77⟩] := by
  decide +kernel

end Console
end BnsKorea
