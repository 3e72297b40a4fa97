import Mathlib.Data.List.Find
import BnsKorea.OldServer.VerSocket
import BnsKorea.Server.Services

/-!
# The last login of a card

After a login, and until the next one with the card, the connection that logged
in is the only one with the card's token, and the server lets no other one of
the card through.
-/

namespace BnsKorea
namespace OldServer

open Library CVerManage

variable {V : VerTools} {E : Outside}

def byCrc (dwCardCrc : DWORD) (Card : CardInfo) : Bool :=
  dwCardCrc == Card.dwCardCrc

def Sealed (V : VerTools) (vlst : List CardInfo) : Prop :=
  forall Card, Card ∈ vlst -> Card.dwCardCrc = V.getCRC32_DWORD Card.wstrCardNo

/-!
## Looking cards up
-/

theorem findCard_eq (dwCardCrc : DWORD) (vlst : List CardInfo) :
    findCard V dwCardCrc vlst = firstPlace (byCrc dwCardCrc) vlst := by
  rw [findCard, MyTools.dequeFindIf_eq]
  rfl

theorem find?_of_findCard {dwCardCrc : DWORD} {vlst : List CardInfo}
    {p : Place CardInfo} (h : findCard V dwCardCrc vlst = some p) :
    vlst.find? (byCrc dwCardCrc) = some p.here := by
  rw [← map_here_firstPlace, ← findCard_eq, h]
  rfl

theorem findCard_of_find? {dwCardCrc : DWORD} {vlst : List CardInfo} {Card : CardInfo}
    (h : vlst.find? (byCrc dwCardCrc) = some Card) :
    exists p : Place CardInfo, findCard V dwCardCrc vlst = some p ∧ p.here = Card := by
  rw [← map_here_firstPlace, Option.map_eq_some_iff] at h
  rw [findCard_eq]
  exact h

theorem find?_put {dwCardCrc : DWORD} {vlst : List CardInfo} {p : Place CardInfo}
    {x : CardInfo} (h : findCard V dwCardCrc vlst = some p)
    (hx : x.dwCardCrc = p.here.dwCardCrc) (dwCardCrc' : DWORD) :
    (p.put x).find? (byCrc dwCardCrc') =
      if dwCardCrc' = dwCardCrc then some x else vlst.find? (byCrc dwCardCrc') := by
  rw [findCard_eq] at h
  rcases firstPlace_eq_some h with ⟨hwhole, htest, hpre⟩
  have hcrc : dwCardCrc = p.here.dwCardCrc := eq_of_beq htest
  split
  · rename_i heq
    cases heq
    exact find?_put_first hpre (by rw [byCrc, hx]; exact htest)
  · rename_i hne
    have hother : byCrc dwCardCrc' p.here = false := by
      rw [byCrc, ← hcrc]
      exact beq_eq_false_iff_ne.mpr hne
    rw [find?_put_other hother (by rw [byCrc, hx]; exact hother), hwhole]

theorem Sealed.put {dwCardCrc : DWORD} {vlst : List CardInfo} {p : Place CardInfo}
    {x : CardInfo} (hsealed : Sealed V vlst) (h : findCard V dwCardCrc vlst = some p)
    (hcrc : x.dwCardCrc = p.here.dwCardCrc) (hno : x.wstrCardNo = p.here.wstrCardNo) :
    Sealed V (p.put x) := by
  rw [findCard_eq] at h
  have hwhole := (firstPlace_eq_some h).1
  intro Card hmem
  rcases Place.mem_whole_of_mem_put hmem with hnew | hold
  · rw [hnew, hcrc, hno]
    exact hsealed p.here (hwhole ▸ Place.mem_whole)
  · exact hsealed Card (hwhole ▸ hold)

/-!
## What the handlers do to the cards
-/

/--
What the requests of a connection do to the cards, if it does not log in: cards
come in at the end, and a card may take the connection's token for its zero.
-/
inductive CardStep (V : VerTools) (ClientAccount : ClientAccountContent)
    (vlst : List CardInfo) : List CardInfo -> Prop where
  | same : CardStep V ClientAccount vlst vlst
  | more (new : List CardInfo) (hsealed : Sealed V new) :
      CardStep V ClientAccount vlst (vlst ++ new)
  | kept (p : Place CardInfo) (x : CardInfo)
      (hfind : findCard V ClientAccount.dwCardCrc vlst = some p)
      (hcrc : x.dwCardCrc = p.here.dwCardCrc) (hno : x.wstrCardNo = p.here.wstrCardNo)
      (htoken : p.here.dwToken ≠ 0 -> x.dwToken = p.here.dwToken) :
      CardStep V ClientAccount vlst (p.put x)

theorem sealed_cardOf (ulNow : ULONGLONG) (tmpCard_ : TmpCard) :
    Sealed V [cardOf V ulNow tmpCard_] := by
  intro Card hmem
  cases List.mem_singleton.mp hmem
  rfl

theorem sealed_getCardList (ulNow : ULONGLONG) (rows : List TmpCard) :
    Sealed V (getCardList V ulNow rows) := by
  intro Card hmem
  rcases List.mem_map.mp hmem with ⟨tmpCard_, -, rfl⟩
  rfl

theorem tryActiveCard_eq_some {n : Nat} {dwCardCrc : DWORD} {wstrIp : WString}
    {Card : CardInfo} (h : tryActiveCard V E n dwCardCrc wstrIp = some Card) :
    exists tmpCard_ : TmpCard, Card = cardOf V E.ulNow tmpCard_ := by
  rw [tryActiveCard] at h
  simp only [Option.bind_eq_bind, Option.bind_eq_some_iff] at h
  rcases h with ⟨wszText, -, -, -, tmpCard_, -, -, -, -, -, hcard⟩
  exact ⟨tmpCard_, (Option.some.inj hcard).symm⟩

theorem queryClientCard_step (VecCardCrc : List DWORD) (wsIp : WString)
    (ClientAccount : ClientAccountContent) (vlst : List CardInfo) :
    CardStep V ClientAccount vlst (queryClientCard V E VecCardCrc wsIp vlst).2 := by
  apply CardStep.more
  intro Card hmem
  rcases List.mem_flatMap.mp hmem with ⟨turn, hturn, hcard⟩
  rcases List.mem_mapIdx.mp hturn with ⟨n, hn, rfl⟩
  rw [queryTurn.eq_def] at hcard
  split at hcard
  · cases hcard
  · split at hcard
    · rename_i Card' hactive
      rcases tryActiveCard_eq_some hactive with ⟨tmpCard_, rfl⟩
      exact sealed_cardOf E.ulNow tmpCard_ Card hcard
    · cases hcard

theorem isALive_step (ClientAccount : ClientAccountContent) (vlst : List CardInfo) :
    CardStep V ClientAccount vlst (isALive V E ClientAccount vlst).2.2 := by
  rw [isALive]
  cases hfind : findCard V ClientAccount.dwCardCrc vlst with
  | none => exact .same
  | some p =>
      dsimp only
      split
      · exact .same
      · split
        · rename_i hzero
          exact .kept p _ hfind rfl rfl fun hne => absurd hzero hne
        · split
          · exact .same
          · exact .same

theorem keepALiveCard_step (KeepALiveContent_ : KeepALiveContent)
    (ClientAccount : ClientAccountContent) (vlst : List CardInfo) :
    CardStep V ClientAccount vlst
      (keepALiveCard V E KeepALiveContent_ ClientAccount vlst).2.2 := by
  rw [keepALiveCard]
  cases hfind : findCard V ClientAccount.dwCardCrc vlst with
  | none => exact .same
  | some p =>
      dsimp only
      split
      · rename_i hzero
        exact .kept p _ hfind rfl rfl fun hne => absurd hzero hne
      · split
        · exact .same
        · split
          · exact .same
          · exact .kept p _ hfind rfl rfl fun _ => rfl

theorem keepALive_step (bBanned : Bool) (KeepALiveContent_ : KeepALiveContent)
    (ClientAccount : ClientAccountContent) (vlst : List CardInfo) :
    CardStep V ClientAccount vlst
      (keepALive V E bBanned KeepALiveContent_ ClientAccount vlst).2.2 := by
  rw [keepALive]
  split
  · exact .same
  · exact keepALiveCard_step KeepALiveContent_ ClientAccount vlst

theorem keepALive_account (bBanned : Bool) (KeepALiveContent_ : KeepALiveContent)
    (ClientAccount : ClientAccountContent) (vlst : List CardInfo) :
    exists KeepALiveContent_' : KeepALiveContent,
      (keepALive V E bBanned KeepALiveContent_ ClientAccount vlst).2.1 =
        { ClientAccount with keepALiveContent := KeepALiveContent_' } := by
  rw [keepALive]
  split
  · exact ⟨ClientAccount.keepALiveContent, rfl⟩
  · dsimp only
    rw [keepALiveCard]
    split
    · exact ⟨ClientAccount.keepALiveContent, rfl⟩
    · split
      · exact ⟨KeepALiveContent_, rfl⟩
      · split
        · exact ⟨ClientAccount.keepALiveContent, rfl⟩
        · split
          · exact ⟨ClientAccount.keepALiveContent, rfl⟩
          · exact ⟨KeepALiveContent_, rfl⟩

/-!
## What a request does
-/

namespace CVerSocket

@[simp] theorem handle_vlst (i : Nat) (g : Guarded) (s : VerServer) :
    (handle V E i g s).1.vlst = s.vlst := by
  cases g <;> rfl

@[simp] theorem handle_account (i : Nat) (g : Guarded) (s : VerServer) (j : Nat) :
    (handle V E i g s).1.account j = s.account j := by
  cases g <;> rfl

/-- The same session: the token and the card of the connection. -/
def SameSession (a b : ClientAccountContent) : Prop :=
  b.dwToken = a.dwToken ∧ b.dwCardCrc = a.dwCardCrc

theorem sameSession_setAccount {s s' : VerServer} {i : Nat} {a : ClientAccountContent}
    (haccount : s'.account = s.account) (h : SameSession (s.account i) a) (j : Nat) :
    SameSession (s.account j) ((s'.setAccount i a).account j) := by
  by_cases hj : j = i
  · rw [hj, VerServer.account_setAccount_self]
    exact h
  · rw [VerServer.account_setAccount_of_ne s' a hj, haccount]
    exact ⟨rfl, rfl⟩

theorem guard_step (i : Nat) (g : Guarded) (s : VerServer) :
    CardStep V (s.account i) s.vlst (guard V E i g s).1.vlst ∧
      forall j, SameSession (s.account j) ((guard V E i g s).1.account j) := by
  rw [guard]
  split
  · rw [handle_vlst]
    refine ⟨isALive_step (s.account i) s.vlst, fun j => ?_⟩
    rw [handle_account]
    exact ⟨rfl, rfl⟩
  · exact ⟨.same, fun _ => ⟨rfl, rfl⟩⟩

def IsLogin : Request -> Prop
  | .loginGame _ _ _ _ => True
  | _ => False

theorem switch_step {i : Nat} {request : Request} (hrequest : ¬ IsLogin request)
    (s : VerServer) :
    CardStep V (s.account i) s.vlst (switch V E i request s).1.vlst ∧
      forall j, SameSession (s.account j) ((switch V E i request s).1.account j) := by
  cases request with
  | guarded g => exact guard_step i g s
  | queryCardInfo VecCardCrc =>
      exact ⟨queryClientCard_step VecCardCrc (s.account i).wsIp (s.account i) s.vlst,
        sameSession_setAccount rfl ⟨rfl, rfl⟩⟩
  | keepALive KeepALiveContent_ =>
      refine ⟨keepALive_step s.bBanned KeepALiveContent_ (s.account i) s.vlst,
        sameSession_setAccount rfl ?_⟩
      rcases keepALive_account (V := V) (E := E) s.bBanned KeepALiveContent_
        (s.account i) s.vlst with ⟨KeepALiveContent_', heq⟩
      rw [heq]
      exact ⟨rfl, rfl⟩
  | loginGame wsVersion wsAccountName wsAccountPass wsCardNo =>
      exact absurd trivial hrequest
  | clientLoginedLog wsPlayerName =>
      exact ⟨.same, sameSession_setAccount rfl ⟨rfl, rfl⟩⟩
  | getNextTaskScript => exact ⟨.same, fun _ => ⟨rfl, rfl⟩⟩
  | title => exact ⟨.same, fun _ => ⟨rfl, rfl⟩⟩
  | leaveTeamOrder CtiMember => exact ⟨.same, fun _ => ⟨rfl, rfl⟩⟩
  | dissolutionTeam CtiMember => exact ⟨.same, fun _ => ⟨rfl, rfl⟩⟩
  | dissolutionDungoenTeam CtiMember => exact ⟨.same, fun _ => ⟨rfl, rfl⟩⟩
  | clientDealMessage => exact ⟨.same, fun _ => ⟨rfl, rfl⟩⟩
  | clientBanned => exact ⟨.same, fun _ => ⟨rfl, rfl⟩⟩
  | consoleKeepALive => exact ⟨.same, fun _ => ⟨rfl, rfl⟩⟩
  | invalid dwCmd => exact ⟨.same, fun _ => ⟨rfl, rfl⟩⟩

def granted : List Put :=
  [.dword SOCK_MSG_LOGINGAME, .dword SOCK_MSG_LOGINGAME]

theorem setToken_cases (wsBnsVersion : WString) (a : ClientAccountContent)
    (vlst : List CardInfo) :
    (exists p : Place CardInfo,
      findCard V (V.getCRC32_DWORD (cStr a.wsCardNo)) vlst = some p ∧
        (setToken V E wsBnsVersion a vlst).1 = [.dword SOCK_MSG_LOGINGAME] ∧
        (setToken V E wsBnsVersion a vlst).2.1.dwToken = E.dwRand ∧
        (setToken V E wsBnsVersion a vlst).2.1.dwCardCrc =
          V.getCRC32_DWORD (cStr a.wsCardNo) ∧
        (setToken V E wsBnsVersion a vlst).2.2 = p.put (tokenCard E p.here)) ∨
    (setToken V E wsBnsVersion a vlst).1.length = 2 ∧
      (setToken V E wsBnsVersion a vlst).2.1.dwToken = a.dwToken ∧
      (setToken V E wsBnsVersion a vlst).2.2 = vlst := by
  rw [setToken]
  split
  · exact .inr ⟨rfl, rfl, rfl⟩
  · split
    · exact .inr ⟨rfl, rfl, rfl⟩
    · dsimp only
      cases hfind : findCard V (V.getCRC32_DWORD (cStr a.wsCardNo)) vlst with
      | none => exact .inr ⟨rfl, rfl, rfl⟩
      | some p =>
          dsimp only
          split
          · exact .inr ⟨rfl, rfl, rfl⟩
          · exact .inl ⟨p, rfl, rfl, rfl, rfl, rfl⟩

section

variable (i : Nat) (wsVersion wsAccountName wsAccountPass wsCardNo : WString)

theorem login_cases (s : VerServer) :
    (exists p : Place CardInfo,
      findCard V (V.getCRC32_DWORD (cStr wsCardNo)) s.vlst = some p ∧
        (work V E i (.loginGame wsVersion wsAccountName wsAccountPass wsCardNo) s).2 =
          granted ∧
        ((work V E i (.loginGame wsVersion wsAccountName wsAccountPass wsCardNo)
          s).1.account i).dwToken = E.dwRand ∧
        ((work V E i (.loginGame wsVersion wsAccountName wsAccountPass wsCardNo)
          s).1.account i).dwCardCrc = V.getCRC32_DWORD (cStr wsCardNo) ∧
        (work V E i (.loginGame wsVersion wsAccountName wsAccountPass wsCardNo)
          s).1.vlst = p.put (tokenCard E p.here)) ∨
    (work V E i (.loginGame wsVersion wsAccountName wsAccountPass wsCardNo) s).2 ≠
        granted ∧
      ((work V E i (.loginGame wsVersion wsAccountName wsAccountPass wsCardNo)
        s).1.account i).dwToken = (s.account i).dwToken ∧
      (work V E i (.loginGame wsVersion wsAccountName wsAccountPass wsCardNo)
        s).1.vlst = s.vlst := by
  have hcases := setToken_cases (V := V) (E := E) s.wsBnsVersion
    { s.account i with
      wsIp := s.wsClientIp i
      wsVersion, wsAccountName, wsAccountPass, wsCardNo } s.vlst
  simp only [work, switch, VerServer.account_setAccount_self, VerServer.setAccount_vlst]
  rcases hcases with ⟨p, hfind, hputs, htoken, hcrc, hvlst⟩ | ⟨hputs, htoken, hvlst⟩
  · refine .inl ⟨p, hfind, ?_, htoken, hcrc, hvlst⟩
    rw [hputs]
    rfl
  · refine .inr ⟨?_, htoken, hvlst⟩
    intro hgranted
    rw [List.length_eq_two] at hputs
    rcases hputs with ⟨put, put', heq⟩
    rw [heq] at hgranted
    cases hgranted

theorem login_others (s : VerServer) {j : Nat} (hj : j ≠ i) :
    (work V E i (.loginGame wsVersion wsAccountName wsAccountPass wsCardNo)
      s).1.account j = s.account j :=
  VerServer.account_setAccount_of_ne _ _ hj

end

end CVerSocket

/-!
## Cards from step to step
-/

theorem CardStep.isSealed {a : ClientAccountContent} {vlst vlst' : List CardInfo}
    (h : CardStep V a vlst vlst') (hsealed : Sealed V vlst) : Sealed V vlst' := by
  cases h with
  | same => exact hsealed
  | more new hnew =>
      intro Card hmem
      rcases List.mem_append.mp hmem with hold | hmem
      · exact hsealed Card hold
      · exact hnew Card hmem
  | kept p x hfind hcrc hno htoken => exact hsealed.put hfind hcrc hno

theorem CardStep.card {a : ClientAccountContent} {vlst vlst' : List CardInfo}
    (h : CardStep V a vlst vlst') {dwCardCrc : DWORD} {Card : CardInfo}
    (hfind : vlst.find? (byCrc dwCardCrc) = some Card) (hne : Card.dwToken ≠ 0) :
    exists Card' : CardInfo,
      vlst'.find? (byCrc dwCardCrc) = some Card' ∧
        Card'.wstrCardNo = Card.wstrCardNo ∧ Card'.dwToken = Card.dwToken := by
  cases h with
  | same => exact ⟨Card, hfind, rfl, rfl⟩
  | more new hnew =>
      refine ⟨Card, ?_, rfl, rfl⟩
      rw [List.find?_append, hfind, Option.some_or]
  | kept p x hplace hcrc hno htoken =>
      rw [find?_put hplace hcrc]
      split
      · rename_i heq
        have hhere := find?_of_findCard hplace
        rw [← heq, hfind] at hhere
        cases hhere
        exact ⟨x, rfl, hno, htoken hne⟩
      · exact ⟨Card, hfind, rfl, rfl⟩

def refushed (V : VerTools) (vlst : List CardInfo) (itm : CardInfo) : CardInfo :=
  match V.tools.dequeFindIf vlst fun Card => Card.wstrCardNo == itm.wstrCardNo with
  | some p => p.here
  | none => itm

theorem refushCard_eq (tmpList vlst : List CardInfo) :
    refushCard V tmpList vlst = tmpList.map (refushed V vlst) :=
  rfl

theorem refushed_cases (vlst : List CardInfo) (itm : CardInfo) :
    (vlst.find? fun Card => Card.wstrCardNo == itm.wstrCardNo) =
        some (refushed V vlst itm) ∨
      refushed V vlst itm = itm := by
  rw [refushed, MyTools.dequeFindIf_eq, ← map_here_firstPlace]
  cases firstPlace (fun Card => Card.wstrCardNo == itm.wstrCardNo) vlst with
  | none => exact .inr rfl
  | some p => exact .inl rfl

theorem refushed_crc {vlst : List CardInfo} {itm : CardInfo} (hsealed : Sealed V vlst)
    (hitm : itm.dwCardCrc = V.getCRC32_DWORD itm.wstrCardNo) :
    (refushed V vlst itm).wstrCardNo = itm.wstrCardNo ∧
      (refushed V vlst itm).dwCardCrc = itm.dwCardCrc := by
  rcases refushed_cases (V := V) vlst itm with hfind | hsame
  · have hno : (refushed V vlst itm).wstrCardNo = itm.wstrCardNo := by
      simpa using List.find?_some hfind
    rw [hsealed _ (List.mem_of_find?_eq_some hfind), hno, hitm]
    exact ⟨rfl, rfl⟩
  · rw [hsame]
    exact ⟨rfl, rfl⟩

theorem sealed_refushCard {tmpList vlst : List CardInfo} (htmp : Sealed V tmpList)
    (hsealed : Sealed V vlst) : Sealed V (refushCard V tmpList vlst) := by
  intro Card hmem
  rw [refushCard_eq] at hmem
  rcases List.mem_map.mp hmem with ⟨itm, hitm, rfl⟩
  have hcrc := refushed_crc hsealed (htmp itm hitm)
  rw [hcrc.1, hcrc.2, htmp itm hitm]

theorem find?_refushCard {tmpList vlst : List CardInfo} {dwCardCrc : DWORD}
    {itm Card : CardInfo} (htmp : Sealed V tmpList) (hsealed : Sealed V vlst)
    (hitm : tmpList.find? (byCrc dwCardCrc) = some itm)
    (hcard : vlst.find? (byCrc dwCardCrc) = some Card)
    (hno : itm.wstrCardNo = Card.wstrCardNo) :
    (refushCard V tmpList vlst).find? (byCrc dwCardCrc) = some Card := by
  have hkept : refushed V vlst itm = Card := by
    have hfind : (vlst.find? fun Card' => Card'.wstrCardNo == itm.wstrCardNo) =
        some Card := by
      apply find?_of_weaker hcard
      · simp [hno]
      · intro Card' hmem hsame
        have hcrc : Card'.dwCardCrc = Card.dwCardCrc := by
          rw [hsealed Card' hmem, hsealed Card (List.mem_of_find?_eq_some hcard), ← hno,
            eq_of_beq hsame]
        have htest : byCrc dwCardCrc Card = true := List.find?_some hcard
        rw [byCrc, hcrc]
        exact htest
    rw [refushed, MyTools.dequeFindIf_eq]
    rw [← map_here_firstPlace, Option.map_eq_some_iff] at hfind
    rcases hfind with ⟨p, hp, hhere⟩
    rw [hp]
    exact hhere
  rw [refushCard_eq, List.find?_map]
  have hsame : tmpList.find? (byCrc dwCardCrc ∘ refushed V vlst) =
      tmpList.find? (byCrc dwCardCrc) := by
    apply List.find?_congr
    intro itm' hmem
    rw [Function.comp, byCrc, byCrc, (refushed_crc hsealed (htmp itm' hmem)).2]
  rw [hsame, hitm, Option.map_some, hkept]

/-!
## Holding a card
-/

/-- The connection `k`, and no other, holds the token of the card with the number. -/
structure Holds (V : VerTools) (k : Nat) (wstrCardNo : WString) (dwToken : DWORD)
    (s : VerServer) : Prop where
  isSealed : Sealed V s.vlst
  token_ne : dwToken ≠ 0
  card : exists Card : CardInfo,
    s.vlst.find? (byCrc (V.getCRC32_DWORD wstrCardNo)) = some Card ∧
      Card.wstrCardNo = wstrCardNo ∧ Card.dwToken = dwToken
  token : (s.account k).dwToken = dwToken
  crc : (s.account k).dwCardCrc = V.getCRC32_DWORD wstrCardNo
  others : forall j, j ≠ k -> (s.account j).dwToken ≠ dwToken

/--
A step that does not end the session: no login of `k`, none on the card, none
that draws the token by chance, and no refresh without the card.
-/
def Quiet (V : VerTools) (k : Nat) (wstrCardNo : WString) (dwToken : DWORD) :
    ServerStep -> VerServer -> Prop
  | .request i E (.loginGame wsVersion wsAccountName wsAccountPass wsCardNo), s =>
      i ≠ k ∧
        ((CVerSocket.work V E i
            (.loginGame wsVersion wsAccountName wsAccountPass wsCardNo) s).2 =
          CVerSocket.granted ->
          V.getCRC32_DWORD (cStr wsCardNo) ≠ V.getCRC32_DWORD wstrCardNo ∧
            E.dwRand ≠ dwToken)
  | .refushCard ulNow rows, _ =>
      exists itm : CardInfo,
        (getCardList V ulNow rows).find? (byCrc (V.getCRC32_DWORD wstrCardNo)) =
            some itm ∧
          itm.wstrCardNo = wstrCardNo
  | _, _ => True

section

variable {k : Nat} {wstrCardNo : WString} {dwToken : DWORD} {s : VerServer}

theorem Holds.of_switch {i : Nat} {request : Request}
    (h : Holds V k wstrCardNo dwToken s) (hrequest : ¬ CVerSocket.IsLogin request) :
    Holds V k wstrCardNo dwToken (CVerSocket.work V E i request s).1 := by
  rcases CVerSocket.switch_step (V := V) (E := E) hrequest s with ⟨hcards, hsame⟩
  rcases h.card with ⟨Card, hfind, hno, htoken⟩
  rcases hcards.card hfind (htoken ▸ h.token_ne) with ⟨Card', hfind', hno', htoken'⟩
  exact {
    isSealed := hcards.isSealed h.isSealed
    token_ne := h.token_ne
    card := ⟨Card', hfind', hno'.trans hno, htoken'.trans htoken⟩
    token := (hsame k).1.trans h.token
    crc := (hsame k).2.trans h.crc
    others := fun j hj => (hsame j).1 ▸ h.others j hj }

theorem Holds.of_login {i : Nat}
    {wsVersion wsAccountName wsAccountPass wsCardNo : WString}
    (h : Holds V k wstrCardNo dwToken s)
    (hquiet : Quiet V k wstrCardNo dwToken (.request i E
      (.loginGame wsVersion wsAccountName wsAccountPass wsCardNo)) s) :
    Holds V k wstrCardNo dwToken (CVerSocket.work V E i
      (.loginGame wsVersion wsAccountName wsAccountPass wsCardNo) s).1 := by
  rcases hquiet with ⟨hik, hgrants⟩
  have hk := CVerSocket.login_others (V := V) (E := E) i wsVersion wsAccountName
    wsAccountPass wsCardNo s (Ne.symm hik)
  have hothers : ((CVerSocket.work V E i (.loginGame wsVersion wsAccountName
      wsAccountPass wsCardNo) s).1.account i).dwToken ≠ dwToken -> forall j, j ≠ k ->
      ((CVerSocket.work V E i (.loginGame wsVersion wsAccountName wsAccountPass
        wsCardNo) s).1.account j).dwToken ≠ dwToken := by
    intro hi j hj
    by_cases hji : j = i
    · rw [hji]
      exact hi
    · rw [CVerSocket.login_others i _ _ _ _ s hji]
      exact h.others j hj
  rcases CVerSocket.login_cases (V := V) (E := E) i wsVersion wsAccountName
    wsAccountPass wsCardNo s with
    ⟨p, hfind, hanswer, hdrawn, -, hvlst⟩ | ⟨-, hkept, hvlst⟩
  · rcases hgrants hanswer with ⟨hcrc, hrand⟩
    exact {
      isSealed := by
        rw [hvlst]
        exact h.isSealed.put hfind rfl rfl
      token_ne := h.token_ne
      card := by
        rw [hvlst, find?_put (x := tokenCard E p.here) hfind rfl, if_neg (Ne.symm hcrc)]
        exact h.card
      token := by rw [hk, h.token]
      crc := by rw [hk, h.crc]
      others := hothers (hdrawn ▸ hrand) }
  · exact {
      isSealed := hvlst ▸ h.isSealed
      token_ne := h.token_ne
      card := hvlst ▸ h.card
      token := by rw [hk, h.token]
      crc := by rw [hk, h.crc]
      others := hothers (hkept ▸ h.others i hik) }

theorem Holds.step (h : Holds V k wstrCardNo dwToken s) {l : ServerStep}
    (hquiet : Quiet V k wstrCardNo dwToken l s) :
    Holds V k wstrCardNo dwToken (VerServer.apply V l s) := by
  cases l with
  | request i E request =>
      cases request with
      | loginGame wsVersion wsAccountName wsAccountPass wsCardNo =>
          exact h.of_login hquiet
      | _ => exact h.of_switch fun hlogin => hlogin
  | breakConnect i =>
      rw [VerServer.apply, VerServer.breakConnect]
      split
      · exact { h with }
      · exact h
  | refushCard ulNow rows =>
      rcases hquiet with ⟨itm, hitm, hno⟩
      rcases h.card with ⟨Card, hfind, hcard, htoken⟩
      have htmp := sealed_getCardList (V := V) ulNow rows
      exact {
        isSealed := sealed_refushCard htmp h.isSealed
        token_ne := h.token_ne
        card := ⟨Card,
          find?_refushCard htmp h.isSealed hitm hfind (hno.trans hcard.symm),
          hcard, htoken⟩
        token := h.token
        crc := h.crc
        others := h.others }
  | updateScript vlst VecDailyTask fVersion =>
      rw [VerServer.apply, VerServer.updateScript]
      split
      · exact { h with }
      · exact { h with }
  | refreshDBToMemory VecOTPAccount => exact { h with }

theorem Holds.shut_out (h : Holds V k wstrCardNo dwToken s) {j : Nat} (hj : j ≠ k)
    (hcrc : (s.account j).dwCardCrc = V.getCRC32_DWORD wstrCardNo) (E : Outside) :
    (forall g, exists wsText : WString,
      CVerSocket.work V E j (.guarded g) s =
        (s, [.dword g.dwClientCmd, .dword SOCKET_MESSAGE_MESSAGEBOX, .text wsText])) ∧
    forall KeepALiveContent_, exists puts : List Put,
      CVerSocket.work V E j (.keepALive KeepALiveContent_) s =
        (s, .dword SOCK_MSG_KEEPALIVE :: .dword SOCKET_MESSAGE_MESSAGEBOX :: puts) := by
  rcases h.card with ⟨Card, hfind, -, htoken⟩
  rcases findCard_of_find? (V := V) hfind with ⟨p, hp, hhere⟩
  have hzero : p.here.dwToken ≠ 0 := by
    rw [hhere, htoken]
    exact h.token_ne
  have hother : p.here.dwToken ≠ (s.account j).dwToken := by
    rw [hhere, htoken]
    exact Ne.symm (h.others j hj)
  rw [← hcrc] at hp
  refine ⟨fun g => ?_, fun KeepALiveContent_ => ?_⟩
  · have halive : exists wsText : WString,
        isALive V E (s.account j) s.vlst = (false, messageBox wsText, s.vlst) := by
      simp only [isALive, hp, if_neg hzero, if_pos hother]
      split
      · exact ⟨_, rfl⟩
      · exact ⟨_, rfl⟩
    rcases halive with ⟨wsText, halive⟩
    refine ⟨wsText, ?_⟩
    simp only [CVerSocket.work, CVerSocket.switch, CVerSocket.guard, halive,
      Bool.false_eq_true, if_false]
    rfl
  · have hkeep : exists puts : List Put,
        keepALive V E s.bBanned KeepALiveContent_ (s.account j) s.vlst =
          (.dword SOCKET_MESSAGE_MESSAGEBOX :: puts, s.account j, s.vlst) := by
      simp only [keepALive, keepALiveCard, hp, if_neg hzero, if_pos hother]
      split
      · exact ⟨_, rfl⟩
      · exact ⟨_, rfl⟩
    rcases hkeep with ⟨puts, hkeep⟩
    refine ⟨puts, ?_⟩
    simp only [CVerSocket.work, CVerSocket.switch, hkeep, VerServer.setAccount_account]
    rfl

theorem Holds.let_through (h : Holds V k wstrCardNo dwToken s) {E : Outside}
    (hhours : forall Card,
      s.vlst.find? (byCrc (V.getCRC32_DWORD wstrCardNo)) = some Card ->
        0 < V.getSurplusHour E.ulNow Card)
    (g : Guarded) :
    CVerSocket.guard V E k g s = CVerSocket.handle V E k g s := by
  rcases h.card with ⟨Card, hfind, -, htoken⟩
  rcases findCard_of_find? (V := V) hfind with ⟨p, hp, hhere⟩
  rw [← h.crc] at hp
  have hleft : ¬ V.getSurplusHour E.ulNow p.here ≤ 0 := by
    rw [hhere, Int32.not_le]
    exact hhours Card hfind
  have hzero : p.here.dwToken ≠ 0 := by
    rw [hhere, htoken]
    exact h.token_ne
  have hsame : ¬ p.here.dwToken ≠ (s.account k).dwToken := by
    rw [hhere, htoken, h.token]
    exact fun hne => hne rfl
  have halive : isALive V E (s.account k) s.vlst = (true, [], s.vlst) := by
    simp only [isALive, hp, if_neg hleft, if_neg hzero, if_neg hsame]
  simp only [CVerSocket.guard, halive, if_true]

end

/-!
## Runs
-/

section

variable {wsBnsVersion : WString} {ulNow : ULONGLONG} {rows : List TmpCard}
  {configs : List ClientConfigContent} {s t : VerServer} {k : Nat}
  {wsVersion wsAccountName wsAccountPass wsCardNo : WString}

theorem sealed_reachable
    (h : (VerServer.machine V).Reaches
      (VerServer.start V wsBnsVersion ulNow rows configs) s) : Sealed V s.vlst := by
  apply h.invariant (fun s => Sealed V s.vlst) _ (sealed_getCardList ulNow rows)
  intro l s' _ _ hsealed
  cases l with
  | request i E request =>
      by_cases hlogin : CVerSocket.IsLogin request
      · cases request with
        | loginGame wsVersion wsAccountName wsAccountPass wsCardNo =>
            rcases CVerSocket.login_cases (V := V) (E := E) i wsVersion wsAccountName
              wsAccountPass wsCardNo s' with
              ⟨p, hfind, -, -, -, hvlst⟩ | ⟨-, -, hvlst⟩
            · have hput : Sealed V (p.put (tokenCard E p.here)) :=
                hsealed.put hfind rfl rfl
              exact hvlst ▸ hput
            · exact hvlst ▸ hsealed
        | _ => cases hlogin
      · exact (CVerSocket.switch_step hlogin s').1.isSealed hsealed
  | breakConnect i =>
      have hcards : (s'.breakConnect V i).vlst = s'.vlst := by
        rw [VerServer.breakConnect]
        split
        · rfl
        · rfl
      exact hcards.symm ▸ hsealed
  | refushCard ulNow rows =>
      exact sealed_refushCard (sealed_getCardList ulNow rows) hsealed
  | updateScript vlst VecDailyTask fVersion =>
      have hcards : (s'.updateScript vlst VecDailyTask fVersion).vlst = s'.vlst := by
        rw [VerServer.updateScript]
        split
        · rfl
        · rfl
      exact hcards.symm ▸ hsealed
  | refreshDBToMemory VecOTPAccount => exact hsealed

theorem holds_of_login {Card : CardInfo} (hsealed : Sealed V s.vlst)
    (hcard : s.vlst.find? (byCrc (V.getCRC32_DWORD (cStr wsCardNo))) = some Card)
    (hgranted : (CVerSocket.work V E k
      (.loginGame wsVersion wsAccountName wsAccountPass wsCardNo) s).2 =
        CVerSocket.granted)
    (hrand : E.dwRand ≠ 0)
    (hfresh : forall j, j ≠ k -> (s.account j).dwToken ≠ E.dwRand) :
    V.getCRC32_DWORD Card.wstrCardNo = V.getCRC32_DWORD (cStr wsCardNo) ∧
      Holds V k Card.wstrCardNo E.dwRand (CVerSocket.work V E k
        (.loginGame wsVersion wsAccountName wsAccountPass wsCardNo) s).1 := by
  have htest : byCrc (V.getCRC32_DWORD (cStr wsCardNo)) Card = true :=
    List.find?_some hcard
  have hmatch : V.getCRC32_DWORD (cStr wsCardNo) = Card.dwCardCrc := eq_of_beq htest
  have hcrc : V.getCRC32_DWORD Card.wstrCardNo = V.getCRC32_DWORD (cStr wsCardNo) := by
    rw [hmatch, hsealed Card (List.mem_of_find?_eq_some hcard)]
  rcases CVerSocket.login_cases (V := V) (E := E) k wsVersion wsAccountName
    wsAccountPass wsCardNo s with
    ⟨p, hfind, -, htoken, hsession, hvlst⟩ | ⟨hrefused, -, -⟩
  · have hhere := find?_of_findCard hfind
    rw [hcard] at hhere
    cases hhere
    refine ⟨hcrc, ?_⟩
    exact {
      isSealed := by
        rw [hvlst]
        exact hsealed.put hfind rfl rfl
      token_ne := hrand
      card := by
        refine ⟨tokenCard E p.here, ?_, rfl, rfl⟩
        rw [hvlst, find?_put (x := tokenCard E p.here) hfind rfl, if_pos hcrc]
      token := htoken
      crc := hsession.trans hcrc.symm
      others := by
        intro j hj
        rw [CVerSocket.login_others k _ _ _ _ s hj]
        exact hfresh j hj }
  · exact absurd hgranted hrefused

/--
In every state that the server reaches, a granted login with a token that no
other connection has shuts every other connection of the card out: all along,
until the next login on the card or by `k`, or a refresh that does not find the
card, their guarded requests and their heartbeats are answered with a message
and change nothing, and those of `k` are handled as long as the card has hours.
-/
theorem last_login_wins {Card : CardInfo}
    (hreaches : (VerServer.machine V).Reaches
      (VerServer.start V wsBnsVersion ulNow rows configs) s)
    (hcard : s.vlst.find? (byCrc (V.getCRC32_DWORD (cStr wsCardNo))) = some Card)
    (hgranted : (CVerSocket.work V E k
      (.loginGame wsVersion wsAccountName wsAccountPass wsCardNo) s).2 =
        CVerSocket.granted)
    (hrand : E.dwRand ≠ 0)
    (hfresh : forall j, j ≠ k -> (s.account j).dwToken ≠ E.dwRand)
    (hrun : (VerServer.machine V).Run (Quiet V k Card.wstrCardNo E.dwRand)
      (CVerSocket.work V E k
        (.loginGame wsVersion wsAccountName wsAccountPass wsCardNo) s).1 t) :
    (forall E' : Outside,
      (forall Card',
        t.vlst.find? (byCrc (V.getCRC32_DWORD (cStr wsCardNo))) = some Card' ->
          0 < V.getSurplusHour E'.ulNow Card') ->
      forall g, CVerSocket.guard V E' k g t = CVerSocket.handle V E' k g t) ∧
    forall j, j ≠ k ->
      (t.account j).dwCardCrc = V.getCRC32_DWORD (cStr wsCardNo) ->
      forall E' : Outside,
        (forall g, exists wsText : WString,
          CVerSocket.work V E' j (.guarded g) t =
            (t, [.dword g.dwClientCmd, .dword SOCKET_MESSAGE_MESSAGEBOX,
              .text wsText])) ∧
        forall KeepALiveContent_, exists puts : List Put,
          CVerSocket.work V E' j (.keepALive KeepALiveContent_) t =
            (t, .dword SOCK_MSG_KEEPALIVE :: .dword SOCKET_MESSAGE_MESSAGEBOX ::
              puts) := by
  rcases holds_of_login (sealed_reachable hreaches) hcard hgranted hrand hfresh with
    ⟨hcrc, hholds⟩
  have hend : Holds V k Card.wstrCardNo E.dwRand t :=
    hrun.invariant _ (fun _ _ _ hquiet h => h.step hquiet) hholds
  rw [← hcrc]
  exact ⟨fun E' hhours => hend.let_through hhours,
    fun j hj hsession => hend.shut_out hj hsession⟩

end

/-!
## A card and two connections
-/

theorem decide_infix_iff (ws1 ws2 : WString) :
    decide (ws2 <:+: ws1) = true ↔ ws2 <:+: ws1 :=
  decide_eq_true_iff

theorem decide_same (ws1 ws2 : WString) : decide (ws1 = ws2) = decide (ws1 = ws2) :=
  rfl

/-- Texts with `strstr` and `strcmp` as they are, the hours as they were read. -/
def VerTools.standard : VerTools where
  tools := MyTools.standard
  getCRC32_DWORD := Server.Platform.standard.getCRC32_DWORD
  getSurplusHour _ Card := Card.nSurplusHour
  wstrstrMy ws1 ws2 := decide (ws2 <:+: ws1)
  wstrstrMy_iff := decide_infix_iff
  wstrcmpMy ws1 ws2 := decide (ws1 = ws2)
  wstrcmpMy_eq := decide_same

def quietOutside (dwRand : DWORD) : Outside where
  ulNow := 0
  dwRand := dwRand
  excuteSQL _ _ := none
  getCard _ _ := none
  calcOPTValue _ _ := []

def sevenHours : TmpCard where
  wszCardNo := L "0024A"
  wszSurplusHour := L "7"
  wszActiveDate := []

def oneCard : VerServer :=
  VerServer.start VerTools.standard (L "1.0") 0 [sevenHours] []

def oneLogin : Request :=
  .loginGame (L "1.0") (L "a") (L "b") (L "0024A")

/-- The connection `1` logs in and draws the token five. -/
def oneHolder : VerServer :=
  VerServer.apply VerTools.standard (.request 1 (quietOutside 5) oneLogin) oneCard

theorem oneHolder_last_login_wins :
    exists wsText : WString,
      CVerSocket.work VerTools.standard (quietOutside 0) 1 (.guarded (.otp (L "a")))
        (CVerSocket.work VerTools.standard (quietOutside 9) 2 oneLogin oneHolder).1 =
      ((CVerSocket.work VerTools.standard (quietOutside 9) 2 oneLogin oneHolder).1,
        [.dword SOCK_MSG_OTP, .dword SOCKET_MESSAGE_MESSAGEBOX, .text wsText]) := by
  have hstep : (VerServer.machine VerTools.standard).Next (fun _ _ => True) oneCard
      oneHolder :=
    ⟨.request 1 (quietOutside 5) oneLogin, trivial, trivial, rfl⟩
  have hreaches : (VerServer.machine VerTools.standard).Reaches oneCard oneHolder :=
    Relation.ReflTransGen.single hstep
  have hcard : oneHolder.vlst.find?
      (byCrc (VerTools.standard.getCRC32_DWORD (cStr (L "0024A")))) =
        some (tokenCard (quietOutside 5) (cardOf VerTools.standard 0 sevenHours)) := by
    decide +kernel
  have hgranted : (CVerSocket.work VerTools.standard (quietOutside 9) 2 oneLogin
      oneHolder).2 = CVerSocket.granted := by
    decide +kernel
  have hfresh : forall j, j ≠ 2 ->
      (oneHolder.account j).dwToken ≠ (quietOutside 9).dwRand := by
    intro j _
    by_cases hj : j = 1
    · rw [hj]
      decide +kernel
    · have hsame : oneHolder.account j = oneCard.account j :=
        CVerSocket.login_others 1 _ _ _ _ oneCard hj
      have hnone : oneCard.account j = {} := rfl
      rw [hsame, hnone]
      decide
  have hshut := (last_login_wins hreaches hcard hgranted (by decide) hfresh
    (Machine.Run.refl _)).2 1 (by decide) (by decide +kernel) (quietOutside 0)
  exact hshut.1 (.otp (L "a"))

end OldServer
end BnsKorea
