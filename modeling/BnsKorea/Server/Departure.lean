import BnsKorea.Server.Projections
import BnsKorea.Server.Takeover

/-!
# What a connection leaves behind

A released connection is to be forgotten by the teams, the waiting lists, the
groups of players, the queues and the warehouses, and who shared no team with
its account is to keep everything.  It is not taken out of the group of players
it was chosen for.
-/

namespace BnsKorea
namespace Server

open Library

namespace CGameServer

variable {P : Platform}

/-!
## Being forgotten
-/

def SharesTeam (a b : WString) (s : Services) : Prop :=
  exists w wsMapText team, team ∈ s.taskTeam.teamsAt w wsMapText ∧
    a ∈ team.accounts ∧ b ∈ team.accounts

def InSomeGroup (a : WString) (s : Services) : Prop :=
  exists dwTeamId, s.crossAreaTeam.InGroup dwTeamId a

/-- Nothing mentions the account, and no warehouse is the player's. -/
structure Forgotten (a wsPlayerName : WString) (s : Services) : Prop where
  teams : forall w wsMapText team, team ∈ s.taskTeam.teamsAt w wsMapText ->
    a ∉ team.accounts
  names : a ∉ s.crossAreaTeam.setTeamMemberName
  waiting : forall title, ¬ s.crossAreaTeam.WaitsUnder title a
  groups : ¬ InSomeGroup a s
  queues : forall q itm, itm ∈ s.trade.queue q ->
    itm.verItemSupport.wsAccountName ≠ a
  warehouses : s.trade.mapWareHouse[wsPlayerName]? = none

/-- The account has the same records, and so has every other player's warehouse. -/
structure SameRecords (b wsPlayerName : WString) (s s' : Services) : Prop where
  teams : forall w wsMapText,
    (s'.taskTeam.teamsAt w wsMapText).filter (fun team => b ∈ team.accounts) =
      (s.taskTeam.teamsAt w wsMapText).filter fun team => b ∈ team.accounts
  names : b ∈ s'.crossAreaTeam.setTeamMemberName ↔
    b ∈ s.crossAreaTeam.setTeamMemberName
  waiting : forall title,
    s'.crossAreaTeam.record title b = s.crossAreaTeam.record title b
  groups : forall (dwTeamId : DWORD) (g : CrossAreaTeamGroup), b ∈ g.accounts ->
    (s'.crossAreaTeam.mapCrossAreaTeamGroup[dwTeamId]? = some g ↔
      s.crossAreaTeam.mapCrossAreaTeamGroup[dwTeamId]? = some g)
  queues : forall q,
    (s'.trade.queue q).filter (fun itm => itm.verItemSupport.wsAccountName = b) =
      (s.trade.queue q).filter fun itm => itm.verItemSupport.wsAccountName = b
  warehouses : forall wsName, wsName ≠ wsPlayerName ->
    s'.trade.mapWareHouse[wsName]? = s.trade.mapWareHouse[wsName]?

theorem SameRecords.refl (b wsPlayerName : WString) (s : Services) :
    SameRecords b wsPlayerName s s :=
  ⟨fun _ _ => rfl, Iff.rfl, fun _ => rfl, fun _ _ _ => Iff.rfl, fun _ => rfl,
    fun _ _ => rfl⟩

/-- The account is gone, and who shared no team with it has lost nothing. -/
structure Leaves (a wsPlayerName : WString) (s s' : Services) : Prop where
  forgotten : Forgotten a wsPlayerName s'
  others : forall b, b ≠ a -> ¬ SharesTeam a b s ->
    SameRecords b wsPlayerName s s'

/-!
## Removing
-/

/-- The account is one that `remove` works on. -/
def IsNamed (a : WString) : Prop :=
  a ≠ [] ∧ a ≠ L "Empty"

/--
Under the key of a team of the account, the id of that team is that of teams of
accounts it shares a team with only.
-/
def IdsTell (a : WString) (s : Services) : Prop :=
  forall wsMapText own team,
    own ∈ s.taskTeam.teamsAt .taskTeamMap wsMapText -> a ∈ own.accounts ->
      team ∈ s.taskTeam.teamsAt .taskTeamMap wsMapText ->
        team.dwTeamId = own.dwTeamId ->
          forall b, b ∈ team.accounts -> b = a ∨ SharesTeam a b s

section

variable {Account : ClientAccountContent} {s : Services}

theorem remove_of_named (h : IsNamed Account.wsAccountName) :
    remove P Account s = { s with
      taskTeam := CBnsTaskTeam.deleteTaskMember P.tools Account.wsAccountName
        s.taskTeam
      crossAreaTeam := CCrossAreaTeam.deleteTeamMember Account.wsAccountName
        s.crossAreaTeam
      trade := CBnsTrade.removeAccount P.tools Account.wsAccountName
        Account.wsPlayerName s.trade
      cards := (remove P Account s).cards } := by
  have heq : remove P Account s = _ := if_pos h
  rw [heq]

theorem remove_of_unnamed (h : ¬ IsNamed Account.wsAccountName) :
    remove P Account s = s :=
  if_neg h

/-- What the services of the calls are like when the server is reachable. -/
structure Tidy (P : Platform) (s : Services) : Prop where
  tables : CBnsTaskTeam.TablesOk P.tools s.taskTeam
  noDungoenTeams : CBnsTaskTeam.NoDungoenTeams s.taskTeam
  oneTitle : forall title title' a, s.crossAreaTeam.WaitsUnder title a ->
    s.crossAreaTeam.WaitsUnder title' a -> title = title'

theorem Reachable.tidy {c : Clocked CGameServer} (h : Reachable P c) :
    Tidy P c.state.services := by
  rcases h.services with ⟨Classes, hservices⟩
  rcases hservices.crossAreaTeam with ⟨ulTick, _, hcross⟩
  exact ⟨hservices.taskTeam.tablesOk, hservices.noDungoenTeams,
    hcross.consistent.records.oneTitle⟩

theorem Tidy.dismissed (hT : P.tools.ErasesAll) (hs : Tidy P s)
    (wsMapText : WString) :
    (CBnsTaskTeam.deleteTaskMember P.tools Account.wsAccountName
        s.taskTeam).teamsAt .taskTeamMap wsMapText =
      (s.taskTeam.teamsAt .taskTeamMap wsMapText).filter
        (CBnsTaskTeam.otherId Account.wsAccountName
          (s.taskTeam.teamsAt .taskTeamMap wsMapText)) := by
  rw [CBnsTaskTeam.deleteTaskMember, CBnsTaskTeam.teamsAt_deleteTeamMember,
    if_pos rfl]
  exact CBnsTaskTeam.dismissTeamOf_eq hT (hs.tables _ wsMapText).accounts _

theorem Tidy.noDungoenTeams_left (hs : Tidy P s) (wsMapText : WString) :
    (CBnsTaskTeam.deleteTaskMember P.tools Account.wsAccountName
        s.taskTeam).teamsAt .dungoenTeamMap wsMapText = [] := by
  have hleft := CBnsTaskTeam.deleteTaskMember_sublist (T := P.tools)
    Account.wsAccountName s.taskTeam .dungoenTeamMap wsMapText
  rwa [hs.noDungoenTeams wsMapText, List.sublist_nil] at hleft

theorem Tidy.left (hs : Tidy P s) :
    CCrossAreaTeam.LeaveEffect Account.wsAccountName s.crossAreaTeam
      (CCrossAreaTeam.deleteTeamMember Account.wsAccountName s.crossAreaTeam) :=
  CCrossAreaTeam.deleteTeamMember_effect fun title title' =>
    hs.oneTitle title title' _

theorem forgotten_remove (hT : P.tools.ErasesAll) (hs : Tidy P s)
    (hnamed : IsNamed Account.wsAccountName)
    (hgroup : ¬ InSomeGroup Account.wsAccountName s) :
    Forgotten Account.wsAccountName Account.wsPlayerName (remove P Account s) := by
  rw [remove_of_named hnamed]
  constructor
  case teams =>
    intro w wsMapText team hteam haccount
    cases w with
    | taskTeamMap =>
        rw [hs.dismissed hT] at hteam
        rcases List.mem_filter.mp hteam with ⟨hteam, hother⟩
        exact CBnsTaskTeam.otherId_iff.mp hother team hteam haccount rfl
    | dungoenTeamMap =>
        rw [hs.noDungoenTeams_left] at hteam
        cases hteam
  case names => exact fun hname => ((hs.left.names _).mp hname).left rfl
  case waiting =>
    intro title hwaits
    rcases hwaits with ⟨r, hr⟩
    rw [hs.left.self title] at hr
    cases hr
  case groups =>
    intro hin
    rcases hin with ⟨dwTeamId, g, hg, haccount⟩
    rw [hs.left.groups] at hg
    exact hgroup ⟨dwTeamId, g, hg, haccount⟩
  case queues =>
    intro q itm hitm haccount
    rw [CBnsTrade.removeAccount_queue_eq hT] at hitm
    rcases List.mem_filter.mp hitm with ⟨_, hother⟩
    rw [haccount] at hother
    simp at hother
  case warehouses =>
    exact (OrderedMaps.getElem?_erase _ _ _).trans (if_pos rfl)

theorem filter_account_of_ne {a b : WString} (hne : b ≠ a)
    (vlst : List ItemSupportInfo) :
    (vlst.filter fun itm => !(itm.verItemSupport.wsAccountName == a)).filter
        (fun itm => itm.verItemSupport.wsAccountName = b) =
      vlst.filter fun itm => itm.verItemSupport.wsAccountName = b := by
  rw [List.filter_filter]
  apply List.filter_congr
  intro itm _
  by_cases hb : itm.verItemSupport.wsAccountName = b
  · simp [hb, hne]
  · simp [hb]

theorem sameRecords_remove (hT : P.tools.ErasesAll) (hs : Tidy P s)
    (hnamed : IsNamed Account.wsAccountName)
    (hids : IdsTell Account.wsAccountName s) {b : WString}
    (hne : b ≠ Account.wsAccountName)
    (hshares : ¬ SharesTeam Account.wsAccountName b s) :
    SameRecords b Account.wsPlayerName s (remove P Account s) := by
  rw [remove_of_named hnamed]
  constructor
  case teams =>
    intro w wsMapText
    cases w with
    | taskTeamMap =>
        rw [hs.dismissed hT, List.filter_filter]
        apply List.filter_congr
        intro team hteam
        by_cases hb : b ∈ team.accounts
        · have hother : CBnsTaskTeam.otherId Account.wsAccountName
              (s.taskTeam.teamsAt .taskTeamMap wsMapText) team = true := by
            apply CBnsTaskTeam.otherId_iff.mpr
            intro own hown haccount hid
            rcases hids wsMapText own team hown haccount hteam hid b hb with
              hsame | hshare
            · exact hne hsame
            · exact hshares hshare
          rw [hother, Bool.and_true]
        · simp [hb]
    | dungoenTeamMap =>
        rw [hs.noDungoenTeams_left, hs.noDungoenTeams]
  case names =>
    rw [hs.left.names]
    exact and_iff_right hne.symm
  case waiting => exact fun title => hs.left.others title b hne
  case groups =>
    intro dwTeamId g _
    rw [hs.left.groups]
  case queues =>
    intro q
    rw [CBnsTrade.removeAccount_queue_eq hT, filter_account_of_ne hne]
  case warehouses =>
    intro wsName hother
    exact (OrderedMaps.getElem?_erase _ _ _).trans (if_neg hother.symm)

theorem Leaves.notInGroup (hs : Tidy P s) (hnamed : IsNamed Account.wsAccountName)
    (h : Leaves Account.wsAccountName Account.wsPlayerName s
      (remove P Account s)) :
    ¬ InSomeGroup Account.wsAccountName s := by
  rw [remove_of_named hnamed] at h
  intro hin
  rcases hin with ⟨dwTeamId, g, hg, haccount⟩
  refine h.forgotten.groups ⟨dwTeamId, g, ?_, haccount⟩
  rwa [hs.left.groups]

theorem Leaves.idsTell (hT : P.tools.ErasesAll) (hs : Tidy P s)
    (hnamed : IsNamed Account.wsAccountName)
    (h : Leaves Account.wsAccountName Account.wsPlayerName s
      (remove P Account s)) :
    IdsTell Account.wsAccountName s := by
  rw [remove_of_named hnamed] at h
  intro wsMapText own team hown haccount hteam hid b hb
  by_contra hstranger
  rcases not_or.mp hstranger with ⟨hne, hshares⟩
  -- the team of `b` is dismissed with the account's, although `b` is a stranger
  have hkept : team ∈ (s.taskTeam.teamsAt .taskTeamMap wsMapText).filter
      fun team => b ∈ team.accounts :=
    List.mem_filter.mpr ⟨hteam, decide_eq_true hb⟩
  rw [← (h.others b hne hshares).teams .taskTeamMap wsMapText,
    hs.dismissed hT] at hkept
  have hother := (List.mem_filter.mp (List.mem_filter.mp hkept).left).right
  exact CBnsTaskTeam.otherId_iff.mp hother own hown haccount hid

theorem leaves_remove_iff (hT : P.tools.ErasesAll) (hs : Tidy P s) :
    Leaves Account.wsAccountName Account.wsPlayerName s (remove P Account s) ↔
      (IsNamed Account.wsAccountName ∧ ¬ InSomeGroup Account.wsAccountName s ∧
          IdsTell Account.wsAccountName s) ∨
        (¬ IsNamed Account.wsAccountName ∧
          Forgotten Account.wsAccountName Account.wsPlayerName s) := by
  by_cases hnamed : IsNamed Account.wsAccountName
  · rw [or_iff_left fun h => h.left hnamed, and_iff_right hnamed]
    constructor
    · intro h
      exact ⟨h.notInGroup hs hnamed, h.idsTell hT hs hnamed⟩
    · intro h
      exact ⟨forgotten_remove hT hs hnamed h.left, fun b hne hshares =>
        sameRecords_remove hT hs hnamed h.right hne hshares⟩
  · rw [or_iff_right fun h => hnamed h.left, and_iff_right hnamed,
      remove_of_unnamed hnamed]
    constructor
    · exact Leaves.forgotten
    · intro h
      exact ⟨h, fun b _ _ => SameRecords.refl b _ s⟩

end

/--
A released connection is forgotten, and only by who shared a team with it,
exactly if its account is named, in no group of players, and told by its teams'
ids; or not named, and mentioned nowhere before.
-/
theorem Reachable.release_leaves_iff (hT : P.tools.ErasesAll)
    {c : Clocked CGameServer} (h : Reachable P c) {ClientSock : SOCKET}
    {GameClient : CGameClient}
    (hclient : c.state.clients[ClientSock]? = some GameClient) :
    let Account := GameClient.account
    Leaves Account.wsAccountName Account.wsPlayerName c.state.services
        (releaseSocketClient P ClientSock c.state).services ↔
      (IsNamed Account.wsAccountName ∧
          ¬ InSomeGroup Account.wsAccountName c.state.services ∧
          IdsTell Account.wsAccountName c.state.services) ∨
        (¬ IsNamed Account.wsAccountName ∧
          Forgotten Account.wsAccountName Account.wsPlayerName
            c.state.services) := by
  intro Account
  rw [releaseSocketClient, hclient]
  exact leaves_remove_iff hT h.tidy

/-!
## A group of two

Anna and Boris queue for a dungeon for two and are chosen; then Anna leaves.
-/

def queueUp (ClientSock : SOCKET) (emClasses : TeamMeberClasses) : Event :=
  .recive ClientSock SockMsg.setCrossAreaTeamContent
    [.dword 11, .dword 7, .text (L "red"), .byte emClasses, .dword 1,
      .text (L "简单的雪人洞")] {}

def pollGroup (ClientSock : SOCKET) : Event :=
  .recive ClientSock SockMsg.crossAreaTeam [.dword 0] {}

def groupEvents : List (ULONGLONG × Event) :=
  [(10, .accept 1 0), (20, .accept 2 0), (30, loginOf 1 (L "anna") 101),
    (40, loginOf 2 (L "boris") 202), (50, queueUp 1 TeamMeberClasses.gunner),
    (60, queueUp 2 TeamMeberClasses.assassin), (70, pollGroup 1),
    (80, pollGroup 2)]

def grouped : Clocked CGameServer :=
  (machine Platform.standard).play groupEvents
    (initial oneCard {} CCrossAreaTeam.duoTable)

theorem grouped_reachable : Reachable Platform.standard grouped :=
  ⟨oneCard, {}, CCrossAreaTeam.duoTable,
    Machine.Admits.reaches (by decide +kernel)⟩

def annaLeaves : Services :=
  (releaseSocketClient Platform.standard 1 grouped.state).services

def annaClient : CGameClient :=
  (grouped.state.clients[(1 : SOCKET)]?).get (by decide +kernel)

theorem annaClient_connected :
    grouped.state.clients[(1 : SOCKET)]? = some annaClient :=
  (Option.some_get _).symm

theorem annaLeaves_inSomeGroup : InSomeGroup (L "anna") annaLeaves := by
  have hany : (annaLeaves.crossAreaTeam.mapCrossAreaTeamGroup[(1 : DWORD)]?.any
      fun g => decide (L "anna" ∈ g.accounts)) = true := by
    decide +kernel
  rcases (Option.any_eq_true _ _).mp hany with ⟨g, hg, haccount⟩
  exact ⟨1, g, hg, of_decide_eq_true haccount⟩

theorem annaLeaves_not_leaves :
    Reachable Platform.standard grouped ∧
      grouped.state.clients[(1 : SOCKET)]? = some annaClient ∧
      annaClient.account.wsAccountName = L "anna" ∧
      ¬ Leaves (L "anna") annaClient.account.wsPlayerName grouped.state.services
        (releaseSocketClient Platform.standard 1 grouped.state).services :=
  ⟨grouped_reachable, annaClient_connected, by decide +kernel,
    fun h => h.forgotten.groups annaLeaves_inSomeGroup⟩

theorem annaLeaves_leaves_iff :
    let Account := annaClient.account
    Leaves Account.wsAccountName Account.wsPlayerName grouped.state.services
        (releaseSocketClient Platform.standard 1 grouped.state).services ↔
      (IsNamed Account.wsAccountName ∧
          ¬ InSomeGroup Account.wsAccountName grouped.state.services ∧
          IdsTell Account.wsAccountName grouped.state.services) ∨
        (¬ IsNamed Account.wsAccountName ∧
          Forgotten Account.wsAccountName Account.wsPlayerName
            grouped.state.services) :=
  grouped_reachable.release_leaves_iff MyTools.standard_erasesAll
    annaClient_connected

end CGameServer
end Server
end BnsKorea
