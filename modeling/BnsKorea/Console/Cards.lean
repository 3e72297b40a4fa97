import BnsKorea.Library.Pool
import BnsKorea.Console.AccountMgr

/-!
# The cards of the accounts

Who has a card is kept twice, as a mark on the card and as a number in the slot
of the account, and the number outlives the account.  The runs are watched by an
observer who notes which card a slot was assigned since its account was added.
-/

namespace BnsKorea
namespace Console

open Library

/-- A card table at the start: no number twice and no card marked. -/
structure CardTable where
  cards : List CardInfo
  distinct : (cards.map CardInfo.wsCardNo).Nodup
  free : forall Card, Card ∈ cards -> Card.bExit = false

/-!
## Marks
-/

def markedNumbers (VecCard : List CardInfo) : Set WString :=
  { wsCardNo | exists Card, Card ∈ VecCard ∧ Card.wsCardNo = wsCardNo ∧
    Card.bExit = true }

section

variable {p : Place CardInfo}

private theorem other_numbers (hd : (p.whole.map CardInfo.wsCardNo).Nodup)
    {Card : CardInfo} (h : Card ∈ p.pre ∨ Card ∈ p.post) :
    Card.wsCardNo ≠ p.here.wsCardNo := by
  rw [Place.whole, Place.map_put, List.nodup_middle, List.nodup_cons,
    ← List.map_append] at hd
  intro heq
  apply hd.left
  rw [← heq]
  exact List.mem_map_of_mem (List.mem_append.mpr h)

theorem marked_release (hd : (p.whole.map CardInfo.wsCardNo).Nodup) :
    markedNumbers (p.put (releaseCard p.here)) =
      markedNumbers p.whole \ {p.here.wsCardNo} := by
  ext k
  constructor
  · intro h
    rcases h with ⟨Card, hCard, hk, hexit⟩
    rcases Place.mem_put.mp hCard with hpre | hhere | hpost
    · exact ⟨⟨Card, Place.mem_put.mpr (Or.inl hpre), hk, hexit⟩,
        hk ▸ other_numbers hd (Or.inl hpre)⟩
    · rw [hhere] at hexit
      cases hexit
    · exact ⟨⟨Card, Place.mem_put.mpr (Or.inr (Or.inr hpost)), hk, hexit⟩,
        hk ▸ other_numbers hd (Or.inr hpost)⟩
  · intro h
    rcases h with ⟨⟨Card, hCard, hk, hexit⟩, hother⟩
    refine ⟨Card, Place.mem_put.mpr ?_, hk, hexit⟩
    rcases Place.mem_put.mp hCard with hpre | hhere | hpost
    · exact Or.inl hpre
    · rw [hhere] at hk
      exact absurd hk.symm hother
    · exact Or.inr (Or.inr hpost)

theorem marked_mark :
    markedNumbers (p.put { p.here with bExit := true }) =
      insert p.here.wsCardNo (markedNumbers p.whole) := by
  ext k
  constructor
  · intro h
    rcases h with ⟨Card, hCard, hk, hexit⟩
    rcases Place.mem_put.mp hCard with hpre | hhere | hpost
    · exact Or.inr ⟨Card, Place.mem_put.mpr (Or.inl hpre), hk, hexit⟩
    · rw [hhere] at hk
      exact Or.inl hk.symm
    · exact Or.inr ⟨Card, Place.mem_put.mpr (Or.inr (Or.inr hpost)), hk, hexit⟩
  · intro h
    rcases h with hk | ⟨Card, hCard, hk, hexit⟩
    · exact ⟨_, Place.mem_put.mpr (Or.inr (Or.inl rfl)), hk.symm, rfl⟩
    · rcases Place.mem_put.mp hCard with hpre | hhere | hpost
      · exact ⟨Card, Place.mem_put.mpr (Or.inl hpre), hk, hexit⟩
      · rw [hhere] at hk
        exact ⟨_, Place.mem_put.mpr (Or.inr (Or.inl rfl)), hk, rfl⟩
      · exact ⟨Card, Place.mem_put.mpr (Or.inr (Or.inr hpost)), hk, hexit⟩

end

section

variable (T : ConsoleTools) {VecCard : List CardInfo}

theorem existCard_eq_none {wsCardNo : WString} {fnPtr : CardInfo -> CardInfo} :
    existCard T wsCardNo fnPtr VecCard = none ↔
      wsCardNo ∉ VecCard.map CardInfo.wsCardNo := by
  simp [existCard, firstPlace_eq_none]

theorem existCard_release (hd : (VecCard.map CardInfo.wsCardNo).Nodup)
    (wsCardNo : WString) :
    let cards := (existCard T wsCardNo releaseCard VecCard).getD VecCard
    cards.map CardInfo.wsCardNo = VecCard.map CardInfo.wsCardNo ∧
      markedNumbers cards = markedNumbers VecCard \ {wsCardNo} := by
  cases hplace : firstPlace
      (fun CardInfo_ => decide (CardInfo_.wsCardNo = wsCardNo)) VecCard with
  | none =>
      have hnone : wsCardNo ∉ markedNumbers VecCard := by
        intro h
        rcases h with ⟨Card, hCard, hk, _⟩
        simpa [hk] using firstPlace_eq_none.mp hplace Card hCard
      simp [existCard, hplace, Set.sdiff_singleton_eq_self hnone]
  | some p =>
      rcases firstPlace_eq_some hplace with ⟨hwhole, hhere, _⟩
      have hno : p.here.wsCardNo = wsCardNo := by simpa using hhere
      rw [← hwhole] at hd
      simp only [existCard, ConsoleTools.vecFindIf_eq, hplace, Option.map_some,
        Option.getD_some]
      constructor
      · rw [Place.map_put_of_eq (by rfl), hwhole]
      · rw [marked_release hd, hno, hwhole]

theorem getNotUseCard_take (hd : (VecCard.map CardInfo.wsCardNo).Nodup)
    {CardInfo_ : CardInfo} {cards : List CardInfo}
    (h : getNotUseCard T VecCard = some (CardInfo_, cards)) :
    CardInfo_.wsCardNo ∉ markedNumbers VecCard ∧
      CardInfo_.wsCardNo ∈ VecCard.map CardInfo.wsCardNo ∧
      cards.map CardInfo.wsCardNo = VecCard.map CardInfo.wsCardNo ∧
      markedNumbers cards = insert CardInfo_.wsCardNo (markedNumbers VecCard) := by
  cases hplace : firstPlace (fun tmpCardInfo : CardInfo => !tmpCardInfo.bExit)
      VecCard with
  | none => simp [getNotUseCard, hplace] at h
  | some p =>
      rcases firstPlace_eq_some hplace with ⟨hwhole, hhere, _⟩
      simp only [getNotUseCard, ConsoleTools.vecFindIf_eq, hplace,
        Option.map_some, Option.some.injEq, Prod.mk.injEq] at h
      rcases h with ⟨hCard, hcards⟩
      rw [← hwhole] at hd ⊢
      rw [← hCard, ← hcards]
      refine ⟨?_, List.mem_map.mpr ⟨p.here, Place.mem_whole, rfl⟩,
        Place.map_put_of_eq (by rfl), marked_mark⟩
      intro h
      rcases h with ⟨Card, hmem, hk, hexit⟩
      rcases Place.mem_put.mp hmem with hpre | heq | hpost
      · exact other_numbers hd (Or.inl hpre) hk
      · rw [heq] at hexit
        simp [hexit] at hhere
      · exact other_numbers hd (Or.inr hpost) hk

end

/-!
## The observer
-/

/-- The console and the card each slot was assigned since its account came. -/
structure Watched where
  state : State
  assigned : Nat -> Option WString

/-- The slot `AddAccount` fills. -/
def slotAdded (T : ConsoleTools) (name : WString) (s : State) : Option Nat :=
  if (isExistAccount T name s.arrGameInfo).isSome then none
  else existEmptyArrGameInfo s.arrGameInfo

/-- The slot a turn of the login thread gives a card, and the number. -/
def slotAssigned (T : ConsoleTools) (s : State) : Option (Nat × WString) :=
  match s.arrGameInfo[s.i]? with
  | none => none
  | some AccountGame =>
      if AccountGame.bExist then
        (getNotUseCard T s.VecCard).map fun got => (s.i, got.1.wsCardNo)
      else none

def watch (T : ConsoleTools) (call : Call) (w : Watched) : Watched where
  state := apply T call w.state
  assigned :=
    match call with
    | .addAccount name _ =>
        match slotAdded T name w.state with
        | none => w.assigned
        | some n => Function.update w.assigned n none
    | .runGameTurn =>
        match slotAssigned T w.state with
        | none => w.assigned
        | some (n, wsCardNo) => Function.update w.assigned n (some wsCardNo)
    | _ => w.assigned

def watchedMachine (T : ConsoleTools) : Machine Watched Call where
  enabled _ _ := True
  step := watch T

def Watched.start (Cards : CardTable) : Watched where
  state := State.start Cards.cards
  assigned _ := none

theorem watched_state (T : ConsoleTools) (calls : List Call) (w : Watched) :
    ((watchedMachine T).play calls w).state = (machine T).play calls w.state := by
  induction calls generalizing w with
  | nil => rfl
  | cons call calls ih => exact ih (watch T call w)

/-!
## Exclusive cards
-/

/-- The `n`-th slot is in use and was assigned the card since. -/
def Holds (w : Watched) (n : Nat) (wsCardNo : WString) : Prop :=
  (exists A, w.state.arrGameInfo[n]? = some A ∧ A.bExist = true) ∧
    w.assigned n = some wsCardNo

/--
No two slots in use that were assigned a card carry the same number, and a card
is marked exactly if some slot in use was assigned it.
-/
structure Exclusive (w : Watched) : Prop where
  differ : forall m n A B, w.state.arrGameInfo[m]? = some A ->
    w.state.arrGameInfo[n]? = some B -> A.bExist = true -> B.bExist = true ->
    (w.assigned m).isSome -> (w.assigned n).isSome ->
    A.szCardNo = B.szCardNo -> m = n
  marked : forall Card, Card ∈ w.state.VecCard ->
    (Card.bExit = true ↔ exists n, Holds w n Card.wsCardNo)

/-- What every call keeps, whatever becomes of the cards. -/
structure Sound (w : Watched) : Prop where
  distinct : (w.state.VecCard.map CardInfo.wsCardNo).Nodup
  ahead : forall n, w.state.i ≤ n -> w.assigned n = none
  number : forall n A wsCardNo, w.state.arrGameInfo[n]? = some A ->
    A.bExist = true -> w.assigned n = some wsCardNo -> A.szCardNo = wsCardNo
  known : forall n wsCardNo, w.assigned n = some wsCardNo ->
    wsCardNo ∈ w.state.VecCard.map CardInfo.wsCardNo

def pool (w : Watched) : Pool Nat WString where
  marked := markedNumbers w.state.VecCard
  holds n :=
    match w.state.arrGameInfo[n]? with
    | none => none
    | some A => if A.bExist then w.assigned n else none

theorem pool_holds_iff {w : Watched} {n : Nat} {wsCardNo : WString} :
    (pool w).holds n = some wsCardNo ↔ Holds w n wsCardNo := by
  cases hA : w.state.arrGameInfo[n]? with
  | none => simp [pool, Holds, hA]
  | some A =>
      cases hexist : A.bExist with
      | false => simp [pool, Holds, hA, hexist]
      | true => simp [pool, Holds, hA, hexist]

theorem mark_iff {w : Watched} (hs : Sound w) {Card : CardInfo}
    (h : Card ∈ w.state.VecCard) :
    Card.bExit = true ↔ Card.wsCardNo ∈ (pool w).marked := by
  constructor
  · exact fun hexit => ⟨Card, h, rfl, hexit⟩
  · intro hmarked
    rcases hmarked with ⟨Card', h', hno, hexit⟩
    have hsame := List.inj_on_of_nodup_map hs.distinct h' h hno
    rw [← hsame]
    exact hexit

theorem exclusive_iff {w : Watched} (hs : Sound w) :
    Exclusive w ↔ (pool w).Exclusive := by
  constructor
  · intro h
    constructor
    · intro m n k hm hn
      rcases pool_holds_iff.mp hm with ⟨⟨A, hA, hAexist⟩, hm⟩
      rcases pool_holds_iff.mp hn with ⟨⟨B, hB, hBexist⟩, hn⟩
      have hno : A.szCardNo = B.szCardNo := by
        rw [hs.number m A k hA hAexist hm, hs.number n B k hB hBexist hn]
      exact h.differ m n A B hA hB hAexist hBexist (by simp [hm]) (by simp [hn]) hno
    · intro k
      constructor
      · intro hk
        rcases hk with ⟨Card, hCard, hno, hexit⟩
        rcases (h.marked Card hCard).mp hexit with ⟨n, hn⟩
        rw [hno] at hn
        exact ⟨n, pool_holds_iff.mpr hn⟩
      · intro hk
        rcases hk with ⟨n, hn⟩
        have hholds := pool_holds_iff.mp hn
        rcases List.mem_map.mp (hs.known n k hholds.right) with ⟨Card, hCard, hno⟩
        rw [← hno] at hholds
        exact ⟨Card, hCard, hno, (h.marked Card hCard).mpr ⟨n, hholds⟩⟩
  · intro h
    constructor
    · intro m n A B hA hB hAexist hBexist hm hn hno
      rcases Option.isSome_iff_exists.mp hm with ⟨k, hm⟩
      rcases Option.isSome_iff_exists.mp hn with ⟨k', hn⟩
      rw [hs.number m A k hA hAexist hm, hs.number n B k' hB hBexist hn] at hno
      rw [← hno] at hn
      exact h.differ m n k (pool_holds_iff.mpr ⟨⟨A, hA, hAexist⟩, hm⟩)
        (pool_holds_iff.mpr ⟨⟨B, hB, hBexist⟩, hn⟩)
    · intro Card hCard
      rw [mark_iff hs hCard, h.marked_iff]
      exact exists_congr fun n => pool_holds_iff

/-!
## Writing one slot under observation
-/

section

variable {w : Watched} {m : Nat} {A B : AccountInfoGame} {a : Option WString}
  {s' : State}

theorem pool_write (hA : w.state.arrGameInfo[m]? = some A)
    (harr : s'.arrGameInfo = w.state.arrGameInfo.set m B) :
    pool { state := s', assigned := Function.update w.assigned m a } =
      { marked := markedNumbers s'.VecCard
        holds := Function.update (pool w).holds m (if B.bExist then a else none) } := by
  rcases List.getElem?_eq_some_iff.mp hA with ⟨hm, _⟩
  simp only [pool, harr, Pool.mk.injEq, true_and]
  funext n
  by_cases hnm : n = m
  · rw [hnm, List.getElem?_set_self hm, Function.update_self, Function.update_self]
  · rw [List.getElem?_set_ne (Ne.symm hnm), Function.update_of_ne hnm,
      Function.update_of_ne hnm]

theorem Sound.write (hs : Sound w) (hA : w.state.arrGameInfo[m]? = some A)
    (harr : s'.arrGameInfo = w.state.arrGameInfo.set m B)
    (hnumbers : s'.VecCard.map CardInfo.wsCardNo =
      w.state.VecCard.map CardInfo.wsCardNo)
    (hi : w.state.i ≤ s'.i) (hahead : s'.i ≤ m -> a = none)
    (hnumber : forall k, B.bExist = true -> a = some k -> B.szCardNo = k)
    (hknown : forall k, a = some k -> k ∈ w.state.VecCard.map CardInfo.wsCardNo) :
    Sound { state := s', assigned := Function.update w.assigned m a } := by
  rcases List.getElem?_eq_some_iff.mp hA with ⟨hm, _⟩
  constructor
  · show (s'.VecCard.map CardInfo.wsCardNo).Nodup
    rw [hnumbers]
    exact hs.distinct
  · intro n hn
    show Function.update w.assigned m a n = none
    by_cases hnm : n = m
    · rw [hnm] at hn ⊢
      simpa using hahead hn
    · rw [Function.update_of_ne hnm]
      exact hs.ahead n (Nat.le_trans hi hn)
  · intro n C k hC hexist hk
    change Function.update w.assigned m a n = some k at hk
    by_cases hnm : n = m
    · rw [hnm] at hC hk
      simp only [harr, List.getElem?_set_self hm, Option.some.injEq] at hC
      rw [Function.update_self] at hk
      rw [← hC] at hexist ⊢
      exact hnumber k hexist hk
    · simp only [harr, List.getElem?_set_ne (Ne.symm hnm)] at hC
      rw [Function.update_of_ne hnm] at hk
      exact hs.number n C k hC hexist hk
  · intro n k hk
    change Function.update w.assigned m a n = some k at hk
    rw [hnumbers]
    by_cases hnm : n = m
    · rw [hnm, Function.update_self] at hk
      exact hknown k hk
    · rw [Function.update_of_ne hnm] at hk
      exact hs.known n k hk

theorem Sound.empty (hs : Sound w) (hA : w.state.arrGameInfo[m]? = some A)
    (hB : B.bExist = false)
    (harr : s'.arrGameInfo = w.state.arrGameInfo.set m B)
    (hnumbers : s'.VecCard.map CardInfo.wsCardNo =
      w.state.VecCard.map CardInfo.wsCardNo) (hi : s'.i = w.state.i) :
    Sound { state := s', assigned := w.assigned } := by
  have h := hs.write (a := w.assigned m) hA harr hnumbers (Nat.le_of_eq hi.symm)
    (fun h => hs.ahead m (hi ▸ h)) (fun k hexist => by simp [hB] at hexist)
    (fun k => hs.known m k)
  rw [Function.update_eq_self] at h
  exact h

theorem pool_empty (hA : w.state.arrGameInfo[m]? = some A) (hB : B.bExist = false)
    (harr : s'.arrGameInfo = w.state.arrGameInfo.set m B) {wsCardNo : WString}
    (hmarked : markedNumbers s'.VecCard =
      markedNumbers w.state.VecCard \ {wsCardNo}) :
    pool { state := s', assigned := w.assigned } = (pool w).drop m wsCardNo := by
  have h := pool_write (a := w.assigned m) hA harr
  rw [Function.update_eq_self, hB, hmarked] at h
  exact h

end

/-!
## Each call under observation
-/

section

variable (T : ConsoleTools) {w : Watched}

theorem addAccount_watched (hs : Sound w) (name pass : WString) :
    Sound (watch T (.addAccount name pass) w) ∧
      pool (watch T (.addAccount name pass) w) = pool w := by
  rcases addAccount_cases T name pass w.state with
    ⟨n, hfound, hadd⟩ | ⟨hfound, hempty, hadd⟩ |
    ⟨n, A, hfound, hempty, hA, hexist, hadd⟩
  · have hsame : watch T (.addAccount name pass) w = w := by
      simp [watch, apply, hadd, slotAdded, hfound]
    rw [hsame]
    exact ⟨hs, rfl⟩
  · have hsame : watch T (.addAccount name pass) w = w := by
      simp [watch, apply, hadd, slotAdded, hfound, hempty]
    rw [hsame]
    exact ⟨hs, rfl⟩
  · have hwatch : watch T (.addAccount name pass) w =
        { state := (addAccount T name pass w.state).2
          assigned := Function.update w.assigned n none } := by
      simp [watch, apply, slotAdded, hfound, hempty]
    have harr : (addAccount T name pass w.state).2.arrGameInfo =
        w.state.arrGameInfo.set n (added name pass A) := by rw [hadd]
    have hcards : (addAccount T name pass w.state).2.VecCard = w.state.VecCard := by
      rw [hadd]
    have hi : (addAccount T name pass w.state).2.i = w.state.i := by rw [hadd]
    have hnone : (pool w).holds n = none := by simp [pool, hA, hexist]
    rw [hwatch]
    constructor
    · exact hs.write hA harr (by rw [hcards]) (Nat.le_of_eq hi.symm)
        (fun _ => rfl) (fun k _ h => by cases h) (fun k h => by cases h)
    · rw [pool_write hA harr, hcards, ite_self, ← hnone, Function.update_eq_self]
      rfl

theorem deleteAccount_watched (hs : Sound w) {name : WString} {n : Nat}
    {A : AccountInfoGame} (hA : w.state.arrGameInfo[n]? = some A)
    (hdelete : (deleteAccount T name w.state).2 =
      { w.state with
        VecCard := (existCard T A.szCardNo releaseCard w.state.VecCard).getD
          w.state.VecCard
        nAccountCount := w.state.nAccountCount - 1
        arrGameInfo := w.state.arrGameInfo.set n {} }) :
    Sound (watch T (.deleteAccount name) w) ∧
      pool (watch T (.deleteAccount name) w) = (pool w).drop n A.szCardNo := by
  rcases existCard_release T hs.distinct A.szCardNo with ⟨hnumbers, hmarked⟩
  have hwatch : watch T (.deleteAccount name) w =
      { state := (deleteAccount T name w.state).2, assigned := w.assigned } := rfl
  rw [hwatch, hdelete]
  constructor
  · exact hs.empty hA (B := {}) rfl rfl hnumbers rfl
  · exact pool_empty hA (B := {}) rfl rfl hmarked

theorem setClearAccount_watched (hs : Sound w) {processExists : DWORD -> Bool}
    {n : Nat} {A : AccountInfoGame} {VecCard : List CardInfo}
    (hA : w.state.arrGameInfo[n]? = some A)
    (hcard : existCard T A.szCardNo releaseCard w.state.VecCard = some VecCard)
    (hclear : setClearAccount T processExists n w.state =
      { w.state with
        VecCard := VecCard
        arrGameInfo := w.state.arrGameInfo.set n
          { killGame processExists A with bExist := false } }) :
    Sound (watch T (.setClearAccount processExists n) w) ∧
      pool (watch T (.setClearAccount processExists n) w) =
        (pool w).drop n A.szCardNo := by
  rcases existCard_release T hs.distinct A.szCardNo with ⟨hnumbers, hmarked⟩
  rw [hcard, Option.getD_some] at hnumbers hmarked
  have hwatch : watch T (.setClearAccount processExists n) w =
      { state := setClearAccount T processExists n w.state
        assigned := w.assigned } := rfl
  rw [hwatch, hclear]
  constructor
  · exact hs.empty hA (B := { killGame processExists A with bExist := false }) rfl
      rfl hnumbers rfl
  · exact pool_empty hA (B := { killGame processExists A with bExist := false }) rfl
      rfl hmarked

theorem runGameTurn_watched (hs : Sound w) :
    Sound (watch T .runGameTurn w) ∧
      ((pool w).Exclusive -> (pool (watch T .runGameTurn w)).Exclusive) := by
  rcases runGameTurn_cases T w.state with
    ⟨hnone, hturn⟩ | ⟨A, hA, hexist, hturn⟩ |
      ⟨A, CardInfo_, VecCard, hA, hexist, hcard, hturn⟩
  · have hslot : slotAssigned T w.state = none := by
      rcases hnone with hA | hcard
      · simp [slotAssigned, hA]
      · cases hA : w.state.arrGameInfo[w.state.i]? with
        | none => simp [slotAssigned, hA]
        | some A => simp [slotAssigned, hA, hcard]
    have hsame : watch T .runGameTurn w = w := by
      simp [watch, apply, hturn, hslot]
    rw [hsame]
    exact ⟨hs, id⟩
  · have hslot : slotAssigned T w.state = none := by
      simp [slotAssigned, hA, hexist]
    have hwatch : watch T .runGameTurn w =
        { state := { w.state with i := w.state.i + 1 }, assigned := w.assigned } := by
      simp [watch, apply, hturn, hslot]
    rw [hwatch]
    constructor
    · exact ⟨hs.distinct, fun n hn => hs.ahead n (Nat.le_of_succ_le hn),
        hs.number, hs.known⟩
    · exact id
  · rcases getNotUseCard_take T hs.distinct hcard with
      ⟨hfree, hknown, hnumbers, hmarked⟩
    have hslot : slotAssigned T w.state =
        some (w.state.i, CardInfo_.wsCardNo) := by
      simp [slotAssigned, hA, hexist, hcard]
    have hwatch : watch T .runGameTurn w =
        { state := runGameTurn T w.state
          assigned := Function.update w.assigned w.state.i
            (some CardInfo_.wsCardNo) } := by
      simp [watch, apply, hslot]
    rw [hwatch, hturn]
    constructor
    · refine hs.write hA (B := { A with szCardNo := CardInfo_.wsCardNo }) rfl
        hnumbers (Nat.le_succ _) ?_ ?_ ?_
      · exact fun h => absurd h (Nat.not_succ_le_self _)
      · exact fun k _ hk => Option.some.inj hk
      · intro k hk
        rw [← Option.some.inj hk]
        exact hknown
    · intro hexclusive
      have hholds : (pool w).holds w.state.i = none := by
        simp [pool, hA, hexist, hs.ahead w.state.i (Nat.le_refl _)]
      rw [pool_write hA (B := { A with szCardNo := CardInfo_.wsCardNo }) rfl,
        if_pos hexist, hmarked]
      exact hexclusive.take hholds hfree

theorem setPid_watched (hs : Sound w) (n : Nat) (dwPid : DWORD) :
    Sound (watch T (.setPid n dwPid) w) ∧
      pool (watch T (.setPid n dwPid) w) = pool w := by
  have hwatch : watch T (.setPid n dwPid) w =
      { state := setPid n dwPid w.state, assigned := w.assigned } := rfl
  rw [hwatch]
  rcases setPid_cases n dwPid w.state with hset | ⟨A, hA, hset⟩
  · rw [hset]
    exact ⟨hs, rfl⟩
  · have hwrite : Sound
        { state := { w.state with
            arrGameInfo := w.state.arrGameInfo.set n { A with dwPid := dwPid } }
          assigned := Function.update w.assigned n (w.assigned n) } :=
      hs.write hA (B := { A with dwPid := dwPid }) rfl rfl (Nat.le_refl _)
        (hs.ahead n) (fun k => hs.number n A k hA) (fun k => hs.known n k)
    have hpool : pool
        { state := { w.state with
            arrGameInfo := w.state.arrGameInfo.set n { A with dwPid := dwPid } }
          assigned := Function.update w.assigned n (w.assigned n) } = _ :=
      pool_write hA (B := { A with dwPid := dwPid }) rfl
    have hholds : (pool w).holds n = if A.bExist then w.assigned n else none := by
      simp [pool, hA]
    rw [Function.update_eq_self] at hwrite hpool
    rw [hset, hpool, ← hholds, Function.update_eq_self]
    exact ⟨hwrite, rfl⟩

/-!
## Which calls keep the cards exclusive
-/

/--
The condition on a call: the card that the slot handled names, if it is marked,
was assigned to this slot since its account was added.
-/
def HandlesOwnCard (T : ConsoleTools) : Call -> Watched -> Prop
  | .deleteAccount name, w =>
      forall n A, isExistAccount T name w.state.arrGameInfo = some n ->
        w.state.arrGameInfo[n]? = some A ->
        A.szCardNo ∈ markedNumbers w.state.VecCard -> Holds w n A.szCardNo
  | .setClearAccount _ n, w =>
      forall A, w.state.arrGameInfo[n]? = some A ->
        A.szCardNo ∈ markedNumbers w.state.VecCard -> Holds w n A.szCardNo
  | _, _ => True

theorem drop_exclusive_iff (hs : Sound w) (hexclusive : (pool w).Exclusive)
    {n : Nat} {A : AccountInfoGame} (hA : w.state.arrGameInfo[n]? = some A) :
    ((pool w).drop n A.szCardNo).Exclusive ↔
      (A.szCardNo ∈ markedNumbers w.state.VecCard -> Holds w n A.szCardNo) := by
  have honly : forall k, (pool w).holds n = some k -> k = A.szCardNo := by
    intro k hk
    rcases pool_holds_iff.mp hk with ⟨⟨B, hB, hexist⟩, hk⟩
    rw [hA, Option.some.injEq] at hB
    rw [← hB] at hexist
    exact (hs.number n A k hA hexist hk).symm
  rw [hexclusive.drop_iff, and_iff_left honly, pool_holds_iff]
  rfl

theorem watched_sound (hs : Sound w) (call : Call) : Sound (watch T call w) := by
  cases call with
  | addAccount name pass => exact (addAccount_watched T hs name pass).left
  | deleteAccount name =>
      rcases deleteAccount_cases T name w.state with
        ⟨_, hdelete⟩ | ⟨n, A, _, hA, _, hdelete⟩
      · have hsame : watch T (.deleteAccount name) w = w := by
          simp [watch, apply, hdelete]
        rw [hsame]
        exact hs
      · exact (deleteAccount_watched T hs hA (by rw [hdelete])).left
  | setClearAccount processExists n =>
      rcases setClearAccount_cases T processExists n w.state with
        ⟨_, hclear⟩ | ⟨A, VecCard, hA, hcard, hclear⟩
      · have hsame : watch T (.setClearAccount processExists n) w = w := by
          simp [watch, apply, hclear]
        rw [hsame]
        exact hs
      · exact (setClearAccount_watched T hs hA hcard hclear).left
  | runGameTurn => exact (runGameTurn_watched T hs).left
  | setPid n dwPid => exact (setPid_watched T hs n dwPid).left

theorem watched_exclusive_iff (hs : Sound w) (hw : Exclusive w) (call : Call) :
    Exclusive (watch T call w) ↔ HandlesOwnCard T call w := by
  have hexclusive := (exclusive_iff hs).mp hw
  rw [exclusive_iff (watched_sound T hs call)]
  cases call with
  | addAccount name pass =>
      rw [(addAccount_watched T hs name pass).right]
      simp [HandlesOwnCard, hexclusive]
  | deleteAccount name =>
      rcases deleteAccount_cases T name w.state with
        ⟨hfound, hdelete⟩ | ⟨n, A, hfound, hA, _, hdelete⟩
      · have hsame : watch T (.deleteAccount name) w = w := by
          simp [watch, apply, hdelete]
        simp [hsame, HandlesOwnCard, hfound, hexclusive]
      · rw [(deleteAccount_watched T hs hA (by rw [hdelete])).right,
          drop_exclusive_iff hs hexclusive hA]
        constructor
        · intro hown m B hm hB
          rw [hfound, Option.some.injEq] at hm
          rw [← hm, hA, Option.some.injEq] at hB
          rw [← hm, ← hB]
          exact hown
        · exact fun h => h n A hfound hA
  | setClearAccount processExists n =>
      rcases setClearAccount_cases T processExists n w.state with
        ⟨hnone, hclear⟩ | ⟨A, VecCard, hA, hcard, hclear⟩
      · have hsame : watch T (.setClearAccount processExists n) w = w := by
          simp [watch, apply, hclear]
        have hown : HandlesOwnCard T (.setClearAccount processExists n) w := by
          intro A hA hmarked
          rcases hmarked with ⟨Card, hCard, hno, _⟩
          have hunknown := (existCard_eq_none T).mp (hnone A hA)
          rw [← hno] at hunknown
          exact absurd (List.mem_map_of_mem hCard) hunknown
        simp [hsame, hown, hexclusive]
      · rw [(setClearAccount_watched T hs hA hcard hclear).right,
          drop_exclusive_iff hs hexclusive hA]
        simp [HandlesOwnCard, hA]
  | runGameTurn =>
      simp [HandlesOwnCard, (runGameTurn_watched T hs).right hexclusive]
  | setPid n dwPid =>
      rw [(setPid_watched T hs n dwPid).right]
      simp [HandlesOwnCard, hexclusive]

end

/-!
## Whole runs
-/

section

variable (Cards : CardTable)

private theorem start_free {n : Nat} {A : AccountInfoGame}
    (h : (Watched.start Cards).state.arrGameInfo[n]? = some A) :
    A.bExist = false := by
  have hmem := List.mem_of_getElem? h
  rw [List.eq_of_mem_replicate hmem]

theorem sound_start : Sound (Watched.start Cards) where
  distinct := Cards.distinct
  ahead _ _ := rfl
  number n A k hA hexist _ := by
    rw [start_free Cards hA] at hexist
    cases hexist
  known n k hk := by cases hk

theorem exclusive_start : Exclusive (Watched.start Cards) := by
  rw [exclusive_iff (sound_start Cards)]
  apply Pool.exclusive_empty
  · intro k hk
    rcases hk with ⟨Card, hCard, _, hexit⟩
    rw [Cards.free Card hCard] at hexit
    cases hexit
  · intro n
    apply Option.eq_none_iff_forall_ne_some.mpr
    intro k hk
    rcases pool_holds_iff.mp hk with ⟨⟨A, hA, hexist⟩, _⟩
    rw [start_free Cards hA] at hexist
    cases hexist

/--
In every state of a run from a new console the cards are exclusive, exactly if
every account deleted or cleared names its own card or one that is not marked.
-/
theorem cards_exclusive_iff (T : ConsoleTools) (calls : List Call) :
    (forall n, Exclusive
        ((watchedMachine T).play (calls.take n) (Watched.start Cards))) ↔
      forall n call, calls[n]? = some call ->
        HandlesOwnCard T call
          ((watchedMachine T).play (calls.take n) (Watched.start Cards)) :=
  Machine.play_always_iff Sound Exclusive (HandlesOwnCard T)
    (fun call _ hs => watched_sound T hs call)
    (fun call _ hs hw => watched_exclusive_iff T hs hw call) calls
    (sound_start Cards) (exclusive_start Cards)

end

/-- Two accounts in one slot, one after the other, and a third one's only card. -/
def staleNumber : List Call :=
  [.addAccount (L "A") (L "p"), .runGameTurn,
    .setClearAccount (fun _ => false) 0, .addAccount (L "B") (L "p"),
    .addAccount (L "C") (L "p"), .runGameTurn, .deleteAccount (L "B")]

def oneCard : CardTable where
  cards := [{ wsCardNo := L "c1", nSurplusHour := 1 }]
  distinct := by decide
  free := by decide

/-- The card of the third account is free again when the second is deleted. -/
theorem stale_number_frees_card :
    ¬ forall n, Exclusive ((watchedMachine ConsoleTools.standard).play
      (staleNumber.take n) (Watched.start oneCard)) := by
  intro h
  have hcards : ((watchedMachine ConsoleTools.standard).play
      (staleNumber.take 7) (Watched.start oneCard)).state.VecCard = oneCard.cards := by
    decide +kernel
  have hholds : Holds ((watchedMachine ConsoleTools.standard).play
      (staleNumber.take 7) (Watched.start oneCard)) 1 (L "c1") := by
    refine ⟨⟨
      { szUserName := L "C"
        szPassWord := L "p"
        szCardNo := L "c1"
        bExist := true }, ?_, rfl⟩, ?_⟩
    · decide +kernel
    · decide +kernel
  have hmarked := ((h 7).marked { wsCardNo := L "c1", nSurplusHour := 1 }
    (by rw [hcards]; exact List.mem_singleton.mpr rfl)).mpr ⟨1, hholds⟩
  cases hmarked

end Console
end BnsKorea
