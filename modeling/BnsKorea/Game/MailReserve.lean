import Mathlib.Logic.Function.Iterate
import BnsKorea.Game.MailAction

/-!
# The money that is to stay

The amount to mail is computed once and paid again with every mail while there is
more money than that.  What is left after the first mail is what is to stay with
the deduction on top, and each mail more may eat into it.
-/

namespace BnsKorea
namespace Game
namespace CMailAction

/-!
## Paying while there is more
-/

def pay (amount money : Nat) : Nat :=
  if money > amount then money - amount else money

theorem pay_more {amount money : Nat} (h : amount < money) :
    pay amount money = money - amount :=
  if_pos h

theorem pay_enough {amount money : Nat} (h : money ≤ amount) :
    pay amount money = money :=
  if_neg (Nat.not_lt.mpr h)

section

variable {amount surplus fee : Nat}

theorem pay_iterate (i : Nat) (hi : i * amount < surplus + fee) :
    (pay amount)^[i + 1] (amount + (surplus + fee)) = surplus + fee - i * amount := by
  induction i with
  | zero =>
      rw [Nat.zero_mul] at hi ⊢
      show pay amount (amount + (surplus + fee)) = _
      rw [pay_more (by omega)]
      omega
  | succ i ih =>
      rw [Nat.succ_mul] at hi ⊢
      rw [Function.iterate_succ_apply', ih (by omega), pay_more (by omega)]
      omega

theorem pay_iterate_ge {k : Nat} (hpos : 0 < surplus + fee)
    (hgap : forall i, 1 ≤ i -> i < k ->
      ¬ (fee < i * amount ∧ i * amount < surplus + fee)) :
    forall j, j < k -> exists i, i ≤ j ∧ i * amount ≤ fee ∧
      (pay amount)^[j + 1] (amount + (surplus + fee)) = surplus + fee - i * amount := by
  intro j
  induction j with
  | zero =>
      intro _
      refine ⟨0, Nat.le_refl 0, by rw [Nat.zero_mul]; exact Nat.zero_le fee, ?_⟩
      exact pay_iterate 0 (by rw [Nat.zero_mul]; exact hpos)
  | succ j ih =>
      intro hj
      rcases ih (by omega) with ⟨i, hij, hfee, hmoney⟩
      rw [Function.iterate_succ_apply', hmoney]
      by_cases hmore : amount < surplus + fee - i * amount
      · refine ⟨i + 1, by omega, ?_, ?_⟩
        · have hnot := hgap (i + 1) (by omega) (by omega)
          rw [Nat.succ_mul] at hnot ⊢
          omega
        · rw [pay_more hmore, Nat.succ_mul]
          omega
      · exact ⟨i, by omega, hfee, pay_enough (Nat.not_lt.mp hmore)⟩

variable (amount surplus fee) in
theorem pay_keeps_iff (k : Nat) :
    (forall j, 1 ≤ j -> j ≤ k ->
        surplus ≤ (pay amount)^[j] (amount + (surplus + fee))) ↔
      forall i, 1 ≤ i -> i < k ->
        ¬ (fee < i * amount ∧ i * amount < surplus + fee) := by
  constructor
  · intro hkeeps i hi hik hgap
    have hkept := hkeeps (i + 1) (by omega) (by omega)
    rw [pay_iterate i hgap.right] at hkept
    omega
  · intro hgap j hj hjk
    by_cases hpos : 0 < surplus + fee
    · rcases pay_iterate_ge hpos hgap (j - 1) (by omega) with ⟨i, _, hfee, hmoney⟩
      rw [Nat.sub_add_cancel hj] at hmoney
      rw [hmoney]
      omega
    · omega

end

/-!
## The iterations
-/

section

variable {ItemStrList : List MailItemContent} {dwMailMoney : DWORD} {uCount : UINT}
  {surplus : Nat}

variable (ItemStrList dwMailMoney) in
theorem npcMail_money (sent : Bool) (p : Player) :
    (npcMail sent (mailOf ItemStrList dwMailMoney p) p).2.money.toNat =
      if (npcMail sent (mailOf ItemStrList dwMailMoney p) p).1 then
        pay dwMailMoney.toNat p.money.toNat
      else p.money.toNat := by
  have hpaid : (p.money - (mailOf ItemStrList dwMailMoney p).dwMoney).toNat =
      pay dwMailMoney.toNat p.money.toNat := by
    show (p.money - if p.money > dwMailMoney then dwMailMoney else 0).toNat = _
    by_cases hmore : p.money > dwMailMoney
    · rw [if_pos hmore, UInt32.toNat_sub_of_le _ _ (UInt32.le_of_lt hmore),
        pay_more (UInt32.lt_iff_toNat_lt.mp hmore)]
    · rw [if_neg hmore, UInt32.sub_zero,
        pay_enough (UInt32.le_iff_toNat_le.mp (UInt32.not_lt.mp hmore))]
  unfold npcMail
  split
  · rename_i hnone
    rw [Bool.and_eq_true, decide_eq_true_iff] at hnone
    rw [hnone.left, UInt32.sub_zero] at hpaid
    exact hpaid
  · split
    · exact hpaid
    · rfl

variable (ItemStrList dwMailMoney) in
theorem mailTurn_money (sent : Bool) (s : Mailing) :
    (mailTurn ItemStrList dwMailMoney sent s).player.money.toNat =
      if (mailTurn ItemStrList dwMailMoney sent s).bRetCode then
        pay dwMailMoney.toNat s.player.money.toNat
      else s.player.money.toNat := by
  have hmoney := npcMail_money ItemStrList dwMailMoney sent s.player
  unfold mailTurn
  cases hmail : npcMail sent (mailOf ItemStrList dwMailMoney s.player) s.player with
  | mk ok p =>
      rw [hmail] at hmoney
      cases ok with
      | false => exact hmoney
      | true => exact hmoney

def successes (states : List Mailing) : Nat :=
  (states.filter fun s => s.bRetCode).length

theorem successes_cons (s : Mailing) (states : List Mailing) :
    successes (s :: states) = (if s.bRetCode then 1 else 0) + successes states := by
  unfold successes
  rw [List.filter_cons]
  split
  · exact Nat.add_comm _ 1
  · exact (Nat.zero_add _).symm

theorem iterate_keeps_succ (f : Nat -> Nat) (surplus m n : Nat) :
    (forall j, 1 ≤ j -> j ≤ 1 + n -> surplus ≤ f^[j] m) ↔
      surplus ≤ f m ∧ forall j, 1 ≤ j -> j ≤ n -> surplus ≤ f^[j] (f m) := by
  constructor
  · intro h
    refine ⟨h 1 (Nat.le_refl 1) (Nat.le_add_right 1 n), ?_⟩
    intro j _ hjn
    exact h (j + 1) (by omega) (by omega)
  · intro h j hj hjn
    cases j with
    | zero => exact absurd hj (Nat.not_succ_le_zero 0)
    | succ j =>
        cases j with
        | zero => exact h.left
        | succ j => exact h.right (j + 1) (by omega) (by omega)

variable (ItemStrList dwMailMoney uCount) in
theorem mailLoop_keeps_iff (turns : List (Bool × Bool)) (s : Mailing)
    (hs : surplus ≤ s.player.money.toNat) :
    (forall t, t ∈ mailLoop ItemStrList dwMailMoney uCount turns s ->
        surplus ≤ t.player.money.toNat) ↔
      forall j, 1 ≤ j ->
        j ≤ successes (mailLoop ItemStrList dwMailMoney uCount turns s) ->
        surplus ≤ (pay dwMailMoney.toNat)^[j] s.player.money.toNat := by
  have hnone : forall m : Nat,
      (forall t, t ∈ ([] : List Mailing) -> surplus ≤ t.player.money.toNat) ↔
        forall j, 1 ≤ j -> j ≤ successes [] ->
          surplus ≤ (pay dwMailMoney.toNat)^[j] m :=
    fun m => ⟨fun _ j hj hjk => absurd (Nat.le_trans hj hjk) (Nat.not_succ_le_zero 0),
      fun _ t ht => (nomatch ht)⟩
  induction turns generalizing s with
  | nil => exact hnone s.player.money.toNat
  | cons turn turns ih =>
      rcases turn with ⟨sent, runs⟩
      have hmoney := mailTurn_money ItemStrList dwMailMoney sent s
      rw [mailLoop]
      generalize mailTurn ItemStrList dwMailMoney sent s = t at hmoney ⊢
      generalize hrest :
        (if (!t.left && (runs && decide (t.uIndex < uCount))) = true then
          mailLoop ItemStrList dwMailMoney uCount turns t else []) = rest
      have hlater : surplus ≤ t.player.money.toNat ->
          ((forall u, u ∈ rest -> surplus ≤ u.player.money.toNat) ↔
            forall j, 1 ≤ j -> j ≤ successes rest ->
              surplus ≤ (pay dwMailMoney.toNat)^[j] t.player.money.toNat) := by
        intro ht
        rw [← hrest]
        split
        · exact ih t ht
        · exact hnone t.player.money.toNat
      show (forall u, u ∈ t :: rest -> _) ↔
        forall j, 1 ≤ j -> j ≤ successes (t :: rest) -> _
      rw [List.forall_mem_cons, successes_cons]
      cases hret : t.bRetCode with
      | false =>
          rw [hret, if_neg Bool.false_ne_true] at hmoney
          rw [hmoney] at hlater ⊢
          rw [if_neg Bool.false_ne_true, Nat.zero_add]
          exact (and_iff_right hs).trans (hlater hs)
      | true =>
          rw [hret, if_pos rfl] at hmoney
          rw [hmoney] at hlater ⊢
          rw [if_pos rfl]
          exact (and_congr_right hlater).trans (iterate_keeps_succ _ _ _ _).symm

theorem mail_keeps_successes_iff {dwSurplusMoney fee : DWORD} {uIndex : UINT}
    {turns : List (Bool × Bool)} {p : Player} (hsurplus : dwSurplusMoney ≤ p.money)
    (hfee : fee ≤ p.money - dwSurplusMoney) :
    (forall s, s ∈ mail ItemStrList dwSurplusMoney fee uIndex uCount turns p ->
        dwSurplusMoney ≤ s.player.money) ↔
      forall i, 1 ≤ i ->
        i < successes (mail ItemStrList dwSurplusMoney fee uIndex uCount turns p) ->
        ¬ (fee.toNat < i * (p.money.toNat - dwSurplusMoney.toNat - fee.toNat) ∧
          i * (p.money.toNat - dwSurplusMoney.toNat - fee.toNat) <
            dwSurplusMoney.toNat + fee.toNat) := by
  have hle := UInt32.le_iff_toNat_le.mp hsurplus
  have hsub := UInt32.toNat_sub_of_le _ _ hsurplus
  have hfee' := UInt32.le_iff_toNat_le.mp hfee
  have hamount : (mailMoney p.money dwSurplusMoney fee).toNat =
      p.money.toNat - dwSurplusMoney.toNat - fee.toNat := by
    unfold mailMoney
    rw [UInt32.toNat_sub_of_le _ _ hfee, hsub]
  have hmoney : p.money.toNat =
      p.money.toNat - dwSurplusMoney.toNat - fee.toNat +
        (dwSurplusMoney.toNat + fee.toNat) := by
    omega
  have hloop := mailLoop_keeps_iff ItemStrList
    (mailMoney p.money dwSurplusMoney fee) uCount turns
    { player := p, uIndex := uIndex } hle
  rw [hamount] at hloop
  refine Iff.trans ?_ (hloop.trans ?_)
  · exact forall_congr' fun s => forall_congr' fun _ => UInt32.le_iff_toNat_le
  · show (forall j, 1 ≤ j -> j ≤ _ -> _ ≤ (pay _)^[j] p.money.toNat) ↔ _
    have hkeeps := pay_keeps_iff
      (p.money.toNat - dwSurplusMoney.toNat - fee.toNat) dwSurplusMoney.toNat fee.toNat
      (successes (mail ItemStrList dwSurplusMoney fee uIndex uCount turns p))
    rwa [← hmoney] at hkeeps

end

/-!
## How many mails are sent
-/

def bagAfter (ItemStrList : List MailItemContent) (bag : Bag) (k : Nat) : Bag :=
  (fun bag => bag.without (setMailItemToList bag ItemStrList))^[k] bag

/-- How many of the mails before a turn were sent. -/
def sentBefore (turns : List (Bool × Bool)) (n : Nat) : Nat :=
  (turns.take n).countP Prod.fst

def failedBefore (turns : List (Bool × Bool)) (n : Nat) : Nat :=
  (turns.take n).countP fun turn => !turn.1

/--
Before the turn the game has run on with the player alive, there was a receiver
left, and after each mail that was sent something of the list was in the bag.
-/
structure ComesTo (ItemStrList : List MailItemContent) (uIndex uCount : UINT)
    (turns : List (Bool × Bool)) (bag : Bag) (n : Nat) : Prop where
  runs : forall m, m < n -> forall sent runs, turns[m]? = some (sent, runs) ->
    runs = true
  receiver : forall m, m < n ->
    uIndex + UInt32.ofNat (failedBefore turns (m + 1)) < uCount
  left : forall k, k < sentBefore turns n ->
    setMailItemToList (bagAfter ItemStrList bag (k + 1)) ItemStrList ≠ []

section

variable {ItemStrList : List MailItemContent} {dwMailMoney : DWORD}
  {uIndex uCount : UINT} {turns : List (Bool × Bool)} {bag : Bag}

theorem comesTo_zero : ComesTo ItemStrList uIndex uCount turns bag 0 where
  runs m hm := absurd hm (Nat.not_lt_zero m)
  receiver m hm := absurd hm (Nat.not_lt_zero m)
  left k hk := absurd hk (Nat.not_lt_zero k)

theorem bagAfter_succ (k : Nat) :
    bagAfter ItemStrList bag (k + 1) =
      bagAfter ItemStrList (bag.without (setMailItemToList bag ItemStrList)) k :=
  Function.iterate_succ_apply _ k bag

theorem bagAfter_of_nil (h : setMailItemToList bag ItemStrList = []) (k : Nat) :
    bagAfter ItemStrList bag k = bag := by
  induction k with
  | zero => rfl
  | succ k ih => rw [bagAfter_succ, h, Bag.without_nil, ih]

/-- A mail that fails passes the turn on, another one takes something out. -/
def indexAfter (sent : Bool) (uIndex : UINT) : UINT :=
  if sent then uIndex else uIndex + 1

theorem indexAfter_failedBefore (sent runs : Bool) (m : Nat) :
    uIndex + UInt32.ofNat (failedBefore ((sent, runs) :: turns) (m + 1)) =
      indexAfter sent uIndex + UInt32.ofNat (failedBefore turns m) := by
  cases sent with
  | true => rfl
  | false =>
      have hcount : failedBefore ((false, runs) :: turns) (m + 1) =
          failedBefore turns m + 1 := List.countP_cons_of_pos rfl
      rw [hcount, Nat.add_comm (failedBefore turns m) 1, UInt32.ofNat_add,
        ← UInt32.add_assoc]
      rfl

theorem comesTo_cons {sent runs : Bool} {n : Nat} :
    ComesTo ItemStrList uIndex uCount ((sent, runs) :: turns) bag (n + 1) ↔
      (runs = true ∧ indexAfter sent uIndex < uCount ∧
          (sent = true ->
            setMailItemToList (bagAfter ItemStrList bag 1) ItemStrList ≠ [])) ∧
        ComesTo ItemStrList (indexAfter sent uIndex) uCount turns
          (bagAfter ItemStrList bag (if sent then 1 else 0)) n := by
  have hruns : (forall m, m < n + 1 -> forall sent' runs',
      ((sent, runs) :: turns)[m]? = some (sent', runs') -> runs' = true) ↔
        runs = true ∧ forall m, m < n -> forall sent' runs',
          turns[m]? = some (sent', runs') -> runs' = true := by
    rw [Nat.forall_lt_succ_left]
    simp
  have hreceiver : (forall m, m < n + 1 -> uIndex + UInt32.ofNat
      (failedBefore ((sent, runs) :: turns) (m + 1)) < uCount) ↔
        indexAfter sent uIndex < uCount ∧ forall m, m < n ->
          indexAfter sent uIndex + UInt32.ofNat (failedBefore turns (m + 1)) <
            uCount := by
    rw [Nat.forall_lt_succ_left]
    simp only [indexAfter_failedBefore]
    simp [failedBefore]
  have hleft : (forall k, k < sentBefore ((sent, runs) :: turns) (n + 1) ->
      setMailItemToList (bagAfter ItemStrList bag (k + 1)) ItemStrList ≠ []) ↔
        (sent = true ->
          setMailItemToList (bagAfter ItemStrList bag 1) ItemStrList ≠ []) ∧
        forall k, k < sentBefore turns n ->
          setMailItemToList (bagAfter ItemStrList
            (bagAfter ItemStrList bag (if sent then 1 else 0)) (k + 1))
              ItemStrList ≠ [] := by
    cases sent with
    | false =>
        have hsent : sentBefore ((false, runs) :: turns) (n + 1) =
            sentBefore turns n := List.countP_cons_of_neg Bool.false_ne_true
        rw [hsent]
        exact (and_iff_right fun h => absurd h Bool.false_ne_true).symm
    | true =>
        have hsent : sentBefore ((true, runs) :: turns) (n + 1) =
            sentBefore turns n + 1 := List.countP_cons_of_pos rfl
        have hbag : forall k, bagAfter ItemStrList bag (k + 1 + 1) =
            bagAfter ItemStrList (bagAfter ItemStrList bag 1) (k + 1) :=
          fun k => bagAfter_succ (k + 1)
        rw [hsent, Nat.forall_lt_succ_left]
        simp only [hbag, if_pos, forall_const]
  constructor
  · intro h
    have hruns := hruns.mp h.runs
    have hreceiver := hreceiver.mp h.receiver
    have hleft := hleft.mp h.left
    exact ⟨⟨hruns.left, hreceiver.left, hleft.left⟩, hruns.right, hreceiver.right,
      hleft.right⟩
  · intro h
    rcases h with ⟨⟨hruns', hreceiver', hleft'⟩, hrest⟩
    exact ⟨hruns.mpr ⟨hruns', hrest.runs⟩, hreceiver.mpr ⟨hreceiver', hrest.receiver⟩,
      hleft.mpr ⟨hleft', hrest.left⟩⟩

theorem mailTurn_of_items {sent : Bool} {s : Mailing}
    (hitems : setMailItemToList s.player.bag ItemStrList ≠ []) :
    (mailTurn ItemStrList dwMailMoney sent s).bRetCode = sent ∧
      (mailTurn ItemStrList dwMailMoney sent s).uIndex = indexAfter sent s.uIndex ∧
      (mailTurn ItemStrList dwMailMoney sent s).player.bag =
        bagAfter ItemStrList s.player.bag (if sent then 1 else 0) ∧
      ((mailTurn ItemStrList dwMailMoney sent s).left = false ↔
        (sent = true -> setMailItemToList
          (bagAfter ItemStrList s.player.bag 1) ItemStrList ≠ [])) := by
  have hsome : ¬ ((mailOf ItemStrList dwMailMoney s.player).dwMoney = 0 &&
      (mailOf ItemStrList dwMailMoney s.player).vlst.length = 0) = true := by
    rw [Bool.and_eq_true, decide_eq_true_iff, decide_eq_true_iff, not_and,
      List.length_eq_zero_iff]
    exact fun _ => hitems
  unfold mailTurn npcMail
  rw [if_neg hsome]
  cases sent with
  | false => exact ⟨rfl, rfl, rfl, iff_of_true rfl fun h => absurd h Bool.false_ne_true⟩
  | true =>
      refine ⟨rfl, rfl, rfl, ?_⟩
      show decide ((setMailItemToList (bagAfter ItemStrList s.player.bag 1)
        ItemStrList).length = 0) = false ↔ _
      rw [decide_eq_false_iff_not, List.length_eq_zero_iff]
      exact ⟨fun h _ => h, fun h => h rfl⟩

variable (ItemStrList uIndex uCount turns bag) in
/-- A turn comes whose mail is sent, behind so many others that were. -/
def Sends (i : Nat) : Prop :=
  exists n runs, turns[n]? = some (true, runs) ∧ sentBefore turns n = i ∧
    ComesTo ItemStrList uIndex uCount turns bag n

theorem sends_cons {sent runs : Bool} {i : Nat} :
    Sends ItemStrList uIndex uCount ((sent, runs) :: turns) bag i ↔
      (sent = true ∧ i = 0) ∨
        (runs = true ∧ indexAfter sent uIndex < uCount ∧
            (sent = true ->
              setMailItemToList (bagAfter ItemStrList bag 1) ItemStrList ≠ [])) ∧
          exists j, i = (if sent then 1 else 0) + j ∧
            Sends ItemStrList (indexAfter sent uIndex) uCount turns
              (bagAfter ItemStrList bag (if sent then 1 else 0)) j := by
  have hsent : forall n, sentBefore ((sent, runs) :: turns) (n + 1) =
      (if sent then 1 else 0) + sentBefore turns n := by
    intro n
    rw [sentBefore, List.take_succ_cons, List.countP_cons, Nat.add_comm]
    rfl
  constructor
  · intro h
    rcases h with ⟨n, runs', hturn, hi, hcomes⟩
    cases n with
    | zero =>
        cases hturn
        exact Or.inl ⟨rfl, hi.symm⟩
    | succ n =>
        rcases comesTo_cons.mp hcomes with ⟨hgoes, hrest⟩
        refine Or.inr ⟨hgoes, sentBefore turns n, ?_, n, runs', hturn, rfl, hrest⟩
        rw [← hi, hsent]
  · intro h
    rcases h with ⟨hnow, hi⟩ | ⟨hgoes, j, hi, n, runs', hturn, hj, hrest⟩
    · rw [hnow, hi]
      exact ⟨0, runs, rfl, rfl, comesTo_zero⟩
    · refine ⟨n + 1, runs', hturn, ?_, comesTo_cons.mpr ⟨hgoes, hrest⟩⟩
      rw [hsent, hj, hi]

theorem lt_successes_iff {s : Mailing}
    (hitems : setMailItemToList s.player.bag ItemStrList ≠ []) (i : Nat) :
    i < successes (mailLoop ItemStrList dwMailMoney uCount turns s) ↔
      Sends ItemStrList s.uIndex uCount turns s.player.bag i := by
  induction turns generalizing s i with
  | nil =>
      apply iff_of_false (Nat.not_lt_zero i)
      intro h
      rcases h with ⟨n, runs, hturn, _⟩
      cases hturn
  | cons turn turns ih =>
      rcases turn with ⟨sent, runs⟩
      have hturn := @mailTurn_of_items _ dwMailMoney sent _ hitems
      rw [sends_cons, mailLoop]
      generalize mailTurn ItemStrList dwMailMoney sent s = t at hturn ⊢
      rcases hturn with ⟨hret, hindex, hbag, hleft⟩
      have hgoes : (!t.left && (runs && decide (t.uIndex < uCount))) = true ↔
          runs = true ∧ indexAfter sent s.uIndex < uCount ∧
            (sent = true -> setMailItemToList
              (bagAfter ItemStrList s.player.bag 1) ItemStrList ≠ []) := by
        rw [Bool.and_eq_true, Bool.and_eq_true, Bool.not_eq_true', hleft,
          decide_eq_true_iff, hindex, and_comm, and_assoc]
      show i < successes (t :: _) ↔ _
      rw [successes_cons, hret]
      by_cases hon : (!t.left && (runs && decide (t.uIndex < uCount))) = true
      · rw [if_pos hon]
        have hmore := hgoes.mp hon
        have hitems' : setMailItemToList t.player.bag ItemStrList ≠ [] := by
          rw [hbag]
          cases sent with
          | false => exact hitems
          | true => exact hmore.right.right rfl
        have hrest := fun j => ih hitems' j
        rw [hindex, hbag] at hrest
        constructor
        · intro hi
          by_cases hfirst : sent = true ∧ i = 0
          · exact Or.inl hfirst
          · refine Or.inr ⟨hmore, i - (if sent then 1 else 0), ?_, (hrest _).mp ?_⟩
            · cases sent with
              | false => exact (Nat.zero_add i).symm
              | true =>
                  have hpos : i ≠ 0 := fun hi => hfirst ⟨rfl, hi⟩
                  simp only [if_pos]
                  omega
            · cases sent with
              | false => simpa using hi
              | true =>
                  have hpos : i ≠ 0 := fun hi => hfirst ⟨rfl, hi⟩
                  simp only [if_pos] at hi ⊢
                  omega
        · intro h
          rcases h with ⟨hsent, hi⟩ | ⟨_, j, hi, hsends⟩
          · rw [hsent, hi]
            exact Nat.lt_of_lt_of_le Nat.zero_lt_one (Nat.le_add_right 1 _)
          · have hlt := (hrest j).mpr hsends
            omega
      · rw [if_neg hon]
        have hnot := fun h => hon (hgoes.mpr h)
        constructor
        · intro hi
          cases sent with
          | false => exact absurd hi (Nat.not_lt_zero i)
          | true => exact Or.inl ⟨rfl, Nat.lt_one_iff.mp hi⟩
        · intro h
          rcases h with ⟨hsent, hi⟩ | ⟨hgo, _⟩
          · rw [hsent, hi]
            exact Nat.succ_pos 0
          · exact absurd hgo hnot

theorem successes_le_one {s : Mailing}
    (hitems : setMailItemToList s.player.bag ItemStrList = []) :
    successes (mailLoop ItemStrList dwMailMoney uCount turns s) ≤ 1 := by
  induction turns generalizing s with
  | nil => exact Nat.zero_le 1
  | cons turn turns ih =>
      rcases turn with ⟨sent, runs⟩
      have hturn : (mailTurn ItemStrList dwMailMoney sent s).left =
            (mailTurn ItemStrList dwMailMoney sent s).bRetCode ∧
          (mailTurn ItemStrList dwMailMoney sent s).player.bag = s.player.bag := by
        have hmailed : (s.player.mailed
            (mailOf ItemStrList dwMailMoney s.player)).bag = s.player.bag := by
          show s.player.bag.without (setMailItemToList s.player.bag ItemStrList) = _
          rw [hitems, Bag.without_nil]
        unfold mailTurn npcMail
        split
        · simp [turned, hitems]
        · cases sent with
          | true => simp [turned, hmailed, hitems]
          | false => exact ⟨rfl, rfl⟩
      rw [mailLoop]
      generalize mailTurn ItemStrList dwMailMoney sent s = t at hturn ⊢
      rcases hturn with ⟨hleft, hbag⟩
      show successes (t :: _) ≤ 1
      rw [successes_cons, ← hleft]
      cases hret : t.left with
      | true => exact Nat.le_refl 1
      | false =>
          rw [if_neg Bool.false_ne_true, Nat.zero_add]
          by_cases hon : (!false && (runs && decide (t.uIndex < uCount))) = true
          · rw [if_pos hon]
            exact ih (hbag ▸ hitems)
          · rw [if_neg hon]
            exact Nat.zero_le 1

/--
The reserve is kept after every iteration unless the amount times the number of
mails before one that is sent makes the deduction full and leaves some of the
rest.
-/
theorem mail_keeps_iff {dwSurplusMoney fee : DWORD} {p : Player}
    (hsurplus : dwSurplusMoney ≤ p.money) (hfee : fee ≤ p.money - dwSurplusMoney) :
    (forall s, s ∈ mail ItemStrList dwSurplusMoney fee uIndex uCount turns p ->
        dwSurplusMoney ≤ s.player.money) ↔
      forall i, 1 ≤ i -> Sends ItemStrList uIndex uCount turns p.bag i ->
        ¬ (fee.toNat < i * (p.money.toNat - dwSurplusMoney.toNat - fee.toNat) ∧
          i * (p.money.toNat - dwSurplusMoney.toNat - fee.toNat) <
            dwSurplusMoney.toNat + fee.toNat) := by
  rw [mail_keeps_successes_iff hsurplus hfee]
  refine forall_congr' fun i => forall_congr' fun hi => ?_
  have hcount : i < successes
      (mail ItemStrList dwSurplusMoney fee uIndex uCount turns p) ↔
        Sends ItemStrList uIndex uCount turns p.bag i := by
    by_cases hitems : setMailItemToList p.bag ItemStrList = []
    · apply iff_of_false
      · have hone : successes
            (mail ItemStrList dwSurplusMoney fee uIndex uCount turns p) ≤ 1 :=
          successes_le_one hitems
        omega
      · intro h
        rcases h with ⟨n, runs, _, hsent, hcomes⟩
        have hleft := hcomes.left 0 (by omega)
        rw [bagAfter_of_nil hitems] at hleft
        exact hleft hitems
    · exact lt_successes_iff hitems i
  rw [hcount]

end

/-!
## Two mails
-/

def fourStacks : Player where
  money := 100
  bag :=
    { items := (List.range 4).map fun i =>
        { m_uIndex := UInt32.ofNat i, dwCountWord := 5, Name := [65] }
      nodup := by decide }

/-- Sixty are to stay; the second mail leaves twenty-two. -/
theorem fourStacks_reserve :
    (60 : DWORD) ≤ fourStacks.money ∧ (1 : DWORD) ≤ fourStacks.money - 60 ∧
      (mail [{ wsItemName := [65] }] 60 1 0 1 [(true, true), (true, true)]
          fourStacks).map (fun s => (s.bRetCode, s.player.money)) =
        [(true, 61), (true, 22)] ∧
      ¬ forall s, s ∈ mail [{ wsItemName := [65] }] 60 1 0 1
          [(true, true), (true, true)] fourStacks -> 60 ≤ s.player.money := by
  have hruns : (mail [{ wsItemName := [65] }] 60 1 0 1 [(true, true), (true, true)]
      fourStacks).map (fun s => (s.bRetCode, s.player.money)) =
      [(true, 61), (true, 22)] := by decide +kernel
  refine ⟨by decide, by decide, hruns, ?_⟩
  intro hkeeps
  have hlast : (true, (22 : DWORD)) ∈ (mail [{ wsItemName := [65] }] 60 1 0 1
      [(true, true), (true, true)] fourStacks).map
        fun s => (s.bRetCode, s.player.money) := by
    rw [hruns]
    exact List.mem_cons_of_mem _ List.mem_cons_self
  rcases List.mem_map.mp hlast with ⟨s, hs, hpair⟩
  have hkept := hkeeps s hs
  rw [(Prod.mk.inj hpair).right] at hkept
  exact absurd hkept (by decide)

theorem mail_keeps_iff_fourStacks :
    (forall s, s ∈ mail [{ wsItemName := [65] }] 60 1 0 1 [(true, true), (true, true)]
        fourStacks -> 60 ≤ s.player.money) ↔
      forall i, 1 ≤ i ->
        Sends [{ wsItemName := [65] }] 0 1 [(true, true), (true, true)]
          fourStacks.bag i ->
        ¬ ((1 : DWORD).toNat < i * (fourStacks.money.toNat - (60 : DWORD).toNat -
            (1 : DWORD).toNat) ∧
          i * (fourStacks.money.toNat - (60 : DWORD).toNat - (1 : DWORD).toNat) <
            (60 : DWORD).toNat + (1 : DWORD).toNat) :=
  mail_keeps_iff (by decide) (by decide)

end CMailAction
end Game
end BnsKorea
