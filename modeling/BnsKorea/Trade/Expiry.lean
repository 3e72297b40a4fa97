import BnsKorea.Library.Thinning
import BnsKorea.Trade.HandOut

/-!
# What leaves a queue

The searches erase entries whose timers ran out and nothing else, so a call
takes out of a queue only what is old or belongs to a removed account, and the
players that stay keep their order.
-/

namespace BnsKorea

open Library

namespace CBnsTrade

variable {T : MyTools} {A : CBnsArea} {ulNow : ULONGLONG}

/-!
## Timers
-/

structure TicksPast (ulNow : ULONGLONG) (itm : ItemSupportInfo) : Prop where
  keepALive : itm.ulKeepALiveTick ≤ ulNow
  take : itm.bTake = true -> itm.ulTakeTick ≤ ulNow

def IsAged (ulNow : ULONGLONG) (itm : ItemSupportInfo) : Prop :=
  itm.ulKeepALiveTick.toNat + 15000 ≤ ulNow.toNat ∨
    (itm.bTake = true ∧ itm.ulTakeTick.toNat + 15000 ≤ ulNow.toNat)

theorem TicksPast.later {itm : ItemSupportInfo} (h : TicksPast ulNow itm)
    {ulLater : ULONGLONG} (hlater : ulNow ≤ ulLater) : TicksPast ulLater itm :=
  ⟨UInt64.le_trans h.keepALive hlater,
    fun htake => UInt64.le_trans (h.take htake) hlater⟩

theorem toNat_elapsed {ulTick : ULONGLONG} (h : ulTick ≤ ulNow) :
    (elapsed ulNow ulTick).toNat = (ulNow.toNat - ulTick.toNat) % 2 ^ 32 := by
  rw [elapsed, UInt64.toNat_toUInt32, UInt64.toNat_sub_of_le _ _ h]

theorem aged_of_le_elapsed {ulTick : ULONGLONG} (h : ulTick ≤ ulNow)
    (helapsed : MAX_DEAL_KEEPALIVE_TIMEOUT ≤ elapsed ulNow ulTick) :
    ulTick.toNat + 15000 ≤ ulNow.toNat := by
  have hle := UInt32.le_iff_toNat_le.mp helapsed
  rw [toNat_elapsed h] at hle
  have hmod := Nat.mod_le (ulNow.toNat - ulTick.toNat) (2 ^ 32)
  have hmax : MAX_DEAL_KEEPALIVE_TIMEOUT.toNat = 15000 := rfl
  omega

theorem aged_of_isTimeOut {itm : ItemSupportInfo} (h : TicksPast ulNow itm)
    (hout : isTimeOut ulNow itm = true) : IsAged ulNow itm := by
  rw [isTimeOut, Bool.or_eq_true, Bool.and_eq_true, decide_eq_true_eq,
    decide_eq_true_eq] at hout
  rcases hout with hkeep | ⟨htake, hold⟩
  · exact Or.inl (aged_of_le_elapsed h.keepALive hkeep)
  · exact Or.inr ⟨htake, aged_of_le_elapsed (h.take htake) hold⟩

/-!
## What one call does
-/

variable (ulNow) in
theorem existItemSupport_thinned (verItemSupport : VerItemSupport)
    (vlst : List ItemSupportInfo) :
    Thinned (fun itm => isTimeOut ulNow itm = true) (fun itm itm' => itm' = itm)
      vlst (existItemSupport T A ulNow verItemSupport vlst).2 := by
  induction vlst with
  | nil => exact Thinned.nil
  | cons itm vlst ih =>
      rw [existItemSupport]
      split
      · rename_i hout
        exact Thinned.dropped hout ih
      · split
        · refine Thinned.refl ?_ _
          intro itm
          rfl
        · exact Thinned.kept rfl ih

variable (ulNow) in
theorem existWareHouse_thinned (wareHouseInfo : WareHouseInfo)
    (bUnSameChannel : Bool) (fn : ItemSupportInfo -> ItemSupportInfo)
    (vlst : List ItemSupportInfo) :
    Thinned (fun itm => isTimeOut ulNow itm = true) (Met T A wareHouseInfo fn)
      vlst (existWareHouse T A ulNow wareHouseInfo bUnSameChannel fn vlst).2 := by
  induction vlst with
  | nil => exact Thinned.nil
  | cons itm vlst ih =>
      rw [existWareHouse]
      split
      · rename_i hout
        exact Thinned.dropped hout ih
      · split
        · rename_i hpick
          rw [Bool.and_eq_true, Bool.not_eq_true'] at hpick
          dsimp only
          split
          · exact Thinned.kept (Met.taken hpick.right hpick.left)
              (Thinned.refl (fun _ => Met.passed) vlst)
          · exact Thinned.kept (Met.told hpick.right) ih
        · exact Thinned.kept Met.passed ih

variable (ulNow) in
theorem joinDeal_thinned (verItemSupport : VerItemSupport)
    (Result : ItemSupportResult) (vlst : List ItemSupportInfo) :
    exists left new,
      (joinDeal T A ulNow verItemSupport Result vlst).2 = left ++ new ∧
      Thinned (fun itm => isTimeOut ulNow itm = true)
        (fun itm itm' => player A itm' = player A itm) vlst left ∧
      (new = [] ∨ new = [newEntry ulNow verItemSupport]) := by
  have hthinned := existItemSupport_thinned (T := T) (A := A) ulNow
    verItemSupport vlst
  cases hfound : (existItemSupport T A ulNow verItemSupport vlst).1 with
  | some p =>
      rcases existItemSupport_found hfound with ⟨hwhole, hself⟩
      rw [(joinDeal_found hfound).left]
      have hsame : forall itms : List ItemSupportInfo, List.Forall₂
          (fun itm itm' => player A itm' = player A itm) itms itms :=
        fun itms => List.forall₂_same.mpr fun _ _ => rfl
      have hput : List.Forall₂ (fun itm itm' => player A itm' = player A itm)
          p.whole (p.put (rejoined ulNow verItemSupport p.here)) :=
        List.rel_append (hsame p.pre)
          (List.Forall₂.cons hself.symm (hsame p.post))
      rw [← hwhole] at hthinned
      refine ⟨_, [], (List.append_nil _).symm, hthinned.rewrite hput ?_,
        Or.inl rfl⟩
      intro itm itm' itm'' heq hplayer
      rw [hplayer, heq]
  | none =>
      rw [joinDeal_missed hfound]
      refine ⟨_, _, rfl, ?_, Or.inr rfl⟩
      exact hthinned.mono (fun _ _ hout => hout) fun itm itm' _ heq => by rw [heq]

theorem removeAccount_thinned (hT : T.ErasesAll)
    (wsAccountName wsPlayerName : WString) (s : CBnsTrade) (q : Queue) :
    Thinned (fun itm => itm.verItemSupport.wsAccountName = wsAccountName)
      (fun itm itm' => itm' = itm) (s.queue q)
      ((removeAccount T wsAccountName wsPlayerName s).queue q) := by
  have hqueue : (removeAccount T wsAccountName wsPlayerName s).queue q =
      (s.queue q).filter fun itm =>
        !(itm.verItemSupport.wsAccountName == wsAccountName) := by
    cases q with
    | itemSupport => exact hT _ _
    | pickItem => exact hT _ _
  rw [hqueue]
  refine (Thinned.filter _ _).mono ?_ fun _ _ _ heq => heq
  intro itm _ hgone
  simpa using hgone

/-!
## Runs
-/

theorem joinDeal_ticks {verItemSupport : VerItemSupport}
    {Result : ItemSupportResult} {vlst : List ItemSupportInfo}
    (h : forall itm, itm ∈ vlst -> TicksPast ulNow itm) (itm : ItemSupportInfo)
    (hitm : itm ∈ (joinDeal T A ulNow verItemSupport Result vlst).2) :
    TicksPast ulNow itm := by
  have hleft := (existItemSupport_sublist (T := T) (A := A) ulNow verItemSupport
    vlst).subset
  cases hfound : (existItemSupport T A ulNow verItemSupport vlst).1 with
  | some p =>
      rcases existItemSupport_found hfound with ⟨hwhole, _⟩
      rw [(joinDeal_found hfound).left] at hitm
      rw [← hwhole] at hleft
      rcases Place.mem_whole_of_mem_put hitm with heq | hmem
      · rw [heq]
        exact ⟨UInt64.le_refl ulNow, (h p.here (hleft Place.mem_whole)).take⟩
      · exact h itm (hleft hmem)
  | none =>
      rw [joinDeal_missed hfound] at hitm
      rcases List.mem_append.mp hitm with hmem | hnew
      · exact h itm (hleft hmem)
      · rw [List.mem_singleton.mp hnew]
        exact ⟨UInt64.le_refl ulNow, nofun⟩

theorem met_ticks {wareHouseInfo taking : WareHouseInfo}
    {itm itm' : ItemSupportInfo}
    (hmet : Met T A wareHouseInfo (takeItem ulNow taking) itm itm')
    (h : TicksPast ulNow itm) : TicksPast ulNow itm' := by
  cases hmet with
  | passed => exact h
  | told => exact ⟨h.keepALive, h.take⟩
  | taken => exact ⟨h.keepALive, fun _ => UInt64.le_refl ulNow⟩

theorem apply_ticks {s : CBnsTrade} {ulNow : ULONGLONG}
    (h : forall q itm, itm ∈ s.queue q -> TicksPast ulNow itm) (call : Call)
    (q : Queue) (itm : ItemSupportInfo)
    (hitm : itm ∈ (apply T A ulNow call s).queue q) : TicksPast ulNow itm := by
  cases call with
  | join q' verItemSupport Result =>
      rcases join_queue (T := T) (A := A) ulNow q' verItemSupport Result s with
        ⟨_, hown, hothers⟩
      by_cases hq : q = q'
      · rw [apply, hq, hown] at hitm
        exact joinDeal_ticks (h q') itm hitm
      · rw [apply, hothers q hq] at hitm
        exact h q itm hitm
  | accept q' wareHouseInfo Result =>
      rcases accept_searches (T := T) (A := A) ulNow q' wareHouseInfo Result s
        with ⟨searched, taking, hsearches⟩
      by_cases hq : q = q'
      · rcases hsearches.met with ⟨kept, hkept, hmet⟩
        rw [apply, hq] at hitm
        rcases exists_met hmet hitm with ⟨old, hold, hmeets⟩
        exact met_ticks hmeets (h q' old (hkept.subset hold))
      · rw [apply, hsearches.others q hq] at hitm
        exact h q itm hitm
  | removeAccount wsAccountName wsPlayerName =>
      exact h q itm
        ((removeAccount_queue wsAccountName wsPlayerName s q).subset hitm)

theorem Reachable.ticks {s : Clocked CBnsTrade} (h : Reachable T A s) (q : Queue)
    (itm : ItemSupportInfo) (hitm : itm ∈ s.state.queue q) :
    TicksPast s.now itm := by
  have hall : forall q itm, itm ∈ s.state.queue q -> TicksPast s.now itm := by
    refine Machine.Run.invariant (fun s : Clocked CBnsTrade =>
      forall q itm, itm ∈ s.state.queue q -> TicksPast s.now itm) ?_ h ?_
    · intro l s hnow _ hs
      exact apply_ticks (fun q itm hitm => (hs q itm hitm).later hnow) l.2
    · intro q itm hitm
      cases q with
      | itemSupport => cases hitm
      | pickItem => cases hitm
  exact hall q itm hitm

def Removable (ulNow : ULONGLONG) (call : Call) (itm : ItemSupportInfo) : Prop :=
  IsAged ulNow itm ∨ exists wsPlayerName,
    call = .removeAccount itm.verItemSupport.wsAccountName wsPlayerName

theorem apply_thinned (hT : T.ErasesAll) {s : CBnsTrade} {ulNow : ULONGLONG}
    (h : forall q itm, itm ∈ s.queue q -> TicksPast ulNow itm) (call : Call)
    (q : Queue) :
    exists left new, (apply T A ulNow call s).queue q = left ++ new ∧
      Thinned (Removable ulNow call)
        (fun itm itm' => player A itm' = player A itm) (s.queue q) left ∧
      (new = [] ∨ exists verItemSupport Result,
        call = .join q verItemSupport Result ∧
          new = [newEntry ulNow verItemSupport]) := by
  have hother : (apply T A ulNow call s).queue q = s.queue q ->
      exists left new, (apply T A ulNow call s).queue q = left ++ new ∧
        Thinned (Removable ulNow call)
          (fun itm itm' => player A itm' = player A itm) (s.queue q) left ∧
        (new = [] ∨ exists verItemSupport Result,
          call = .join q verItemSupport Result ∧
            new = [newEntry ulNow verItemSupport]) := by
    intro hsame
    rw [hsame]
    refine ⟨_, [], (List.append_nil _).symm, Thinned.refl ?_ _, Or.inl rfl⟩
    intro itm
    rfl
  have haged : forall itm, itm ∈ s.queue q -> isTimeOut ulNow itm = true ->
      Removable ulNow call itm :=
    fun itm hitm hout => Or.inl (aged_of_isTimeOut (h q itm hitm) hout)
  cases call with
  | join q' verItemSupport Result =>
      rcases join_queue (T := T) (A := A) ulNow q' verItemSupport Result s with
        ⟨_, hown, hothers⟩
      by_cases hq : q = q'
      · cases hq
        rcases joinDeal_thinned (T := T) (A := A) ulNow verItemSupport Result
          (s.queue q) with ⟨left, new, hafter, hthinned, hnew⟩
        rw [hafter] at hown
        refine ⟨left, new, hown, hthinned.mono haged fun _ _ _ heq => heq, ?_⟩
        rcases hnew with hnew | hnew
        · exact Or.inl hnew
        · exact Or.inr ⟨verItemSupport, Result, rfl, hnew⟩
      · exact hother (hothers q hq)
  | accept q' wareHouseInfo Result =>
      rcases accept_searches (T := T) (A := A) ulNow q' wareHouseInfo Result s
        with ⟨searched, taking, hsearches⟩
      by_cases hq : q = q'
      · cases hq
        have hthinned := existWareHouse_thinned (T := T) (A := A) ulNow searched
          (unSameChannel q) (takeItem ulNow taking) (s.queue q)
        rw [← hsearches.queue] at hthinned
        exact ⟨_, [], (List.append_nil _).symm,
          hthinned.mono haged fun _ _ _ hmet => met_player hmet, Or.inl rfl⟩
      · exact hother (hsearches.others q hq)
  | removeAccount wsAccountName wsPlayerName =>
      have hthinned := removeAccount_thinned hT wsAccountName wsPlayerName s q
      refine ⟨_, [], (List.append_nil _).symm, hthinned.mono ?_ ?_, Or.inl rfl⟩
      · intro itm _ haccount
        exact Or.inr ⟨wsPlayerName, by rw [haccount]⟩
      · intro itm itm' _ heq
        rw [heq]

/--
A queue has one entry of a player at most, and every call leaves what is not old
or removed with its account, each entry with its player and in its place; only a
join appends, the entry of its own player.
-/
theorem Reachable.one_entry_each (hT : T.ErasesAll) {s : Clocked CBnsTrade}
    (h : Reachable T A s) :
    (forall q, ((s.state.queue q).map (player A)).Nodup) ∧
      forall (ulNow : ULONGLONG) (call : Call), s.now ≤ ulNow -> forall q,
        exists left new,
          (apply T A ulNow call s.state).queue q = left ++ new ∧
          Thinned (Removable ulNow call)
            (fun itm itm' => player A itm' = player A itm) (s.state.queue q)
            left ∧
          (new = [] ∨ exists verItemSupport Result,
            call = .join q verItemSupport Result ∧
              new = [newEntry ulNow verItemSupport]) := by
  refine ⟨h.unique, ?_⟩
  intro ulNow call hnow q
  exact apply_thinned hT (fun q itm hitm => (h.ticks q itm hitm).later hnow) call q

theorem depotState_one_entry_each :
    depotState.state.vItemSupport_OnLine.length = 1 ∧
      exists left new, (apply MyTools.standard CBnsArea.initialized 15010
          (Call.removeAccount [] []) depotState.state).queue .itemSupport =
            left ++ new ∧
        Thinned (Removable 15010 (Call.removeAccount [] []))
          (fun itm itm' => player CBnsArea.initialized itm' =
            player CBnsArea.initialized itm)
          (depotState.state.queue .itemSupport) left := by
  rcases (Reachable.one_entry_each MyTools.standard_erasesAll
    depotState_reachable).right 15010 (Call.removeAccount [] []) (by decide)
    .itemSupport with ⟨left, new, hafter, hthinned, _⟩
  exact ⟨by decide, left, new, hafter, hthinned⟩

end CBnsTrade
end BnsKorea
