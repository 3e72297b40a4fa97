import BnsKorea.Game.MailAction

/-!
# Mails of supplies

The list of names is worked off over several mails.  A name without a count has
every stack attached, a name with one the first stack only, and a mail is closed
before a name when three stacks are in it.
-/

namespace BnsKorea
namespace Game
namespace CMailAction

variable {bag : Bag} {itm : MailItemContent} {items V VecBag : List CBag}
  {R done rest : List MailItemContent} {p p' : Player} {mails : List MailParm}
  {Mail : MailParm} {d : DWORD} {wsItemName : WString}

/-!
## What is attached for a name
-/

/-- Every stack of the item, or the first of them where a count is given. -/
def attach (items : List CBag) (itm : MailItemContent) : List CBag :=
  (if itm.dwCount = 0 then stacksOf itm.wsItemName items
    else (stacksOf itm.wsItemName items).take 1).map (CBag.setMailCount itm.dwCount)

theorem attach_cons_ne {Item : CBag} (h : Item.Name ≠ itm.wsItemName) :
    attach (Item :: items) itm = attach items itm := by
  unfold attach
  rw [stacksOf_of_ne h]

theorem mailCount_le_iff (Item : CBag) :
    itm.dwCount ≥ (Item.setMailCount itm.dwCount).uMailCount ↔ itm.dwCount ≠ 0 := by
  have hcount := CBag.setMailCount_count itm.dwCount Item
  have hpos := Item.getCount_bounds.left
  rw [ge_iff_le, UInt32.le_iff_toNat_le, hcount]
  by_cases hzero : itm.dwCount = 0
  · rw [if_pos hzero, hzero]
    refine ⟨fun hle => absurd hle (Nat.not_le.mpr hpos), fun hne => absurd rfl hne⟩
  · rw [if_neg hzero]
    exact ⟨fun _ => hzero, fun _ => Nat.min_le_left _ _⟩

theorem attachSupport_eq (itm : MailItemContent) (items VecBag : List CBag) :
    attachSupport itm items VecBag = VecBag ++ attach items itm := by
  induction items generalizing VecBag with
  | nil =>
      unfold attach
      split <;> exact (List.append_nil VecBag).symm
  | cons Item items ih =>
      unfold attachSupport
      by_cases hname : Item.Name = itm.wsItemName
      · rw [if_pos hname]
        show (if itm.dwCount ≥ (Item.setMailCount itm.dwCount).uMailCount then _
          else attachSupport itm items _) = _
        unfold attach
        rw [stacksOf_of_eq hname]
        by_cases hzero : itm.dwCount = 0
        · rw [if_neg (fun hle => (mailCount_le_iff Item).mp hle hzero), ih,
            List.append_assoc, attach, if_pos hzero, if_pos hzero]
          rfl
        · rw [if_pos ((mailCount_le_iff Item).mpr hzero), if_neg hzero]
          rfl
      · rw [if_neg hname, ih, attach_cons_ne hname]

theorem mem_attach {Item : CBag} (h : Item ∈ attach items itm) :
    exists b, b ∈ items ∧ Item = b.setMailCount itm.dwCount ∧
      Item.Name = itm.wsItemName := by
  rcases List.mem_map.mp h with ⟨b, hb, heq⟩
  have hstack : b ∈ stacksOf itm.wsItemName items := by
    split at hb
    · exact hb
    · exact List.mem_of_mem_take hb
  rcases List.mem_filter.mp hstack with ⟨hmem, hname⟩
  refine ⟨b, hmem, heq.symm, ?_⟩
  rw [← heq, CBag.setMailCount_name]
  simpa using hname

/-- What the names have attached. -/
abbrev attachAll (items : List CBag) (R : List MailItemContent) : List CBag :=
  R.flatMap (attach items)

theorem attach_without (h : itm.wsItemName ∉ done.map MailItemContent.wsItemName) :
    attach (bag.without (attachAll bag.items done)).items itm =
      attach bag.items itm := by
  unfold attach
  rw [Bag.stacksOf_without]
  intro Item hItem
  rcases List.mem_flatMap.mp hItem with ⟨other, hother, hattached⟩
  rcases mem_attach hattached with ⟨b, hb, heq, hname⟩
  rw [heq] at hname ⊢
  refine ⟨b, hb, CBag.setMailCount_index _ b, ?_⟩
  rw [CBag.setMailCount_name] at hname
  rw [hname]
  intro hsame
  exact h (List.mem_map.mpr ⟨other, hother, hsame⟩)

/-!
## One mail
-/

theorem supportLoop_eq (items : List CBag) (R : List MailItemContent)
    (VecBag : List CBag) :
    exists done rest, R = done ++ rest ∧
      supportLoop items R VecBag = (rest, VecBag ++ attachAll items done) ∧
      (rest ≠ [] -> (VecBag ++ attachAll items done).length = 3) ∧
      forall before itm after, done = before ++ itm :: after ->
        (VecBag ++ attachAll items before).length ≠ 3 := by
  induction R generalizing VecBag with
  | nil =>
      refine ⟨[], [], rfl, ?_, fun hne => absurd rfl hne, ?_⟩
      · rw [attachAll, List.flatMap_nil, List.append_nil]
        rfl
      · intro before itm after hsplit
        exact absurd hsplit.symm (List.append_ne_nil_of_right_ne_nil before (by simp))
  | cons itm R ih =>
      unfold supportLoop
      by_cases hfull : VecBag.length = 3
      · refine ⟨[], itm :: R, rfl, ?_, fun _ => ?_, ?_⟩
        · rw [if_pos hfull, attachAll, List.flatMap_nil, List.append_nil]
        · rw [attachAll, List.flatMap_nil, List.append_nil, hfull]
        · intro before other after hsplit
          exact absurd hsplit.symm
            (List.append_ne_nil_of_right_ne_nil before (by simp))
      · rcases ih (attachSupport itm items VecBag) with
          ⟨done, rest, hR, hloop, hclosed, hopen⟩
        rw [attachSupport_eq] at hloop hclosed hopen
        have hassoc : forall before : List MailItemContent,
            VecBag ++ attachAll items (itm :: before) =
              VecBag ++ attach items itm ++ attachAll items before := by
          intro before
          rw [attachAll, List.flatMap_cons, List.append_assoc]
        refine ⟨itm :: done, rest, ?_, ?_, ?_, ?_⟩
        · rw [hR]
          rfl
        · rw [if_neg hfull, attachSupport_eq, hloop, hassoc]
        · rw [hassoc]
          exact hclosed
        · intro before other after hsplit
          cases before with
          | nil => rwa [attachAll, List.flatMap_nil, List.append_nil]
          | cons first before =>
              rcases List.cons.inj hsplit with ⟨hfirst, hsplit⟩
              rw [← hfirst, hassoc]
              exact hopen before other after hsplit

/-- What is attached to the first mail, and the names that are left. -/
structure Filled (bag : Bag) (R done rest : List MailItemContent) : Prop where
  split : R = done ++ rest
  filled : setMailSupportItemToList bag R [] = (rest, attachAll bag.items done)
  closed : rest ≠ [] -> (attachAll bag.items done).length = 3
  open_ : forall before itm after, done = before ++ itm :: after ->
    (attachAll bag.items before).length ≠ 3

theorem filled_of_ne (hbag : bag.items ≠ []) (R : List MailItemContent) :
    exists done rest, Filled bag R done rest := by
  rcases supportLoop_eq bag.items R [] with ⟨done, rest, hR, hloop, hclosed, hopen⟩
  refine ⟨done, rest, hR, ?_, hclosed, hopen⟩
  unfold setMailSupportItemToList
  rw [if_neg (fun hzero => hbag (List.length_eq_zero_iff.mp hzero)), hloop]
  rfl

theorem Filled.rest_lt (h : Filled bag R done rest) (hsome : rest ≠ []) :
    rest.length < R.length := by
  have hdone : done ≠ [] := by
    intro hnil
    have hclosed := h.closed hsome
    rw [hnil] at hclosed
    exact absurd hclosed (show ¬ ([] : List CBag).length = 3 by decide)
  have hpos := List.length_pos_iff.mpr hdone
  rw [h.split, List.length_append]
  omega

theorem filled_of_nil (hbag : bag.items = []) (R : List MailItemContent) :
    setMailSupportItemToList bag R [] = (R, []) := by
  unfold setMailSupportItemToList
  rw [hbag]
  rfl

/-!
## The mails of a run
-/

/-- The mails of a list of names, and the player behind them. -/
inductive Mailed (d : DWORD) : List MailItemContent -> Player -> List MailParm ->
    Player -> Prop where
  | last {R : List MailItemContent} {p : Player}
      (hnone : (setMailSupportItemToList p.bag R []).1 = []) :
      Mailed d R p [supportMail d R p] (p.mailed (supportMail d R p))
  | more {R : List MailItemContent} {p p' : Player} {mails : List MailParm}
      (hsome : (setMailSupportItemToList p.bag R []).1 ≠ [])
      (hrest : Mailed d (setMailSupportItemToList p.bag R []).1
        (p.mailed (supportMail d R p)) mails p') :
      Mailed d R p (supportMail d R p :: mails) p'

theorem mailItemSupport_iff :
    (exists fuel, mailItemSupport d fuel R p = some (mails, p')) ↔
      Mailed d R p mails p' := by
  constructor
  · intro h
    rcases h with ⟨fuel, hrun⟩
    induction fuel generalizing R p mails p' with
    | zero => cases hrun
    | succ fuel ih =>
        unfold mailItemSupport at hrun
        by_cases hnone : (setMailSupportItemToList p.bag R []).1 = []
        · change (if (setMailSupportItemToList p.bag R []).1.length = 0 then _
            else _) = _ at hrun
          rw [if_pos (List.length_eq_zero_iff.mpr hnone)] at hrun
          rcases Prod.mk.inj (Option.some.inj hrun) with ⟨hmails, hp⟩
          rw [← hmails, ← hp]
          exact Mailed.last hnone
        · change (if (setMailSupportItemToList p.bag R []).1.length = 0 then _
            else _) = _ at hrun
          rw [if_neg (fun hzero => hnone (List.length_eq_zero_iff.mp hzero))] at hrun
          rcases Option.map_eq_some_iff.mp hrun with ⟨⟨others, q⟩, hrest, heq⟩
          rcases Prod.mk.inj heq with ⟨hmails, hp⟩
          rw [← hmails, ← hp]
          exact Mailed.more hnone (ih hrest)
  · intro h
    induction h with
    | last hnone =>
        refine ⟨1, ?_⟩
        exact if_pos (List.length_eq_zero_iff.mpr hnone)
    | more hsome _ ih =>
        rcases ih with ⟨fuel, hrun⟩
        refine ⟨fuel + 1, ?_⟩
        unfold mailItemSupport
        show (if _ then _ else _) = _
        rw [if_neg (fun hzero => hsome (List.length_eq_zero_iff.mp hzero)), hrun]
        rfl

theorem Filled.mail (h : Filled p.bag R done rest) :
    (setMailSupportItemToList p.bag R []).1 = rest ∧
      (supportMail d R p).vlst = attachAll p.bag.items done ∧
      (p.mailed (supportMail d R p)).bag =
        p.bag.without (attachAll p.bag.items done) := by
  have hvlst : (supportMail d R p).vlst = attachAll p.bag.items done :=
    congrArg Prod.snd h.filled
  refine ⟨congrArg Prod.fst h.filled, hvlst, ?_⟩
  show p.bag.without (supportMail d R p).vlst = _
  rw [hvlst]

theorem not_mailed_of_nil (hbag : p.bag.items = []) (hR : R ≠ []) :
    ¬ Mailed d R p mails p' := by
  intro h
  induction h with
  | last hnone =>
      rw [filled_of_nil hbag] at hnone
      exact hR hnone
  | more hsome _ ih =>
      refine ih ?_ hsome
      show List.filterMap _ _ = []
      rw [hbag]
      rfl

theorem more_bag_ne (hsome : (setMailSupportItemToList p.bag R []).1 ≠ [])
    (hrest : Mailed d (setMailSupportItemToList p.bag R []).1
      (p.mailed (supportMail d R p)) mails p') : p.bag.items ≠ [] := by
  intro hnil
  refine not_mailed_of_nil ?_ hsome hrest
  show List.filterMap _ _ = []
  rw [hnil]
  rfl

/-- The names of a list, no two alike. -/
abbrev Distinct (R : List MailItemContent) : Prop :=
  (R.map MailItemContent.wsItemName).Nodup

theorem attachAll_without (hdistinct : Distinct (done ++ rest)) :
    attachAll (bag.without (attachAll bag.items done)).items rest =
      attachAll bag.items rest := by
  refine List.flatMap_congr ?_
  intro itm hitm
  refine attach_without ?_
  rw [Distinct, List.map_append] at hdistinct
  intro hmem
  exact List.disjoint_of_nodup_append hdistinct hmem (List.mem_map_of_mem hitm)

theorem distinct_later (h : Distinct (done ++ rest)) : Distinct rest := by
  rw [Distinct, List.map_append] at h
  exact (List.nodup_append.mp h).right.left

theorem Filled.distinct (h : Filled bag R done rest) (hdistinct : Distinct R) :
    Distinct rest := by
  rw [h.split] at hdistinct
  exact distinct_later hdistinct

theorem Mailed.attached (h : Mailed d R p mails p') (hdistinct : Distinct R) :
    mails.flatMap MailParm.vlst = attachAll p.bag.items R := by
  induction h with
  | last hnone =>
      rename_i R p
      rw [List.flatMap_cons, List.flatMap_nil, List.append_nil]
      by_cases hbag : p.bag.items = []
      · have hfilled := filled_of_nil hbag R
        have hR : R = [] := (congrArg Prod.fst hfilled).symm.trans hnone
        show (setMailSupportItemToList p.bag R []).2 = _
        rw [hfilled, hR]
        rfl
      · rcases filled_of_ne hbag R with ⟨done, rest, hfilled⟩
        rcases hfilled.mail (d := d) with ⟨hrest, hvlst, _⟩
        rw [hnone] at hrest
        rw [hvlst, hfilled.split, ← hrest, List.append_nil]
  | more hsome hmailed ih =>
      rename_i R p p' mails
      have hbag := more_bag_ne hsome hmailed
      rcases filled_of_ne hbag R with ⟨done, rest, hfilled⟩
      rcases hfilled.mail (d := d) with ⟨hrest, hvlst, hleft⟩
      rw [hfilled.split] at hdistinct
      rw [hrest] at ih
      rw [List.flatMap_cons, hvlst, ih (distinct_later hdistinct), hleft,
        attachAll_without hdistinct, hfilled.split]
      exact List.flatMap_append.symm

/-!
## Three to a mail
-/

/--
A name's turn behind others: if a mail begins with it something is in the bag, and
what it has attached still goes into the mail that is being filled.
-/
def FitsAt (bag : Bag) (before : List MailItemContent) (itm : MailItemContent) : Prop :=
  (3 ∣ (attachAll bag.items before).length ->
    (bag.without (attachAll bag.items before)).items ≠ []) ∧
    (attachAll bag.items before).length % 3 + (attach bag.items itm).length ≤ 3

def Fits (bag : Bag) (R : List MailItemContent) : Prop :=
  forall before itm after, R = before ++ itm :: after -> FitsAt bag before itm

theorem fits_nil (bag : Bag) : Fits bag [] := by
  intro before itm after hsplit
  have hne : itm :: after ≠ [] := List.cons_ne_nil itm after
  exact absurd hsplit.symm (List.append_ne_nil_of_right_ne_nil before hne)

theorem attachAll_append (items : List CBag) (before after : List MailItemContent) :
    attachAll items (before ++ after) =
      attachAll items before ++ attachAll items after :=
  List.flatMap_append

theorem attachAll_snoc_length (items : List CBag) (before : List MailItemContent)
    (itm : MailItemContent) :
    (attachAll items (before ++ [itm])).length =
      (attachAll items before).length + (attach items itm).length := by
  rw [attachAll_append, List.length_append, attachAll, attachAll, List.flatMap_cons,
    List.flatMap_nil, List.append_nil]

theorem Filled.part_le (h : Filled bag R done rest) (hfits : Fits bag R)
    (before after : List MailItemContent) (hdone : done = before ++ after) :
    (attachAll bag.items before).length ≤ 3 := by
  induction before using List.reverseRecOn generalizing after with
  | nil => exact Nat.zero_le 3
  | append_singleton before itm ih =>
      rw [List.append_assoc] at hdone
      have hle := ih ([itm] ++ after) hdone
      have hne := h.open_ before itm after hdone
      have hstep := hfits before itm (after ++ rest) (by
        rw [h.split, hdone, List.append_assoc]
        rfl)
      rw [attachAll_snoc_length]
      have hmod : (attachAll bag.items before).length % 3 =
          (attachAll bag.items before).length := Nat.mod_eq_of_lt (by omega)
      have hroom := hstep.right
      rwa [hmod] at hroom

variable (items) in
theorem part_length {before after : List MailItemContent}
    {itm : MailItemContent} (hdone : done = before ++ itm :: after) :
    (attachAll items before).length + (attach items itm).length ≤
      (attachAll items done).length := by
  have hsplit : done = (before ++ [itm]) ++ after :=
    hdone.trans (List.append_cons before itm after)
  rw [← attachAll_snoc_length, hsplit, attachAll_append items (before ++ [itm]) after,
    List.length_append]
  exact Nat.le_add_right _ _

variable (bag) in
theorem later_attach (hdistinct : Distinct (done ++ rest))
    {before after : List MailItemContent} {itm : MailItemContent}
    (hrest : rest = before ++ itm :: after) :
    attachAll (bag.without (attachAll bag.items done)).items before =
        attachAll bag.items before ∧
      attach (bag.without (attachAll bag.items done)).items itm =
        attach bag.items itm := by
  rw [hrest, Distinct, List.map_append] at hdistinct
  have hdisjoint := List.disjoint_of_nodup_append hdistinct
  constructor
  · refine List.flatMap_congr ?_
    intro other hother
    refine attach_without fun hmem => hdisjoint hmem ?_
    exact List.mem_map_of_mem (List.mem_append_left _ hother)
  · refine attach_without fun hmem => hdisjoint hmem ?_
    exact List.mem_map_of_mem (List.mem_append_right _ List.mem_cons_self)

theorem Filled.fitsAt_iff (h : Filled bag R done rest) (hdistinct : Distinct R)
    {before after : List MailItemContent} {itm : MailItemContent}
    (hrest : rest = before ++ itm :: after) :
    FitsAt bag (done ++ before) itm ↔
      FitsAt (bag.without (attachAll bag.items done)) before itm := by
  have hne : rest ≠ [] := by
    rw [hrest]
    exact List.append_ne_nil_of_right_ne_nil before (List.cons_ne_nil itm after)
  rw [h.split] at hdistinct
  rcases later_attach bag hdistinct hrest with ⟨hbefore, hitm⟩
  unfold FitsAt
  rw [hbefore, hitm, attachAll_append, Bag.without_append, List.length_append,
    h.closed hne, Nat.add_mod_left, Nat.dvd_add_right (Nat.dvd_refl 3)]

theorem Filled.fits_iff (h : Filled bag R done rest) (hbag : bag.items ≠ [])
    (hdistinct : Distinct R) :
    Fits bag R ↔ (attachAll bag.items done).length ≤ 3 ∧
      Fits (bag.without (attachAll bag.items done)) rest := by
  constructor
  · intro hfits
    refine ⟨h.part_le hfits done [] (List.append_nil done).symm, ?_⟩
    intro before itm after hrest
    refine (h.fitsAt_iff hdistinct hrest).mp (hfits (done ++ before) itm after ?_)
    rw [h.split, hrest, List.append_assoc]
  · intro hparts before itm after hR
    rcases hparts with ⟨hle, hfits⟩
    rw [h.split] at hR
    rcases List.append_eq_append_iff.mp hR with ⟨middle, hbefore, hrest⟩ |
      ⟨middle, hdone, hafter⟩
    · rw [hbefore]
      exact (h.fitsAt_iff hdistinct hrest).mpr (hfits middle itm after hrest)
    · cases middle with
      | nil =>
          have hrest : rest = [] ++ itm :: after := hafter.symm
          rw [List.append_nil] at hdone
          have hstep := (h.fitsAt_iff hdistinct hrest).mpr (hfits [] itm after hrest)
          rwa [List.append_nil, hdone] at hstep
      | cons first middle =>
          rcases List.cons.inj hafter with ⟨hfirst, _⟩
          rw [← hfirst] at hdone
          have hne := h.open_ before itm middle hdone
          have hpart := part_length bag.items hdone
          have hlt : (attachAll bag.items before).length < 3 := by omega
          refine ⟨fun hthird => ?_, by rw [Nat.mod_eq_of_lt hlt]; omega⟩
          have hzero := Nat.eq_zero_of_dvd_of_lt hthird hlt
          rw [List.length_eq_zero_iff.mp hzero, Bag.without_nil]
          exact hbag

theorem left_of_nil (bag : Bag) : setMailSupportItemToList bag [] [] = ([], []) := by
  unfold setMailSupportItemToList
  split <;> rfl

theorem mailed_of_fits (d : DWORD) (R : List MailItemContent) (p : Player)
    (hdistinct : Distinct R) (hfits : Fits p.bag R) :
    exists mails p', Mailed d R p mails p' ∧
      forall Mail, Mail ∈ mails -> Mail.vlst.length ≤ 3 := by
  induction hn : R.length using Nat.strong_induction_on generalizing R p with
  | _ n ih =>
      cases R with
      | nil =>
          have hnone := left_of_nil p.bag
          refine ⟨_, _, Mailed.last (congrArg Prod.fst hnone), ?_⟩
          intro Mail hMail
          rw [List.mem_singleton.mp hMail]
          show (setMailSupportItemToList p.bag [] []).2.length ≤ 3
          rw [hnone]
          exact Nat.zero_le 3
      | cons itm R =>
          have hbag : p.bag.items ≠ [] := by
            have hfirst := (hfits [] itm R rfl).left (Nat.dvd_zero 3)
            rwa [attachAll, List.flatMap_nil, Bag.without_nil] at hfirst
          rcases filled_of_ne hbag (itm :: R) with ⟨done, rest, hfilled⟩
          rcases hfilled.mail (d := d) with ⟨hrest, hvlst, hleft⟩
          rcases (hfilled.fits_iff hbag hdistinct).mp hfits with ⟨hthree, hlater⟩
          by_cases hnone : rest = []
          · refine ⟨_, _, Mailed.last (hrest.trans hnone), ?_⟩
            intro Mail hMail
            rw [List.mem_singleton.mp hMail, hvlst]
            exact hthree
          · have hlt : rest.length < n := hn ▸ hfilled.rest_lt hnone
            have hdistinct := hfilled.distinct hdistinct
            rw [← hleft] at hlater
            rcases ih rest.length hlt rest _ hdistinct hlater rfl with
              ⟨mails, p', hmailed, hall⟩
            rw [← hrest] at hnone hmailed
            refine ⟨_, p', Mailed.more hnone hmailed, ?_⟩
            intro Mail hMail
            rcases List.mem_cons.mp hMail with heq | hMail
            · rw [heq, hvlst]
              exact hthree
            · exact hall Mail hMail

theorem Mailed.fits (h : Mailed d R p mails p') (hdistinct : Distinct R)
    (hthree : forall Mail, Mail ∈ mails -> Mail.vlst.length ≤ 3) : Fits p.bag R := by
  induction h with
  | last hnone =>
      rename_i R p
      by_cases hbag : p.bag.items = []
      · rw [filled_of_nil hbag] at hnone
        rw [show R = [] from hnone]
        exact fits_nil p.bag
      · rcases filled_of_ne hbag R with ⟨done, rest, hfilled⟩
        rcases hfilled.mail (d := d) with ⟨hrest, hvlst, _⟩
        refine (hfilled.fits_iff hbag hdistinct).mpr ⟨?_, ?_⟩
        · have hle := hthree _ List.mem_cons_self
          rwa [hvlst] at hle
        · rw [← hrest, hnone]
          exact fits_nil _
  | more hsome hmailed ih =>
      rename_i R p p' mails
      have hbag := more_bag_ne hsome hmailed
      rcases filled_of_ne hbag R with ⟨done, rest, hfilled⟩
      rcases hfilled.mail (d := d) with ⟨hrest, hvlst, hleft⟩
      refine (hfilled.fits_iff hbag hdistinct).mpr ⟨?_, ?_⟩
      · have hle := hthree _ List.mem_cons_self
        rwa [hvlst] at hle
      · rw [hrest, hleft] at ih
        exact ih (hfilled.distinct hdistinct)
          fun Mail hMail => hthree Mail (List.mem_cons_of_mem _ hMail)

/-!
## The money
-/

def sentMoney (mails : List MailParm) : Nat :=
  (mails.map fun Mail => Mail.dwMoney.toNat).sum

theorem supportMail_more (R : List MailItemContent) (h : d < p.money) :
    (supportMail d R p).dwMoney = d ∧
      (p.mailed (supportMail d R p)).money.toNat = p.money.toNat - d.toNat := by
  have hmoney : (supportMail d R p).dwMoney = d := if_pos h
  refine ⟨hmoney, ?_⟩
  show (p.money - (supportMail d R p).dwMoney).toNat = _
  rw [hmoney]
  exact UInt32.toNat_sub_of_le _ _ (UInt32.le_of_lt h)

theorem supportMail_enough (R : List MailItemContent) (h : p.money ≤ d) :
    (supportMail d R p).dwMoney = 0 ∧
      (p.mailed (supportMail d R p)).money = p.money := by
  have hmoney : (supportMail d R p).dwMoney = 0 := if_neg (UInt32.not_lt.mpr h)
  refine ⟨hmoney, ?_⟩
  show p.money - (supportMail d R p).dwMoney = _
  rw [hmoney, UInt32.sub_zero]

theorem sentMoney_cons (Mail : MailParm) (mails : List MailParm) :
    sentMoney (Mail :: mails) = Mail.dwMoney.toNat + sentMoney mails :=
  List.sum_cons

theorem Mailed.money_enough (h : Mailed d R p mails p') (hle : p.money ≤ d) :
    sentMoney mails = 0 := by
  induction h with
  | last hnone =>
      rename_i R p
      rw [sentMoney_cons, (supportMail_enough R hle).left]
      rfl
  | more hsome hrest ih =>
      rename_i R p p' mails
      rcases supportMail_enough R hle with ⟨hmoney, hsame⟩
      rw [sentMoney_cons, hmoney, ih (by rw [hsame]; exact hle)]
      rfl

theorem Mailed.money_zero (h : Mailed d R p mails p') (hzero : d = 0) :
    sentMoney mails = 0 := by
  have hnone : forall R (p : Player), (supportMail d R p).dwMoney = 0 := by
    intro R p
    show (if p.money > d then d else 0) = 0
    rw [hzero, ite_self]
  induction h with
  | last _ =>
      rw [sentMoney_cons, hnone]
      rfl
  | more _ _ ih =>
      rw [sentMoney_cons, hnone, ih]
      rfl

theorem Mailed.length_pos (h : Mailed d R p mails p') : 0 < mails.length := by
  cases h with
  | last _ => exact Nat.one_pos
  | more _ _ => exact Nat.succ_pos _

theorem Mailed.money_iff (h : Mailed d R p mails p') (hlt : d < p.money) :
    sentMoney mails = d.toNat ↔
      d = 0 ∨ p.money.toNat ≤ 2 * d.toNat ∨ mails.length = 1 := by
  have hlt' := UInt32.lt_iff_toNat_lt.mp hlt
  cases h with
  | last _ =>
      rw [sentMoney_cons, (supportMail_more R hlt).left]
      exact ⟨fun _ => Or.inr (Or.inr rfl), fun _ => rfl⟩
  | more hsome hrest =>
      rename_i others
      rcases supportMail_more R hlt with ⟨hmoney, hleft⟩
      have hmany : (supportMail d R p :: others).length ≠ 1 := by
        have hpos := hrest.length_pos
        rw [List.length_cons]
        omega
      rw [sentMoney_cons, hmoney]
      by_cases henough : (p.mailed (supportMail d R p)).money ≤ d
      · have hle := UInt32.le_iff_toNat_le.mp henough
        rw [hrest.money_enough henough]
        exact ⟨fun _ => Or.inr (Or.inl (by omega)), fun _ => rfl⟩
      · have hmore := UInt32.not_le.mp henough
        have hmore' := UInt32.lt_iff_toNat_lt.mp hmore
        have hagain : d.toNat ≤ sentMoney others := by
          cases hrest with
          | last _ =>
              rw [sentMoney_cons, (supportMail_more _ hmore).left]
              exact Nat.le_add_right _ _
          | more _ _ =>
              rw [sentMoney_cons, (supportMail_more _ hmore).left]
              exact Nat.le_add_right _ _
        constructor
        · intro hsum
          exact Or.inl (UInt32.toNat_inj.mp (by show d.toNat = 0; omega))
        · intro hcases
          rcases hcases with hzero | htwice | hone
          · have hnone : sentMoney others = 0 := hrest.money_zero hzero
            omega
          · omega
          · exact absurd hone hmany

theorem Mailed.length_iff (h : Mailed d R p mails p')
    (hfits : Fits p.bag R) :
    mails.length = 1 ↔ (attachAll p.bag.items R.dropLast).length < 3 := by
  cases h with
  | last hnone =>
      refine ⟨fun _ => ?_, fun _ => rfl⟩
      by_cases hR : R = []
      · rw [hR]
        exact Nat.zero_lt_succ 2
      · have hbag : p.bag.items ≠ [] := by
          intro hnil
          rw [filled_of_nil hnil] at hnone
          exact hR hnone
        rcases filled_of_ne hbag R with ⟨done, rest, hfilled⟩
        have hdone : done = R.dropLast ++ [R.getLast hR] := by
          rw [List.dropLast_append_getLast hR, hfilled.split,
            ← (hfilled.mail (d := d)).left, hnone, List.append_nil]
        have hne := hfilled.open_ R.dropLast (R.getLast hR) [] hdone
        have hle := hfilled.part_le hfits R.dropLast [R.getLast hR] hdone
        omega
  | more hsome hrest =>
      have hbag := more_bag_ne hsome hrest
      have hpos := hrest.length_pos
      rcases filled_of_ne hbag R with ⟨done, rest, hfilled⟩
      rw [(hfilled.mail (d := d)).left] at hsome
      have hclosed := hfilled.closed hsome
      constructor
      · intro hone
        rw [List.length_cons] at hone
        omega
      · intro hlt
        rw [hfilled.split, List.dropLast_append_of_ne_nil hsome, attachAll_append,
          List.length_append] at hlt
        omega

/-!
## The amounts
-/

def amount (items : List CBag) (wsItemName : WString) : Nat :=
  (counts (stacksOf wsItemName items)).sum

def requested (items : List CBag) (itm : MailItemContent) : Nat :=
  if itm.dwCount = 0 then amount items itm.wsItemName
  else min itm.dwCount.toNat (amount items itm.wsItemName)

def mailCounts (VecBag : List CBag) : Nat :=
  (VecBag.map fun Item => Item.uMailCount.toNat).sum

def mailedOf (mails : List MailParm) (wsItemName : WString) : Nat :=
  mailCounts (stacksOf wsItemName (mails.flatMap MailParm.vlst))

/-- Where a count is given the first stack covers it, or is the only one. -/
def Covers (items : List CBag) (itm : MailItemContent) : Prop :=
  itm.dwCount ≠ 0 -> forall b others,
    stacksOf itm.wsItemName items = b :: others ->
      others = [] ∨ itm.dwCount ≤ b.getCount

theorem mailCounts_all (dwCount : DWORD) (h : dwCount = 0) (stacks_ : List CBag) :
    mailCounts (stacks_.map (CBag.setMailCount dwCount)) = (counts stacks_).sum := by
  induction stacks_ with
  | nil => rfl
  | cons b others ih =>
      have hcount := CBag.setMailCount_count dwCount b
      rw [if_pos h] at hcount
      rw [mailCounts, List.map_cons, List.map_cons, List.sum_cons, ← mailCounts, ih,
        hcount]
      rfl

theorem counts_sum_pos (b : CBag) (others : List CBag) :
    0 < (counts (b :: others)).sum := by
  have hpos := b.getCount_bounds.left
  rw [counts, List.map_cons, List.sum_cons]
  omega

theorem mailCounts_attach_iff (items : List CBag) (itm : MailItemContent) :
    mailCounts (attach items itm) = requested items itm ↔ Covers items itm := by
  unfold attach requested amount Covers
  by_cases hzero : itm.dwCount = 0
  · rw [if_pos hzero, if_pos hzero, mailCounts_all _ hzero]
    exact ⟨fun _ hne => absurd hzero hne, fun _ => rfl⟩
  · rw [if_neg hzero, if_neg hzero]
    cases hstacks : stacksOf itm.wsItemName items with
    | nil =>
        exact ⟨fun _ _ b others hsplit => (nomatch hsplit),
          fun _ => (Nat.min_zero _).symm⟩
    | cons b others =>
        have hcount := CBag.setMailCount_count itm.dwCount b
        have hpos := b.getCount_bounds.left
        rw [if_neg hzero] at hcount
        have hfirst : mailCounts (((b :: others).take 1).map
            (CBag.setMailCount itm.dwCount)) =
            min itm.dwCount.toNat b.getCount.toNat := hcount
        have hsum : (counts (b :: others)).sum =
            b.getCount.toNat + (counts others).sum := List.sum_cons
        rw [hfirst, hsum]
        constructor
        · intro hsame _ b' others' hsplit
          rcases List.cons.inj hsplit with ⟨hb, hothers⟩
          rw [← hb, ← hothers]
          cases others with
          | nil => exact Or.inl rfl
          | cons c more =>
              have hmore := counts_sum_pos c more
              refine Or.inr (UInt32.le_iff_toNat_le.mpr ?_)
              omega
        · intro hcovers
          rcases hcovers hzero b others rfl with hnone | hle
          · rw [hnone]
            rfl
          · have hle' := UInt32.le_iff_toNat_le.mp hle
            omega

theorem stacksOf_append (wsItemName : WString) (xs ys : List CBag) :
    stacksOf wsItemName (xs ++ ys) = stacksOf wsItemName xs ++ stacksOf wsItemName ys :=
  List.filter_append xs ys

theorem stacksOf_attach_eq (items : List CBag) (itm : MailItemContent) :
    stacksOf itm.wsItemName (attach items itm) = attach items itm := by
  refine List.filter_eq_self.mpr ?_
  intro Item hItem
  rcases mem_attach hItem with ⟨_, _, _, hname⟩
  simpa using hname

theorem stacksOf_attachAll_none (h : wsItemName ∉ R.map MailItemContent.wsItemName) :
    stacksOf wsItemName (attachAll items R) = [] := by
  refine List.filter_eq_nil_iff.mpr ?_
  intro Item hItem hname
  rcases List.mem_flatMap.mp hItem with ⟨other, hother, hattached⟩
  rcases mem_attach hattached with ⟨_, _, _, hown⟩
  rw [decide_eq_true_iff] at hname
  exact h (List.mem_map.mpr ⟨other, hother, hown.symm.trans hname⟩)

theorem stacksOf_attachAll (items : List CBag) (hdistinct : Distinct R)
    (hitm : itm ∈ R) :
    stacksOf itm.wsItemName (attachAll items R) = attach items itm := by
  rcases List.append_of_mem hitm with ⟨before, after, hR⟩
  rw [hR, Distinct, List.map_append, List.map_cons] at hdistinct
  have hafter := (List.nodup_cons.mp (List.nodup_append.mp hdistinct).right.left).left
  have hbefore : itm.wsItemName ∉ before.map MailItemContent.wsItemName :=
    fun hmem => List.disjoint_of_nodup_append hdistinct hmem List.mem_cons_self
  rw [hR, attachAll_append, stacksOf_append, stacksOf_attachAll_none hbefore,
    attachAll, List.flatMap_cons, stacksOf_append, stacksOf_attach_eq,
    stacksOf_attachAll_none hafter, List.nil_append, List.append_nil]

/-!
## The run
-/

/-- The run ends, with three to a mail, the amounts asked for, and the money once. -/
def Delivers (d : DWORD) (R : List MailItemContent) (p : Player) : Prop :=
  exists fuel mails p', mailItemSupport d fuel R p = some (mails, p') ∧
    (forall Mail, Mail ∈ mails -> Mail.vlst.length ≤ 3) ∧
    (forall itm, itm ∈ R ->
      mailedOf mails itm.wsItemName = requested p.bag.items itm) ∧
    (d < p.money -> sentMoney mails = d.toNat)

/--
It does if and only if the first stacks cover what is asked for, the mails fit, and
the money does not last for a second mail.
-/
theorem mailItemSupport_delivers_iff (hdistinct : Distinct R) :
    Delivers d R p ↔
      (forall itm, itm ∈ R -> Covers p.bag.items itm) ∧
        Fits p.bag R ∧
        (p.money ≤ d ∨ d = 0 ∨ p.money.toNat ≤ 2 * d.toNat ∨
          (attachAll p.bag.items R.dropLast).length < 3) := by
  have hamounts : forall {mails p'}, Mailed d R p mails p' -> forall itm, itm ∈ R ->
      (mailedOf mails itm.wsItemName = requested p.bag.items itm ↔
        Covers p.bag.items itm) := by
    intro mails p' hmailed itm hitm
    rw [mailedOf, hmailed.attached hdistinct,
      stacksOf_attachAll p.bag.items hdistinct hitm]
    exact mailCounts_attach_iff p.bag.items itm
  constructor
  · intro hdelivers
    rcases hdelivers with ⟨fuel, mails, p', hrun, hthree, hall, hmoney⟩
    have hmailed := mailItemSupport_iff.mp ⟨fuel, hrun⟩
    have hfits := hmailed.fits hdistinct hthree
    refine ⟨fun itm hitm => (hamounts hmailed itm hitm).mp (hall itm hitm), hfits, ?_⟩
    by_cases hlt : d < p.money
    · refine Or.inr ?_
      rw [← hmailed.length_iff hfits]
      exact (hmailed.money_iff hlt).mp (hmoney hlt)
    · exact Or.inl (UInt32.not_lt.mp hlt)
  · intro hparts
    rcases hparts with ⟨hcovers, hfits, hmoney⟩
    rcases mailed_of_fits d R p hdistinct hfits with ⟨mails, p', hmailed, hthree⟩
    rcases mailItemSupport_iff.mpr hmailed with ⟨fuel, hrun⟩
    refine ⟨fuel, mails, p', hrun, hthree,
      fun itm hitm => (hamounts hmailed itm hitm).mpr (hcovers itm hitm), ?_⟩
    intro hlt
    refine (hmailed.money_iff hlt).mpr ?_
    rw [hmailed.length_iff hfits]
    rcases hmoney with hle | hrest
    · exact absurd hlt (UInt32.not_lt.mpr hle)
    · exact hrest

/-!
## Two stacks of five
-/

def twoFives : Player where
  money := 0
  bag :=
    { items := [{ m_uIndex := 0, dwCountWord := 5, Name := [65] },
        { m_uIndex := 1, dwCountWord := 5, Name := [65] }]
      nodup := by decide }

/-- Seven are asked for, and five are mailed. -/
theorem twoFives_short :
    requested twoFives.bag.items { wsItemName := [65], dwCount := 7 } = 7 ∧
      (forall fuel mails p',
        mailItemSupport 0 fuel [{ wsItemName := [65], dwCount := 7 }] twoFives =
          some (mails, p') -> mailedOf mails [65] = 5) ∧
      ¬ Delivers 0 [{ wsItemName := [65], dwCount := 7 }] twoFives := by
  have hrequested : requested twoFives.bag.items
      { wsItemName := [65], dwCount := 7 } = 7 := by decide +kernel
  have hshort : forall fuel mails p',
      mailItemSupport 0 fuel [{ wsItemName := [65], dwCount := 7 }] twoFives =
        some (mails, p') -> mailedOf mails [65] = 5 := by
    intro fuel mails p' hrun
    cases mailItemSupport_iff.mp ⟨fuel, hrun⟩ with
    | last _ => decide +kernel
    | more hsome _ => exact absurd (by decide +kernel) hsome
  refine ⟨hrequested, hshort, ?_⟩
  intro hdelivers
  rcases hdelivers with ⟨fuel, mails, p', hrun, _, hall, _⟩
  have hsame := hall { wsItemName := [65], dwCount := 7 } List.mem_cons_self
  rw [hrequested, hshort fuel mails p' hrun] at hsame
  exact absurd hsame (by decide)

def twoRequests : List MailItemContent :=
  [{ wsItemName := [65], dwCount := 7 }, { wsItemName := [66], dwCount := 1 }]

theorem mailItemSupport_delivers_iff_twoFives :
    Delivers 0 twoRequests twoFives ↔
      (forall itm, itm ∈ twoRequests -> Covers twoFives.bag.items itm) ∧
        Fits twoFives.bag twoRequests ∧
        (twoFives.money ≤ 0 ∨ (0 : DWORD) = 0 ∨
          twoFives.money.toNat ≤ 2 * (0 : DWORD).toNat ∨
          (attachAll twoFives.bag.items twoRequests.dropLast).length < 3) :=
  mailItemSupport_delivers_iff (by decide)

end CMailAction
end Game
end BnsKorea
