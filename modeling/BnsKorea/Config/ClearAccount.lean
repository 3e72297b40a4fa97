import Mathlib.Data.List.Infix
import BnsKorea.Config.BnsConfig
import BnsKorea.Console.AccountFile
import BnsKorea.Library.Selections

/-!
# Clearing an account

`ClearAccountConfig` writes the account file anew without one account.  The
console has its own idea of a line: it stops at a terminator, passes over
comments and keeps empty fields.  What it reads afterwards is compared with what
it read before.
-/

namespace BnsKorea
namespace CBnsConfig

open Library Library.Texts Library.Selections
open Console (CAccount isWhiteSpace CR LF comma)
open Console.ConsoleFile
open Updater (Contains)

def fileOf (ls : List WString) : WString :=
  (L "\r\n").intercalate ls

def IsLine (ws : WString) : Prop :=
  CR ∉ ws ∧ LF ∉ ws

instance (ws : WString) : Decidable (IsLine ws) :=
  inferInstanceAs (Decidable (_ ∧ _))

variable {ls : List WString} {str l part : WString} {itm : AccountConfig}
  {a : WString}

/-!
## What the console reads
-/

def readAccount (str : WString) : Option CAccount :=
  if trim isWhiteSpace str ≠ [] ∧ ¬ Contains str (L "//") then account str
  else none

/-- The lines before the first with `--` in it. -/
def before (ls : List WString) : List WString :=
  ls.takeWhile fun str => !decide (IsTerminator str)

theorem readLines_accounts (ls : List WString) :
    (readLines ls).filterMap account = (before ls).filterMap readAccount := by
  induction ls with
  | nil => rfl
  | cons str ls ih =>
      unfold before at ih ⊢
      rw [readLines]
      by_cases hend : IsTerminator str
      · rw [if_pos hend, List.takeWhile_cons_of_neg (by simpa using hend)]
        rfl
      · rw [if_neg hend, List.takeWhile_cons_of_pos (by simpa using hend)]
        by_cases hread : trim isWhiteSpace str ≠ [] ∧ ¬ Contains str (L "//")
        · have hstr : readAccount str = account str := if_pos hread
          rw [if_pos hread, List.filterMap_cons, List.filterMap_cons, hstr, ih]
        · have hstr : readAccount str = none := if_neg hread
          rw [if_neg hread, List.filterMap_cons, hstr, ih]

theorem readLines_concat_nil (ls : List WString) :
    readLines (ls ++ [[]]) = readLines ls := by
  induction ls with
  | nil => rfl
  | cons str ls ih => rw [List.cons_append, readLines, readLines, ih]

theorem getAccount_By_File_eq (hlines : forall l, l ∈ ls -> IsLine l) :
    (getAccount_By_File (fileOf ls)).2 = (before ls).filterMap readAccount := by
  have hread : readLines (lines CR LF (fileOf ls)) = readLines ls := by
    have hfile : lines CR LF (fileOf ls) =
        if ls.getLast? = some [] then ls.dropLast else ls :=
      lines_intercalate hlines
    rw [hfile]
    split
    · rename_i hlast
      rcases List.getLast?_eq_some_iff.mp hlast with ⟨front, hls⟩
      rw [hls, List.dropLast_concat, readLines_concat_nil]
    · rfl
  rw [← readLines_accounts, ← hread]
  rfl

/-!
## What the game client reads
-/

theorem getAccountConfig_eq_some :
    getAccountConfig l = some itm ↔
      split l (L ",") = [itm.wsAccountName, itm.wsAccountPass] := by
  unfold getAccountConfig
  split
  · rename_i wsAccountName wsAccountPass hsplit
    rw [hsplit]
    constructor
    · intro h
      rw [← Option.some.inj h]
    · intro h
      rw [List.cons.injEq, List.cons.injEq] at h
      rw [h.left, h.right.left]
  · rename_i hother
    constructor
    · intro h
      cases h
    · intro h
      exact absurd h (hother _ _)

theorem getAccountConfig_nil : getAccountConfig [] = none :=
  rfl

/-- Both fields are not empty, and there is no comma in them. -/
structure Fields (itm : AccountConfig) : Prop where
  name : itm.wsAccountName ≠ []
  pass : itm.wsAccountPass ≠ []
  nameComma : comma ∉ itm.wsAccountName
  passComma : comma ∉ itm.wsAccountPass

theorem getAccountConfig_fields (h : getAccountConfig l = some itm) :
    Fields itm := by
  have hsplit := getAccountConfig_eq_some.mp h
  have hmem : forall ws, ws ∈ split l (L ",") -> comma ∉ ws ∧ ws ≠ [] := by
    intro ws hws
    rcases List.mem_filter.mp hws with ⟨hpiece, hne⟩
    exact ⟨mem_pieces hpiece, of_decide_eq_true hne⟩
  rw [hsplit] at hmem
  have hname := hmem itm.wsAccountName List.mem_cons_self
  have hpass := hmem itm.wsAccountPass
    (List.mem_cons_of_mem _ List.mem_cons_self)
  exact ⟨hname.right, hpass.right, hname.left, hpass.left⟩

theorem pieces_line (h : Fields itm) :
    pieces [comma] itm.line = [itm.wsAccountName, itm.wsAccountPass] := by
  have hcut : pieces [comma] (itm.wsAccountName ++ comma :: itm.wsAccountPass) =
      itm.wsAccountName :: pieces [comma] itm.wsAccountPass :=
    pieces_cut h.nameComma itm.wsAccountPass
  rw [pieces_whole h.passComma] at hcut
  rw [← hcut, AccountConfig.line, List.append_assoc]
  rfl

theorem getAccountConfig_line (h : Fields itm) :
    getAccountConfig itm.line = some itm := by
  rw [getAccountConfig_eq_some, split]
  show (pieces [comma] itm.line).filter _ = _
  rw [pieces_line h]
  apply List.filter_eq_self.mpr
  intro ws hws
  rcases List.mem_cons.mp hws with hname | hpass
  · rw [hname]
    exact decide_eq_true h.name
  · rw [List.mem_singleton.mp hpass]
    exact decide_eq_true h.pass

theorem contains_fields (h : getAccountConfig l = some itm)
    (hcomma : comma ∉ part) (hne : part ≠ []) :
    Contains l part ↔
      Contains itm.wsAccountName part ∨ Contains itm.wsAccountPass part := by
  have hsplit := getAccountConfig_eq_some.mp h
  have hmem : forall ws, ws ∈ pieces [comma] l ∧ part <:+: ws ↔
      ws ∈ split l (L ",") ∧ part <:+: ws := by
    intro ws
    have hfilter : ws ∈ split l (L ",") ↔ ws ∈ pieces [comma] l ∧ ws ≠ [] := by
      rw [split, List.mem_filter, decide_eq_true_iff]
      rfl
    rw [hfilter]
    constructor
    · intro hws
      refine ⟨⟨hws.left, ?_⟩, hws.right⟩
      intro hnil
      rw [hnil] at hws
      exact hne (List.infix_nil.mp hws.right)
    · intro hws
      exact ⟨hws.left.left, hws.right⟩
  have hpieces : Contains l part ↔ exists ws, ws ∈ pieces [comma] l ∧
      part <:+: ws := infix_pieces hcomma
  rw [hpieces]
  simp only [hmem, hsplit, List.mem_cons, List.not_mem_nil, or_false,
    exists_eq_or_imp, exists_eq_left]
  rfl

theorem contains_line (h : getAccountConfig l = some itm)
    (hcomma : comma ∉ part) (hne : part ≠ []) :
    Contains itm.line part ↔ Contains l part := by
  rw [contains_fields h hcomma hne,
    contains_fields (getAccountConfig_line (getAccountConfig_fields h)) hcomma hne]

theorem contains_trim (hpart : part.all (fun c => !isWhiteSpace c) = true)
    (str : WString) : Contains (trim isWhiteSpace str) part ↔ Contains str part := by
  apply infix_trim
  intro c hc
  have hblank := List.all_eq_true.mp hpart c hc
  rwa [Bool.not_eq_true'] at hblank

theorem isTerminator_iff (str : WString) :
    IsTerminator str ↔ Contains str (L "--") :=
  contains_trim (by decide) str

theorem isTerminator_line (h : getAccountConfig l = some itm) :
    IsTerminator itm.line ↔ IsTerminator l := by
  rw [isTerminator_iff, isTerminator_iff,
    contains_line h (by decide) (by decide)]

/-!
## Single lines
-/

def kept (a l : WString) : Option AccountConfig :=
  (getAccountConfig l).filter fun itm => itm.wsAccountName ≠ a

def restored (a l : WString) : Option CAccount :=
  ((kept a l).map AccountConfig.line).bind readAccount

def others (a l : WString) : Option CAccount :=
  (readAccount l).filter fun e => e.strUserName ≠ a

def goesOn (a l : WString) : Bool :=
  ((kept a l).map AccountConfig.line).all fun str => !decide (IsTerminator str)

def Quoted (strPassWord : WString) : Prop :=
  Contains strPassWord (L "'") ∨ Contains strPassWord (L "\"")

/-- The line has an account of another name for the console to read, once
empty fields are dropped. -/
def Restores (a l : WString) : Prop :=
  exists itm, getAccountConfig l = some itm ∧ itm.wsAccountName ≠ a ∧
    ¬ Contains l (L "//") ∧ ¬ Quoted itm.wsAccountPass

theorem contains_comma (h : (pieces [comma] l).length = 2) :
    Contains l (L ",") := by
  apply (List.singleton_infix_iff comma l).mpr
  by_contra hx
  rw [pieces_whole hx] at h
  cases h

theorem readAccount_eq_some {e : CAccount} :
    readAccount l = some e ↔
      ¬ Contains l (L "//") ∧
        pieces [comma] l = [e.strUserName, e.strPassWord] ∧
        ¬ Quoted e.strPassWord := by
  unfold readAccount account
  constructor
  · intro h
    split at h
    · rename_i hread
      split at h
      · split at h
        · rename_i strUserName strPassWord hpieces
          split at h
          · cases h
          · rename_i hquoted
            rw [← Option.some.inj h]
            exact ⟨hread.right, hpieces, hquoted⟩
        · cases h
      · cases h
    · cases h
  · intro h
    rcases h with ⟨hcomment, hpieces, hquoted⟩
    have hcomma : Contains l (L ",") :=
      contains_comma (by rw [hpieces]; rfl)
    have htrim : trim isWhiteSpace l ≠ [] := by
      intro hnil
      have hinfix := (contains_trim (by decide) l).mpr hcomma
      rw [hnil] at hinfix
      cases List.infix_nil.mp hinfix
    rw [if_pos ⟨htrim, hcomment⟩, if_pos hcomma, hpieces]
    exact if_neg hquoted

theorem kept_eq_some :
    kept a l = some itm ↔ getAccountConfig l = some itm ∧ itm.wsAccountName ≠ a := by
  rw [kept, Option.filter_eq_some_iff, decide_eq_true_iff]

def AccountConfig.toConsole (itm : AccountConfig) : CAccount where
  strUserName := itm.wsAccountName
  strPassWord := itm.wsAccountPass

theorem readAccount_line (h : getAccountConfig l = some itm) {e : CAccount} :
    readAccount itm.line = some e ↔
      ¬ Contains l (L "//") ∧ ¬ Quoted itm.wsAccountPass ∧ e = itm.toConsole := by
  rw [readAccount_eq_some, contains_line h (by decide) (by decide),
    pieces_line (getAccountConfig_fields h)]
  constructor
  · intro hread
    rcases hread with ⟨hcomment, hpieces, hquoted⟩
    rw [List.cons.injEq, List.cons.injEq] at hpieces
    rw [← hpieces.right.left] at hquoted
    refine ⟨hcomment, hquoted, ?_⟩
    rw [AccountConfig.toConsole, hpieces.left, hpieces.right.left]
  · intro hread
    rcases hread with ⟨hcomment, hquoted, he⟩
    rw [he]
    exact ⟨hcomment, rfl, hquoted⟩

theorem restored_eq_some {e : CAccount} :
    restored a l = some e ↔
      exists itm, getAccountConfig l = some itm ∧ itm.wsAccountName ≠ a ∧
        ¬ Contains l (L "//") ∧ ¬ Quoted itm.wsAccountPass ∧
        e = itm.toConsole := by
  rw [restored, Option.bind_eq_some_iff]
  constructor
  · intro h
    rcases h with ⟨str, hstr, hread⟩
    rcases Option.map_eq_some_iff.mp hstr with ⟨itm, hkept, hitm⟩
    rcases kept_eq_some.mp hkept with ⟨hconfig, hname⟩
    rw [← hitm] at hread
    exact ⟨itm, hconfig, hname, (readAccount_line hconfig).mp hread⟩
  · intro h
    rcases h with ⟨itm, hconfig, hname, hread⟩
    refine ⟨itm.line, ?_, (readAccount_line hconfig).mpr hread⟩
    rw [kept_eq_some.mpr ⟨hconfig, hname⟩, Option.map_some]

theorem restored_eq_none_iff : restored a l = none ↔ ¬ Restores a l := by
  rw [Option.eq_none_iff_forall_ne_some]
  constructor
  · intro h hrestores
    rcases hrestores with ⟨itm, hconfig, hname, hcomment, hquoted⟩
    exact h itm.toConsole
      (restored_eq_some.mpr ⟨itm, hconfig, hname, hcomment, hquoted, rfl⟩)
  · intro h e he
    rcases restored_eq_some.mp he with ⟨itm, hconfig, hname, hcomment, hquoted, _⟩
    exact h ⟨itm, hconfig, hname, hcomment, hquoted⟩

theorem others_eq_some {e : CAccount} :
    others a l = some e ↔ readAccount l = some e ∧ e.strUserName ≠ a := by
  rw [others, Option.filter_eq_some_iff, decide_eq_true_iff]

def Filled (e : CAccount) : Prop :=
  e.strUserName ≠ [] ∧ e.strPassWord ≠ []

theorem filled_of_restored {e : CAccount} (h : restored a l = some e) :
    Filled e := by
  rcases restored_eq_some.mp h with ⟨itm, hconfig, _, _, _, he⟩
  have hfields := getAccountConfig_fields hconfig
  rw [he]
  exact ⟨hfields.name, hfields.pass⟩

theorem restored_of_others {e : CAccount} (h : others a l = some e)
    (hfilled : Filled e) : restored a l = some e := by
  rcases others_eq_some.mp h with ⟨hread, hname⟩
  rcases readAccount_eq_some.mp hread with ⟨hcomment, hpieces, hquoted⟩
  let itm : AccountConfig := {
    wsAccountName := e.strUserName
    wsAccountPass := e.strPassWord }
  have hconfig : getAccountConfig l = some itm := by
    rw [getAccountConfig_eq_some, split]
    show (pieces [comma] l).filter _ = _
    rw [hpieces]
    apply List.filter_eq_self.mpr
    intro ws hws
    rcases List.mem_cons.mp hws with huser | hpass
    · rw [huser]
      exact decide_eq_true hfilled.left
    · rw [List.mem_singleton.mp hpass]
      exact decide_eq_true hfilled.right
  exact restored_eq_some.mpr ⟨itm, hconfig, hname, hcomment, hquoted, rfl⟩

theorem others_of_restored {e : CAccount} (h : restored a l = some e)
    (hcommas : (pieces [comma] l).length = 2) : others a l = some e := by
  rcases restored_eq_some.mp h with
    ⟨itm, hconfig, hname, hcomment, hquoted, he⟩
  have hsplit := getAccountConfig_eq_some.mp hconfig
  have hsame : split l (L ",") = pieces [comma] l := by
    apply List.Sublist.eq_of_length List.filter_sublist
    show (split l (L ",")).length = (pieces [comma] l).length
    rw [hsplit, hcommas]
    rfl
  rw [hsplit] at hsame
  rw [he]
  exact others_eq_some.mpr
    ⟨readAccount_eq_some.mpr ⟨hcomment, hsame.symm, hquoted⟩, hname⟩

theorem pieces_of_others {e : CAccount} (h : others a l = some e) :
    (pieces [comma] l).length = 2 := by
  rw [(readAccount_eq_some.mp (others_eq_some.mp h).left).right.left]
  rfl

/-!
## The file afterwards
-/

theorem divisionConfig_fileOf (hlines : forall l, l ∈ ls -> IsLine l) :
    divisionConfig (fileOf ls) = ls.filter fun ws => ws ≠ [] := by
  cases ls with
  | nil => rfl
  | cons l ls =>
      have hpieces : pieces (L "\r\n") (fileOf (l :: ls)) = l :: ls :=
        pieces_intercalate (List.cons_ne_nil l ls) fun p hp => (hlines p hp).left
      rw [divisionConfig, split, hpieces]

theorem getAccountConfigList_fileOf (hlines : forall l, l ∈ ls -> IsLine l) :
    getAccountConfigList (fileOf ls) = ls.filterMap getAccountConfig := by
  rw [getAccountConfigList, divisionConfig_fileOf hlines, List.filterMap_filter]
  apply List.filterMap_congr
  intro l _
  split
  · rfl
  · rename_i hnil
    have hl : l = [] := by simpa using hnil
    rw [hl, getAccountConfig_nil]

theorem saveAccountConfigList_eq (vlst : List AccountConfig) :
    saveAccountConfigList vlst =
      fileOf (vlst.map AccountConfig.line ++ [[]]) := by
  induction vlst with
  | nil => rfl
  | cons itm vlst ih =>
      have hne : vlst.map AccountConfig.line ++ [[]] ≠ [] :=
        List.append_ne_nil_of_right_ne_nil _ (List.cons_ne_nil [] [])
      have hrest : saveAccountConfigList (itm :: vlst) =
          itm.line ++ L "\r\n" ++ saveAccountConfigList vlst := rfl
      rw [hrest, ih, fileOf, fileOf, List.map_cons, List.cons_append,
        List.intercalate_cons_of_ne_nil hne]

theorem isLine_line (hl : IsLine l) (h : getAccountConfig l = some itm) :
    IsLine itm.line := by
  have hsame : forall c, c ≠ comma -> (c ∈ itm.line ↔ c ∈ l) := by
    intro c hc
    rw [← List.singleton_infix_iff, ← List.singleton_infix_iff]
    exact contains_line h (fun hmem => hc (List.mem_singleton.mp hmem).symm)
      (List.cons_ne_nil c [])
  constructor
  · rw [hsame CR (by decide)]
    exact hl.left
  · rw [hsame LF (by decide)]
    exact hl.right

def behind (a : WString) (ls : List WString) : List WString :=
  (ls.dropWhile fun str => !decide (IsTerminator str)).takeWhile (goesOn a)

theorem goesOn_of_not_isTerminator
    (h : (!decide (IsTerminator l)) = true) : goesOn a l = true := by
  unfold goesOn
  cases hkept : kept a l with
  | none => rfl
  | some itm =>
      have hline := isTerminator_line (kept_eq_some.mp hkept).left
      show (!decide (IsTerminator itm.line)) = true
      rwa [decide_eq_decide.mpr hline]

theorem getAccount_cleared (hlines : forall l, l ∈ ls -> IsLine l)
    (hsome : ls.filterMap getAccountConfig ≠ []) :
    (getAccount_By_File (clearAccountConfig a (fileOf ls))).2 =
      (before ls).filterMap (restored a) ++
        (behind a ls).filterMap (restored a) := by
  let vlst := ls.filterMap (kept a)
  have hwritten : clearAccountConfig a (fileOf ls) =
      fileOf (vlst.map AccountConfig.line ++ [[]]) := by
    have hlength : (ls.filterMap getAccountConfig).length ≠ 0 :=
      fun h => hsome (List.eq_nil_of_length_eq_zero h)
    rw [clearAccountConfig, getAccountConfigList_fileOf hlines]
    rw [if_neg hlength, saveAccountConfigList_eq, List.filter_filterMap]
    rfl
  have hkeptLines : forall l, l ∈ vlst.map AccountConfig.line ++ [[]] ->
      IsLine l := by
    intro l hl
    rcases List.mem_append.mp hl with hmap | hnil
    · rcases List.mem_map.mp hmap with ⟨itm, hitm, hline⟩
      rcases List.mem_filterMap.mp hitm with ⟨str, hstr, hkept⟩
      rw [← hline]
      exact isLine_line (hlines str hstr) (kept_eq_some.mp hkept).left
    · rw [List.mem_singleton.mp hnil]
      exact ⟨List.not_mem_nil, List.not_mem_nil⟩
  have hbefore : before (vlst.map AccountConfig.line) =
      (ls.takeWhile (goesOn a)).filterMap
        fun l => (kept a l).map AccountConfig.line := by
    rw [before, List.map_filterMap]
    exact takeWhile_filterMap (fun _ => rfl) ls
  rw [hwritten, getAccount_By_File_eq hkeptLines, ← readLines_accounts,
    readLines_concat_nil, readLines_accounts, hbefore, List.filterMap_filterMap,
    takeWhile_split (fun _ => goesOn_of_not_isTerminator) ls,
    List.filterMap_append]
  rfl

theorem getAccount_others (hlines : forall l, l ∈ ls -> IsLine l) :
    (getAccount_By_File (fileOf ls)).2.filter (fun e => e.strUserName ≠ a) =
      (before ls).filterMap (others a) := by
  rw [getAccount_By_File_eq hlines, List.filter_filterMap]
  rfl

/-!
## Whose accounts are kept
-/

/-- No line has its account written otherwise than the console reads it. -/
structure Harmless (a : WString) (ls : List WString) : Prop where
  filled : forall l, l ∈ before ls -> forall e, readAccount l = some e ->
    e.strUserName ≠ a -> Filled e
  commas : forall l, l ∈ before ls -> Restores a l ->
    (pieces [comma] l).length = 2
  ended : forall l, l ∈ behind a ls -> ¬ Restores a l

/-- The file is left alone where no line has two fields for the game client. -/
def KeepsOthers (a : WString) (ls : List WString) : Prop :=
  if forall l, l ∈ ls -> getAccountConfig l = none then
    forall l, l ∈ before ls -> forall e, readAccount l = some e ->
      e.strUserName ≠ a
  else Harmless a ls

theorem agrees_iff :
    restored a l = others a l ↔
      (forall e, readAccount l = some e -> e.strUserName ≠ a -> Filled e) ∧
        (Restores a l -> (pieces [comma] l).length = 2) := by
  constructor
  · intro heq
    constructor
    · intro e hread hname
      apply filled_of_restored (a := a) (l := l)
      rw [heq]
      exact others_eq_some.mpr ⟨hread, hname⟩
    · intro hrestores
      cases hrestored : restored a l with
      | none => exact absurd hrestores (restored_eq_none_iff.mp hrestored)
      | some e => exact pieces_of_others (heq.symm.trans hrestored)
  · intro h
    rcases h with ⟨hfilled, hcommas⟩
    cases hothers : others a l with
    | some e =>
        rcases others_eq_some.mp hothers with ⟨hread, hname⟩
        exact restored_of_others hothers (hfilled e hread hname)
    | none =>
        rw [restored_eq_none_iff]
        intro hrestores
        have hpieces := hcommas hrestores
        cases hrestored : restored a l with
        | none => exact restored_eq_none_iff.mp hrestored hrestores
        | some e =>
            have hsome := others_of_restored hrestored hpieces
            rw [hothers] at hsome
            cases hsome

theorem harmless_iff :
    Harmless a ls ↔
      (forall l, l ∈ before ls -> restored a l = others a l) ∧
        forall l, l ∈ behind a ls -> restored a l = none := by
  constructor
  · intro h
    exact ⟨fun l hl => agrees_iff.mpr ⟨h.filled l hl, h.commas l hl⟩,
      fun l hl => restored_eq_none_iff.mpr (h.ended l hl)⟩
  · intro h
    exact ⟨fun l hl => (agrees_iff.mp (h.left l hl)).left,
      fun l hl => (agrees_iff.mp (h.left l hl)).right,
      fun l hl => restored_eq_none_iff.mp (h.right l hl)⟩

def mixedLines : List WString :=
  [L "anna,one", L "boris,", L "--", L "carla,three"]

end CBnsConfig
end BnsKorea
