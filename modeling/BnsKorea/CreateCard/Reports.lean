import Mathlib.Tactic.Tauto
import BnsKorea.CreateCard.Program

/-!
# Which cards are reported

The list is worked off card by card, and what is left of it at the end are the
cards the database took.  An exception throws the whole list away, also the cards
that are sold already.
-/

namespace BnsKorea
namespace CreateCard

open Library

namespace QueryResult

def Accepts : QueryResult -> Prop
  | .row (some strRetValue) => Texts.trim isWhiteSpace strRetValue ≠ L "NO"
  | _ => False

/-- The loop is left by an exception. -/
def Fails : QueryResult -> Prop
  | .exception => True
  | .row none => True
  | _ => False

instance : DecidablePred Accepts
  | .exception => inferInstanceAs (Decidable False)
  | .empty => inferInstanceAs (Decidable False)
  | .row none => inferInstanceAs (Decidable False)
  | .row (some _) => inferInstanceAs (Decidable (_ ≠ _))

instance : DecidablePred Fails
  | .exception => inferInstanceAs (Decidable True)
  | .empty => inferInstanceAs (Decidable False)
  | .row none => inferInstanceAs (Decidable True)
  | .row (some _) => inferInstanceAs (Decidable False)

theorem accepts_row {strRetValue : WString} :
    (row (some strRetValue)).Accepts ↔
      Texts.trim isWhiteSpace strRetValue ≠ L "NO" :=
  Iff.rfl

theorem Fails.not_accepts {result : QueryResult} (h : result.Fails) :
    ¬ result.Accepts := by
  unfold Fails at h
  split at h
  · exact id
  · exact id
  · exact h.elim

end QueryResult

def accepted (log : List Insertion) : List WString :=
  (log.filter fun insertion => insertion.result.Accepts).map Insertion.card

def Outcome.reported (outcome : Outcome) : List WString :=
  outcome.printed ++ outcome.newCardTxt.getD []

theorem accepted_cons (insertion : Insertion) (log : List Insertion) :
    accepted (insertion :: log) =
      if insertion.result.Accepts then insertion.card :: accepted log
      else accepted log := by
  rw [accepted, List.filter_cons]
  by_cases h : insertion.result.Accepts
  · rw [if_pos (decide_eq_true h), if_pos h]
    rfl
  · rw [if_neg (by simpa using h), if_neg h]
    rfl

/-!
## The walk over the list
-/

section

variable {Crc32Table : Table} {answer : Nat -> WString -> QueryResult}

def attempts (Crc32Table : Table) (answer : Nat -> WString -> QueryResult) :
    Nat -> List WString -> List Insertion
  | _, [] => []
  | q, card :: cards =>
      { card := card, result := answer q (insertSQL Crc32Table card) } ::
        if (answer q (insertSQL Crc32Table card)).Fails then []
        else attempts Crc32Table answer (q + 1) cards

variable {fuel q : Nat} {card : WString} {kept cards : List WString}

theorem writeLoop_turn :
    writeLoop Crc32Table answer (fuel + 1) q kept.length (kept ++ card :: cards) =
      let result := answer q (insertSQL Crc32Table card)
      if result.Fails then
        { bRetCode := false, lst := kept ++ card :: cards, log := [⟨card, result⟩] }
      else if result.Accepts then
        (writeLoop Crc32Table answer fuel (q + 1) (kept ++ [card]).length
          (kept ++ [card] ++ cards)).after ⟨card, result⟩
      else
        (writeLoop Crc32Table answer fuel (q + 1) kept.length (kept ++ cards)).after
          ⟨card, result⟩ := by
  have hcard : (kept ++ card :: cards)[kept.length]? = some card := by
    rw [List.getElem?_append_right (Nat.le_refl _), Nat.sub_self]
    rfl
  have herase : (kept ++ card :: cards).eraseIdx kept.length = kept ++ cards := by
    rw [List.eraseIdx_append_of_length_le (Nat.le_refl _), Nat.sub_self]
    rfl
  have hnext : kept ++ [card] ++ cards = kept ++ card :: cards := by
    rw [List.append_assoc, List.singleton_append]
  rw [writeLoop, hcard, herase, hnext, List.length_append, List.length_singleton]
  dsimp only
  cases hresult : answer q (insertSQL Crc32Table card) with
  | exception => exact (if_pos trivial).symm
  | empty =>
      rw [if_neg (nofun : ¬ QueryResult.Fails .empty),
        if_neg (nofun : ¬ QueryResult.Accepts .empty)]
  | row value =>
      cases value with
      | none => exact (if_pos trivial).symm
      | some strRetValue =>
          rw [if_neg (nofun : ¬ QueryResult.Fails (.row (some strRetValue)))]
          dsimp only
          by_cases hno : Texts.trim isWhiteSpace strRetValue = L "NO"
          · have hrefused : ¬ QueryResult.Accepts (.row (some strRetValue)) := by
              rw [QueryResult.accepts_row]
              exact not_not_intro hno
            rw [if_pos hno, if_neg hrefused]
          · rw [if_neg hno, if_pos (QueryResult.accepts_row.mpr hno)]

variable (Crc32Table answer q kept) in
/--
The statements are the insertions of the cards up to the first exception, and if
there is none the list has what was in front and the cards accepted.
-/
theorem writeLoop_spec (hfuel : cards.length ≤ fuel) :
    let run := writeLoop Crc32Table answer fuel q kept.length (kept ++ cards)
    let log := attempts Crc32Table answer q cards
    run.log = log ∧
      run.bRetCode = !(log.any fun insertion => insertion.result.Fails) ∧
      (run.bRetCode = true -> run.lst = kept ++ accepted log) := by
  induction cards generalizing fuel q kept with
  | nil =>
      have hend : writeLoop Crc32Table answer fuel q kept.length (kept ++ []) =
          { bRetCode := true, lst := kept ++ [], log := [] } := by
        cases fuel with
        | zero => rfl
        | succ fuel => rw [writeLoop, List.append_nil, List.getElem?_length]
      rw [hend]
      exact ⟨rfl, rfl, fun _ => rfl⟩
  | cons card cards ih =>
      cases fuel with
      | zero => exact absurd hfuel (Nat.not_succ_le_zero cards.length)
      | succ fuel =>
          have hfuel : cards.length ≤ fuel := Nat.le_of_succ_le_succ hfuel
          dsimp only
          rw [writeLoop_turn, attempts]
          dsimp only
          by_cases hfails : (answer q (insertSQL Crc32Table card)).Fails
          · rw [if_pos hfails, if_pos hfails]
            refine ⟨rfl, ?_, nofun⟩
            rw [List.any_cons, decide_eq_true hfails]
            rfl
          · rw [if_neg hfails, if_neg hfails, List.any_cons, decide_eq_false hfails,
              Bool.false_or, accepted_cons]
            by_cases haccepts : (answer q (insertSQL Crc32Table card)).Accepts
            · rcases ih (q + 1) (kept ++ [card]) hfuel with
                ⟨hlog, hret, hlst⟩
              rw [if_pos haccepts, if_pos haccepts]
              refine ⟨congrArg (List.cons _) hlog, hret, ?_⟩
              intro htrue
              apply (hlst htrue).trans
              rw [List.append_assoc, List.singleton_append]
            · rcases ih (q + 1) kept hfuel with ⟨hlog, hret, hlst⟩
              rw [if_neg haccepts, if_neg haccepts]
              exact ⟨congrArg (List.cons _) hlog, hret, hlst⟩

theorem attempts_cards :
    (attempts Crc32Table answer q cards).map Insertion.card <+: cards := by
  induction cards generalizing q with
  | nil => exact List.nil_prefix
  | cons card cards ih =>
      rw [attempts, List.map_cons, List.cons_prefix_cons]
      refine ⟨rfl, ?_⟩
      split
      · exact List.nil_prefix
      · exact ih

variable (Crc32Table answer) in
theorem writeDB_spec (lst : List WString) :
    let run := writeDB Crc32Table answer lst
    run.log = attempts Crc32Table answer 0 lst ∧
      run.bRetCode = !(run.log.any fun insertion => insertion.result.Fails) ∧
      (run.bRetCode = true -> run.lst = accepted run.log) := by
  rcases writeLoop_spec Crc32Table answer 0 [] (Nat.le_refl lst.length) with
    ⟨hlog, hret, hlst⟩
  dsimp only
  rw [show (writeDB Crc32Table answer lst).log = attempts Crc32Table answer 0 lst
    from hlog]
  exact ⟨rfl, hret, hlst⟩

/-!
## What is lost
-/

/-- A card is accepted before any insertion failed, and a later one fails. -/
def LosesSold (results : List QueryResult) : Prop :=
  exists before sold between failed after,
    results = before ++ sold :: (between ++ failed :: after) ∧
      (forall result, result ∈ before -> ¬ result.Fails) ∧
      sold.Accepts ∧ failed.Fails

theorem losesSold_cons {result : QueryResult} {results : List QueryResult} :
    LosesSold (result :: results) ↔
      ¬ result.Fails ∧
        (result.Accepts ∧ (exists failed, failed ∈ results ∧ failed.Fails) ∨
          LosesSold results) := by
  constructor
  · rintro ⟨before, sold, between, failed, after, heq, hbefore, hsold, hfailed⟩
    cases before with
    | nil =>
        rcases List.cons.inj heq with ⟨hhead, htail⟩
        rw [hhead, htail]
        exact ⟨fun h => h.not_accepts hsold, Or.inl ⟨hsold, failed,
          List.mem_append_right _ List.mem_cons_self, hfailed⟩⟩
    | cons first before =>
        rcases List.cons.inj heq with ⟨hhead, htail⟩
        rw [hhead]
        exact ⟨hbefore first List.mem_cons_self, Or.inr ⟨before, sold, between, failed,
          after, htail, fun r hr => hbefore r (List.mem_cons_of_mem _ hr), hsold,
          hfailed⟩⟩
  · rintro ⟨hfirst, ⟨hsold, failed, hmem, hfailed⟩ | hlater⟩
    · rcases List.append_of_mem hmem with ⟨between, after, hsplit⟩
      exact ⟨[], result, between, failed, after, congrArg _ hsplit, nofun, hsold,
        hfailed⟩
    · rcases hlater with ⟨before, sold, between, failed, after, heq, hbefore, hends⟩
      refine ⟨result :: before, sold, between, failed, after, congrArg _ heq, ?_, hends⟩
      intro r hr
      rcases List.mem_cons.mp hr with hr | hr
      · rw [hr]
        exact hfirst
      · exact hbefore r hr

def results (Crc32Table : Table) (answer : Nat -> WString -> QueryResult) :
    Nat -> List WString -> List QueryResult
  | _, [] => []
  | q, card :: cards =>
      answer q (insertSQL Crc32Table card) :: results Crc32Table answer (q + 1) cards

theorem any_attempts :
    (exists insertion, insertion ∈ attempts Crc32Table answer q cards ∧
        insertion.result.Fails) ↔
      exists failed, failed ∈ results Crc32Table answer q cards ∧ failed.Fails := by
  induction cards generalizing q with
  | nil => exact ⟨nofun, nofun⟩
  | cons card cards ih =>
      rw [attempts, results]
      split
      · rename_i hfails
        exact iff_of_true ⟨_, List.mem_cons_self, hfails⟩
          ⟨_, List.mem_cons_self, hfails⟩
      · rename_i hfails
        simp only [List.mem_cons, or_and_right, exists_or, exists_eq_left, ih]

theorem losesSold_iff :
    LosesSold (results Crc32Table answer q cards) ↔
      (exists insertion, insertion ∈ attempts Crc32Table answer q cards ∧
        insertion.result.Fails) ∧
      accepted (attempts Crc32Table answer q cards) ≠ [] := by
  induction cards generalizing q with
  | nil =>
      apply iff_of_false
      · rintro ⟨before, sold, between, failed, after, heq, _⟩
        exact absurd heq.symm
          (List.append_ne_nil_of_right_ne_nil _ (List.cons_ne_nil _ _))
      · exact fun h => h.right rfl
  | cons card cards ih =>
      rw [results, losesSold_cons, ih, any_attempts, attempts]
      by_cases hfails : (answer q (insertSQL Crc32Table card)).Fails
      · rw [if_pos hfails, accepted_cons, if_neg hfails.not_accepts]
        exact iff_of_false (fun h => h.left hfails) fun h => h.right rfl
      · rw [if_neg hfails, accepted_cons]
        simp only [List.mem_cons, or_and_right, exists_or, exists_eq_left, hfails,
          not_false_eq_true, true_and, false_or, any_attempts]
        by_cases haccepts : (answer q (insertSQL Crc32Table card)).Accepts
        · simp only [haccepts, true_and, if_true]
          exact ⟨fun h => ⟨h.elim id And.left, List.cons_ne_nil _ _⟩,
            fun h => Or.inl h.left⟩
        · simp only [haccepts, false_and, false_or, if_false]

variable (Crc32Table answer) in
theorem writeDB_reports_iff (lst : List WString) :
    (if (writeDB Crc32Table answer lst).bRetCode then
        (writeDB Crc32Table answer lst).lst else []) =
        accepted (writeDB Crc32Table answer lst).log ↔
      ¬ LosesSold (results Crc32Table answer 0 lst) := by
  rcases writeDB_spec Crc32Table answer lst with
    ⟨hlog, hret, hlst⟩
  rw [losesSold_iff, ← hlog]
  by_cases hdone : (writeDB Crc32Table answer lst).bRetCode = true
  · rw [if_pos hdone, hlst hdone]
    rw [hret, Bool.not_eq_true', List.any_eq_false] at hdone
    refine iff_of_true rfl ?_
    rintro ⟨⟨insertion, hmem, hfails⟩, _⟩
    exact hdone insertion hmem (decide_eq_true hfails)
  · rw [if_neg hdone]
    rw [hret, Bool.not_eq_true', Bool.not_eq_false, List.any_eq_true] at hdone
    rcases hdone with ⟨insertion, hmem, hfails⟩
    have hsome : exists insertion,
        insertion ∈ (writeDB Crc32Table answer lst).log ∧ insertion.result.Fails :=
      ⟨insertion, hmem, of_decide_eq_true hfails⟩
    constructor
    · exact fun hnone hlost => hlost.right hnone.symm
    · intro hkept
      by_contra hne
      exact hkept ⟨hsome, fun hnone => hne hnone.symm⟩

theorem main_log {draws : Nat -> Draw} {args : List WString} {order : Order}
    (h : accepts args = some order) :
    (main draws answer args).log.map Insertion.card <+:
      newCards makeTable order draws := by
  have hlog : (writeDB makeTable answer (newCards makeTable order draws)).log =
      attempts makeTable answer 0 (newCards makeTable order draws) :=
    (writeDB_spec makeTable answer (newCards makeTable order draws)).left
  unfold main
  rw [h]
  dsimp only
  split
  · rw [hlog]
    exact attempts_cards
  · split
    · rw [hlog]
      exact attempts_cards
    · exact List.nil_prefix

end

/--
The cards are inserted in the order they were made, and those that a run reports
are the accepted ones, exactly if no insertion fails behind an accepted one.
-/
theorem main_reports_iff (draws : Nat -> Draw)
    (answer : Nat -> WString -> QueryResult) (args : List WString) :
    (forall order, accepts args = some order ->
      (main draws answer args).log.map Insertion.card <+:
        newCards makeTable order draws) ∧
    ((main draws answer args).reported = accepted (main draws answer args).log ↔
      ¬ exists order, accepts args = some order ∧
        (order.strFormat = L "Output" ∨ order.strFormat = L "File") ∧
        LosesSold (results makeTable answer 0 (newCards makeTable order draws))) := by
  refine ⟨fun order => main_log, ?_⟩
  unfold main
  cases haccepts : accepts args with
  | none => exact iff_of_true rfl (by simp)
  | some order =>
      have hreports :=
        writeDB_reports_iff makeTable answer (newCards makeTable order draws)
      simp only [Option.some.injEq, exists_eq_left']
      by_cases houtput : order.strFormat = L "Output"
      · rw [if_pos houtput]
        simp only [houtput, true_or, true_and]
        rw [← hreports, Outcome.reported, Option.getD_none, List.append_nil]
      · rw [if_neg houtput]
        by_cases hfile : order.strFormat = L "File"
        · rw [if_pos hfile]
          simp only [hfile, or_true, true_and]
          rw [← hreports, Outcome.reported, List.nil_append]
          split
          · rw [Option.getD_some]
          · rw [Option.getD_none]
        · rw [if_neg hfile]
          exact iff_of_true rfl fun h => h.left.elim houtput hfile

def twoCards : List WString :=
  [L "CreateNewCard", L "-Count", L "2", L "-Hour", L "720", L "-Format", L "Output"]

/-- The database takes the first card and cannot be reached for the second. -/
theorem sold_not_reported :
    let answer : Nat -> WString -> QueryResult := fun q _ =>
      if q = 0 then .row (some (L "OK")) else .exception
    (main (fun _ => firstDraw) answer twoCards).reported ≠
        accepted (main (fun _ => firstDraw) answer twoCards).log ∧
      (main (fun _ => firstDraw) answer twoCards).reported = [] ∧
      accepted (main (fun _ => firstDraw) answer twoCards).log =
        [L "07202017050901234ABC930C0412"] := by
  decide +kernel

end CreateCard
end BnsKorea
