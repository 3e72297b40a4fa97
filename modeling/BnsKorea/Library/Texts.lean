import Mathlib.Data.List.DropRight

/-!
# Texts in pieces

Searching a text for a part, cutting it at a separator, trimming it, and reading
it line by line.
-/

namespace BnsKorea
namespace Library
namespace Texts

universe u

variable {α : Type u}

/-!
## Parts of a text
-/

section

variable {part p rest xs ys : List α} {x : α}

theorem prefix_cut (hx : x ∉ part) : part <+: p ++ x :: rest ↔ part <+: p := by
  induction part generalizing p with
  | nil => exact ⟨fun _ => List.nil_prefix, fun _ => List.nil_prefix⟩
  | cons a part ih =>
      have hne : x ≠ a := List.ne_of_not_mem_cons hx
      have hpart : x ∉ part := List.not_mem_of_not_mem_cons hx
      cases p with
      | nil =>
          rw [List.nil_append, List.cons_prefix_cons]
          constructor
          · intro h
            exact absurd h.left.symm hne
          · intro h
            cases List.prefix_nil.mp h
      | cons b p =>
          rw [List.cons_append, List.cons_prefix_cons, List.cons_prefix_cons,
            ih hpart]

theorem infix_cut (hx : x ∉ part) :
    part <:+: p ++ x :: rest ↔ part <:+: p ∨ part <:+: rest := by
  induction p with
  | nil =>
      have hcut : part <+: x :: rest ↔ part <+: [] := prefix_cut (p := []) hx
      rw [List.nil_append, List.infix_cons_iff, hcut, List.prefix_nil,
        List.infix_nil]
  | cons a p ih =>
      have hcut : part <+: a :: (p ++ x :: rest) ↔ part <+: a :: p :=
        prefix_cut (p := a :: p) hx
      rw [List.cons_append, List.infix_cons_iff, hcut, ih, List.infix_cons_iff,
        or_assoc]

theorem infix_append_left (h : forall c, c ∈ part -> c ∉ xs) :
    part <:+: xs ++ ys ↔ part <:+: ys := by
  induction xs with
  | nil => rfl
  | cons x xs ih =>
      have hx : x ∉ part := fun hmem => h x hmem List.mem_cons_self
      have hcut : part <:+: x :: (xs ++ ys) ↔
          part <:+: [] ∨ part <:+: xs ++ ys := infix_cut (p := []) hx
      rw [List.cons_append, hcut,
        ih fun c hc hmem => h c hc (List.mem_cons_of_mem x hmem)]
      constructor
      · intro hor
        rcases hor with hnil | hys
        · rw [List.infix_nil.mp hnil]
          exact List.nil_infix
        · exact hys
      · exact Or.inr

theorem infix_append_right (h : forall c, c ∈ part -> c ∉ ys) :
    part <:+: xs ++ ys ↔ part <:+: xs := by
  rw [← List.reverse_infix, List.reverse_append,
    infix_append_left (by simpa using h), List.reverse_infix]

end

/-!
## Trimming
-/

def trim (isSpace : α -> Bool) (text : List α) : List α :=
  (text.dropWhile isSpace).rdropWhile isSpace

theorem infix_trim {isSpace : α -> Bool} {part : List α}
    (h : forall c, c ∈ part -> isSpace c = false) (text : List α) :
    part <:+: trim isSpace text ↔ part <:+: text := by
  have hout : forall {xs : List α}, (forall c, c ∈ xs -> isSpace c = true) ->
      forall c, c ∈ part -> c ∉ xs := by
    intro xs hxs c hc hmem
    have hspace := h c hc
    rw [hxs c hmem] at hspace
    cases hspace
  let front := text.takeWhile isSpace
  let back := (text.dropWhile isSpace).rtakeWhile isSpace
  have hfront : forall c, c ∈ front -> isSpace c = true :=
    fun c hc => List.mem_takeWhile_imp hc
  have hback : forall c, c ∈ back -> isSpace c = true :=
    fun c hc => List.mem_rtakeWhile_imp hc
  have hcut : text = front ++ (trim isSpace text ++ back) := by
    rw [trim, List.rdropWhile_append_rtakeWhile, List.takeWhile_append_dropWhile]
  conv_rhs => rw [hcut]
  rw [infix_append_left (hout hfront), infix_append_right (hout hback)]

/-!
## Pieces
-/

section

variable [DecidableEq α]

/-- The pieces between the separators; so many characters are passed over. -/
def piecesFrom (sep : List α) : Nat -> List α -> List (List α)
  | _, [] => [[]]
  | skip + 1, _ :: text => piecesFrom sep skip text
  | 0, c :: text =>
      if sep.isPrefixOf (c :: text) then
        [] :: piecesFrom sep (sep.length - 1) text
      else (piecesFrom sep 0 text).modifyHead (List.cons c)

def pieces (sep text : List α) : List (List α) :=
  piecesFrom sep 0 text

variable {x : α} {seps p rest text part : List α}

theorem piecesFrom_skip (sep front rest : List α) :
    piecesFrom sep front.length (front ++ rest) = piecesFrom sep 0 rest := by
  induction front with
  | nil => rfl
  | cons c front ih => exact ih

theorem pieces_cut (hx : x ∉ p) (rest : List α) :
    pieces (x :: seps) (p ++ (x :: seps ++ rest)) =
      p :: pieces (x :: seps) rest := by
  induction p with
  | nil =>
      have hbegins : (x :: seps).isPrefixOf (x :: (seps ++ rest)) = true :=
        List.isPrefixOf_iff_prefix.mpr (List.prefix_append _ _)
      show piecesFrom (x :: seps) 0 (x :: (seps ++ rest)) = _
      rw [piecesFrom, if_pos hbegins, List.length_cons, Nat.add_sub_cancel,
        piecesFrom_skip]
      rfl
  | cons c p ih =>
      have hne : x ≠ c := List.ne_of_not_mem_cons hx
      have hother : ¬ (x :: seps).isPrefixOf
          (c :: (p ++ (x :: seps ++ rest))) = true := by
        rw [List.isPrefixOf_iff_prefix, List.cons_prefix_cons]
        exact fun h => hne h.left
      have hrest := ih (List.not_mem_of_not_mem_cons hx)
      unfold pieces at hrest ⊢
      rw [List.cons_append, piecesFrom, if_neg hother, hrest]
      rfl

theorem pieces_whole (hx : x ∉ p) : pieces (x :: seps) p = [p] := by
  induction p with
  | nil => rfl
  | cons c p ih =>
      have hne : x ≠ c := List.ne_of_not_mem_cons hx
      have hother : ¬ (x :: seps).isPrefixOf (c :: p) = true := by
        rw [List.isPrefixOf_iff_prefix, List.cons_prefix_cons]
        exact fun h => hne h.left
      have hrest := ih (List.not_mem_of_not_mem_cons hx)
      unfold pieces at hrest ⊢
      rw [piecesFrom, if_neg hother, hrest]
      rfl

theorem pieces_intercalate {texts : List (List α)} (hne : texts ≠ [])
    (hx : forall p, p ∈ texts -> x ∉ p) :
    pieces (x :: seps) ((x :: seps).intercalate texts) = texts := by
  induction texts with
  | nil => exact absurd rfl hne
  | cons p texts ih =>
      have hp := hx p List.mem_cons_self
      cases texts with
      | nil => rw [List.intercalate_singleton, pieces_whole hp]
      | cons q texts =>
          rw [List.intercalate_cons_cons, List.append_assoc, pieces_cut hp,
            ih (List.cons_ne_nil q texts)
              fun r hr => hx r (List.mem_cons_of_mem p hr)]

/-!
A separator may also begin inside of a piece, if it does not end there.
-/

section

variable {c : α} {sep : List α}

theorem pieces_cons (h : ¬ sep <+: c :: text) :
    pieces sep (c :: text) = (pieces sep text).modifyHead (List.cons c) := by
  rw [pieces, piecesFrom, if_neg (List.isPrefixOf_iff_prefix.not.mpr h)]
  rfl

theorem pieces_sep (hsep : sep ≠ []) (rest : List α) :
    pieces sep (sep ++ rest) = [] :: pieces sep rest := by
  cases sep with
  | nil => exact absurd rfl hsep
  | cons x seps =>
      have hcut : pieces (x :: seps) ([] ++ (x :: seps ++ rest)) =
          [] :: pieces (x :: seps) rest := pieces_cut List.not_mem_nil rest
      exact hcut

theorem pieces_first (hsep : sep ≠ []) (h : ¬ sep <:+: p ++ sep.dropLast)
    (rest : List α) : pieces sep (p ++ (sep ++ rest)) = p :: pieces sep rest := by
  induction p with
  | nil => exact pieces_sep hsep rest
  | cons c p ih =>
      have hlater : ¬ sep <+: c :: (p ++ (sep ++ rest)) := by
        intro hbegins
        have hfront : c :: (p ++ sep.dropLast) <+: c :: (p ++ (sep ++ rest)) := by
          rw [List.cons_prefix_cons, List.prefix_append_right_inj]
          exact ⟨rfl, (List.dropLast_prefix sep).trans (List.prefix_append sep rest)⟩
        have hlength : sep.length ≤ (c :: (p ++ sep.dropLast)).length := by
          rw [List.length_cons, List.length_append, List.length_dropLast]
          omega
        exact h (List.prefix_of_prefix_length_le hbegins hfront hlength).isInfix
      have hrest : ¬ sep <:+: p ++ sep.dropLast :=
        fun hwithin => h (List.infix_cons hwithin)
      rw [List.cons_append, pieces_cons hlater, ih hrest]
      rfl

theorem pieces_only (h : ¬ sep <:+: p) : pieces sep p = [p] := by
  induction p with
  | nil => rfl
  | cons c p ih =>
      rw [pieces_cons fun hbegins => h hbegins.isInfix,
        ih fun hwithin => h (List.infix_cons hwithin)]
      rfl

theorem piecesFrom_ne_nil (sep : List α) (skip : Nat) (text : List α) :
    piecesFrom sep skip text ≠ [] := by
  induction text generalizing skip with
  | nil =>
      rw [piecesFrom]
      exact List.cons_ne_nil _ _
  | cons c text ih =>
      cases skip with
      | succ skip => exact ih skip
      | zero =>
          rw [piecesFrom]
          split
          · exact List.cons_ne_nil _ _
          · rw [ne_eq, List.modifyHead_eq_nil_iff]
            exact ih 0

theorem pieces_head (h : ¬ sep <+: c :: text) :
    exists q qs, pieces sep (c :: text) = (c :: q) :: qs := by
  rw [pieces_cons h]
  cases hpieces : pieces sep text with
  | nil => exact absurd hpieces (piecesFrom_ne_nil sep 0 text)
  | cons q qs => exact ⟨q, qs, rfl⟩

theorem piecesFrom_within (sep : List α) (skip : Nat) (text : List α) :
    (skip = 0 -> forall first, (piecesFrom sep skip text).head? = some first ->
      first <+: text) ∧
      forall p, p ∈ piecesFrom sep skip text -> p <:+: text := by
  induction text generalizing skip with
  | nil =>
      rw [piecesFrom]
      refine ⟨?_, ?_⟩
      · intro _ first hfirst
        cases (Option.some.inj hfirst : [] = first)
        exact List.nil_prefix
      · intro p hp
        cases List.mem_singleton.mp hp
        exact List.nil_infix
  | cons c text ih =>
      cases skip with
      | succ skip =>
          rw [piecesFrom]
          exact ⟨nofun, fun p hp => List.infix_cons ((ih skip).right p hp)⟩
      | zero =>
          rw [piecesFrom]
          split
          · refine ⟨?_, ?_⟩
            · intro _ first hfirst
              rw [← Option.some.inj hfirst]
              exact List.nil_prefix
            · intro p hp
              rcases List.mem_cons.mp hp with hp | hp
              · rw [hp]
                exact List.nil_infix
              · exact List.infix_cons ((ih (sep.length - 1)).right p hp)
          · rcases ih 0 with ⟨hfirst, hall⟩
            cases hpieces : piecesFrom sep 0 text with
            | nil => exact ⟨nofun, nofun⟩
            | cons q qs =>
                rw [hpieces] at hfirst hall
                have hq : c :: q <+: c :: text :=
                  List.cons_prefix_cons.mpr ⟨rfl, hfirst rfl q rfl⟩
                refine ⟨?_, ?_⟩
                · intro _ first hfirst
                  rw [← Option.some.inj hfirst]
                  exact hq
                · intro p hp
                  rcases List.mem_cons.mp hp with hp | hp
                  · rw [hp]
                    exact hq.isInfix
                  · exact List.infix_cons (hall p (List.mem_cons_of_mem q hp))

theorem mem_of_mem_pieces (hp : p ∈ pieces sep text) (hc : c ∈ p) : c ∈ text :=
  ((piecesFrom_within sep 0 text).right p hp).subset hc

theorem not_infix_piecesFrom (hsep : sep ≠ []) {skip : Nat}
    (hp : p ∈ piecesFrom sep skip text) : ¬ sep <:+: p := by
  have hempty : ¬ sep <:+: [] := fun h => hsep (List.infix_nil.mp h)
  induction text generalizing skip p with
  | nil =>
      rw [List.mem_singleton.mp hp]
      exact hempty
  | cons c text ih =>
      cases skip with
      | succ skip => exact ih hp
      | zero =>
          rw [piecesFrom] at hp
          split at hp
          · rcases List.mem_cons.mp hp with hp | hp
            · rw [hp]
              exact hempty
            · exact ih hp
          · rename_i hlater
            have hfirst := (piecesFrom_within sep 0 text).left rfl
            cases hpieces : piecesFrom sep 0 text with
            | nil =>
                rw [hpieces] at hp
                cases hp
            | cons q qs =>
                rw [hpieces] at hp hfirst
                rcases List.mem_cons.mp hp with hp | hp
                · rw [hp, List.infix_cons_iff]
                  rintro (hbegins | hwithin)
                  · have hwhole : c :: q <+: c :: text :=
                      List.cons_prefix_cons.mpr ⟨rfl, hfirst q rfl⟩
                    exact hlater (List.isPrefixOf_iff_prefix.mpr
                      (hbegins.trans hwhole))
                  · exact ih (hpieces ▸ List.mem_cons_self) hwithin
                · exact ih (hpieces ▸ List.mem_cons_of_mem q hp)

end

theorem pieces_induction (x : α) {motive : List α -> Prop}
    (whole : forall p, x ∉ p -> motive p)
    (cut : forall p rest, x ∉ p -> motive rest -> motive (p ++ x :: rest))
    (text : List α) : motive text := by
  induction hn : text.length using Nat.strongRecOn generalizing text with
  | ind n ih =>
      by_cases hx : x ∈ text
      · rcases List.eq_append_cons_of_mem hx with ⟨p, rest, htext, hp⟩
        have hless : rest.length < n := by
          rw [← hn, htext, List.length_append, List.length_cons]
          omega
        rw [htext]
        exact cut p rest hp (ih _ hless rest rfl)
      · exact whole text hx

theorem mem_pieces (hmem : p ∈ pieces [x] text) : x ∉ p := by
  induction text using pieces_induction x with
  | whole text hx =>
      rw [pieces_whole hx, List.mem_singleton] at hmem
      rwa [hmem]
  | cut q rest hq ih =>
      have hcut : pieces [x] (q ++ x :: rest) = q :: pieces [x] rest :=
        pieces_cut hq rest
      rw [hcut] at hmem
      rcases List.mem_cons.mp hmem with hp | hp
      · rwa [hp]
      · exact ih hp

theorem infix_pieces (hx : x ∉ part) :
    part <:+: text ↔ exists p, p ∈ pieces [x] text ∧ part <:+: p := by
  induction text using pieces_induction x with
  | whole text hp =>
      rw [pieces_whole hp]
      simp only [List.mem_singleton, exists_eq_left]
  | cut p rest hp ih =>
      have hcut : pieces [x] (p ++ x :: rest) = p :: pieces [x] rest :=
        pieces_cut hp rest
      rw [hcut, infix_cut hx, ih]
      simp only [List.mem_cons, exists_eq_or_imp]

end

/-!
## Lines
-/

section

variable [DecidableEq α] (cr lf : α)

/-- The lines a reader gets, each up to one of the two characters or both of
them; at the end of the text there is no line left, unless one was begun. -/
def linesFrom : Bool -> List α -> List (List α)
  | false, [] => []
  | true, [] => [[]]
  | _, [c] =>
      if c = cr ∨ c = lf then [[]] else [[c]]
  | _, c :: d :: text =>
      if c = cr then
        if d = lf then [] :: linesFrom false text
        else [] :: linesFrom false (d :: text)
      else if c = lf then [] :: linesFrom false (d :: text)
      else (linesFrom true (d :: text)).modifyHead (List.cons c)

def lines (text : List α) : List (List α) :=
  linesFrom cr lf false text

variable {cr lf} {p : List α}

theorem linesFrom_cut (hcr : cr ∉ p) (hlf : lf ∉ p) (started : Bool)
    (rest : List α) :
    linesFrom cr lf started (p ++ cr :: lf :: rest) =
      p :: linesFrom cr lf false rest := by
  induction p generalizing started with
  | nil =>
      rw [List.nil_append, linesFrom, if_pos rfl, if_pos rfl]
  | cons c p ih =>
      have hc : c ≠ cr := fun h => hcr (h ▸ List.mem_cons_self)
      have hc' : c ≠ lf := fun h => hlf (h ▸ List.mem_cons_self)
      have hrest := ih (List.not_mem_of_not_mem_cons hcr)
        (List.not_mem_of_not_mem_cons hlf) true
      cases p with
      | nil =>
          rw [List.nil_append] at hrest
          rw [List.cons_append, List.nil_append, linesFrom, if_neg hc,
            if_neg hc', hrest]
          rfl
      | cons d p =>
          rw [List.cons_append] at hrest
          rw [List.cons_append, List.cons_append, linesFrom, if_neg hc,
            if_neg hc', hrest]
          rfl

theorem linesFrom_whole (hcr : cr ∉ p) (hlf : lf ∉ p) {started : Bool}
    (h : started = true ∨ p ≠ []) : linesFrom cr lf started p = [p] := by
  induction p generalizing started with
  | nil =>
      rcases h with hstarted | hne
      · rw [hstarted]
        rfl
      · exact absurd rfl hne
  | cons c p ih =>
      have hc : c ≠ cr := fun h => hcr (h ▸ List.mem_cons_self)
      have hc' : c ≠ lf := fun h => hlf (h ▸ List.mem_cons_self)
      cases p with
      | nil =>
          have hneither : ¬ (c = cr ∨ c = lf) := by
            intro heither
            rcases heither with heq | heq
            · exact hc heq
            · exact hc' heq
          rw [linesFrom, if_neg hneither]
      | cons d p =>
          rw [linesFrom, if_neg hc, if_neg hc',
            ih (List.not_mem_of_not_mem_cons hcr)
              (List.not_mem_of_not_mem_cons hlf) (Or.inl rfl)]
          rfl

theorem lines_intercalate {texts : List (List α)}
    (h : forall p, p ∈ texts -> cr ∉ p ∧ lf ∉ p) :
    lines cr lf ([cr, lf].intercalate texts) =
      if texts.getLast? = some [] then texts.dropLast else texts := by
  induction texts with
  | nil => rfl
  | cons p texts ih =>
      rcases h p List.mem_cons_self with ⟨hcr, hlf⟩
      cases texts with
      | nil =>
          rw [List.intercalate_singleton, List.getLast?_singleton]
          cases p with
          | nil => rfl
          | cons c p =>
              rw [lines, linesFrom_whole hcr hlf (Or.inr (List.cons_ne_nil c p)),
                if_neg (by simp)]
      | cons q texts =>
          have hrest := ih fun r hr => h r (List.mem_cons_of_mem p hr)
          rw [List.intercalate_cons_cons, List.append_assoc]
          show linesFrom cr lf false (p ++ cr :: lf :: _) = _
          rw [linesFrom_cut hcr hlf]
          show p :: lines cr lf ([cr, lf].intercalate (q :: texts)) = _
          rw [hrest, List.getLast?_cons_cons]
          split
          · rfl
          · rfl

end

end Texts
end Library
end BnsKorea
