import Mathlib.Data.List.TakeWhile
import BnsKorea.Library.OrderedMaps
import BnsKorea.Library.LastWrites
import BnsKorea.Common.MyTools

/-!
# The cloud configuration

The values clients keep on the server, in a map whose key is one text made of
the account, the player and the name of the value with dashes between them.
Dashes inside the three parts make the same text of different parts, and then
one client's write is another's value.
-/

namespace BnsKorea

open Library

def ClientConfigContent.to_wstring (C : CCharacter)
    (Content : ClientConfigContent) : WString :=
  C.makeFormatText (L "%s-%s-%s")
    [cStr Content.wsAccountName, cStr Content.wsPlayerName,
      cStr Content.configContent.wsConfigName]

structure CCloudConfigExtend where
  mapConfig : Std.TreeMap WString WString := ∅

namespace CCloudConfigExtend

variable (C : CCharacter)

def findConfigValue (Content : ClientConfigContent) (s : CCloudConfigExtend) :
    Option WString :=
  s.mapConfig[Content.to_wstring C]?

/-- The map afterwards; the statement for the database is not modelled. -/
def writeConfigValue (Content : ClientConfigContent) (s : CCloudConfigExtend) :
    CCloudConfigExtend :=
  match s.mapConfig[Content.to_wstring C]? with
  | none =>
      { s with
        mapConfig := s.mapConfig.insertIfNew (Content.to_wstring C)
          Content.configContent.wsConfigValue }
  | some wsConfigValue =>
      if wsConfigValue ≠ Content.configContent.wsConfigValue then
        { s with
          mapConfig := s.mapConfig.insert (Content.to_wstring C)
            Content.configContent.wsConfigValue }
      else s

def written (writes : List ClientConfigContent) : CCloudConfigExtend :=
  writes.foldl (fun s Content => writeConfigValue C Content s) {}

/-!
## Keys
-/

/-- The account, the player and the name of a value. -/
abbrev Triple := WString × WString × WString

def tripleOf (Content : ClientConfigContent) : Triple :=
  (Content.wsAccountName, Content.wsPlayerName,
    Content.configContent.wsConfigName)

def entryOf (Content : ClientConfigContent) : Triple × WString :=
  (tripleOf Content, Content.configContent.wsConfigValue)

def keyText (key : Triple) : WString :=
  C.makeFormatText (L "%s-%s-%s") [cStr key.1, cStr key.2.1, cStr key.2.2]

theorem keyText_eq (key : Triple) :
    keyText C key =
      cStr key.1 ++ 45 :: (cStr key.2.1 ++ 45 :: cStr key.2.2) := by
  rw [keyText, C.makeFormatText_eq]
  simp [Printf.swprintfTexts, L]

variable {C}

/-- No dash in the first two parts, and no zero unit in any. -/
structure IsPlain (key : Triple) : Prop where
  dash : 45 ∉ key.1 ∧ 45 ∉ key.2.1
  zero : 0 ∉ key.1 ∧ 0 ∉ key.2.1 ∧ 0 ∉ key.2.2

theorem keyText_injective_of_plain {key key' : Triple} (hplain : IsPlain key)
    (hplain' : IsPlain key') (h : keyText C key = keyText C key') :
    key = key' := by
  rcases hplain with ⟨hdash, hzero⟩
  rcases hplain' with ⟨hdash', hzero'⟩
  have hcStr : forall ws : WString, 0 ∉ ws -> cStr ws = ws := by
    intro ws hws
    apply List.takeWhile_eq_self_iff.mpr
    intro c hc
    rw [decide_eq_true_eq]
    intro hzero
    exact hws (hzero ▸ hc)
  rw [keyText_eq, keyText_eq, hcStr _ hzero.left, hcStr _ hzero.right.left,
    hcStr _ hzero.right.right, hcStr _ hzero'.left, hcStr _ hzero'.right.left,
    hcStr _ hzero'.right.right] at h
  rcases Printf.cut_at_separator hdash.left hdash'.left h with ⟨haccount, hrest⟩
  rcases Printf.cut_at_separator hdash.right hdash'.right hrest with
    ⟨hplayer, hname⟩
  exact Prod.ext haccount (Prod.ext hplayer hname)

/-!
## Reading what was written
-/

theorem writeConfigValue_get (Content : ClientConfigContent)
    (s : CCloudConfigExtend) (wsKey : WString) :
    (writeConfigValue C Content s).mapConfig[wsKey]? =
      if Content.to_wstring C = wsKey then
        some Content.configContent.wsConfigValue
      else s.mapConfig[wsKey]? := by
  rw [writeConfigValue]
  by_cases hkey : Content.to_wstring C = wsKey
  · rw [if_pos hkey, hkey]
    split
    · rename_i hnone
      exact OrderedMaps.getElem?_insertIfNew_of_none _ hnone
    · rename_i wsConfigValue hsome
      split
      · exact OrderedMaps.getElem?_insert_self _ _ _
      · rename_i hsame
        rw [hsome, not_not.mp hsame]
  · rw [if_neg hkey]
    split
    · exact OrderedMaps.getElem?_insertIfNew_of_ne _ _ hkey
    · split
      · exact OrderedMaps.getElem?_insert_of_ne _ _ hkey
      · rfl

theorem written_get (writes : List ClientConfigContent) (wsKey : WString) :
    (written C writes).mapConfig[wsKey]? =
      lastWrite wsKey (writesUnder (keyText C) (writes.map entryOf)) := by
  induction writes using List.reverseRecOn with
  | nil => rfl
  | append_singleton writes Content ih =>
      rw [written, List.foldl_append, ← written, List.foldl_cons, List.foldl_nil,
        writeConfigValue_get, ih, writesUnder, writesUnder, List.map_append,
        List.map_append, List.map_singleton, List.map_singleton, lastWrite_snoc]
      rfl

/--
After any writes, a triple's value is what the last write to the triple wrote,
or is absent if there was none, exactly if the last write under its text, where
it was to another triple, wrote what the triple had.
-/
theorem findConfigValue_eq_lastWrite_iff (writes : List ClientConfigContent)
    (Content : ClientConfigContent) :
    findConfigValue C Content (written C writes) =
        lastWrite (tripleOf Content) (writes.map entryOf) ↔
      Undisturbed (keyText C) (tripleOf Content) (writes.map entryOf) := by
  rw [findConfigValue, written_get]
  exact lastWrite_image_iff (keyText C) (tripleOf Content) (writes.map entryOf)

theorem findConfigValue_of_plain {writes : List ClientConfigContent}
    {Content : ClientConfigContent} (hplain : IsPlain (tripleOf Content))
    (hwrites : forall w, w ∈ writes -> IsPlain (tripleOf w)) :
    findConfigValue C Content (written C writes) =
      lastWrite (tripleOf Content) (writes.map entryOf) := by
  rw [findConfigValue, written_get]
  refine (lastWrite_image_iff (keyText C) (tripleOf Content)
    (writes.map entryOf)).mpr ?_
  intro earlier entry later hsplit hsame hother _
  have hentry : entry ∈ writes.map entryOf := by simp [hsplit]
  rcases List.mem_map.mp hentry with ⟨w, hw, heq⟩
  rw [← heq] at hsame hother
  exact absurd (keyText_injective_of_plain (hwrites w hw) hplain hsame) hother

def dashedWrite : ClientConfigContent where
  wsAccountName := L "a-b"
  wsPlayerName := L "c"
  configContent := { wsConfigName := L "d", wsConfigValue := L "1" }

def dashedQuery : ClientConfigContent where
  wsAccountName := L "a"
  wsPlayerName := L "b-c"
  configContent := { wsConfigName := L "d" }

theorem dashedQuery_finds_other :
    findConfigValue CCharacter.standard dashedQuery
        (written CCharacter.standard [dashedWrite]) = some (L "1") ∧
      lastWrite (tripleOf dashedQuery) ([dashedWrite].map entryOf) = none := by
  decide

end CCloudConfigExtend
end BnsKorea
