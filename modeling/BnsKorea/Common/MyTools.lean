import BnsKorea.Library.Places
import BnsKorea.Library.Printf
import BnsKorea.Common.ServerCommon

/-!
# The tool library

The server is built on a tool library whose source is not part of the
repository.  What the modelled code uses of it is a parameter here, and the
fields that are equations state what the code relies on.  The wrappers of that
library that run a lambda under a lock or log its exceptions return the
lambda's value and are not visible in the model.
-/

namespace BnsKorea

open Library

structure MyTools where
  /-- `Vec_find_if_Const(Vec, fn)`: the first element that satisfies `fn`. -/
  vecFindIfConst : {α : Type} -> List α -> (α -> Bool) -> Option α
  /-- `Vec_find_if_Const(Vec, nullptr, fn)`: whether some element does. -/
  vecExistIfConst : {α : Type} -> List α -> (α -> Bool) -> Bool
  /-- `Deque_find_if(Deque, fn)`: a pointer to the first that satisfies `fn`. -/
  dequeFindIf : {α : Type} -> List α -> (α -> Bool) -> Option (Place α)
  /-- `Dque_erase_if(Deque, fn)`: erases what satisfies `fn`. -/
  dqueEraseIf : {α : Type} -> List α -> (α -> Bool) -> List α
  /-- `MakeFormatText(Format, ...)` with 32-bit arguments. -/
  makeFormatText : WString -> List DWORD -> WString
  vecFindIfConst_eq : forall {α : Type} (Vec : List α) (fn : α -> Bool),
    vecFindIfConst Vec fn = Vec.find? fn
  vecExistIfConst_eq : forall {α : Type} (Vec : List α) (fn : α -> Bool),
    vecExistIfConst Vec fn = Vec.any fn
  dequeFindIf_eq : forall {α : Type} (Deque : List α) (fn : α -> Bool),
    dequeFindIf Deque fn = firstPlace fn Deque
  dqueEraseIf_sublist : forall {α : Type} (Deque : List α) (fn : α -> Bool),
    (dqueEraseIf Deque fn).Sublist Deque
  makeFormatText_eq : forall dwServerId dwTaskId dwScheduleId dwChannelId,
    makeFormatText (L "%X,[%X,%X],%d")
        [dwServerId, dwTaskId, dwScheduleId, dwChannelId] =
      Printf.swprintf (L "%X,[%X,%X],%d")
        [dwServerId, dwTaskId, dwScheduleId, dwChannelId]

namespace MyTools

def standard : MyTools where
  vecFindIfConst Vec fn := Vec.find? fn
  vecExistIfConst Vec fn := Vec.any fn
  dequeFindIf Deque fn := firstPlace fn Deque
  dqueEraseIf Deque fn := Deque.filter fun x => !fn x
  makeFormatText := Printf.swprintf
  vecFindIfConst_eq _ _ := rfl
  vecExistIfConst_eq _ _ := rfl
  dequeFindIf_eq _ _ := rfl
  dqueEraseIf_sublist _ _ := List.filter_sublist
  makeFormatText_eq _ _ _ _ := rfl

attribute [simp] vecFindIfConst_eq vecExistIfConst_eq dequeFindIf_eq

/-- `Dque_erase_if` erases every element that satisfies `fn`, and no other. -/
def ErasesAll (T : MyTools) : Prop :=
  forall {α : Type} (Deque : List α) (fn : α -> Bool),
    T.dqueEraseIf Deque fn = Deque.filter fun x => !fn x

theorem standard_erasesAll : standard.ErasesAll :=
  fun _ _ => rfl

end MyTools

/-!
## Texts
-/

/-- What the code relies on of the class of text functions. -/
structure CCharacter where
  /-- `MakeFormatText(Format, ...)` with text arguments. -/
  makeFormatText : WString -> List WString -> WString
  makeFormatText_eq : forall ws1 ws2 ws3,
    makeFormatText (L "%s-%s-%s") [ws1, ws2, ws3] =
      Printf.swprintfTexts (L "%s-%s-%s") [ws1, ws2, ws3]

namespace CCharacter

def standard : CCharacter where
  makeFormatText := Printf.swprintfTexts
  makeFormatText_eq _ _ _ := rfl

end CCharacter

/-!
## Socket buffers
-/

/-- A value as it was put into a buffer. -/
inductive SocketItem where
  | dword (v : DWORD)
  | text (ws : WString)
deriving DecidableEq

/--
`CLSocketBuffer`: `operator <<` appends, `operator >>` takes from the front.
`pending` is what was put in and not taken out yet.
-/
structure CLSocketBuffer where
  Buffer : Type
  pending : Buffer -> List SocketItem
  empty : Buffer
  clear : Buffer -> Buffer
  /-- `InitializeHead`: the message type goes into the frame. -/
  initializeHead : Buffer -> Buffer
  putDword : Buffer -> DWORD -> Buffer
  putText : Buffer -> WString -> Buffer
  getDword : Buffer -> DWORD × Buffer
  getText : Buffer -> WString × Buffer
  pending_empty : pending empty = []
  pending_clear : forall b, pending (clear b) = []
  pending_initializeHead : forall b, pending (initializeHead b) = pending b
  pending_putDword : forall b v,
    pending (putDword b v) = pending b ++ [SocketItem.dword v]
  pending_putText : forall b ws,
    pending (putText b ws) = pending b ++ [SocketItem.text ws]
  getDword_of : forall b v rest, pending b = SocketItem.dword v :: rest ->
    (getDword b).1 = v ∧ pending (getDword b).2 = rest
  getText_of : forall b ws rest, pending b = SocketItem.text ws :: rest ->
    (getText b).1 = ws ∧ pending (getText b).2 = rest

namespace CLSocketBuffer

attribute [simp] pending_empty pending_clear pending_initializeHead
  pending_putDword pending_putText

/-- The buffer as the queue of its items. -/
def standard : CLSocketBuffer where
  Buffer := List SocketItem
  pending b := b
  empty := []
  clear _ := []
  initializeHead b := b
  putDword b v := b ++ [SocketItem.dword v]
  putText b ws := b ++ [SocketItem.text ws]
  getDword
    | SocketItem.dword v :: rest => (v, rest)
    | b => (0, b)
  getText
    | SocketItem.text ws :: rest => (ws, rest)
    | b => ([], b)
  pending_empty := rfl
  pending_clear _ := rfl
  pending_initializeHead _ := rfl
  pending_putDword _ _ := rfl
  pending_putText _ _ := rfl
  getDword_of := by
    intro b v rest hb
    rw [hb]
    exact ⟨rfl, rfl⟩
  getText_of := by
    intro b ws rest hb
    rw [hb]
    exact ⟨rfl, rfl⟩

end CLSocketBuffer
end BnsKorea
