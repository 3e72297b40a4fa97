import Mathlib.Algebra.Group.Nat.Defs
import BnsKorea.Library.Readers
import BnsKorea.Common.ServerCommon

/-!
# Messages on the wire

A buffer is a typed queue behind a message head: `operator <<` appends a value
and `operator >>` takes one of its kind from the front.  Numbers of the host's
size are 32-bit, a `BOOL` is a number and a `bool` a byte of its own kind.
-/

namespace BnsKorea

open Library

inductive SocketValue where
  | byte (v : BYTE)
  | bool (v : Bool)
  | dword (v : DWORD)
  | float (bits : UInt32)
  | text (ws : WString)
  | data (bytes : List BYTE)
deriving DecidableEq

structure SocketBuffer where
  head : Option SockMsg := none
  values : List SocketValue := []
deriving DecidableEq

namespace SocketValue

def TRUE : SocketValue :=
  dword 1

def FALSE : SocketValue :=
  dword 0

/-- `size()` of a container. -/
def size {α : Type} (Vec : List α) : SocketValue :=
  dword (UInt32.ofNat Vec.length)

/-!
## Taking values
-/

abbrev Read := Reader SocketValue

def getByte : Read BYTE :=
  Reader.next fun
    | byte v => some v
    | _ => none

def getBool : Read Bool :=
  Reader.next fun
    | bool v => some v
    | _ => none

def getDword : Read DWORD :=
  Reader.next fun
    | dword v => some v
    | _ => none

def getFloat : Read UInt32 :=
  Reader.next fun
    | float bits => some bits
    | _ => none

def getText : Read WString :=
  Reader.next fun
    | text ws => some ws
    | _ => none

def getData : Read (List BYTE) :=
  Reader.next fun
    | data bytes => some bytes
    | _ => none

section

variable {α : Type} {values : List SocketValue} {a : α}

theorem getByte_bind {k : BYTE -> Read α} {v : BYTE}
    (h : Reader.Reads (k v) values a) :
    Reader.Reads (getByte >>= k) (byte v :: values) a :=
  h.next_bind rfl

theorem getBool_bind {k : Bool -> Read α} {v : Bool}
    (h : Reader.Reads (k v) values a) :
    Reader.Reads (getBool >>= k) (bool v :: values) a :=
  h.next_bind rfl

theorem getDword_bind {k : DWORD -> Read α} {v : DWORD}
    (h : Reader.Reads (k v) values a) :
    Reader.Reads (getDword >>= k) (dword v :: values) a :=
  h.next_bind rfl

theorem getFloat_bind {k : UInt32 -> Read α} {bits : UInt32}
    (h : Reader.Reads (k bits) values a) :
    Reader.Reads (getFloat >>= k) (float bits :: values) a :=
  h.next_bind rfl

theorem getText_bind {k : WString -> Read α} {ws : WString}
    (h : Reader.Reads (k ws) values a) :
    Reader.Reads (getText >>= k) (text ws :: values) a :=
  h.next_bind rfl

theorem getData_bind {k : List BYTE -> Read α} {bytes : List BYTE}
    (h : Reader.Reads (k bytes) values a) :
    Reader.Reads (getData >>= k) (data bytes :: values) a :=
  h.next_bind rfl

theorem reads_counted {r : Read α} {write : α -> List SocketValue} {as : List α}
    (hsize : as.length < 2 ^ 32)
    (h : forall a, a ∈ as -> Reader.Reads r (write a) a) (n : Nat) :
    Reader.Reads (Reader.many r (min (UInt32.ofNat as.length).toNat n))
      ((as.take n).flatMap write) (as.take n) := by
  have hcount : min (UInt32.ofNat as.length).toNat n = (as.take n).length := by
    rw [UInt32.toNat_ofNat_of_lt' hsize, List.length_take, Nat.min_comm]
  rw [hcount]
  exact Reader.Reads.many fun a ha => h a (List.mem_of_mem_take ha)

theorem reads_counted_all {r : Read α} {write : α -> List SocketValue}
    {as : List α} (hsize : as.length < 2 ^ 32)
    (h : forall a, a ∈ as -> Reader.Reads r (write a) a) :
    Reader.Reads (Reader.many r (UInt32.ofNat as.length).toNat)
      (as.flatMap write) as := by
  rw [UInt32.toNat_ofNat_of_lt' hsize]
  exact Reader.Reads.many h

theorem reads_getDword (v : DWORD) : Reader.Reads getDword [dword v] v :=
  Reader.reads_next rfl

theorem reads_getText (ws : WString) : Reader.Reads getText [text ws] ws :=
  Reader.reads_next rfl

end

end SocketValue
end BnsKorea
