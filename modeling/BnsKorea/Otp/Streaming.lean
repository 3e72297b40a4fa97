import BnsKorea.Otp.Rounds

/-!
# Hashing a message in parts

The context keeps the hash value of the blocks so far, their length, and the
bytes that do not fill a block.  Every part of a message is added to that, and
the end gives the hash of the standard.
-/

namespace BnsKorea
namespace CLHmacSha1

open Library

variable {Sha1Ctx next : Sha1_ctx}

/-!
## Blocks
-/

def Sha1_ctx.total (Sha1Ctx : Sha1_ctx) : Nat :=
  Sha1Ctx.Total1.toNat * 2 ^ 32 + Sha1Ctx.Total0.toNat

/-- A context after more blocks: only the hash value and the length change. -/
structure Advanced (Sha1Ctx : Sha1_ctx) (bytes : List BYTE) (next : Sha1_ctx) :
    Prop where
  hash : next.hash = Sha1.compressAll Sha1Ctx.hash bytes
  total : next.total = (Sha1Ctx.total + bytes.length) % 2 ^ 64
  bufferLen : next.BufferLen = Sha1Ctx.BufferLen
  buffer : next.Buffer = Sha1Ctx.Buffer

theorem total_addTotal {uSize : Nat} (h : uSize < 2 ^ 32) :
    (Sha1Ctx.addTotal uSize).total = (Sha1Ctx.total + uSize) % 2 ^ 64 := by
  have hsize : (UInt32.ofNat uSize).toNat = uSize := by
    rw [UInt32.toNat_ofNat']
    exact Nat.mod_eq_of_lt h
  have hlow := Sha1Ctx.Total0.toNat_lt
  have hhigh := Sha1Ctx.Total1.toNat_lt
  have hsum : (Sha1Ctx.Total0 + UInt32.ofNat uSize).toNat =
      (Sha1Ctx.Total0.toNat + uSize) % 2 ^ 32 := by
    rw [UInt32.toNat_add, hsize]
  have hcarry : (Sha1Ctx.Total1 + 1).toNat =
      (Sha1Ctx.Total1.toNat + 1) % 2 ^ 32 := UInt32.toNat_add _ _
  unfold Sha1_ctx.total Sha1_ctx.addTotal
  dsimp only
  rw [hsum]
  split
  · rename_i hless
    rw [UInt32.lt_iff_toNat_lt, hsum, hsize] at hless
    rw [hcarry]
    omega
  · rename_i hless
    rw [UInt32.lt_iff_toNat_lt, hsum, hsize] at hless
    omega

theorem pass_eq (Sha1Ctx : Sha1_ctx) (block : List BYTE) :
    exists A B C D E, Sha1Ctx.pass block =
      { Sha1Ctx with A := A, B := B, C := C, D := D, E := E } :=
  ⟨_, _, _, _, _, rfl⟩

theorem pass_advanced {block : List BYTE} (h : block.length = 64)
    (Sha1Ctx : Sha1_ctx) :
    (Sha1Ctx.pass block).hash = Sha1.compress Sha1Ctx.hash block ∧
      (Sha1Ctx.pass block).total = Sha1Ctx.total ∧
      (Sha1Ctx.pass block).BufferLen = Sha1Ctx.BufferLen ∧
      (Sha1Ctx.pass block).Buffer = Sha1Ctx.Buffer := by
  refine ⟨hash_pass h, ?_⟩
  rcases pass_eq Sha1Ctx block with ⟨A, B, C, D, E, hpass⟩
  rw [hpass]
  exact ⟨rfl, rfl, rfl⟩

theorem foldl_pass (blocks : List (List BYTE))
    (h : forall block, block ∈ blocks -> block.length = 64)
    (Sha1Ctx : Sha1_ctx) :
    let next := blocks.foldl Sha1_ctx.pass Sha1Ctx
    next.hash = blocks.foldl Sha1.compress Sha1Ctx.hash ∧
      next.total = Sha1Ctx.total ∧ next.BufferLen = Sha1Ctx.BufferLen ∧
      next.Buffer = Sha1Ctx.Buffer := by
  induction blocks generalizing Sha1Ctx with
  | nil => exact ⟨rfl, rfl, rfl, rfl⟩
  | cons block blocks ih =>
      have hrest := ih (fun b hb => h b (List.mem_cons_of_mem block hb))
        (Sha1Ctx.pass block)
      rcases pass_advanced (h block List.mem_cons_self) Sha1Ctx with
        ⟨hhash, htotal, hlen, hbuffer⟩
      rw [hhash, htotal, hlen, hbuffer] at hrest
      exact hrest

variable (Sha1Ctx) in
theorem hash1_Block_advanced {bytes : List BYTE} (hdvd : 64 ∣ bytes.length)
    (hfits : bytes.length < 2 ^ 32) :
    exists next, hash1_Block bytes Sha1Ctx = some next ∧
      Advanced Sha1Ctx bytes next := by
  have hwords : bytes.length / 4 % 16 = 0 := by omega
  rcases foldl_pass (chunks 64 bytes) (fun _ hb => length_of_mem_chunks hb)
    (Sha1Ctx.addTotal bytes.length) with ⟨hhash, htotal, hlen, hbuffer⟩
  refine ⟨_, if_pos hwords, hhash, ?_, hlen, hbuffer⟩
  rw [htotal, total_addTotal hfits]

/-!
## The buffer
-/

/-- A copy into the buffer changes nothing else. -/
structure Copied (Sha1Ctx : Sha1_ctx) (left_over : Nat) (Src : List BYTE)
    (next : Sha1_ctx) : Prop where
  hash : next.hash = Sha1Ctx.hash
  total0 : next.Total0 = Sha1Ctx.Total0
  total1 : next.Total1 = Sha1Ctx.Total1
  bufferLen : next.BufferLen = Sha1Ctx.BufferLen
  buffer : next.Buffer.val = splice Sha1Ctx.Buffer.val left_over Src

theorem memcpy_copied (Sha1Ctx : Sha1_ctx) {left_over : Nat} {Src : List BYTE}
    (h : left_over + Src.length ≤ 128) :
    exists next, Sha1Ctx.memcpy left_over Src = some next ∧
      Copied Sha1Ctx left_over Src next :=
  ⟨_, dif_pos h, rfl, rfl, rfl, rfl, rfl⟩

theorem read_eq {offset uSize : Nat} (h : offset + uSize ≤ 128) :
    Sha1Ctx.read offset uSize =
      some ((Sha1Ctx.Buffer.val.drop offset).take uSize) :=
  if_pos h

theorem buffer_length (Sha1Ctx : Sha1_ctx) : Sha1Ctx.Buffer.val.length = 128 :=
  Sha1Ctx.Buffer.length_val

/-- What is hashed, and what lies in front of the buffer. -/
structure Keeps (Sha1Ctx : Sha1_ctx) (hashed pending : List BYTE) : Prop where
  blocks : 64 ∣ hashed.length
  hash : Sha1Ctx.hash = Sha1.compressAll Sha1.initial hashed
  total : Sha1Ctx.total = hashed.length % 2 ^ 64
  buffer : Sha1Ctx.Buffer.val.take pending.length = pending

variable {hashed pending front rest text : List BYTE}

theorem Keeps.copied (h : Keeps Sha1Ctx hashed pending) {Src : List BYTE}
    (hcopied : Copied Sha1Ctx pending.length Src next)
    (hfits : pending.length + Src.length ≤ 128) :
    Keeps next hashed (pending ++ Src) where
  blocks := h.blocks
  hash := hcopied.hash.trans h.hash
  total := by
    rw [Sha1_ctx.total, hcopied.total0, hcopied.total1]
    exact h.total
  buffer := by
    have hle : pending.length ≤ Sha1Ctx.Buffer.val.length := by
      rw [buffer_length]
      omega
    rw [hcopied.buffer, List.length_append, take_splice hle, h.buffer]

theorem Keeps.advanced (h : Keeps Sha1Ctx hashed pending) {bytes : List BYTE}
    (hadvanced : Advanced Sha1Ctx bytes next) (hdvd : 64 ∣ bytes.length) :
    Keeps next (hashed ++ bytes) pending where
  blocks := by
    rw [List.length_append]
    exact Nat.dvd_add h.blocks hdvd
  hash := by
    rw [hadvanced.hash, h.hash, Sha1.compressAll_append h.blocks]
  total := by
    rw [hadvanced.total, h.total, List.length_append, Nat.mod_add_mod]
  buffer := by
    rw [hadvanced.buffer]
    exact h.buffer

theorem Keeps.withLength (h : Keeps Sha1Ctx hashed pending) (BufferLen : Nat) :
    Keeps { Sha1Ctx with BufferLen := BufferLen } hashed pending where
  blocks := h.blocks
  hash := h.hash
  total := h.total
  buffer := h.buffer

theorem Keeps.emptied (h : Keeps Sha1Ctx hashed pending) :
    Keeps Sha1Ctx hashed [] where
  blocks := h.blocks
  hash := h.hash
  total := h.total
  buffer := rfl

theorem Keeps.frontProcessed (h : Keeps Sha1Ctx hashed (front ++ rest))
    (hdvd : 64 ∣ front.length) (hfits : (front ++ rest).length ≤ 128) :
    exists next, processFront front.length rest.length Sha1Ctx = some next ∧
      Keeps next (hashed ++ front) rest ∧ next.BufferLen = rest.length := by
  rw [List.length_append] at hfits
  have hbuffer := h.buffer
  have hfront : (Sha1Ctx.Buffer.val.drop 0).take front.length = front := by
    rw [List.drop_zero]
    have htake := congrArg (List.take front.length) hbuffer
    rwa [List.take_take, List.take_left, List.length_append,
      Nat.min_eq_left (Nat.le_add_right _ _)] at htake
  have hrest :
      (Sha1Ctx.Buffer.val.drop front.length).take rest.length = rest := by
    have hdrop := congrArg (List.drop front.length) hbuffer
    rwa [List.drop_take, List.drop_left, List.length_append,
      Nat.add_sub_cancel_left] at hdrop
  rcases hash1_Block_advanced Sha1Ctx hdvd (by omega) with
    ⟨hashing, hblock, hadvanced⟩
  have hread : hashing.read front.length rest.length = some rest := by
    rw [read_eq hfits, hadvanced.buffer, hrest]
  let shorter := { hashing with BufferLen := rest.length }
  have hshorter : Keeps shorter (hashed ++ front) [] :=
    (h.emptied.advanced hadvanced hdvd).withLength _
  have hplace : ([] : List BYTE).length + rest.length ≤ 128 := by
    rw [List.length_nil]
    omega
  rcases memcpy_copied shorter hplace with ⟨next, hcopy, hcopied⟩
  refine ⟨next, ?_, hshorter.copied hcopied hplace, hcopied.bufferLen⟩
  rw [processFront, read_eq (by omega), hfront]
  show (hash1_Block front Sha1Ctx >>= _) = _
  rw [hblock]
  show (hashing.read front.length rest.length >>= _) = _
  rw [hread]
  exact hcopy

/-!
## The parts of a message
-/

/-- The context holds the message: its blocks hashed, up to a last one. -/
def Holds (Sha1Ctx : Sha1_ctx) (m : List BYTE) : Prop :=
  exists hashed pending, m = hashed ++ pending ∧ Keeps Sha1Ctx hashed pending ∧
    Sha1Ctx.BufferLen = pending.length ∧ pending.length ≤ 64

theorem holds_nil : Holds {} [] :=
  ⟨[], [], rfl, ⟨Nat.dvd_zero 64, rfl, rfl, rfl⟩, rfl, Nat.zero_le 64⟩

theorem holds_block {block : List BYTE} (h : block.length = 64) :
    exists next, hash1_Block block {} = some next ∧ Holds next block := by
  have hdvd : 64 ∣ block.length := by rw [h]
  have hfresh : Keeps {} [] [] := ⟨Nat.dvd_zero 64, rfl, rfl, rfl⟩
  rcases hash1_Block_advanced {} hdvd (by rw [h]; decide) with
    ⟨next, hstep, hadvanced⟩
  exact ⟨next, hstep, block, [], (List.append_nil block).symm,
    hfresh.advanced hadvanced hdvd, hadvanced.bufferLen, Nat.zero_le 64⟩

theorem Keeps.bufferProcessed (h : Keeps Sha1Ctx hashed pending)
    (hlen : Sha1Ctx.BufferLen = pending.length) (hfits : pending.length ≤ 128) :
    exists next hashed' pending', processBuffer Sha1Ctx = some next ∧
      Keeps next hashed' pending' ∧ next.BufferLen = pending'.length ∧
      pending'.length ≤ 64 ∧ hashed' ++ pending' = hashed ++ pending ∧
      (pending.length = 128 -> pending' = []) := by
  unfold processBuffer
  rw [hlen]
  split
  · let uSize := pending.length / 64 * 64
    have hfront : (pending.take uSize).length = uSize :=
      List.length_take_of_le (Nat.div_mul_le_self _ _)
    have hrest : (pending.drop uSize).length = pending.length % 64 := by
      rw [List.length_drop]
      omega
    have hcut := List.take_append_drop uSize pending
    rw [← hcut] at h
    rcases h.frontProcessed (by rw [hfront]; exact Nat.dvd_mul_left _ _)
      (by rwa [hcut]) with ⟨next, hstep, hkeeps, hnext⟩
    rw [hfront, hrest] at hstep
    refine ⟨next, _, _, hstep, hkeeps, hnext, ?_, ?_, ?_⟩
    · rw [hrest]
      omega
    · rw [List.append_assoc, hcut]
    · intro hfull
      apply List.drop_eq_nil_of_le
      omega
  · rename_i hsmall
    refine ⟨Sha1Ctx, hashed, pending, rfl, h, hlen, by omega, rfl, ?_⟩
    omega

theorem Keeps.filled (h : Keeps Sha1Ctx hashed pending)
    (hlen : Sha1Ctx.BufferLen = pending.length) (hle : pending.length ≤ 64)
    (text : List BYTE) :
    exists add next hashed' pending',
      fillBuffer text Sha1Ctx = some (add, next) ∧
      Keeps next hashed' pending' ∧ next.BufferLen = pending'.length ∧
      pending'.length ≤ 64 ∧
      hashed' ++ pending' ++ text.drop add = hashed ++ pending ++ text ∧
      (text.drop add = [] ∨ pending' = []) := by
  unfold fillBuffer
  rw [hlen]
  split
  · let add := if 128 - pending.length > text.length then text.length
      else 128 - pending.length
    have hadd : add = min text.length (128 - pending.length) := by
      show (if 128 - pending.length > text.length then _ else _) = _
      split <;> omega
    have hsrc : (text.take add).length = add := by
      rw [List.length_take]
      omega
    have hplace : pending.length + (text.take add).length ≤ 128 := by
      rw [hsrc]
      omega
    rcases memcpy_copied Sha1Ctx hplace with ⟨copy, hcopy, hcopied⟩
    have hkeeps := (h.copied hcopied hplace).withLength (pending.length + add)
    rcases hkeeps.bufferProcessed
      (by rw [List.length_append, hsrc])
      (by rwa [List.length_append]) with
      ⟨next, hashed', pending', hstep, hnext, hnextLen, hsmall, hsame, hfull⟩
    refine ⟨add, next, hashed', pending', ?_, hnext, hnextLen, hsmall, ?_, ?_⟩
    · show (Sha1Ctx.memcpy pending.length (text.take add) >>= _) = _
      rw [hcopy]
      show (processBuffer { copy with BufferLen := pending.length + add } >>= _) =
        _
      rw [hstep]
      rfl
    · rw [hsame, ← List.append_assoc, List.append_assoc (hashed ++ pending),
        List.take_append_drop]
    · rcases Nat.lt_or_ge (128 - pending.length) text.length with hmore | hall
      · apply Or.inr
        apply hfull
        rw [List.length_append, hsrc]
        omega
      · apply Or.inl
        apply List.drop_eq_nil_of_le
        omega
  · rename_i hzero
    have hnil : pending = [] :=
      List.eq_nil_of_length_eq_zero (Decidable.not_not.mp hzero)
    exact ⟨0, Sha1Ctx, hashed, pending, rfl, h, hlen, hle, rfl, Or.inr hnil⟩

theorem Keeps.copiedBlocks (h : Keeps Sha1Ctx hashed [])
    (hfits : text.length < 2 ^ 32) :
    exists front rest next, unalignedBlocks text Sha1Ctx = some (rest, next) ∧
      text = front ++ rest ∧ rest.length ≤ 64 ∧
      Keeps next (hashed ++ front) [] ∧ next.BufferLen = Sha1Ctx.BufferLen := by
  induction hn : text.length using Nat.strongRecOn generalizing text hashed Sha1Ctx
    with
  | ind n ih =>
      rw [unalignedBlocks]
      split
      · rename_i hmore
        have hblock : (text.take 64).length = 64 :=
          List.length_take_of_le (Nat.le_of_lt hmore)
        have hplace : ([] : List BYTE).length + (text.take 64).length ≤ 128 := by
          rw [hblock]
          decide
        rcases memcpy_copied Sha1Ctx hplace with ⟨copy, hcopy, hcopied⟩
        have hcopyKeeps := h.copied hcopied hplace
        have hread : copy.read 0 64 = some (text.take 64) := by
          have hbuffer := hcopyKeeps.buffer
          rw [List.nil_append, hblock] at hbuffer
          rw [read_eq (by decide), List.drop_zero, hbuffer]
        have hdvd : 64 ∣ (text.take 64).length := by rw [hblock]
        rcases hash1_Block_advanced copy hdvd (by rw [hblock]; decide) with
          ⟨hashing, hstep, hadvanced⟩
        have hrest : (text.drop 64).length < n := by
          rw [List.length_drop]
          omega
        rcases ih _ hrest (hcopyKeeps.emptied.advanced hadvanced hdvd) (by omega)
          rfl with ⟨front, rest, next, hloop, hcut, hless, hkeeps, hlen⟩
        refine ⟨text.take 64 ++ front, rest, next, ?_, ?_, hless, ?_, ?_⟩
        · rw [List.length_nil] at hcopy
          simp only [hcopy, hread, hstep, hloop, Option.bind_eq_bind,
            Option.bind_some]
        · rw [List.append_assoc, ← hcut, List.take_append_drop]
        · rwa [← List.append_assoc]
        · rw [hlen, hadvanced.bufferLen, hcopied.bufferLen]
      · rename_i hless
        refine ⟨[], text, Sha1Ctx, rfl, rfl, by omega, ?_, rfl⟩
        rwa [List.append_nil]

theorem Keeps.completed (h : Keeps Sha1Ctx hashed pending)
    (hlen : Sha1Ctx.BufferLen = pending.length) (address : Nat)
    (hfits : text.length < 2 ^ 32) (hempty : text = [] ∨ pending = []) :
    exists rest next hashed',
      completeBlocks address text Sha1Ctx = some (rest, next) ∧
      Keeps next hashed' pending ∧ next.BufferLen = pending.length ∧
      hashed' ++ pending ++ rest = hashed ++ pending ++ text ∧
      rest.length ≤ 64 := by
  unfold completeBlocks
  split
  · rename_i hmany
    have hpending : pending = [] := by
      rcases hempty with htext | hpending
      · rw [htext] at hmany
        exact absurd hmany (by decide)
      · exact hpending
    rw [hpending] at h hlen ⊢
    split
    · rcases h.copiedBlocks hfits with
        ⟨front, rest, next, hstep, hcut, hless, hkeeps, hnext⟩
      refine ⟨rest, next, _, hstep, hkeeps, hnext.trans hlen, ?_, hless⟩
      rw [hcut, List.append_nil, List.append_nil, List.append_assoc]
    · let uSize := text.length / 64 * 64
      have hfront : (text.take uSize).length = uSize :=
        List.length_take_of_le (Nat.div_mul_le_self _ _)
      have hdvd : 64 ∣ (text.take uSize).length := by
        rw [hfront]
        exact Nat.dvd_mul_left _ _
      rcases hash1_Block_advanced Sha1Ctx hdvd (by omega) with
        ⟨next, hstep, hadvanced⟩
      refine ⟨text.drop uSize, next, _, ?_, h.advanced hadvanced hdvd,
        hadvanced.bufferLen.trans hlen, ?_, ?_⟩
      · show (hash1_Block (text.take uSize) Sha1Ctx >>= _) = _
        rw [hstep]
        rfl
      · rw [List.append_nil, List.append_nil, List.append_assoc,
          List.take_append_drop]
      · rw [List.length_drop]
        omega
  · exact ⟨text, Sha1Ctx, hashed, rfl, h, hlen, rfl, by omega⟩

theorem Keeps.moved (h : Keeps Sha1Ctx hashed pending)
    (hlen : Sha1Ctx.BufferLen = pending.length) (hle : pending.length ≤ 64)
    (hrest : rest.length ≤ 64) :
    exists next, moveRest rest Sha1Ctx = some next ∧
      Holds next (hashed ++ pending ++ rest) := by
  unfold moveRest
  split
  · have hplace : pending.length + rest.length ≤ 128 := by omega
    rcases memcpy_copied Sha1Ctx hplace with ⟨copy, hcopy, hcopied⟩
    have hkeeps := h.copied hcopied hplace
    let all := pending ++ rest
    have hall : all.length = pending.length + rest.length := List.length_append
    simp only [hlen, hcopy, Option.bind_eq_bind, Option.bind_some]
    split
    · have hcut := List.take_append_drop 64 all
      have hfront : (all.take 64).length = 64 :=
        List.length_take_of_le (by omega)
      have hleft : (all.drop 64).length = pending.length + rest.length - 64 := by
        rw [List.length_drop, hall]
      have hsplit : Keeps copy hashed (all.take 64 ++ all.drop 64) := by
        rwa [hcut]
      rcases hsplit.frontProcessed (by rw [hfront]) (by rw [hcut]; omega) with
        ⟨next, hstep, hnext, hnextLen⟩
      rw [hfront, hleft] at hstep
      refine ⟨next, hstep, _, _, ?_, hnext, hnextLen, by omega⟩
      rw [List.append_assoc, List.append_assoc, hcut]
    · refine ⟨_, rfl, hashed, all, List.append_assoc _ _ _, hkeeps.withLength _,
        ?_, by omega⟩
      exact hall.symm
  · have hnil : rest = [] := List.eq_nil_of_length_eq_zero (by omega)
    rw [hnil, List.append_nil]
    exact ⟨Sha1Ctx, rfl, hashed, pending, rfl, h, hlen, hle⟩

theorem Holds.bytes {m : List BYTE} (h : Holds Sha1Ctx m) (address : Nat)
    (hfits : text.length < 2 ^ 32) :
    exists next, hash1_Bytes address text Sha1Ctx = some next ∧
      Holds next (m ++ text) := by
  rcases h with ⟨hashed, pending, hm, hkeeps, hlen, hle⟩
  rcases hkeeps.filled hlen hle text with
    ⟨add, filled, hashed', pending', hfill, hfilled, hlen', hle', hsame, hempty⟩
  have hless : (text.drop add).length < 2 ^ 32 := by
    rw [List.length_drop]
    omega
  rcases hfilled.completed hlen' (address + add) hless hempty with
    ⟨rest, completed, hashed'', hcomplete, hcompleted, hlen'', hsame', hrest⟩
  rcases hcompleted.moved hlen'' hle' hrest with ⟨next, hmove, hnext⟩
  rw [hsame', hsame, ← hm] at hnext
  refine ⟨next, ?_, hnext⟩
  simp only [hash1_Bytes, hfill, hcomplete, hmove, Option.bind_eq_bind,
    Option.bind_some]

/-!
## The end of a message
-/

theorem length_setValue (v : DWORD) : (setValue v).length = 4 := by
  rw [setValue, List.length_reverse, Bytes.length_ofNat]

theorem setValue_total {l : Nat} (htotal : Sha1Ctx.total = l)
    (hfits : l < 2 ^ 61) :
    setValue (swap (Sha1Ctx.Total1 <<< 3 ||| Sha1Ctx.Total0 >>> 29)) ++
        setValue (swap (Sha1Ctx.Total0 <<< 3)) =
      Bytes.ofNat 8 (8 * l) := by
  have hlow := Sha1Ctx.Total0.toNat_lt
  have hsum : Sha1Ctx.Total1.toNat * 2 ^ 32 + Sha1Ctx.Total0.toNat = l := htotal
  have hshift : (Sha1Ctx.Total0 <<< 3).toNat = 8 * l % 256 ^ 4 := by
    rw [UInt32.toNat_shiftLeft]
    show Sha1Ctx.Total0.toNat <<< 3 % 2 ^ 32 = _
    rw [Nat.shiftLeft_eq]
    omega
  have hhigh : (Sha1Ctx.Total1 <<< 3 ||| Sha1Ctx.Total0 >>> 29).toNat =
      8 * l / 256 ^ 4 := by
    have hleft : (Sha1Ctx.Total1 <<< 3).toNat = 2 ^ 3 * Sha1Ctx.Total1.toNat := by
      rw [UInt32.toNat_shiftLeft]
      show Sha1Ctx.Total1.toNat <<< 3 % 2 ^ 32 = _
      rw [Nat.shiftLeft_eq]
      omega
    have hright : (Sha1Ctx.Total0 >>> 29).toNat = Sha1Ctx.Total0.toNat / 2 ^ 29 := by
      rw [UInt32.toNat_shiftRight]
      show Sha1Ctx.Total0.toNat >>> 29 = _
      rw [Nat.shiftRight_eq_div_pow]
    rw [UInt32.toNat_or, hleft, hright,
      ← Nat.two_pow_add_eq_or_of_lt (by omega)]
    omega
  rw [setValue_swap, setValue_swap, hhigh, hshift, Bytes.ofNat_mod]
  exact (Bytes.ofNat_add 4 4 (8 * l)).symm

theorem take_fillBufer {n : Nat} (hn : n < 64) :
    fillBufer.take (n + 1) = 0x80 :: List.replicate n 0 := by
  rw [fillBufer, List.take_succ_cons, List.take_replicate,
    Nat.min_eq_left (Nat.le_of_lt_succ hn)]

theorem take_padded {B pending high low : List BYTE} (fill : List BYTE)
    (hB : B.length = 128) (hpending : B.take pending.length = pending)
    (hhigh : high.length = 4) (hlow : low.length = 4)
    (hfits : pending.length + fill.length + 8 ≤ 128) :
    let place := pending.length + fill.length
    (splice (splice (splice B place high) (place + 4) low) pending.length
        fill).take (place + 8) =
      pending ++ fill ++ (high ++ low) := by
  intro place
  let B1 := splice B place high
  let B2 := splice B1 (place + 4) low
  have hB1 : B1.length = 128 := by
    rw [length_splice (by omega), hB]
  have hB2 : B2.length = 128 := by
    rw [length_splice (by omega), hB1]
  have hhighs : B1.take (place + 4) = B.take place ++ high := by
    rw [← hhigh]
    exact take_splice (by omega)
  have hlows : B2.take (place + 8) = B.take place ++ (high ++ low) := by
    have htake : B2.take (place + 4 + low.length) = B1.take (place + 4) ++ low :=
      take_splice (by omega)
    rw [hlow, hhighs] at htake
    rw [← List.append_assoc]
    exact htake
  have hbehind : (B2.drop place).take 8 = high ++ low := by
    have hdrop := congrArg (List.drop place) hlows
    rw [List.drop_take, List.drop_left' (List.length_take_of_le (by omega)),
      Nat.add_sub_cancel_left] at hdrop
    exact hdrop
  have hfront : B2.take pending.length = pending := by
    rw [take_splice_of_le (by omega) (by omega),
      take_splice_of_le (by omega) (by omega), hpending]
  have hplace : (splice B2 pending.length fill).take place = pending ++ fill := by
    rw [take_splice (by omega), hfront]
  have hrest : (splice B2 pending.length fill).drop place = B2.drop place :=
    drop_splice (by omega)
  show (splice B2 pending.length fill).take (place + 8) = _
  rw [List.take_add, hplace, hrest, hbehind]

theorem finish_sizes {hashed pending : List BYTE} {size : Nat}
    (hblocks : 64 ∣ hashed.length) (hle : pending.length ≤ 64)
    (hsize : size = if pending.length < 56 then 64 / 4 else 64 * 2 / 4) :
    let zeros := Sha1.zeros (hashed ++ pending).length
    zeros < 64 ∧ (size - 2) * 4 = pending.length + (zeros + 1) ∧
      (size - 1) * 4 = pending.length + (zeros + 1) + 4 ∧
      size * 4 = pending.length + (zeros + 1) + 8 ∧ size * 4 ≤ 128 ∧
      64 ∣ size * 4 := by
  rw [List.length_append, Sha1.zeros]
  split at hsize <;> rw [hsize] <;> omega

theorem Keeps.padded (h : Keeps Sha1Ctx hashed pending) {size : Nat}
    (hsize : size = if pending.length < 56 then 64 / 4 else 64 * 2 / 4)
    (hle : pending.length ≤ 64) (hfits : (hashed ++ pending).length < 2 ^ 61) :
    let counted := Sha1Ctx.addTotal pending.length
    let zeros := Sha1.zeros (hashed ++ pending).length
    exists first second third,
      counted.memcpy ((size - 2) * 4)
          (setValue (swap (counted.Total1 <<< 3 ||| counted.Total0 >>> 29))) =
        some first ∧ first.Total0 = counted.Total0 ∧
      first.memcpy ((size - 1) * 4) (setValue (swap (counted.Total0 <<< 3))) =
        some second ∧
      second.memcpy pending.length (fillBufer.take (zeros + 1)) = some third ∧
      third.hash = Sha1Ctx.hash ∧
      third.read 0 (size * 4) =
        some (pending ++ Sha1.padding (hashed ++ pending).length) := by
  intro counted zeros
  rcases finish_sizes h.blocks hle hsize with
    ⟨hzeros, hplace, hplace', hend, hroom, _⟩
  have htotal : counted.total = (hashed ++ pending).length := by
    rw [total_addTotal (by omega), h.total, Nat.mod_add_mod, List.length_append,
      Nat.mod_eq_of_lt]
    rw [List.length_append] at hfits
    omega
  let high := setValue (swap (counted.Total1 <<< 3 ||| counted.Total0 >>> 29))
  let low := setValue (swap (counted.Total0 <<< 3))
  let fill := fillBufer.take (zeros + 1)
  have hfill : fill = 0x80 :: List.replicate zeros 0 := take_fillBufer hzeros
  have hfillLength : fill.length = zeros + 1 := by
    rw [hfill, List.length_cons, List.length_replicate]
  have hhigh : high.length = 4 := length_setValue _
  have hlow : low.length = 4 := length_setValue _
  rcases memcpy_copied counted (by omega : (size - 2) * 4 + high.length ≤ 128)
    with ⟨first, hfirst, hfirstCopied⟩
  rcases memcpy_copied first (by omega : (size - 1) * 4 + low.length ≤ 128)
    with ⟨second, hsecond, hsecondCopied⟩
  rcases memcpy_copied second (by omega : pending.length + fill.length ≤ 128)
    with ⟨third, hthird, hthirdCopied⟩
  refine ⟨first, second, third, hfirst, hfirstCopied.total0, hsecond, hthird, ?_, ?_⟩
  · rw [hthirdCopied.hash, hsecondCopied.hash, hfirstCopied.hash]
    rfl
  · have hpadded := take_padded fill (buffer_length Sha1Ctx) h.buffer hhigh hlow
      (by omega)
    rw [read_eq (by omega), List.drop_zero, hthirdCopied.buffer,
      hsecondCopied.buffer, hfirstCopied.buffer, hplace, hplace', hend,
      ← hfillLength]
    show some ((splice (splice (splice Sha1Ctx.Buffer.val _ _) _ _) _ _).take _) =
      _
    rw [hpadded, setValue_total htotal hfits, hfill, Sha1.padding,
      List.append_assoc]

theorem Holds.finish {m : List BYTE} (h : Holds Sha1Ctx m)
    (hfits : m.length < 2 ^ 61) :
    hash1_Finish Sha1Ctx = some (Sha1.sha1 m) := by
  rcases h with ⟨hashed, pending, hm, hkeeps, hlen, hle⟩
  rcases (⟨_, rfl⟩ : exists size, size =
    if pending.length < 56 then 64 / 4 else 64 * 2 / 4) with ⟨size, hsize⟩
  rw [hm] at hfits ⊢
  rcases finish_sizes hkeeps.blocks hle hsize with
    ⟨hzeros, hplace, _, hend, hroom, hdvd⟩
  rcases hkeeps.padded hsize hle hfits with
    ⟨first, second, third, hfirst, htotal0, hsecond, hthird, hsame, hread⟩
  let zeros := Sha1.zeros (hashed ++ pending).length
  have hlast : (pending ++ Sha1.padding (hashed ++ pending).length).length =
      size * 4 := by
    rw [hend, Sha1.padding, List.length_append, List.length_append,
      List.length_cons, List.length_replicate, Bytes.length_ofNat]
    omega
  rcases hash1_Block_advanced third (hlast ▸ hdvd) (by omega) with
    ⟨final, hfinal, hadvanced⟩
  have hhash : final.hash = Sha1.compressAll Sha1.initial
      (hashed ++ pending ++ Sha1.padding (hashed ++ pending).length) := by
    rw [hadvanced.hash, hsame, List.append_assoc,
      Sha1.compressAll_append hkeeps.blocks, ← hkeeps.hash]
  have hguard : (size - 2) * 4 - pending.length = zeros + 1 := by omega
  have hroomy : zeros + 1 ≤ fillBufer.length := hzeros
  rw [Sha1.sha1, ← hhash, hash1_Finish]
  simp only [hlen, ← hsize]
  rw [hfirst, Option.bind_eq_bind, Option.bind_some, htotal0, hsecond,
    Option.bind_eq_bind, Option.bind_some, hguard, guard, if_pos hroomy]
  show (second.memcpy pending.length (fillBufer.take (zeros + 1)) >>= _) = _
  rw [hthird, Option.bind_eq_bind, Option.bind_some, hread, Option.bind_eq_bind,
    Option.bind_some, hfinal]
  simp only [setValue_swap]
  rfl

/-!
## All parts of a message
-/

def hash1_Parts : List (Nat × List BYTE) -> Sha1_ctx -> Option Sha1_ctx
  | [], Sha1Ctx => some Sha1Ctx
  | part :: parts, Sha1Ctx => do
      let Sha1Ctx <- hash1_Bytes part.1 part.2 Sha1Ctx
      hash1_Parts parts Sha1Ctx

theorem Holds.parts {m : List BYTE} (h : Holds Sha1Ctx m)
    {parts : List (Nat × List BYTE)}
    (hfits : forall part, part ∈ parts -> part.2.length < 2 ^ 32) :
    exists next, hash1_Parts parts Sha1Ctx = some next ∧
      Holds next (m ++ parts.flatMap Prod.snd) := by
  induction parts generalizing Sha1Ctx m with
  | nil =>
      refine ⟨Sha1Ctx, rfl, ?_⟩
      rwa [List.flatMap_nil, List.append_nil]
  | cons part parts ih =>
      rcases h.bytes part.1 (hfits part List.mem_cons_self) with
        ⟨mid, hstep, hmid⟩
      rcases ih hmid (fun p hp => hfits p (List.mem_cons_of_mem part hp)) with
        ⟨next, hrest, hnext⟩
      refine ⟨next, ?_, ?_⟩
      · show (hash1_Bytes part.1 part.2 Sha1Ctx >>= _) = _
        rw [hstep]
        exact hrest
      · rwa [List.flatMap_cons, ← List.append_assoc]

/-- However a message is cut, the end of its parts gives its hash. -/
theorem hash1_Parts_finish {parts : List (Nat × List BYTE)}
    (hfits : forall part, part ∈ parts -> part.2.length < 2 ^ 32)
    {m : List BYTE} (hm : parts.flatMap Prod.snd = m)
    (hlength : m.length < 2 ^ 61) :
    exists Sha1Ctx, hash1_Parts parts {} = some Sha1Ctx ∧
      hash1_Finish Sha1Ctx = some (Sha1.sha1 m) := by
  rcases holds_nil.parts hfits with ⟨Sha1Ctx, hparts, hholds⟩
  rw [List.nil_append, hm] at hholds
  exact ⟨Sha1Ctx, hparts, hholds.finish hlength⟩

theorem hash1_Parts_finish_abc :
    exists Sha1Ctx, hash1_Parts [(4, [97]), (9, []), (13, [98, 99])] {} =
        some Sha1Ctx ∧
      hash1_Finish Sha1Ctx = some (Sha1.sha1 [97, 98, 99]) :=
  hash1_Parts_finish (by decide) rfl (by decide)

end CLHmacSha1
end BnsKorea
