import DcFatfs.Handle.Seek

/-!
# `fat_stat`, `fat_fstat` and the path operations

`fat_stat` describes a path through the directory entry `f_stat` reads, and
`fat_fstat` an open handle through its file object. For a regular file both
compute `st_mode`, `st_size`, `st_blksize` and `st_blocks` by the same code
(`regStat`), but not `st_dev`: `fat_stat` reports the address of the VFS handler
the call came through, `fat_fstat` the address of the block device
(`fatStat_fatFstat`, `stat_fstat_differ`). Only `fat_stat` sets the times
(`fdate + ftime`), and only `fat_fstat` gives a directory a block size.

`st_size` is an `off_t`, the target's 32-bit `long`: a size from 2^31 on is
reported negative. `st_blocks` is the size in blocks rounded up, except on a device
of 1-byte blocks, where it is the size as a `long`, and for the largest file on
2-byte blocks, where `++st_blocks` overflows (`stBlocks_eq`). `1 << l_block_size`
is an `int` shift: from `l = 31` on `fat_fstat` is undefined on every handle, and
`fat_stat` on every regular file.

`fat_rename`, `fat_unlink`, `fat_mkdir` and `fat_rmdir` share one body with the
first half of `fat_stat`: `FAT_GET_MNT`, then one engine call (§5).
-/

namespace DcFatfs

/-! ## §1  `fat_stat` -/

/-- `AM_DIR`, the directory bit of `FILINFO.fattrib`. -/
def amDir : Nat := 0x10

/-- The fields of the `FILINFO` that `f_stat` fills in and `fat_stat` reads. -/
structure FilInfo where
  fsize : Nat
  fdate : Nat
  ftime : Nat
  fattrib : Nat
  deriving DecidableEq, Repr

/-- The engine's answers to `fat_stat`: `f_chdrive`, and `f_stat` with the entry it
fills in. -/
structure StatReplies where
  chdrive : FResult
  stat : FResult
  info : FilInfo
  deriving DecidableEq, Repr

/-- The `vfs_handler_t` a path call comes through: its address, and its `privdata`,
the mount it was registered for. -/
structure VfsCtx where
  addr : Nat
  privdata : Option MntCtx

/-- `fat_stat`: the result and the `struct stat` it fills in. `FAT_GET_MNT` jumps
to the error exit with `rc` still `FR_OK` when the handler has no mount or
`f_chdrive` fails, so `errno` is set to 0 there. The root, `""` or `"/"`, is a
directory of size -1 that the engine is not asked about. `st_dev` is the address
of the handler, converted to a `dev_t` of at least 32 bits. What a failed call has
written into the struct is left out. -/
def fatStat (vfs : VfsCtx) (path : String) (r : StatReplies) : Option (Out × Option Stat) :=
  match vfs.privdata with
  | none => some (⟨-1, fatfsSetErrno .ok⟩, none)
  | some m =>
  if r.chdrive ≠ .ok then some (⟨-1, fatfsSetErrno .ok⟩, none) else
  if path = "" ∨ path = "/" then some (⟨0, none⟩, some ⟨vfs.addr, true, -1, 0, 0, 1, 0⟩) else
  if r.stat ≠ .ok then some (⟨-1, fatfsSetErrno r.stat⟩, none) else
  let time := r.info.fdate + r.info.ftime
  if r.info.fattrib &&& amDir ≠ 0 then
    some (⟨0, none⟩, some ⟨vfs.addr, true, -1, 0, 0, 1, time⟩)
  else if m.lBlockSize < 31 then
    (regStat vfs.addr r.info.fsize m.lBlockSize time).map fun st => (⟨0, none⟩, some st)
  else none

/-! ## §2  `st_blocks` -/

theorem toOffT_lt {x : Nat} (h : x < 2 ^ 32) : toOffT x < 2 ^ 31 := by
  unfold toOffT; split_ifs <;> omega

/-- The blocks `s` bytes take: whole blocks, and one more for a remainder. -/
theorem ceilDiv_two_pow (s l : Nat) :
    s ⌈/⌉ 2 ^ l = s / 2 ^ l + if s % 2 ^ l ≠ 0 then 1 else 0 := by
  rw [Nat.ceilDiv_eq_add_pred_div]
  have hd := Nat.two_pow_pos l
  have h := Nat.div_add_mod' s (2 ^ l)
  have hr := Nat.mod_lt s hd
  generalize 2 ^ l = d at *
  apply Nat.div_eq_of_lt_le
  all_goals split_ifs <;> simp only [Nat.succ_mul, Nat.add_mul, Nat.one_mul, Nat.zero_mul] <;> omega

/-- A 32-bit size takes fewer than 2^31 blocks of 2 bytes or more, but for the
largest size on 2-byte blocks. -/
theorem ceilDiv_two_pow_lt {s l : Nat} (hs : s < 2 ^ 32) (hl : 0 < l)
    (h1 : ¬(l = 1 ∧ s = 2 ^ 32 - 1)) : s ⌈/⌉ 2 ^ l < 2 ^ 31 := by
  rw [ceilDiv_two_pow]
  rcases l with _ | _ | l
  · exact absurd hl (lt_irrefl 0)
  · simp only [zero_add, pow_one, true_and] at h1 ⊢
    split_ifs <;> omega
  · have : s / 2 ^ (l + 1 + 1) ≤ s / 4 :=
      Nat.div_le_div_left (Nat.pow_le_pow_right (by decide) (by omega) : 2 ^ 2 ≤ 2 ^ (l + 1 + 1))
        (by decide)
    split_ifs <;> omega

/-- **`st_blocks` is the size in blocks, rounded up.** For a 32-bit size `fsize` on
blocks of `2^l` bytes, `st_blocks` is `⌈fsize / 2^l⌉`, as long as that fits the
`long`; on 1-byte blocks it is `fsize` as a `long`. -/
theorem stBlocks_eq {fsize l : Nat} (hs : fsize < 2 ^ 32) :
    stBlocks fsize l =
      if l = 0 then some (toOffT fsize)
      else if fsize ⌈/⌉ 2 ^ l < 2 ^ 31 then some (fsize ⌈/⌉ 2 ^ l : Nat) else none := by
  rw [stBlocks, Nat.shiftRight_eq_div_pow, Nat.and_pow_two_sub_one_eq_mod]
  rcases Nat.eq_zero_or_pos l with rfl | hl
  · simp only [pow_zero, Nat.div_one, Nat.mod_one, ne_eq, not_true_eq_false, if_false,
      add_zero, if_true, if_pos (toOffT_lt hs)]
  · have hq : fsize / 2 ^ l < 2 ^ 31 := by
      have := Nat.div_le_div_left (Nat.le_self_pow hl.ne' 2) (by decide : 0 < 2) (a := fsize)
      omega
    have hb : ((fsize / 2 ^ l : Nat) : Int) + (if fsize % 2 ^ l ≠ 0 then 1 else 0) =
        (fsize ⌈/⌉ 2 ^ l : Nat) := by
      rw [ceilDiv_two_pow]; push_cast; rfl
    rw [toOffT_of_lt hq, hb, if_neg hl.ne']
    split_ifs <;> first | rfl | omega

/-! ## §3  The two calls on one file -/

section Agree

variable {vfs : VfsCtx} {m : MntCtx} {path : String} {r : StatReplies}

theorem fatStat_entry (hm : vfs.privdata = some m) (hc : r.chdrive = .ok)
    (hp : path ≠ "" ∧ path ≠ "/") (hok : r.stat = .ok) :
    fatStat vfs path r =
      if r.info.fattrib &&& amDir ≠ 0 then
        some (⟨0, none⟩, some ⟨vfs.addr, true, -1, 0, 0, 1, r.info.fdate + r.info.ftime⟩)
      else if m.lBlockSize < 31 then
        (regStat vfs.addr r.info.fsize m.lBlockSize (r.info.fdate + r.info.ftime)).map
          fun st => (⟨0, none⟩, some st)
      else none := by
  simp [fatStat, hm, hc, hp.1, hp.2, hok]

theorem fatFstat_slot {s : Pool} {fd : Fin maxFatFiles} (hfm : (s.fh fd).mnt = some m) :
    fatFstat s (fd.val + 1) =
      if m.lBlockSize < 31 then
        if (s.fh fd).type = .dir then
          some (⟨0, none⟩, some ⟨m.dev, true, -1, 2 ^ m.lBlockSize, 0, 1, 0⟩)
        else (regStat m.dev (s.fh fd).fil.fsize m.lBlockSize 0).map fun st => (⟨0, none⟩, some st)
      else none := by
  simp [fatFstat, hfm]

/-- `st_blocks` of a 32-bit size on blocks of `2^l` bytes, `l ≤ 30`, where it fits. -/
theorem stBlocks_of_fits {fsize l : Nat} (hs : fsize < 2 ^ 32) (h1 : ¬(l = 1 ∧ fsize = 2 ^ 32 - 1)) :
    stBlocks fsize l =
      some (if l = 0 then toOffT fsize else ((fsize ⌈/⌉ 2 ^ l : Nat) : Int)) := by
  rw [stBlocks_eq hs]
  split_ifs with h0 h2
  · rfl
  · rfl
  · exact absurd (ceilDiv_two_pow_lt hs (Nat.pos_of_ne_zero h0) h1) h2

/-- **`fat_stat` and `fat_fstat` agree on a file but for `st_dev` and the times.**
Take a mount `m`, the handler `vfs` registered for it, a path other than the root
that `f_stat` finds, and a slot of `m` whose file object has the entry's size
(below 2^32) and kind. For a regular file on blocks of `2^l` bytes, `l ≤ 30`,
`fat_fstat` reports `S_IFREG`, the size as an `off_t`, `st_blksize = 2^l` and
`st_blocks = ⌈size / 2^l⌉` (on 1-byte blocks the size as a `long`), and `st_dev`
the device's address; `fat_stat` reports the same with `st_dev` the handler's
address and the times of the entry. From `l = 31` on, and for the largest size on
2-byte blocks, both are undefined. For a directory, and for the root, `fat_stat`
reports `S_IFDIR` and size -1, and so does `fat_fstat` up to `l = 30`. -/
theorem fatStat_fatFstat (vfs : VfsCtx) (m : MntCtx) (path : String) (r : StatReplies) (s : Pool)
    (fd : Fin maxFatFiles) (hm : vfs.privdata = some m) (hfm : (s.fh fd).mnt = some m)
    (hc : r.chdrive = .ok) (hp : path ≠ "" ∧ path ≠ "/") (hok : r.stat = .ok)
    (hsz : (s.fh fd).fil.fsize = r.info.fsize) (hs : r.info.fsize < 2 ^ 32) :
    ((s.fh fd).type ≠ .dir → r.info.fattrib &&& amDir = 0 →
      (m.lBlockSize < 31 → ¬(m.lBlockSize = 1 ∧ r.info.fsize = 2 ^ 32 - 1) →
        ∃ st, fatFstat s (fd.val + 1) = some (⟨0, none⟩, some st) ∧
          fatStat vfs path r =
            some (⟨0, none⟩, some { st with dev := vfs.addr, time := r.info.fdate + r.info.ftime }) ∧
          st = ⟨m.dev, false, toOffT r.info.fsize, 2 ^ m.lBlockSize,
            if m.lBlockSize = 0 then toOffT r.info.fsize
            else ((r.info.fsize ⌈/⌉ 2 ^ m.lBlockSize : Nat) : Int), 1, 0⟩) ∧
      (31 ≤ m.lBlockSize ∨ (m.lBlockSize = 1 ∧ r.info.fsize = 2 ^ 32 - 1) →
        fatFstat s (fd.val + 1) = none ∧ fatStat vfs path r = none)) ∧
    ((s.fh fd).type = .dir → r.info.fattrib &&& amDir ≠ 0 →
      fatStat vfs path r =
        some (⟨0, none⟩, some ⟨vfs.addr, true, -1, 0, 0, 1, r.info.fdate + r.info.ftime⟩) ∧
      fatStat vfs "/" r = some (⟨0, none⟩, some ⟨vfs.addr, true, -1, 0, 0, 1, 0⟩) ∧
      fatFstat s (fd.val + 1) = if m.lBlockSize < 31 then
        some (⟨0, none⟩, some ⟨m.dev, true, -1, 2 ^ m.lBlockSize, 0, 1, 0⟩) else none) := by
  rw [fatStat_entry hm hc hp hok, fatFstat_slot hfm, hsz]
  refine ⟨fun ht hd => ⟨fun hl h1 => ?_, fun h => ?_⟩, fun ht hd => ⟨if_pos hd, ?_, ?_⟩⟩
  · have hb := stBlocks_of_fits hs h1
    refine ⟨_, ?_, ?_, rfl⟩
    · rw [if_pos hl, if_neg ht, regStat, hb]; rfl
    · rw [if_neg (not_not.mpr hd), if_pos hl, regStat, hb]; rfl
  · rcases h with hl | ⟨h1, h2⟩
    · rw [if_neg (Nat.not_lt.mpr hl), if_neg (not_not.mpr hd), if_neg (Nat.not_lt.mpr hl)]
      exact ⟨rfl, rfl⟩
    · have hb : stBlocks r.info.fsize 1 = none := by
        rw [stBlocks_eq hs, h2]; decide
      simp only [regStat, hb, ht, hd, h1, if_true, if_false, ne_eq, not_true_eq_false,
        Option.map_none', and_self, Nat.one_lt_ofNat]
  · simp only [fatStat, hm, hc, ne_eq, not_true_eq_false, if_false, or_true, if_true]
  · simp only [ht, if_true]

end Agree

/-! ## §4  A file of 2^31 bytes -/

/-- A mount on a block device at `0x8c100000` with 512-byte blocks. -/
def statMnt : MntCtx := ⟨"0:", 4, 0x8c100000, 9⟩

/-- The handler at `0x8c200000` registered for `statMnt`. -/
def statVfs : VfsCtx := ⟨0x8c200000, some statMnt⟩

/-- An engine that opens a file of 2^31 bytes. -/
def bigOpen : OpenReplies := ⟨.ok, .ok, .ok, ⟨some 0, 0x80000000, 0, 2⟩, ⟨.ok, 0, 0, none⟩⟩

/-- `f_stat`'s answer for that file: an archived regular entry of 2^31 bytes, with no
time stamp. -/
def bigEntry : StatReplies := ⟨.ok, .ok, ⟨0x80000000, 0, 0, 0x20⟩⟩

/-- The pool once that file is open read-only as descriptor 1. -/
def bigPool : Pool :=
  (fatOpen sampleFlags Pool.init (some statMnt) (some "/big") sampleFlags.oRdonly bigOpen).1

theorem fatStat_fatFstat_big :
    ∃ st, fatFstat bigPool (0 + 1) = some (⟨0, none⟩, some st) ∧
      fatStat statVfs "/big" bigEntry = some (⟨0, none⟩,
        some { st with dev := statVfs.addr, time := bigEntry.info.fdate + bigEntry.info.ftime }) ∧
      st = ⟨statMnt.dev, false, toOffT bigEntry.info.fsize, 2 ^ statMnt.lBlockSize,
        if statMnt.lBlockSize = 0 then toOffT bigEntry.info.fsize
        else ((bigEntry.info.fsize ⌈/⌉ 2 ^ statMnt.lBlockSize : Nat) : Int), 1, 0⟩ :=
  ((fatStat_fatFstat statVfs statMnt "/big" bigEntry bigPool 0 rfl rfl rfl
    ⟨by decide, by decide⟩ rfl rfl (by decide)).1 (by decide) rfl).1 (by decide) (by decide)

/-- A file of 2^31 bytes, open as descriptor 1: `fat_stat` reports the handler's
address as `st_dev` and `fat_fstat` the device's, and both report the size as
-2^31. -/
theorem stat_fstat_differ :
    ∃ s, Reach sampleFlags Admitted s ∧ (s.fh 0).used ∧ (s.fh 0).fil.fsize = 2 ^ 31 ∧
      fatStat statVfs "/big" bigEntry =
        some (⟨0, none⟩, some ⟨0x8c200000, false, -2 ^ 31, 512, 2 ^ 22, 1, 0⟩) ∧
      fatFstat s 1 = some (⟨0, none⟩, some ⟨0x8c100000, false, -2 ^ 31, 512, 2 ^ 22, 1, 0⟩) :=
  ⟨bigPool, .step .init ⟨fun _ h => (by cases h), fun _ _ _ h => (by cases h)⟩
      (show step sampleFlags Pool.init
        (.fatOpen (some statMnt) (some "/big") sampleFlags.oRdonly bigOpen) = some (_, _) from rfl),
    rfl, rfl, by decide, by decide⟩

/-! ## §5  The path operations -/

/-- `FAT_GET_MNT`: the mount in the handler's `privdata`, once `f_chdrive`, which
answered `chdrive`, has made its drive the current one. -/
def fatGetMnt (vfs : VfsCtx) (chdrive : FResult) : Option MntCtx :=
  match vfs.privdata with
  | none => none
  | some m => if chdrive = .ok then some m else none

/-- The engine call a path operation makes. -/
inductive PathCall
  | rename (fn1 fn2 : String)
  | unlink (fn : String)
  | mkdir (fn : String)
  deriving DecidableEq, Repr

/-- The body the path operations share: `FAT_GET_MNT`, then the engine call `call`,
which the engine answers `rc`. The result, and the engine call made, if any.
`FAT_GET_MNT` jumps to the error exit with `rc` still `FR_OK`, so a refused call
returns -1 with `errno` set to 0. -/
def fatPathOp (vfs : VfsCtx) (chdrive : FResult) (call : PathCall) (rc : FResult) :
    Out × Option PathCall :=
  match fatGetMnt vfs chdrive with
  | none => (⟨-1, fatfsSetErrno .ok⟩, none)
  | some _ => (if rc ≠ .ok then ⟨-1, fatfsSetErrno rc⟩ else ⟨0, none⟩, some call)

/-- `fat_rename`: `f_rename(fn1, fn2)`. -/
def fatRename (vfs : VfsCtx) (fn1 fn2 : String) (chdrive rc : FResult) : Out × Option PathCall :=
  fatPathOp vfs chdrive (.rename fn1 fn2) rc

/-- `fat_unlink`: `f_unlink(fn)`. -/
def fatUnlink (vfs : VfsCtx) (fn : String) (chdrive rc : FResult) : Out × Option PathCall :=
  fatPathOp vfs chdrive (.unlink fn) rc

/-- `fat_mkdir`: `f_mkdir(fn)`. -/
def fatMkdir (vfs : VfsCtx) (fn : String) (chdrive rc : FResult) : Out × Option PathCall :=
  fatPathOp vfs chdrive (.mkdir fn) rc

/-- `fat_rmdir`: `f_unlink(fn)`, the engine call of `fat_unlink`, not one that
removes directories only. -/
def fatRmdir (vfs : VfsCtx) (fn : String) (chdrive rc : FResult) : Out × Option PathCall :=
  fatPathOp vfs chdrive (.unlink fn) rc

end DcFatfs
