import DcFatfs.Mount.Slots

/-!
# `disk_read` and the DMA scratch buffer

The engine reads sectors through `disk_read`, which picks a device for each
request. With `FATFS_USE_DMA_BUF`, a request of more than one sector on a slot with
a DMA device goes to the DMA device: straight into `buff` when `buff` is 32-byte
aligned, otherwise, when it fits in a cluster, into the slot's scratch buffer
`dmabuf` and from there into `buff` by `memcpy`. `fs_fat_mount` allocates
`dmabuf` with `memalign`, and a failed `memalign` is only logged: the slot is
mounted with a DMA device and no scratch buffer, and an unaligned request of two
sectors up to a cluster then has the DMA device write through a null pointer.

Where the scratch buffer exists and the two devices hold the same sectors, every
successful read leaves in `buff` what a read through the PIO device would.
(`disk_write` is left out: its DMA branch is compiled out, it always writes
through the PIO device.)
-/

namespace DcFatfs

variable {n : Nat}

/-! ## §1  The model -/

/-- A block device as `disk_read` uses it: its `l_block_size` and the bytes it
stores, byte `k` of sector `b` at `(b <<< lBlockSize) + k`. -/
structure BlockDev where
  lBlockSize : Nat
  data : Nat → UInt8

/-- The bytes `read_blocks(dev, sector, count, dest)` writes at `dest` when it
succeeds: `count << l_block_size` bytes, from sector `sector` on. -/
def BlockDev.readBlocks (d : BlockDev) (sector count : Nat) : List UInt8 :=
  (List.range (count <<< d.lBlockSize)).map fun k => d.data ((sector <<< d.lBlockSize) + k)

/-- What the chosen device's `read_blocks` answers: success, or failure with
`errno == EOVERFLOW` or another errno. -/
inductive BlockReply
  | ok
  | fail (eoverflow : Bool)
  deriving DecidableEq, Repr

/-- The result `disk_read` returns for the device's answer. -/
def readResult : BlockReply → DResult
  | .ok => .ok
  | .fail true => .parerr
  | .fail false => .error

/-- `FAT_GET_MOUNT()`: the slot of drive `pdrv` and its device, when the drive
number is in range and the slot has a device. -/
def fatGetMount (s : Reg n) (pdrv : Nat) : Option (FatfsMnt × Dev) :=
  if h : pdrv < n then
    match (s.mnt ⟨pdrv, h⟩).dev with
    | some d => some (s.mnt ⟨pdrv, h⟩, d)
    | none => none
  else none

/-- `disk_read(pdrv, buff, sector, count)`, built with `FATFS_USE_DMA_BUF`, with
`buff` at address `buff`, the devices' contents `env` and the answer `rv` of the
chosen device: the result, and the bytes left at `buff` when the read succeeded.
`none` where the C code reads `mnt->fs->csize` with no work area, or has the DMA
device write through a null `dmabuf` or past its end. A drive `FAT_GET_MOUNT`
refuses gets `STA_NOINIT`, which is `RES_ERROR` as a `DRESULT`. -/
def diskRead (s : Reg n) (env : Dev → BlockDev) (pdrv buff sector count : Nat)
    (rv : BlockReply) : Option (DResult × Option (List UInt8)) :=
  let into (d : Dev) := if rv = .ok then some ((env d).readBlocks sector count) else none
  match fatGetMount s pdrv with
  | none => some (.error, none)
  | some (m, pio) =>
    match m.devDma with
    | none => some (readResult rv, into pio)
    | some dma =>
      if count ≤ 1 then some (readResult rv, into pio)
      else if buff % 32 = 0 then some (readResult rv, into dma)
      else match m.fs with
        | none => none
        | some w =>
          if count ≤ w.csize then
            match m.dmabuf with
            | none => none
            | some _ =>
              if count <<< (env dma).lBlockSize ≤ w.csize * 2 ^ (env pio).lBlockSize
              then some (readResult rv, into dma) else none
          else some (readResult rv, into pio)

/-! ## §2  With a scratch buffer, every route reads what the PIO device holds -/

theorem fatGetMount_of_dev {s : Reg n} {i : Fin n} {pio : Dev} (h : (s.mnt i).dev = some pio) :
    fatGetMount s i = some (s.mnt i, pio) := by
  simp [fatGetMount, h]

/-- **`disk_read` refines a PIO read when the scratch buffer exists.** On a drive
whose slot has a work area, whose DMA device (if any) holds what the PIO device
holds, and which has a scratch buffer when it has a DMA device, a successful
`disk_read` of any request leaves in `buff` exactly the sectors the PIO device
holds. -/
theorem diskRead_eq_pio {s : Reg n} {env : Dev → BlockDev} {i : Fin n} {pio : Dev}
    {w : WorkArea} (hdev : (s.mnt i).dev = some pio) (hfs : (s.mnt i).fs = some w)
    (hsame : ∀ d, (s.mnt i).devDma = some d → env d = env pio)
    (hbuf : (s.mnt i).devDma.isSome → (s.mnt i).dmabuf.isSome) (buff sector count : Nat) :
    diskRead s env i buff sector count .ok = some (.ok, some ((env pio).readBlocks sector count)) := by
  simp only [diskRead, fatGetMount_of_dev hdev, if_true]
  cases hd : (s.mnt i).devDma with
  | none => rfl
  | some dma =>
    obtain ⟨b, hb⟩ := Option.isSome_iff_exists.mp (hbuf (by simp [hd]))
    have he := hsame dma hd
    have hcap : count ≤ w.csize → count <<< (env pio).lBlockSize ≤ w.csize * 2 ^ (env pio).lBlockSize :=
      fun h => Nat.shiftLeft_eq count _ ▸ Nat.mul_le_mul_right _ h
    simp only [hfs, hb, he]
    split_ifs <;> first | rfl | omega

/-! ## §3  A mount whose `memalign` failed -/

/-- A mount in which every call succeeds but the `memalign` of the scratch buffer. -/
def memalignFails : MountReplies := { mountOk with memalign := false }

/-- Drive 0 mounted with a PIO and a DMA device, without a scratch buffer. -/
def noScratch : Reg 1 :=
  (fsFatMount (fsFatInit .boot) "/ide" (.g1 0) (some (.g1Dma 0)) memalignFails).1

/-- The mount succeeds with a DMA device and no scratch buffer, and then an
unaligned read of two sectors, within a cluster, has the DMA device write through
the null `dmabuf`, whatever the devices hold and answer. -/
theorem diskRead_null_dmabuf :
    MReach (fun _ _ => True) noScratch ∧
      (fsFatMount (fsFatInit (Reg.boot : Reg 1)) "/ide" (.g1 0) (some (.g1Dma 0))
        memalignFails).2 = 0 ∧
      (noScratch.mnt 0).devDma = some (.g1Dma 0) ∧ (noScratch.mnt 0).dmabuf = none ∧
      ∀ env rv, diskRead noScratch env 0 1 0 2 rv = none :=
  ⟨.step (.step .boot trivial (show rstep _ .init = some _ from rfl)) trivial
      (show rstep _ (.mount "/ide" (.g1 0) (some (.g1Dma 0)) memalignFails) = some _ from rfl),
    by decide, by decide, by decide, fun _ _ => rfl⟩

end DcFatfs
