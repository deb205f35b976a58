import DcFatfs.Mount.DiskIo

/-!
# `disk_write` and `disk_ioctl`

The engine writes sectors through `disk_write` and asks about a drive through
`disk_ioctl`.

The DMA branch of `disk_write` is under `#if 0`, so every write goes through the
PIO device, whatever the request. Suppose the DMA device reads the medium the PIO
device writes. Then a `disk_read` of sectors just written returns the bytes
written, on each route it may take: the PIO device, the DMA device straight into
`buff`, or the DMA device through the scratch buffer (`diskWrite_diskRead`).

`disk_ioctl` answers `GET_SECTOR_SIZE` and `GET_BLOCK_SIZE` with
`1 << l_block_size` stored in a `ushort`, which wraps from `l_block_size = 16` on.
-/

namespace DcFatfs

variable {n : Nat}

/-! ## §1  Writing blocks -/

/-- The device once `write_blocks(dev, sector, count, src)` has succeeded: the
`count << l_block_size` bytes at `src` stored from sector `sector` on. -/
def BlockDev.writeBlocks (d : BlockDev) (sector count : Nat) (src : Nat → UInt8) : BlockDev :=
  { d with data := fun a =>
      if sector <<< d.lBlockSize ≤ a ∧ a < (sector + count) <<< d.lBlockSize
      then src (a - (sector <<< d.lBlockSize)) else d.data a }

@[simp] theorem BlockDev.writeBlocks_lBlockSize (d : BlockDev) (sector count : Nat)
    (src : Nat → UInt8) : (d.writeBlocks sector count src).lBlockSize = d.lBlockSize := rfl

/-- Reading back the sectors just written gives the bytes written. -/
theorem BlockDev.readBlocks_writeBlocks (d : BlockDev) (sector count : Nat) (src : Nat → UInt8) :
    (d.writeBlocks sector count src).readBlocks sector count =
      (List.range (count <<< d.lBlockSize)).map src := by
  refine List.map_congr_left fun k hk => ?_
  have hk : k < count * 2 ^ d.lBlockSize := by
    simpa only [List.mem_range, Nat.shiftLeft_eq] using hk
  simp only [writeBlocks, writeBlocks_lBlockSize, Nat.shiftLeft_eq, Nat.add_mul]
  rw [if_pos ⟨by omega, by omega⟩, Nat.add_sub_cancel_left]

/-- `disk_write(pdrv, buff, sector, count)`, with the bytes at `buff` as `src`,
the devices' contents `env` and the answer `rv` of the device: the result, and
the devices' contents once the write has succeeded. The DMA branch is under
`#if 0`, so the PIO device writes whatever the request. A drive `FAT_GET_MOUNT`
refuses gets `STA_NOINIT`, which is `RES_ERROR` as a `DRESULT`; a device's
answer gives the result it gives in `disk_read`. -/
def diskWrite (s : Reg n) (env : Dev → BlockDev) (pdrv sector count : Nat) (src : Nat → UInt8)
    (rv : BlockReply) : DResult × Option (Dev → BlockDev) :=
  match fatGetMount s pdrv with
  | none => (.error, none)
  | some (_, pio) =>
    (readResult rv,
      if rv = .ok then some (Function.update env pio ((env pio).writeBlocks sector count src))
      else none)

/-! ## §2  What `disk_write` stores, `disk_read` returns -/

section RoundTrip

variable {s : Reg n} {env env' : Dev → BlockDev} {i : Fin n} {pio : Dev} {w : WorkArea}
  {sector count : Nat} {src : Nat → UInt8}

/-- A successful `disk_write` on a drive with a device writes through that
device. -/
theorem diskWrite_ok (hdev : (s.mnt i).dev = some pio) :
    diskWrite s env i sector count src .ok =
      (.ok, some (Function.update env pio ((env pio).writeBlocks sector count src))) := by
  simp only [diskWrite, fatGetMount_of_dev hdev, readResult, if_true]

/-- **What `disk_write` stores, `disk_read` returns.** Take a drive whose slot has
a work area, and a scratch buffer if it has a DMA device. Take any state of the
devices in which the PIO device holds what a successful `disk_write` left on it
and the DMA device, if any, reads the same medium. A `disk_read` of the sectors
written, into any buffer and on any route, returns the bytes written. -/
theorem diskWrite_diskRead (hdev : (s.mnt i).dev = some pio) (hfs : (s.mnt i).fs = some w)
    (hbuf : (s.mnt i).devDma.isSome → (s.mnt i).dmabuf.isSome)
    (hpio : ((diskWrite s env i sector count src .ok).2.map fun e => e pio) = some (env' pio))
    (hsame : ∀ d, (s.mnt i).devDma = some d → env' d = env' pio) (buff : Nat) :
    diskRead s env' i buff sector count .ok =
      some (.ok, some ((List.range (count <<< (env pio).lBlockSize)).map src)) := by
  rw [diskWrite_ok hdev] at hpio
  have he : env' pio = (env pio).writeBlocks sector count src := by
    simpa only [Option.map_some', Function.update_same, Option.some.injEq] using hpio.symm
  rw [diskRead_eq_pio hdev hfs hsame hbuf, he, BlockDev.readBlocks_writeBlocks]

end RoundTrip

/-- Drive 0 mounted from the G1 PIO and DMA devices, with a scratch buffer. -/
def ideScratch : Reg 1 := (fsFatMount (fsFatInit .boot) "/ide" (.g1 0) (some (.g1Dma 0)) mountOk).1

/-- A device of 512-byte sectors holding zeros. -/
def blankDev : BlockDev := ⟨9, fun _ => 0⟩

/-- Sectors 2 and 3 written through the PIO device, both devices reading the same
medium: an unaligned read of them goes through the scratch buffer and returns
what was written. -/
theorem diskWrite_diskRead_scratch :
    MReach (fun _ _ => True) ideScratch ∧ (ideScratch.mnt 0).devDma = some (.g1Dma 0) ∧
      (ideScratch.mnt 0).dmabuf.isSome ∧
      diskRead ideScratch (fun _ => blankDev.writeBlocks 2 2 Nat.toUInt8) 0 1 2 2 .ok =
        some (.ok, some ((List.range (2 <<< blankDev.lBlockSize)).map Nat.toUInt8)) :=
  ⟨.step (.step .boot trivial (show rstep _ .init = some _ from rfl)) trivial
      (show rstep _ (.mount "/ide" (.g1 0) (some (.g1Dma 0)) mountOk) = some _ from rfl),
    by decide, by decide,
    @diskWrite_diskRead 1 ideScratch (fun _ => blankDev) (fun _ => blankDev.writeBlocks 2 2 Nat.toUInt8)
      0 (.g1 0) _ 2 2 Nat.toUInt8 rfl rfl (fun _ => rfl) rfl (fun _ _ => rfl) 1⟩

/-! ## §3  `disk_ioctl` -/

/-- The control codes `disk_ioctl` tells apart. -/
inductive DiskCmd
  | ctrlSync
  | getSectorCount
  | getSectorSize
  | getBlockSize
  | ctrlTrim
  | other (c : Nat)
  deriving DecidableEq, Repr

/-- `disk_ioctl(pdrv, cmd, buff)`, with `blocks` the answer of the device's
`count_blocks`: the result, the value stored at `buff`, and whether the device
was flushed. The sizes are `1 << l_block_size`, an `int` shift (undefined from 31
on) stored in a `ushort`; the block count is stored in a `ulong`. -/
def diskIoctl (s : Reg n) (env : Dev → BlockDev) (blocks pdrv : Nat) (cmd : DiskCmd) :
    Option (DResult × Option Nat × Bool) :=
  match fatGetMount s pdrv with
  | none => some (.error, none, false)
  | some (_, pio) =>
    let size : Option Nat :=
      if (env pio).lBlockSize < 31 then some (2 ^ (env pio).lBlockSize % 2 ^ 16) else none
    match cmd with
    | .ctrlSync => some (.ok, none, true)
    | .getSectorCount => some (.ok, some (blocks % 2 ^ 32), false)
    | .getSectorSize | .getBlockSize => size.map fun v => (.ok, some v, false)
    | .ctrlTrim => some (.ok, none, false)
    | .other _ => some (.parerr, none, false)

end DcFatfs
