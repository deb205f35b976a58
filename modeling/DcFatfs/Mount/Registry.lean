import DcFatfs.Basic

/-!
# The mount registry of `dc.c`

`fat_mnt[MAX_FAT_MOUNTS]` holds one `fatfs_mnt_t` per mounted volume: the engine's
work area, the VFS handler registered with the name manager, the PIO device, the
optional DMA device and the DMA scratch buffer. This file gives the registry and
the operations of `dc.c` on it: `fs_fat_free`, `fs_fat_mount`, `fs_fat_unmount`,
`fs_fat_is_mounted` and `fs_fat_init`.

`MAX_FAT_MOUNTS` is `_VOLUMES` of `ffconf.h`, which is not among the sources: it is
the parameter `n`. Neither the block-device drivers, the name manager nor the
engine are modelled. Each call into them takes its outcome from the arguments, and
the registry records what the adapter does with it: the device and heap events in
order, the handlers the name manager holds, and the work area the engine holds
registered for each drive. The build modelled is the one with `FATFS_USE_DMA_BUF`.

A slot holds pointers into the device arrays of `dc_bdev.c`, which its wrappers
clear with `memset` and free while slots may still point into them. The registry
keeps what each pointer reaches (`Bdevs`, `DevState`), so that a call through a
cleared or freed device can be told apart: it is undefined.
-/

namespace DcFatfs

variable {n : Nat}

/-! ## §1  Devices, handlers, work areas and slots -/

/-- A `kos_blockdev_t *`, named by where the device lives: an entry of the `sd_dev`,
`g1_dev` or `g1_dev_dma` arrays of `dc_bdev.c`, or a device of the caller. -/
inductive Dev
  | sd (p : Fin 4)
  | g1 (p : Fin 4)
  | g1Dma (p : Fin 4)
  | ext (k : Nat)
  deriving DecidableEq, Repr

/-- The VFS handler `fs_fat_mount` allocates: its heap address, the path it
registers under and the slot its `privdata` points at. -/
structure Vfsh where
  addr : Nat
  pathname : String
  privdata : Nat
  deriving DecidableEq, Repr

/-- A `FATFS` work area: its heap address and the cluster size `csize` the engine's
mount leaves in it. -/
structure WorkArea where
  addr : Nat
  csize : Nat
  deriving DecidableEq, Repr

/-- `fatfs_mnt_t`. `dev_stat` is left out: no operation modelled reads it. -/
structure FatfsMnt where
  fs : Option WorkArea
  vfsh : Option Vfsh
  dev : Option Dev
  devDma : Option Dev
  devId : Nat
  devPath : String
  dmabuf : Option Nat
  deriving DecidableEq, Repr

/-- A slot after `memset(mnt, 0, sizeof(fatfs_mnt_t))`. -/
def FatfsMnt.zero : FatfsMnt := ⟨none, none, none, none, 0, "", none⟩

@[simp] theorem FatfsMnt.zero_fs : FatfsMnt.zero.fs = none := rfl
@[simp] theorem FatfsMnt.zero_vfsh : FatfsMnt.zero.vfsh = none := rfl
@[simp] theorem FatfsMnt.zero_dev : FatfsMnt.zero.dev = none := rfl
@[simp] theorem FatfsMnt.zero_devDma : FatfsMnt.zero.devDma = none := rfl
@[simp] theorem FatfsMnt.zero_dmabuf : FatfsMnt.zero.dmabuf = none := rfl

/-- What the registry's operations do to devices and to the heap, in order:
a device's `init` and its outcome, its `shutdown`, a driver call that fills a
device struct (`*_blockdev_for_partition`, `*_blockdev_for_device`), a `free`, and
the write of `f_mount` that clears `fs_type` of the work area registered before. -/
inductive REvent
  | init (d : Dev) (ok : Bool)
  | shutdown (d : Dev)
  | setup (d : Dev)
  | free (addr : Nat)
  | clearFs (addr : Nat)
  deriving DecidableEq, Repr

/-! ## §2  The device arrays and the registry -/

/-- The three arrays of `kos_blockdev_t` that `dc_bdev.c` allocates. -/
inductive DevArray
  | sd
  | g1
  | g1Dma
  deriving DecidableEq, Repr

/-- The array a device lives in; a device of the caller lives in none. -/
def Dev.array : Dev → Option DevArray
  | .sd _ => some .sd
  | .g1 _ => some .g1
  | .g1Dma _ => some .g1Dma
  | .ext _ => none

/-- What the struct behind a device pointer holds when the pointer is used: a
device set up by its driver, a struct cleared by a wrapper's `memset` (every
function pointer null, `l_block_size` 0), or memory a wrapper has freed. -/
inductive DevState
  | live
  | zeroed
  | freed
  deriving DecidableEq, Repr

/-- What `dc_bdev.c` keeps: the arrays `sd_dev`, `g1_dev` and `g1_dev_dma`
(`none` while not allocated, otherwise which entries a driver call has filled
since the `memset`), which arrays an unmount wrapper has freed, and which device
pointers of each slot point into an array freed after the slot took them. -/
structure Bdevs (n : Nat) where
  sdDev : Option (Fin 4 → Bool)
  g1Dev : Option (Fin 4 → Bool)
  g1DevDma : Option (Fin 4 → Bool)
  freed : DevArray → Bool
  staleDev : Fin n → Bool
  staleDma : Fin n → Bool

namespace Bdevs

/-- At load time no array is allocated and no pointer dangles. -/
def unallocated : Bdevs n := ⟨none, none, none, fun _ => false, fun _ => false, fun _ => false⟩

def entries (b : Bdevs n) : DevArray → Option (Fin 4 → Bool)
  | .sd => b.sdDev
  | .g1 => b.g1Dev
  | .g1Dma => b.g1DevDma

/-- Entry `p` of array `a`. Before any wrapper has allocated the array, a device
named after its entry is one the caller provides to `fs_fat_mount`. -/
def entryState (b : Bdevs n) (a : DevArray) (p : Fin 4) : DevState :=
  match b.entries a with
  | some dd => if dd p then .live else .zeroed
  | none => if b.freed a then .freed else .live

/-- What a pointer to `d` taken now reaches. -/
def devState (b : Bdevs n) : Dev → DevState
  | .sd p => b.entryState .sd p
  | .g1 p => b.entryState .g1 p
  | .g1Dma p => b.entryState .g1Dma p
  | .ext _ => .live

/-- What a pointer to `d` that a slot holds reaches: freed when it is `stale`, that
is when the array it points into was freed after the slot took it. -/
def heldState (b : Bdevs n) (stale : Bool) (d : Dev) : DevState :=
  if stale then .freed else b.devState d

/-- With no array allocated or freed, every device is set up. -/
@[simp] theorem devState_unallocated (d : Dev) : (unallocated : Bdevs n).devState d = .live := by
  cases d <;> rfl
@[simp] theorem unallocated_staleDev (i : Fin n) : (unallocated : Bdevs n).staleDev i = false := rfl
@[simp] theorem unallocated_staleDma (i : Fin n) : (unallocated : Bdevs n).staleDma i = false := rfl

end Bdevs

/-- The registry with what its operations touch: `initted`, the slots, the handler
addresses the name manager holds, the work area registered with the engine for
each drive (`FatFs[]` of the engine), the next fresh heap address, the events, and
the device arrays of `dc_bdev.c`. -/
structure Reg (n : Nat) extends Bdevs n where
  initted : Bool
  mnt : Fin n → FatfsMnt
  nmmgr : List Nat
  vol : Fin n → Option Nat
  brk : Nat
  events : List REvent

/-- The registry at load time: every slot zero, nothing registered, not `initted`. -/
def Reg.boot : Reg n :=
  { Bdevs.unallocated with
    initted := false, mnt := fun _ => .zero, nmmgr := [], vol := fun _ => none, brk := 0, events := [] }

namespace Reg

def setMnt (s : Reg n) (i : Fin n) (m : FatfsMnt) : Reg n :=
  { s with mnt := Function.update s.mnt i m }

def emit (s : Reg n) (e : REvent) : Reg n := { s with events := s.events ++ [e] }

/-- `nmmgr_handler_remove(&vfsh->nmmgr)`. -/
def nmRemove (s : Reg n) : Option Vfsh → Reg n
  | some v => { s with nmmgr := s.nmmgr.erase v.addr }
  | none => s

@[simp] theorem setMnt_mnt (s : Reg n) (i j : Fin n) (m : FatfsMnt) :
    (s.setMnt i m).mnt j = if j = i then m else s.mnt j := by
  by_cases h : j = i <;> simp [setMnt, h]

@[simp] theorem setMnt_vol (s : Reg n) (i : Fin n) (m : FatfsMnt) : (s.setMnt i m).vol = s.vol := rfl
@[simp] theorem setMnt_nmmgr (s : Reg n) (i : Fin n) (m : FatfsMnt) :
    (s.setMnt i m).nmmgr = s.nmmgr := rfl
@[simp] theorem setMnt_brk (s : Reg n) (i : Fin n) (m : FatfsMnt) : (s.setMnt i m).brk = s.brk := rfl
@[simp] theorem setMnt_events (s : Reg n) (i : Fin n) (m : FatfsMnt) :
    (s.setMnt i m).events = s.events := rfl
@[simp] theorem setMnt_initted (s : Reg n) (i : Fin n) (m : FatfsMnt) :
    (s.setMnt i m).initted = s.initted := rfl
@[simp] theorem setMnt_toBdevs (s : Reg n) (i : Fin n) (m : FatfsMnt) :
    (s.setMnt i m).toBdevs = s.toBdevs := rfl

@[simp] theorem emit_mnt (s : Reg n) (e : REvent) : (s.emit e).mnt = s.mnt := rfl
@[simp] theorem emit_vol (s : Reg n) (e : REvent) : (s.emit e).vol = s.vol := rfl
@[simp] theorem emit_nmmgr (s : Reg n) (e : REvent) : (s.emit e).nmmgr = s.nmmgr := rfl
@[simp] theorem emit_brk (s : Reg n) (e : REvent) : (s.emit e).brk = s.brk := rfl
@[simp] theorem emit_events (s : Reg n) (e : REvent) : (s.emit e).events = s.events ++ [e] := rfl
@[simp] theorem emit_initted (s : Reg n) (e : REvent) : (s.emit e).initted = s.initted := rfl
@[simp] theorem emit_toBdevs (s : Reg n) (e : REvent) : (s.emit e).toBdevs = s.toBdevs := rfl

@[simp] theorem nmRemove_mnt (s : Reg n) (v : Option Vfsh) : (s.nmRemove v).mnt = s.mnt := by
  cases v <;> rfl
@[simp] theorem nmRemove_vol (s : Reg n) (v : Option Vfsh) : (s.nmRemove v).vol = s.vol := by
  cases v <;> rfl
@[simp] theorem nmRemove_brk (s : Reg n) (v : Option Vfsh) : (s.nmRemove v).brk = s.brk := by
  cases v <;> rfl
@[simp] theorem nmRemove_events (s : Reg n) (v : Option Vfsh) :
    (s.nmRemove v).events = s.events := by
  cases v <;> rfl
@[simp] theorem nmRemove_initted (s : Reg n) (v : Option Vfsh) :
    (s.nmRemove v).initted = s.initted := by
  cases v <;> rfl
@[simp] theorem nmRemove_toBdevs (s : Reg n) (v : Option Vfsh) :
    (s.nmRemove v).toBdevs = s.toBdevs := by
  cases v <;> rfl
@[simp] theorem nmRemove_some_nmmgr (s : Reg n) (v : Vfsh) :
    (s.nmRemove (some v)).nmmgr = s.nmmgr.erase v.addr := rfl

end Reg

/-! ## §3  `fs_fat_free` -/

/-- The events `fs_fat_free` causes for a slot, in the order of the C code: free the
handler, free the work area, shut the PIO and the DMA device down, free the DMA
buffer. -/
def freeEvents (m : FatfsMnt) : List REvent :=
  (m.vfsh.map fun v => REvent.free v.addr).toList ++
  (m.fs.map fun w => REvent.free w.addr).toList ++
  (m.dev.map .shutdown).toList ++ (m.devDma.map .shutdown).toList ++
  (m.dmabuf.map .free).toList

/-- `fs_fat_free(&fat_mnt[i])`: release what the slot holds, then zero it. -/
def fsFatFree (s : Reg n) (i : Fin n) : Reg n :=
  { s.setMnt i .zero with events := s.events ++ freeEvents (s.mnt i) }

@[simp] theorem fsFatFree_mnt (s : Reg n) (i j : Fin n) :
    (fsFatFree s i).mnt j = if j = i then .zero else s.mnt j := by simp [fsFatFree]
@[simp] theorem fsFatFree_vol (s : Reg n) (i : Fin n) : (fsFatFree s i).vol = s.vol := rfl
@[simp] theorem fsFatFree_nmmgr (s : Reg n) (i : Fin n) : (fsFatFree s i).nmmgr = s.nmmgr := rfl
@[simp] theorem fsFatFree_brk (s : Reg n) (i : Fin n) : (fsFatFree s i).brk = s.brk := rfl
@[simp] theorem fsFatFree_events (s : Reg n) (i : Fin n) :
    (fsFatFree s i).events = s.events ++ freeEvents (s.mnt i) := rfl
@[simp] theorem fsFatFree_initted (s : Reg n) (i : Fin n) : (fsFatFree s i).initted = s.initted := rfl
@[simp] theorem fsFatFree_toBdevs (s : Reg n) (i : Fin n) : (fsFatFree s i).toBdevs = s.toBdevs := rfl

/-- `fs_fat_free` frees the work area the slot holds. -/
theorem free_mem_freeEvents {m : FatfsMnt} {w : WorkArea} (h : m.fs = some w) :
    REvent.free w.addr ∈ freeEvents m := by
  simp only [freeEvents, h, Option.map_some', Option.toList_some, List.mem_append, List.mem_singleton,
    true_or, or_true]

/-! ## §4  `fs_fat_mount` -/

/-- The outcomes of the calls `fs_fat_mount` makes: the two device `init`s, the
`malloc`s of the handler and of the work area, `f_mount` and the cluster size it
finds, the `memalign` of the DMA buffer, `nmmgr_handler_add`. -/
structure MountReplies where
  pioInit : Bool
  dmaInit : Bool
  vfshMalloc : Bool
  fsMalloc : Bool
  fMount : FResult
  csize : Nat
  memalign : Bool
  nmAdd : Bool
  deriving DecidableEq, Repr

/-- A mount in which every call succeeds and the volume has 4 sectors a cluster. -/
def mountOk : MountReplies := ⟨true, true, true, true, .ok, 4, true, true⟩

/-- The first slot with `dev == NULL`. -/
def firstFreeMnt (s : Reg n) : Option (Fin n) :=
  (List.finRange n).find? fun i => (s.mnt i).dev.isNone

/-- `mnt->dev = dev_pio; mnt->dev_dma = dev_dma`, then the DMA device's `init`, whose
failure leaves the slot without a DMA device. -/
def attachDevs (s : Reg n) (i : Fin n) (pio : Dev) (dma : Option Dev) (dmaOk : Bool) : Reg n :=
  let s := (s.emit (.init pio true)).setMnt i { s.mnt i with dev := some pio, devDma := dma }
  match dma with
  | none => s
  | some d =>
    if dmaOk then s.emit (.init d true)
    else (s.emit (.init d false)).setMnt i { s.mnt i with devDma := none }

/-- `mnt->vfsh = malloc(...)` answered with the fresh block `brk`, filled from the
template with the path `mp` and `privdata = &fat_mnt[i]`. -/
def allocVfsh (s : Reg n) (i : Fin n) (mp : String) : Reg n :=
  { s.setMnt i { s.mnt i with vfsh := some ⟨s.brk, mp, i⟩ } with brk := s.brk + 1 }

/-- The first write of `f_mount` for drive `i`: `fs_type = 0` through the work
area still registered for the drive, if there is one. -/
def clearRegistered (s : Reg n) (i : Fin n) : Reg n :=
  match s.vol i with
  | some a => s.emit (.clearFs a)
  | none => s

/-- `mnt->fs = malloc(...)` answered with the fresh block `brk`, the drive path
`"i:"`, and `f_mount(mnt->fs, mnt->dev_path, 1)`, which clears the work area
registered before and registers the new one for drive `i` before it mounts the
volume, whatever the outcome; `csize` is what the mount leaves in the work area. -/
def allocFs (s : Reg n) (i : Fin n) (csize : Nat) : Reg n :=
  let s := clearRegistered s i
  { s.setMnt i { s.mnt i with fs := some ⟨s.brk, csize⟩, devPath := toString i.val ++ ":" } with
    brk := s.brk + 1, vol := Function.update s.vol i (some s.brk) }

/-- `mnt->dmabuf = memalign(...)` when the slot has a DMA device, answered with
the fresh block `brk` or a failure. -/
def allocDmabuf (s : Reg n) (i : Fin n) (ok : Bool) : Reg n :=
  if (s.mnt i).devDma.isSome && ok then
    { s.setMnt i { s.mnt i with dmabuf := some s.brk } with brk := s.brk + 1 }
  else s

/-- `fs_fat_mount(mp, dev_pio, dev_dma, partition)`; it returns 0 or -1. Every
failure after a slot was found goes through `fs_fat_free`. The write to the
engine's `VolToPart` table and the free-space query, whose result is only
logged, are left out. -/
def fsFatMount (s : Reg n) (mp : String) (pio : Dev) (dma : Option Dev) (r : MountReplies) :
    Reg n × Int :=
  if !s.initted then (s, -1) else
  match firstFreeMnt s with
  | none => (s, -1)
  | some i =>
  let s := s.setMnt i { FatfsMnt.zero with devId := i }
  if !r.pioInit then (fsFatFree (s.emit (.init pio false)) i, -1) else
  let s := attachDevs s i pio dma r.dmaInit
  if !r.vfshMalloc then (fsFatFree s i, -1) else
  let h := s.brk
  let s := allocVfsh s i mp
  if !r.fsMalloc then (fsFatFree s i, -1) else
  let s := allocFs s i r.csize
  if r.fMount ≠ .ok then (fsFatFree s i, -1) else
  let s := allocDmabuf s i r.memalign
  if !r.nmAdd then (fsFatFree s i, -1) else
  ({ s with nmmgr := h :: s.nmmgr }, 0)

/-! ## §5  Lookup, `fs_fat_unmount`, `fs_fat_init` -/

/-- The first slot whose handler is registered under `mp`: the loop of
`fs_fat_unmount` and of `fs_fat_is_mounted`. -/
def findMnt (s : Reg n) (mp : String) : Option (Fin n) :=
  (List.finRange n).find? fun i => (s.mnt i).vfsh.map (·.pathname) == some mp

/-- `fs_fat_unmount(mp)`: 0, or -1 (`ENOENT`) when no slot is registered under `mp`. -/
def fsFatUnmount (s : Reg n) (mp : String) : Reg n × Int :=
  match findMnt s mp with
  | none => (s, -1)
  | some i => (fsFatFree (s.nmRemove (s.mnt i).vfsh) i, 0)

/-- `fs_fat_is_mounted(mp)`: the slot number plus one, or 0. -/
def fsFatIsMounted (s : Reg n) (mp : String) : Nat :=
  match findMnt s mp with
  | some i => i.val + 1
  | none => 0

/-- `fs_fat_init`: on the first call zero every slot. The handle pool it also zeroes
is `Pool.init` of the descriptor model. -/
def fsFatInit (s : Reg n) : Reg n :=
  if s.initted then s else { s with initted := true, mnt := fun _ => .zero }

end DcFatfs
