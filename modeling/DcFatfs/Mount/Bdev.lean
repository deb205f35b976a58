import DcFatfs.Mount.Registry

/-!
# Partition discovery, the unmount wrappers and `fs_fat_shutdown`

`dc_bdev.c` reads the MBR of the SD card or of the G1 ATA disk, and mounts every
FAT partition of it through `fs_fat_mount`, with a PIO (and, for IDE, a DMA) device
taken from its own arrays `sd_dev`, `g1_dev` and `g1_dev_dma`. `fs_fat_unmount_sd`
and `fs_fat_unmount_ide` unmount the paths of those partitions, shut the array
entries down and free the arrays; `fs_fat_shutdown` calls both, then releases every
slot still in use.

The drivers are not modelled: `sd_init`, the MBR read, the `malloc`s of the arrays,
`*_blockdev_for_partition` (with the partition type it reads) and
`g1_ata_blockdev_for_device` take their outcome from the arguments. A device's
`shutdown` is recorded as an event; what it does to the device struct is the
driver's. Memory fresh from `malloc` is zeroed here, as the wrappers do with
`memset` before reading it.

A pointer a slot keeps into an array can outlive what it points at:
`fs_fat_mount_sd` clears `sd_dev` with `memset` while slots point into it, and the
unmount wrappers free their arrays while the slots of partitions whose path they
missed still point into them. Every call through a device (its `init` in
`fs_fat_mount`, its `shutdown` in `fs_fat_free`) is checked against what the
pointer reaches (§4), and so is the write `f_mount` makes through the work area
registered for its drive: through a cleared or freed device, or a freed work area,
the step is undefined (`rstep`).
-/

namespace DcFatfs

variable {n : Nat}

/-! ## §1  The MBR -/

/-- `is_fat_partition`: the FAT width a partition type announces, or 0. -/
def isFatPartition (ty : UInt8) : Nat :=
  if ty = 0x04 ∨ ty = 0x06 then 16
  else if ty = 0x0B ∨ ty = 0x0C then 32
  else 0

/-- `check_partition`: 0 when the sector holds an MBR whose entry `partition` is not
empty, -1 otherwise. -/
def checkPartition (buf : Nat → UInt8) (partition : Nat) : Int :=
  if buf 0x1FE ≠ 0x55 ∨ buf 0x1FF ≠ 0xAA then -1 else
  let pval := 16 * partition + 0x1BE
  if buf (pval + 4) = 0 then -1 else 0

/-! ## §2  `fs_fat_mount_sd` and `fs_fat_mount_ide` -/

/-- The path `fs_fat_mount_sd` mounts partition `p` under. -/
def sdMountPath (p : Fin 4) : String := if p.val = 0 then "/sd" else "sd" ++ toString p.val

/-- The path `fs_fat_mount_ide` mounts partition `p` under. -/
def ideMountPath (p : Fin 4) : String := if p.val = 0 then "/ide" else "/ide" ++ toString p.val

/-- The outcomes of the calls `fs_fat_mount_sd` makes for one partition: the
partition type `sd_blockdev_for_partition` reads, or its failure; the `malloc` of
`sd_blockdev_for_device`; the calls of `fs_fat_mount`. -/
structure SdPartReplies where
  forPartition : Option UInt8
  forDevice : Bool
  mount : MountReplies

/-- The outcomes of `sd_init`, of the MBR read (the sector, or a failure), of the
`malloc` of `sd_dev`, and of the calls for each partition. -/
structure SdReplies where
  sdInit : Bool
  mbr : Option (Nat → UInt8)
  devMalloc : Bool
  part : Fin 4 → SdPartReplies

namespace Reg

/-- `sd_dev[p].dev_data` is set. -/
def setSdData (s : Reg n) (p : Fin 4) : Reg n :=
  { s with sdDev := s.sdDev.map fun dd => Function.update dd p true }

def setG1Data (s : Reg n) (p : Fin 4) : Reg n :=
  { s with g1Dev := s.g1Dev.map fun dd => Function.update dd p true }

def setG1DmaData (s : Reg n) (p : Fin 4) : Reg n :=
  { s with g1DevDma := s.g1DevDma.map fun dd => Function.update dd p true }

end Reg

/-- The FAT branch of the loop body of `fs_fat_mount_sd`: `fs_fat_init` (which
always returns 0, so its failure branch is dead and left out), shut the partition
device down, make it a whole-disk device, mount it, and shut it down again if the
mount fails. -/
def mountSdFat (s : Reg n) (p : Fin 4) (r : SdPartReplies) : Reg n :=
  let s := (fsFatInit s).emit (.shutdown (.sd p))
  if !r.forDevice then s else
  let s := s.emit (.setup (.sd p))
  let m := fsFatMount s (sdMountPath p) (.sd p) none r.mount
  if m.2 ≠ 0 then m.1.emit (.shutdown (.sd p)) else m.1

/-- The loop body of `fs_fat_mount_sd` for partition `p` of the MBR `buf`. -/
def mountSdPart (buf : Nat → UInt8) (s : Reg n) (p : Fin 4) (r : SdPartReplies) : Reg n :=
  if checkPartition buf p.val ≠ 0 then s else
  match r.forPartition with
  | none => s
  | some ty =>
  let s := (s.emit (.setup (.sd p))).setSdData p
  if isFatPartition ty = 0 then s.emit (.shutdown (.sd p)) else mountSdFat s p r

/-- `fs_fat_mount_sd`. -/
def mountSd (s : Reg n) (r : SdReplies) : Reg n × Int :=
  if !r.sdInit then (s, -1) else
  match r.mbr with
  | none => (s, -1)
  | some buf =>
  if s.sdDev.isNone && !r.devMalloc then (s, -1) else
  let s := { s with sdDev := some fun _ => false }
  ((List.finRange 4).foldl (fun s p => mountSdPart buf s p (r.part p)) s, 0)

/-- The outcomes of the calls `fs_fat_mount_ide` makes for one partition: the
partition type, `g1_ata_blockdev_for_device` for the PIO and for the DMA device,
and the calls of `fs_fat_mount`. -/
structure IdePartReplies where
  forPartition : Option UInt8
  forDevice : Bool
  forDma : Bool
  mount : MountReplies

/-- The outcomes of `g1_ata_init`, of the MBR read (by LBA or by CHS), of the
`malloc`s of `g1_dev` and `g1_dev_dma`, and of the calls for each partition. -/
structure IdeReplies where
  ataInit : Bool
  mbr : Option (Nat → UInt8)
  devMalloc : Bool
  dmaMalloc : Bool
  part : Fin 4 → IdePartReplies

/-- The FAT branch of the loop body of `fs_fat_mount_ide`: as for SD, with a
whole-disk PIO device and, when `g1_ata_blockdev_for_device` provides one, a DMA
device; a failed mount shuts both down. -/
def mountIdeFat (s : Reg n) (p : Fin 4) (r : IdePartReplies) : Reg n :=
  let s := (fsFatInit s).emit (.shutdown (.g1 p))
  if !r.forDevice then s else
  let s := s.emit (.setup (.g1 p))
  let dma := if r.forDma then some (Dev.g1Dma p) else none
  let s := if r.forDma then (s.emit (.setup (.g1Dma p))).setG1DmaData p else s
  let m := fsFatMount s (ideMountPath p) (.g1 p) dma r.mount
  if m.2 = 0 then m.1 else
  let s := m.1.emit (.shutdown (.g1 p))
  match dma with
  | some d => s.emit (.shutdown d)
  | none => s

/-- The loop body of `fs_fat_mount_ide` for partition `p`. -/
def mountIdePart (buf : Nat → UInt8) (s : Reg n) (p : Fin 4) (r : IdePartReplies) : Reg n :=
  if checkPartition buf p.val ≠ 0 then s else
  match r.forPartition with
  | none => s
  | some ty =>
  let s := (s.emit (.setup (.g1 p))).setG1Data p
  if isFatPartition ty = 0 then s.emit (.shutdown (.g1 p)) else mountIdeFat s p r

/-- `fs_fat_mount_ide`. The two arrays are allocated together when `g1_dev` is null. -/
def mountIde (s : Reg n) (r : IdeReplies) : Reg n × Int :=
  if !r.ataInit then (s, -1) else
  match r.mbr with
  | none => (s, -1)
  | some buf =>
  let s := if s.g1Dev.isNone then
      { s with g1Dev := if r.devMalloc then some fun _ => false else none,
               g1DevDma := if r.dmaMalloc then some fun _ => false else none }
    else s
  if s.g1Dev.isNone || s.g1DevDma.isNone then (s, -1) else
  let s := { s with g1Dev := some fun _ => false, g1DevDma := some fun _ => false }
  ((List.finRange 4).foldl (fun s p => mountIdePart buf s p (r.part p)) s, 0)

/-! ## §3  The unmount wrappers -/

/-- The path `fs_fat_unmount_sd` unmounts for partition `i`. -/
def sdUnmountPath (i : Fin 4) : String := if i.val = 0 then "/sd" else "/sd" ++ toString i.val

/-- The path `fs_fat_unmount_ide` unmounts for partition `i`. -/
def ideUnmountPath (i : Fin 4) : String := if i.val = 0 then "/ide" else "/ide" ++ toString i.val

/-- The body of the loop of the unmount wrappers over a device array whose entries
with `dev_data` are `dd`: for such an entry, unmount its path, then call its
`shutdown`. -/
def unmountPart (path : Fin 4 → String) (dev : Fin 4 → Dev) (dd : Fin 4 → Bool)
    (s : Reg n) (i : Fin 4) : Reg n :=
  if dd i then (fsFatUnmount s (path i)).1.emit (.shutdown (dev i)) else s

/-- The loop of the unmount wrappers. -/
def unmountParts (path : Fin 4 → String) (dev : Fin 4 → Dev) (dd : Fin 4 → Bool)
    (s : Reg n) : Reg n :=
  (List.finRange 4).foldl (unmountPart path dev dd) s

/-- `free` of array `a` by an unmount wrapper: the pointers the slots hold into it
dangle from now on. -/
def Reg.freeArray (s : Reg n) (a : DevArray) : Reg n :=
  { s with
    freed := Function.update s.freed a true
    staleDev := fun i => s.staleDev i || (s.mnt i).dev.any (·.array == some a)
    staleDma := fun i => s.staleDma i || (s.mnt i).devDma.any (·.array == some a) }

/-- `fs_fat_unmount_sd`: run the loop over `sd_dev`, then free the array. -/
def unmountSd (s : Reg n) : Reg n :=
  match s.sdDev with
  | none => s
  | some dd => { (unmountParts sdUnmountPath .sd dd s).freeArray .sd with sdDev := none }

/-- The first half of `fs_fat_unmount_ide`: the loop over `g1_dev` with the paths
`fs_fat_mount_ide` mounts, then free the array. -/
def unmountIdePio (s : Reg n) : Reg n :=
  match s.g1Dev with
  | none => s
  | some dd => { (unmountParts ideUnmountPath .g1 dd s).freeArray .g1 with g1Dev := none }

/-- The second half of `fs_fat_unmount_ide`: shut down the entries of `g1_dev_dma`
with `dev_data`, then free the array. -/
def unmountIdeDma (s : Reg n) : Reg n :=
  match s.g1DevDma with
  | none => s
  | some dd =>
    let s := (List.finRange 4).foldl (fun s i =>
      if dd i then s.emit (.shutdown (.g1Dma i)) else s) s
    { s.freeArray .g1Dma with g1DevDma := none }

/-- `fs_fat_unmount_ide`. -/
def unmountIde (s : Reg n) : Reg n := unmountIdeDma (unmountIdePio s)

/-! ## §4  Calls through a device -/

/-- Whether the devices slot `i` holds, `mnt->dev` and `mnt->dev_dma`, are set up,
so that `fs_fat_free` can call their `shutdown`. -/
def Reg.slotLive (s : Reg n) (i : Fin n) : Bool :=
  (s.mnt i).dev.all (s.heldState (s.staleDev i) · == .live) &&
    (s.mnt i).devDma.all (s.heldState (s.staleDma i) · == .live)

/-- Whether the device calls of `fs_fat_mount(mp, pio, dma, ...)` reach set-up
devices: once a slot is found, the `init` of the PIO device, and after it succeeded
the `init` of the DMA device. -/
def mountLive (s : Reg n) (pio : Dev) (dma : Option Dev) (r : MountReplies) : Bool :=
  !s.initted || (firstFreeMnt s).isNone ||
    (s.devState pio == .live && (!r.pioInit || dma.all (s.devState · == .live)))

/-- Whether `fs_fat_unmount(mp)` calls only through set-up devices: `fs_fat_free`
shuts down the devices of the slot it releases. -/
def unmountLive (s : Reg n) (mp : String) : Bool := (findMnt s mp).all s.slotLive

/-- Whether every `fs_fat_unmount` the loop of an unmount wrapper makes calls only
through set-up devices. The loop's own `shutdown`s go to entries with `dev_data`
of an allocated array, which are set up. -/
def unmountPartsLive (path : Fin 4 → String) (dev : Fin 4 → Dev) (dd : Fin 4 → Bool)
    (s : Reg n) : Bool :=
  ((List.finRange 4).foldlM (fun s i =>
    if !dd i || unmountLive s (path i) then some (unmountPart path dev dd s i) else none) s).isSome

def unmountSdLive (s : Reg n) : Bool :=
  s.sdDev.all fun dd => unmountPartsLive sdUnmountPath .sd dd s

def unmountIdeLive (s : Reg n) : Bool :=
  s.g1Dev.all fun dd => unmountPartsLive ideUnmountPath .g1 dd s

/-- Whether some `f_mount` in `es` clears `fs_type` through a work area freed before
it; `fr` holds the addresses freed so far. -/
def clearsFreed (fr : List Nat) : List REvent → Bool
  | [] => false
  | .free a :: es => clearsFreed (a :: fr) es
  | .clearFs a :: es => fr.contains a || clearsFreed fr es
  | _ :: es => clearsFreed fr es

/-- The registry a mount reached, unless an `f_mount` on the way wrote through a
freed work area. -/
def Reg.defined (s : Reg n) : Option (Reg n) := if clearsFreed [] s.events then none else some s

/-! ## §5  `fs_fat_shutdown` -/

/-- The release loop of `fs_fat_shutdown` for slot `i`. A slot with a device but no
handler would have `NULL->nmmgr` passed to the name manager, and one whose devices
are cleared or freed would have `fs_fat_free` call through them: undefined. -/
def shutdownSlot (s : Reg n) (i : Fin n) : Option (Reg n) :=
  match (s.mnt i).dev, (s.mnt i).vfsh with
  | none, _ => some s
  | some _, none => none
  | some _, some v => if s.slotLive i then some (fsFatFree (s.nmRemove (some v)) i) else none

/-- `fs_fat_shutdown`. -/
def fsFatShutdown (s : Reg n) : Option (Reg n) :=
  if !s.initted then some s else
  if !(unmountSdLive s && unmountIdeLive (unmountSd s)) then none else
  ((List.finRange n).foldlM shutdownSlot (unmountIde (unmountSd s))).map fun s =>
    { s with initted := false }

/-! ## §6  Runs -/

/-- An operation on the registry, with the outcomes of the calls it makes. -/
inductive ROp
  | init
  | mount (mp : String) (pio : Dev) (dma : Option Dev) (r : MountReplies)
  | unmount (mp : String)
  | shutdown
  | mountSd (r : SdReplies)
  | mountIde (r : IdeReplies)
  | unmountSd
  | unmountIde

/-- The operations of `dc.c` itself: `fs_fat_init`, `fs_fat_mount`,
`fs_fat_unmount` and `fs_fat_shutdown`. -/
def ROp.Core : ROp → Prop
  | .init | .mount .. | .unmount _ | .shutdown => True
  | .mountSd _ | .mountIde _ | .unmountSd | .unmountIde => False

/-- One registry operation; `none` is undefined behaviour. -/
def rstep (s : Reg n) : ROp → Option (Reg n)
  | .init => some (fsFatInit s)
  | .mount mp pio dma r =>
    if mountLive s pio dma r then (fsFatMount s mp pio dma r).1.defined else none
  | .unmount mp => if unmountLive s mp then some (fsFatUnmount s mp).1 else none
  | .shutdown => fsFatShutdown s
  | .mountSd r => (mountSd s r).1.defined
  | .mountIde r => (mountIde s r).1.defined
  | .unmountSd => if unmountSdLive s then some (unmountSd s) else none
  | .unmountIde => if unmountIdeLive s then some (unmountIde s) else none

/-- The registries reached from load time by operations admitted by `P`. -/
inductive MReach (P : Reg n → ROp → Prop) : Reg n → Prop
  | boot : MReach P .boot
  | step {s s' : Reg n} {op : ROp} : MReach P s → P s op → rstep s op = some s' → MReach P s'

end DcFatfs
