import DcFatfs.Handle.Pool

/-!
# The descriptor operations of `dc.c`

One definition for each VFS entry point that opens a descriptor or takes one,
written after the C code branch for branch, and `step`, which runs an operation
`Op` — the entry point's arguments together with the replies of the engine calls
it makes. `exec` runs a list of operations from a pool and stops at undefined
behaviour.

`fat_mmap`, which is `fat_total` followed by `fat_read` into a fresh buffer, is
modelled on top of them (`Handle.Mmap`). The path operations (`fat_rename`,
`fat_unlink`, `fat_mkdir`, `fat_rmdir`, `fat_stat`) do not touch the pool.
-/

namespace DcFatfs

variable (K : HostFlags)

/-! ## §1  Replies, commands and results -/

/-- The engine's answer to `f_read`: result, bytes read, cursor afterwards. -/
structure ReadReply where
  rc : FResult
  count : Nat
  fptr : Nat
  deriving DecidableEq, Repr

/-- The engine's answer to `f_write`. -/
structure WriteReply where
  rc : FResult
  count : Nat
  fptr : Nat
  fsize : Nat
  deriving DecidableEq, Repr

/-- The engine's answer to `f_readdir`: the `FILINFO` it fills in. -/
structure ReaddirReply where
  rc : FResult
  fname : String
  lfname : String
  ftime : Nat
  isDir : Bool
  fsize : Nat
  deriving DecidableEq, Repr

/-- The replies `fat_ioctl` may consume, one per command. -/
structure IoctlReplies where
  diskRead : DResult
  lba : Nat
  linkmap : LinkmapReplies
  diskIoctl : DResult
  deriving DecidableEq, Repr

/-- `FATFS_IOCTL_*` commands; any other value is passed through to `disk_ioctl`. -/
inductive IoctlCmd
  | getBootSectorData | getFdLba | getFdLinkMap
  | other (cmd : Nat)
  deriving DecidableEq, Repr

/-- `fcntl` commands. -/
inductive FcntlCmd
  | getfl | setfl | getfd | setfd
  | other (cmd : Int)
  deriving DecidableEq, Repr

/-- The fields of `struct stat` the adapter sets. `dev` is `st_dev`, an address
converted to `dev_t`, which is taken to be at least 32 bits wide, as wide as a
pointer on the target, so that the conversion keeps the address. `isDir` is
`S_IFDIR` in `st_mode`, otherwise `S_IFREG`; the permission bits are the same for
both. `st_size` is an `off_t` and `st_blocks` a `blkcnt_t`, both the target's
32-bit `long`; `time` is what `st_atime`, `st_mtime` and `st_ctime` all hold. -/
structure Stat where
  dev : Nat
  isDir : Bool
  size : Int
  blksize : Nat
  blocks : Int
  nlink : Nat
  time : Nat
  deriving DecidableEq, Repr

/-- `(off_t) x` for a `DWORD` x; `off_t` is the target's 32-bit `long` (the
handler table has separate 64-bit entries). -/
def toOffT (x : Nat) : Int := if x < 2 ^ 31 then x else (x : Int) - 2 ^ 32

/-- `(DWORD) x`. -/
def toDword (x : Int) : Nat := (x % 2 ^ 32).toNat

/-- `(ssize_t) x` for a `UINT` x; `ssize_t` is the target's 32-bit `int`. -/
def toSsizeT (x : Nat) : Int := toOffT (x % 2 ^ 32)

/-- The errno `FAT_GET_HND` sets for a descriptor out of range. -/
def badHnd (rv : Int) : Out := ⟨rv, some .enfile⟩

/-! ## §2  `fat_create_linkmap` -/

/-- `memset(sf->lktbl, 0, ...)`, `cltbl = lktbl` and `lktbl[0] = FATFS_LINK_TBL_SIZE`. -/
def attachLktbl (s : Pool) (fd : Fin maxFatFiles) : Pool :=
  s.set fd { s.fh fd with
    fil := { (s.fh fd).fil with cltbl := .lktbl fd }, lktbl0 := fatfsLinkTblSize }

/-- `cltbl = calloc(lms, sizeof(DWORD))` answered with the fresh block `brk`, then
`cltbl[0] = lms`. -/
def attachHeap (s : Pool) (fd : Fin maxFatFiles) (lms : Nat) : Pool :=
  { (s.log (.calloc lms (some s.brk))).setCltbl fd (.heap s.brk) with
    brk := s.brk + 1, heap := Function.update s.heap s.brk lms }

/-- The second half of `fat_create_linkmap`, after the engine answered
`FR_NOT_ENOUGH_CORE`: one retry in a heap block of the length the engine left in
cell 0. Writing that cell of an empty block is undefined. -/
def linkmapRetry (s : Pool) (fd : Fin maxFatFiles) (calloc : Bool) (r : LseekReply) :
    Option (Pool × FResult) :=
  let lms := s.cell0 (s.fh fd).fil.cltbl
  if !calloc then some ((s.log (.calloc lms none)).setCltbl fd .null, .notEnoughCore)
  else if lms = 0 then none
  else
    let s := (attachHeap s fd lms).lseek fd createLinkmap r
    if r.rc = .ok then some (s, .ok)
    else some ((s.log (.free (s.fh fd).fil.cltbl)).setCltbl fd .null, r.rc)

/-- `fat_create_linkmap`: attach the inline table and ask the engine for the
chain map; on `FR_NOT_ENOUGH_CORE` retry once (`linkmapRetry`), on any other
error detach the table. -/
def fatCreateLinkmap (s : Pool) (fd : Fin maxFatFiles) (r : LinkmapReplies) :
    Option (Pool × FResult) :=
  if (s.fh fd).fil.cltbl ≠ .null then some (s, .ok) else
  let s := (attachLktbl s fd).lseek fd createLinkmap r.first
  if r.first.rc = .notEnoughCore then linkmapRetry s fd r.calloc r.retry
  else if r.first.rc ≠ .ok then some (s.setCltbl fd .null, r.first.rc)
  else some (s, .ok)

/-! ## §3  `fat_open` and `fat_close` -/

/-- The first slot with `used == 0`. -/
def firstFree (s : Pool) : Option (Fin maxFatFiles) :=
  (List.finRange maxFatFiles).find? fun fd => !(s.fh fd).used

/-- `fat_flags` for the access mode `flags & O_MODE_MASK`, or `none` for an
unknown mode. -/
def faFlagsOf (flags : Nat) : Option FaFlags :=
  let mode := flags &&& K.oModeMask
  let create := if flags &&& K.oTrunc ≠ 0 then FaDisp.createAlways else .createNew
  if mode = K.oRdonly then some ⟨true, false, .openExisting⟩
  else if mode = K.oWronly then some ⟨false, true, create⟩
  else if mode = K.oRdwr then some ⟨true, true, create⟩
  else none

/-- The directory branch of `fat_open`: `f_opendir`, then the slot is in use. -/
def fatOpenDir (s : Pool) (fd : Fin maxFatFiles) (path : String) (rc : FResult) : Pool × Out :=
  let s := s.log (.engine (.opendir fd path))
  if rc ≠ .ok then (s, ⟨0, fatfsSetErrno rc⟩)
  else (s.set fd { s.fh fd with used := true, type := .dir }, ⟨fd.val + 1, none⟩)

/-- The file branch of `fat_open`, once `fat_flags` is known: `f_open`, a sync
after a write-capable open, the append seek to `fsize - 1`, then the slot is in
use. -/
def fatOpenFile (s : Pool) (fd : Fin maxFatFiles) (path : String) (flags : Nat) (fa : FaFlags)
    (r : OpenReplies) : Pool × Out :=
  let s := (s.set fd { s.fh fd with type := .file }).log (.engine (.fopen fd path fa))
  let s := s.set fd { s.fh fd with fil := { (s.fh fd).fil with
    fs := r.fil.fs, fsize := r.fil.fsize, fptr := r.fil.fptr, sclust := r.fil.sclust } }
  if r.fopen ≠ .ok then (s, ⟨0, fatfsSetErrno r.fopen⟩) else
  let s := if fa.write then s.log (.engine (.sync fd)) else s
  let size := (s.fh fd).fil.fsize
  let s := if flags &&& K.oAppend ≠ 0 ∧ 0 < size then s.lseek fd (size - 1) r.append else s
  (s.set fd { s.fh fd with used := true }, ⟨fd.val + 1, none⟩)

/-- `fat_open`, with `vfs->privdata` given as the mount it points at. The first
free slot is zeroed before the drive is selected. -/
def fatOpen (s : Pool) (vfs : Option MntCtx) (fn : Option String) (flags : Nat)
    (r : OpenReplies) : Pool × Out :=
  match vfs with
  | none => (s, ⟨0, some .enomem⟩)
  | some mnt =>
  match firstFree s with
  | none => (s, ⟨0, some .enfile⟩)
  | some fd =>
  let s := (s.set fd .zero).log (.engine (.chdrive mnt.devPath))
  if r.chdrive ≠ .ok then (s, ⟨0, fatfsSetErrno r.chdrive⟩) else
  let s := s.set fd { Fatfs.zero with mode := flags, mnt := some mnt }
  if flags &&& K.oDir ≠ 0 then fatOpenDir s fd (fn.getD "/") r.opendir else
  match faFlagsOf K flags with
  | none => (s, ⟨0, some .einval⟩)
  | some fa => fatOpenFile K s fd (fn.getD "/") flags fa r

/-- The result of `fat_close` once the engine has answered `rc`. -/
def closeResult (s : Pool) (rc : FResult) : Pool × Out :=
  if rc ≠ .ok then (s, ⟨-1, fatfsSetErrno rc⟩) else (s, ⟨0, none⟩)

/-- `fat_close`: the slot is marked free before anything else; a heap link map is
freed for a file handle. -/
def fatClose (s : Pool) (hnd : Int) (rc : FResult) : Pool × Out :=
  match fatGetHnd hnd with
  | none => (s, badHnd (-1))
  | some fd =>
  let s := s.set fd { s.fh fd with used := false }
  let t := (s.fh fd).fil.cltbl
  match (s.fh fd).type with
  | .file =>
    let s := if t ≠ .lktbl fd ∧ t ≠ .null then s.log (.free t) else s
    closeResult (s.log (.engine (.close fd))) rc
  | .dir => closeResult (s.log (.engine (.closedir fd))) rc
  | .none => (s, ⟨-1, none⟩)

/-! ## §4  Reading, writing, seeking -/

/-- The rest of `fat_read` once the optional link-map build is done: the size test
and `f_read`, whose count of bytes read is returned as a `ssize_t`. -/
def fatReadRest (s : Pool) (fd : Fin maxFatFiles) (size : Nat) (r : ReadReply) : Pool × Out :=
  if size = 0 then (s, ⟨0, none⟩) else
  let s := (s.log (.engine (.read fd))).set fd
    { s.fh fd with fil := { (s.fh fd).fil with fptr := r.fptr } }
  if r.rc ≠ .ok then (s, ⟨-1, fatfsSetErrno r.rc⟩) else (s, ⟨toSsizeT r.count, none⟩)

/-- `fat_read`. The size test reads `sf->mnt->fs->csize` only once the first two
conjuncts hold, and that read is undefined for a slot with no mount. -/
def fatRead (s : Pool) (hnd : Int) (size : Nat) (lm : LinkmapReplies) (r : ReadReply) :
    Option (Pool × Out) :=
  match fatGetHnd hnd with
  | none => some (s, badHnd (-1))
  | some fd =>
  let sf := s.fh fd
  let build : Option Bool :=
    if sf.fil.cltbl = .null ∧ sf.mode &&& K.oModeMask = K.oRdonly then
      sf.mnt.map fun m => decide (sf.fil.fsize > m.csize * 2 ^ m.lBlockSize % 2 ^ 32)
    else some false
  match build with
  | none => none
  | some false => some (fatReadRest s fd size r)
  | some true => (fatCreateLinkmap s fd lm).map fun p => fatReadRest p.1 fd size r

/-- `fat_write`; the count written is returned as a `ssize_t`. -/
def fatWrite (s : Pool) (hnd : Int) (r : WriteReply) : Pool × Out :=
  match fatGetHnd hnd with
  | none => (s, badHnd (-1))
  | some fd =>
  let s := (s.log (.engine (.write fd))).set fd
    { s.fh fd with fil := { (s.fh fd).fil with fptr := r.fptr, fsize := r.fsize } }
  if r.rc ≠ .ok then (s, ⟨-1, fatfsSetErrno r.rc⟩) else (s, ⟨toSsizeT r.count, none⟩)

/-- `fat_tell`. -/
def fatTell (s : Pool) (hnd : Int) : Out :=
  match fatGetHnd hnd with
  | none => badHnd (-1)
  | some fd => ⟨toOffT (s.fh fd).fil.fptr, none⟩

/-- The `DWORD` offset `fat_seek` computes for `whence`, or `none` for an unknown
`whence`. -/
def seekTarget (fil : Fil) (offset whence : Int) : Option Nat :=
  if whence = seekSet then some (toDword offset)
  else if whence = seekCur then some (toDword (fil.fptr + offset))
  else if whence = seekEnd then some (toDword (fil.fsize + offset))
  else none

/-- `fat_seek`. -/
def fatSeek (s : Pool) (hnd : Int) (offset whence : Int) (r : LseekReply) : Pool × Out :=
  match fatGetHnd hnd with
  | none => (s, badHnd (-1))
  | some fd =>
  match seekTarget (s.fh fd).fil offset whence with
  | none => (s, ⟨-1, some .einval⟩)
  | some off =>
  let s := s.lseek fd off r
  if r.rc ≠ .ok then (s, ⟨-1, fatfsSetErrno r.rc⟩)
  else (s, ⟨toOffT (s.fh fd).fil.fptr, none⟩)

/-- `fat_total`; its error value is `(size_t) -1`. -/
def fatTotal (s : Pool) (hnd : Int) : Out :=
  match fatGetHnd hnd with
  | none => badHnd (2 ^ 32 - 1)
  | some fd => ⟨(s.fh fd).fil.fsize, none⟩

/-! ## §5  Directories, control and status -/

/-- `fat_readdir`. The engine writes the long name straight into `sf->dent.name`;
a pointer to the slot's `dent` is returned as the descriptor. -/
def fatReaddir (s : Pool) (hnd : Int) (r : ReaddirReply) : Pool × Out :=
  match fatGetHnd hnd with
  | none => (s, badHnd 0)
  | some fd =>
  let s := (s.set fd { s.fh fd with dent := .zero }).log (.engine (.readdir fd))
  if r.rc ≠ .ok then (s, ⟨0, fatfsSetErrno r.rc⟩) else
  let s := s.set fd { s.fh fd with dent := { (s.fh fd).dent with name := r.lfname } }
  if r.fname = "" then (s, ⟨0, none⟩) else
  let name := if r.lfname = "" then r.fname.take 12 else r.lfname
  let d : Dirent := ⟨name, r.ftime, if r.isDir then K.oDir else 0,
    if r.isDir then -1 else r.fsize⟩
  (s.set fd { s.fh fd with dent := d }, ⟨hnd, none⟩)

/-- `fat_rewinddir`. -/
def fatRewinddir (s : Pool) (hnd : Int) (rc : FResult) : Pool × Out :=
  match fatGetHnd hnd with
  | none => (s, badHnd (-1))
  | some fd =>
  let s := s.log (.engine (.rewinddir fd))
  if rc ≠ .ok then (s, ⟨-1, fatfsSetErrno rc⟩) else (s, ⟨0, none⟩)

/-- `fat_ioctl`. Three commands read `sf->fil.fs`, undefined when the file object
has no work area; the copy to the caller's buffer is not modelled. -/
def fatIoctl (s : Pool) (hnd : Int) (cmd : IoctlCmd) (r : IoctlReplies) :
    Option (Pool × Out) :=
  match fatGetHnd hnd with
  | none => some (s, badHnd (-1))
  | some fd =>
  let done (s : Pool) (rc : DResult) : Pool × Out := (s, ⟨if rc = .ok then 0 else -1, none⟩)
  let fil := (s.fh fd).fil
  match cmd with
  | .getBootSectorData => fil.fs.map fun drv => done (s.log (.engine (.diskRead drv))) r.diskRead
  | .getFdLba => fil.fs.map fun _ =>
      done (s.log (.engine (.clust2sect fd))) (if r.lba > 0 then .ok else .error)
  | .getFdLinkMap => (fatCreateLinkmap s fd r.linkmap).map fun p => done p.1 .ok
  | .other c => fil.fs.map fun drv =>
      done (s.log (.engine (.diskIoctl drv (c % 256)))) r.diskIoctl

/-- `fat_fcntl`. -/
def fatFcntl (s : Pool) (hnd : Int) (cmd : FcntlCmd) : Out :=
  match fatGetHnd hnd with
  | none => badHnd (-1)
  | some fd =>
  match cmd with
  | .getfl => ⟨(s.fh fd).mode, none⟩
  | .setfl | .getfd | .setfd => ⟨0, none⟩
  | .other _ => ⟨-1, some .einval⟩

/-- `st_blocks` of a regular file of `fsize` bytes on a device with
`l_block_size = l`: `fsize >> l` stored in the `long`, plus one when
`fsize & (st_blksize - 1)` is not zero. `none` where `++st_blocks` overflows. -/
def stBlocks (fsize l : Nat) : Option Int :=
  let b := toOffT (fsize >>> l) + if fsize &&& (2 ^ l - 1) ≠ 0 then 1 else 0
  if b < 2 ^ 31 then some b else none

/-- The `struct stat` that `fat_stat` and `fat_fstat` both fill in for a regular
file of `fsize` bytes, once `st_blksize = 1 << l` is set: `S_IFREG`, `st_size` the
size as an `off_t`, and `st_blocks`. -/
def regStat (dev fsize l time : Nat) : Option Stat :=
  (stBlocks fsize l).map fun b => ⟨dev, false, toOffT fsize, 2 ^ l, b, 1, time⟩

/-- `fat_fstat`: the result and the `struct stat` it fills in. It sets
`st_blksize = 1 << l` before it looks at the type, an `int` shift that overflows
from `l = 31` on. Both reads of `sf->mnt->dev` are undefined for a slot with no
mount. `st_dev` is the address of the device, converted to a `dev_t` of at least
32 bits. The times stay 0. -/
def fatFstat (s : Pool) (hnd : Int) : Option (Out × Option Stat) :=
  match fatGetHnd hnd with
  | none => some (badHnd (-1), none)
  | some fd =>
  let sf := s.fh fd
  sf.mnt.bind fun m =>
    if m.lBlockSize < 31 then
      if sf.type = .dir then some (⟨0, none⟩, some ⟨m.dev, true, -1, 2 ^ m.lBlockSize, 0, 1, 0⟩)
      else (regStat m.dev sf.fil.fsize m.lBlockSize 0).map fun st => (⟨0, none⟩, some st)
    else none

/-- `fat_complete`. -/
def fatComplete (s : Pool) (hnd : Int) (rc : FResult) : Pool × Out :=
  match fatGetHnd hnd with
  | none => (s, badHnd (-1))
  | some fd =>
  let s := s.log (.engine (.sync fd))
  if rc ≠ .ok then (s, ⟨-1, fatfsSetErrno rc⟩) else (s, ⟨0, none⟩)

/-! ## §6  Runs -/

/-- A descriptor operation: the entry point, its arguments, and the engine's
replies to the calls it makes. -/
inductive Op
  | fatOpen (vfs : Option MntCtx) (fn : Option String) (flags : Nat) (r : OpenReplies)
  | fatClose (hnd : Int) (rc : FResult)
  | fatRead (hnd : Int) (size : Nat) (lm : LinkmapReplies) (r : ReadReply)
  | fatWrite (hnd : Int) (r : WriteReply)
  | fatSeek (hnd : Int) (offset whence : Int) (r : LseekReply)
  | fatTell (hnd : Int)
  | fatTotal (hnd : Int)
  | fatReaddir (hnd : Int) (r : ReaddirReply)
  | fatRewinddir (hnd : Int) (rc : FResult)
  | fatIoctl (hnd : Int) (cmd : IoctlCmd) (r : IoctlReplies)
  | fatFcntl (hnd : Int) (cmd : FcntlCmd)
  | fatFstat (hnd : Int)
  | fatComplete (hnd : Int) (rc : FResult)

/-- The descriptor an operation is applied to; `fat_open` has none. -/
def Op.hnd : Op → Option Int
  | .fatOpen .. => none
  | .fatClose h _ | .fatRead h .. | .fatWrite h _ | .fatSeek h .. | .fatTell h
  | .fatTotal h | .fatReaddir h _ | .fatRewinddir h _ | .fatIoctl h .. | .fatFcntl h _
  | .fatFstat h | .fatComplete h _ => some h

/-- One operation on the pool; `none` is undefined behaviour. -/
def step (s : Pool) : Op → Option (Pool × Out)
  | .fatOpen vfs fn flags r => some (fatOpen K s vfs fn flags r)
  | .fatClose hnd rc => some (fatClose s hnd rc)
  | .fatRead hnd size lm r => fatRead K s hnd size lm r
  | .fatWrite hnd r => some (fatWrite s hnd r)
  | .fatSeek hnd offset whence r => some (fatSeek s hnd offset whence r)
  | .fatTell hnd => some (s, fatTell s hnd)
  | .fatTotal hnd => some (s, fatTotal s hnd)
  | .fatReaddir hnd r => some (fatReaddir K s hnd r)
  | .fatRewinddir hnd rc => some (fatRewinddir s hnd rc)
  | .fatIoctl hnd cmd r => fatIoctl s hnd cmd r
  | .fatFcntl hnd cmd => some (s, fatFcntl s hnd cmd)
  | .fatFstat hnd => (fatFstat s hnd).map fun p => (s, p.1)
  | .fatComplete hnd rc => some (fatComplete s hnd rc)

/-- A run of operations and what each returned; `none` once one of them is
undefined. -/
def exec (s : Pool) : List Op → Option (Pool × List Out)
  | [] => some (s, [])
  | op :: ops => do
    let (s, o) ← step K s op
    let (s, os) ← exec s ops
    return (s, o :: os)

/-! ## §7  Sample replies -/

/-- The mount of drive `0:` with 4-sector clusters on a device of 512-byte blocks. -/
def sampleMnt : MntCtx := ⟨"0:", 4, 0, 9⟩

/-- An engine that opens a 4096-byte file and answers every later call with
`FR_OK`. -/
def sampleOpen : OpenReplies := ⟨.ok, .ok, .ok, ⟨some 0, 4096, 0, 2⟩, ⟨.ok, 4095, 4096, none⟩⟩

/-- An engine that opens a 256 KiB file, 128 clusters of `sampleMnt` in 20
fragments, and answers every later call with `FR_OK`. -/
def fragOpen : OpenReplies :=
  ⟨.ok, .ok, .ok, ⟨some 0, 0x40000, 0, 2⟩, ⟨.ok, 0x3ffff, 0x40000, none⟩⟩

end DcFatfs
