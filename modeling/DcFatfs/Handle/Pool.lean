import DcFatfs.Basic

/-!
# The handle pool — slots, heap blocks and the engine's replies

`fh[MAX_FAT_FILES]` of `dc.c` is a record of slots (`Fatfs`, the C `fatfs_t`)
together with what the pool's operations touch outside it: the heap blocks
`fat_create_linkmap` allocates, and a trace of every engine call, `calloc` and
`free`, in program order.

The engine is not modelled. Each engine call takes its reply from the arguments
of the operation that makes it (`LseekReply`, `FilReply`, ...), so a run ranges
over every sequence of results the engine could return. Undefined behaviour
(a read or write through a null or too short pointer) is `none`.
-/

namespace DcFatfs

/-- `MAX_FAT_FILES`. -/
def maxFatFiles : Nat := 16

/-- `FATFS_LINK_TBL_SIZE`. -/
def fatfsLinkTblSize : Nat := 32

instance : NeZero maxFatFiles := ⟨by decide⟩

/-! ## §1  Pointers, slots and the pool -/

/-- A `DWORD *` as the pool sees it: null, the inline `lktbl` of a slot, or a heap
block. -/
inductive Ptr
  | null
  | lktbl (fd : Fin maxFatFiles)
  | heap (addr : Nat)
  deriving DecidableEq, Repr

/-- The fields of the engine's `FIL` that `dc.c` reads. `fs` is the work-area
pointer, given by the drive number `fs->drv` read through it; `cltbl` is the only
field this layer writes. -/
structure Fil where
  fs : Option Nat
  fsize : Nat
  fptr : Nat
  sclust : Nat
  cltbl : Ptr
  deriving DecidableEq, Repr

def Fil.zero : Fil := ⟨none, 0, 0, 0, .null⟩

/-- `dirent_t` as `fat_readdir` fills it. -/
structure Dirent where
  name : String
  time : Nat
  attr : Nat
  size : Int
  deriving DecidableEq, Repr

def Dirent.zero : Dirent := ⟨"", 0, 0, 0⟩

/-- What the descriptor operations read through a `fatfs_mnt_t *`: the drive path,
the work area's cluster size `fs->csize`, and the PIO device (its address, which
`fat_fstat` reports as `st_dev`, and its `l_block_size`). -/
structure MntCtx where
  devPath : String
  csize : Nat
  dev : Nat
  lBlockSize : Nat
  deriving DecidableEq, Repr

/-- `fatfs_t`. Of the inline table `lktbl` only the first cell is kept, the only
one this layer reads or writes; the engine's `DIR` object is opaque and left out. -/
structure Fatfs where
  fil : Fil
  type : StatType
  used : Bool
  mode : Nat
  lktbl0 : Nat
  dent : Dirent
  mnt : Option MntCtx
  deriving DecidableEq, Repr

/-- A slot after `memset(sf, 0, sizeof(fatfs_t))`. -/
def Fatfs.zero : Fatfs := ⟨.zero, .none, false, 0, 0, .zero, none⟩

/-- The `FA_*` bits `fat_open` passes to `f_open`, by name. -/
inductive FaDisp
  | openExisting | createNew | createAlways
  deriving DecidableEq, Repr

structure FaFlags where
  read : Bool
  write : Bool
  disp : FaDisp
  deriving DecidableEq, Repr

/-- Engine calls, with the arguments the proofs look at. -/
inductive Call
  | chdrive (path : String)
  | opendir (fd : Fin maxFatFiles) (path : String)
  | fopen (fd : Fin maxFatFiles) (path : String) (fa : FaFlags)
  | sync (fd : Fin maxFatFiles)
  | lseek (fd : Fin maxFatFiles) (off : Nat) (tbl : Ptr) (cell0 : Nat)
  | read (fd : Fin maxFatFiles)
  | write (fd : Fin maxFatFiles)
  | close (fd : Fin maxFatFiles)
  | closedir (fd : Fin maxFatFiles)
  | readdir (fd : Fin maxFatFiles)
  | rewinddir (fd : Fin maxFatFiles)
  | diskRead (drv : Nat)
  | clust2sect (fd : Fin maxFatFiles)
  | diskIoctl (drv : Nat) (cmd : Nat)
  deriving DecidableEq, Repr

/-- One entry of the pool's trace. -/
inductive Event
  | engine (c : Call)
  | calloc (len : Nat) (addr : Option Nat)
  | free (p : Ptr)
  deriving DecidableEq, Repr

/-- The handle pool: the slots, the first cell of every heap block, the next fresh
heap address, and the trace. -/
structure Pool where
  fh : Fin maxFatFiles → Fatfs
  heap : Nat → Nat
  brk : Nat
  trace : List Event

/-- The pool as `fs_fat_init` leaves it. -/
def Pool.init : Pool := ⟨fun _ => .zero, fun _ => 0, 0, []⟩

/-- What an operation returns: its C return value (a null pointer is `0`, a
descriptor pointer its number) and the errno it assigns, if any. -/
structure Out where
  ret : Int
  errno : Option Errno
  deriving DecidableEq, Repr

/-! ## §2  Engine replies -/

/-- The engine's answer to `f_lseek`: result, cursor and size afterwards, and the
value it leaves in the first cell of the attached table, if it writes one. -/
structure LseekReply where
  rc : FResult
  fptr : Nat
  fsize : Nat
  cell0 : Option Nat
  deriving DecidableEq, Repr

/-- The replies `fat_create_linkmap` may consume: the first `f_lseek`, whether
`calloc` returns a block, and the retry. -/
structure LinkmapReplies where
  first : LseekReply
  calloc : Bool
  retry : LseekReply
  deriving DecidableEq, Repr

/-- The file object `f_open` fills in. -/
structure FilReply where
  fs : Option Nat
  fsize : Nat
  fptr : Nat
  sclust : Nat
  deriving DecidableEq, Repr

/-- The replies `fat_open` may consume. -/
structure OpenReplies where
  chdrive : FResult
  opendir : FResult
  fopen : FResult
  fil : FilReply
  append : LseekReply
  deriving DecidableEq, Repr

/-! ## §3  Slot and pool updates -/

namespace Pool

def set (s : Pool) (fd : Fin maxFatFiles) (sf : Fatfs) : Pool :=
  { s with fh := Function.update s.fh fd sf }

def log (s : Pool) (e : Event) : Pool := { s with trace := s.trace ++ [e] }

def setCltbl (s : Pool) (fd : Fin maxFatFiles) (p : Ptr) : Pool :=
  s.set fd { s.fh fd with fil := { (s.fh fd).fil with cltbl := p } }

/-- `sf->fil.cltbl[0]`, read. -/
def cell0 (s : Pool) : Ptr → Nat
  | .null => 0
  | .lktbl fd => (s.fh fd).lktbl0
  | .heap p => s.heap p

/-- `cltbl[0] = v`; the engine writes no cell through a null table. -/
def writeCell0 (s : Pool) (v : Nat) : Ptr → Pool
  | .null => s
  | .lktbl fd => s.set fd { s.fh fd with lktbl0 := v }
  | .heap p => { s with heap := Function.update s.heap p v }

/-- `f_lseek(&fh[fd].fil, off)` answered by `r`: the call is traced with the table
it sees, the cursor and the size move, and a written first cell lands in the
table `cltbl` points at. -/
def lseek (s : Pool) (fd : Fin maxFatFiles) (off : Nat) (r : LseekReply) : Pool :=
  let t := (s.fh fd).fil.cltbl
  let s := (s.log (.engine (.lseek fd off t (s.cell0 t)))).set fd
    { s.fh fd with fil := { (s.fh fd).fil with fptr := r.fptr, fsize := r.fsize } }
  match r.cell0 with
  | none => s
  | some v => s.writeCell0 v t

@[simp] theorem set_fh_self (s : Pool) (fd : Fin maxFatFiles) (sf : Fatfs) :
    (s.set fd sf).fh fd = sf := by simp [set]

@[simp] theorem set_fh_ne (s : Pool) {fd i : Fin maxFatFiles} (sf : Fatfs) (h : i ≠ fd) :
    (s.set fd sf).fh i = s.fh i := by simp [set, h]

theorem set_fh (s : Pool) (fd i : Fin maxFatFiles) (sf : Fatfs) :
    (s.set fd sf).fh i = if i = fd then sf else s.fh i := by
  by_cases h : i = fd <;> simp [set, h]

@[simp] theorem set_trace (s : Pool) (fd : Fin maxFatFiles) (sf : Fatfs) :
    (s.set fd sf).trace = s.trace := rfl

@[simp] theorem set_brk (s : Pool) (fd : Fin maxFatFiles) (sf : Fatfs) :
    (s.set fd sf).brk = s.brk := rfl

@[simp] theorem set_heap (s : Pool) (fd : Fin maxFatFiles) (sf : Fatfs) :
    (s.set fd sf).heap = s.heap := rfl

@[simp] theorem log_fh (s : Pool) (e : Event) : (s.log e).fh = s.fh := rfl

@[simp] theorem log_trace (s : Pool) (e : Event) : (s.log e).trace = s.trace ++ [e] := rfl

@[simp] theorem log_brk (s : Pool) (e : Event) : (s.log e).brk = s.brk := rfl

@[simp] theorem log_heap (s : Pool) (e : Event) : (s.log e).heap = s.heap := rfl

/-- A cell write changes no file object. -/
@[simp] theorem writeCell0_fil (s : Pool) (v : Nat) (t : Ptr) (i : Fin maxFatFiles) :
    ((s.writeCell0 v t).fh i).fil = (s.fh i).fil := by
  cases t with
  | lktbl j => by_cases h : i = j <;> simp [writeCell0, h]
  | _ => rfl

/-- After `f_lseek` the cursor is the engine's. -/
@[simp] theorem lseek_fptr (s : Pool) (fd : Fin maxFatFiles) (off : Nat) (r : LseekReply) :
    ((s.lseek fd off r).fh fd).fil.fptr = r.fptr := by
  unfold lseek; split <;> simp

end Pool

/-! ## §4  `FAT_GET_HND` -/

/-- `FAT_GET_HND`: the slot a handle names, when `hnd - 1` is in range. Only the
range is checked, not whether the slot is in use. -/
def fatGetHnd (hnd : Int) : Option (Fin maxFatFiles) :=
  if h : 0 ≤ hnd - 1 ∧ hnd - 1 < maxFatFiles then some ⟨(hnd - 1).toNat, by omega⟩
  else none

theorem fatGetHnd_eq_some {hnd : Int} {fd : Fin maxFatFiles} :
    fatGetHnd hnd = some fd ↔ hnd = fd.val + 1 := by
  unfold fatGetHnd
  split
  · constructor
    · rintro ⟨⟩; show hnd = ((hnd - 1).toNat : Nat) + 1; omega
    · intro h; simp only [Option.some.injEq, Fin.ext_iff]; omega
  · refine ⟨fun h => (nomatch h), fun h => ?_⟩
    have := fd.isLt; omega

/-- The descriptor of slot `fd` resolves to `fd`. -/
@[simp] theorem fatGetHnd_desc (fd : Fin maxFatFiles) : fatGetHnd (fd.val + 1) = some fd :=
  fatGetHnd_eq_some.mpr rfl

end DcFatfs
