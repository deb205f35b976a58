import Mathlib

/-!
# FatFs on the Dreamcast — the vocabulary of `dc.c`

The adapter of `dc.c` sits between two enumerations it does not own: the
engine's result codes (`FRESULT`, from `ff.h`) and the host's `errno`. This
file names both, gives `fatfs_set_errno`, the translation between them, and
collects the host constants the adapter compares against.

Neither `ff.h` nor the host headers are among the sources. Result codes and
errno values are therefore enumerations rather than numbers, and the numeric
open flags `fat_open` masks with are a parameter (`HostFlags`).
-/

namespace DcFatfs

/-! ## §1  Engine result codes and errno -/

/-- `FRESULT`, in the order the comments of `fatfs_set_errno` number it. -/
inductive FResult
  | ok | diskErr | intErr | notReady | noFile | noPath | invalidName | denied
  | exist | invalidObject | writeProtected | invalidDrive | notEnabled
  | noFilesystem | mkfsAborted | timeout | locked | notEnoughCore
  | tooManyOpenFiles | invalidParameter
  deriving DecidableEq, Repr

/-- The `errno` values this layer assigns; `zero` is the assignment `errno = 0`. -/
inductive Errno
  | zero | eio | efault | enodev | enoent | einval | enospc | eacces | ebadf
  | erofs | enxio | eidrm | etime | eagain | enomem | emfile | enfile
  deriving DecidableEq, Repr

/-- `fatfs_set_errno`: the errno a result code sets, or `none` where the code
leaves errno as the disk driver set it (`FR_DISK_ERR`). The `default` arm of the
C switch has no code left to catch here. -/
def fatfsSetErrno : FResult → Option Errno
  | .ok => some .zero
  | .diskErr => none
  | .intErr => some .efault
  | .notReady => some .enodev
  | .noFile | .noPath => some .enoent
  | .invalidName => some .einval
  | .denied => some .enospc
  | .exist => some .eacces
  | .invalidObject => some .ebadf
  | .writeProtected => some .erofs
  | .invalidDrive => some .enxio
  | .notEnabled => some .eidrm
  | .noFilesystem => some .eio
  | .mkfsAborted => some .einval
  | .timeout => some .etime
  | .locked => some .eagain
  | .notEnoughCore => some .enomem
  | .tooManyOpenFiles => some .emfile
  | .invalidParameter => some .einval

/-- No engine result is reported as `ENFILE`: that errno belongs to the handle
pool alone. -/
theorem fatfsSetErrno_ne_enfile (rc : FResult) : fatfsSetErrno rc ≠ some .enfile := by
  cases rc <;> decide

/-- Only `FR_OK` sets `errno` to 0. -/
@[simp] theorem fatfsSetErrno_eq_zero {rc : FResult} : fatfsSetErrno rc = some .zero ↔ rc = .ok := by
  cases rc <;> decide

/-- `DRESULT`, the result of the disk-I/O entry points. -/
inductive DResult
  | ok | error | wrprt | notrdy | parerr
  deriving DecidableEq, Repr

/-! ## §2  Host constants -/

/-- The open flags of `fcntl.h` and `kos/fs.h` that `fat_open` tests. -/
structure HostFlags where
  oModeMask : Nat
  oRdonly : Nat
  oWronly : Nat
  oRdwr : Nat
  oDir : Nat
  oTrunc : Nat
  oAppend : Nat
  deriving DecidableEq, Repr

/-- The values of newlib's `fcntl.h` and of `fs.h` of KOS, for the runs worked out
in these files. -/
def sampleFlags : HostFlags := ⟨0x0f, 0, 1, 2, 0x1000, 0x0400, 0x0008⟩

/-- `stat` type tags; a zeroed handle reads as `STAT_TYPE_NONE`. -/
inductive StatType
  | none | file | dir
  deriving DecidableEq, Repr

/-- `SEEK_SET`, `SEEK_CUR` and `SEEK_END` of newlib's `stdio.h`. -/
def seekSet : Int := 0
def seekCur : Int := 1
def seekEnd : Int := 2

/-- `CREATE_LINKMAP`, the offset the engine reads as "build the fast-seek table". -/
def createLinkmap : Nat := 0xFFFFFFFF

end DcFatfs
