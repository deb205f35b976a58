import DcFatfs.Handle.Linkmap

/-!
# Seek offsets and the cursor `fat_seek` and `fat_tell` return

`fat_seek` adds the offset to its base (0, the cursor or the size) and casts the
sum to `DWORD`: `f_lseek` receives the sum modulo 2^32, whatever its sign or size,
and no `whence` it knows is refused. A sum of -1 thus reaches `f_lseek` as
`CREATE_LINKMAP`. On success both `fat_seek` and `fat_tell` return the engine's
cursor cast to the 32-bit `off_t`: the cursor itself below 2^31, a negative number
from there on, -1 for a cursor of `0xFFFFFFFF`.
-/

namespace DcFatfs

/-! ## §1  The two casts -/

/-- `(DWORD) t` is `t` for a `t` in `0..2^32-1`. -/
theorem toDword_of_lt {t : Int} (h0 : 0 ≤ t) (h : t < 2 ^ 32) : (toDword t : Int) = t := by
  unfold toDword
  rw [Int.toNat_of_nonneg (Int.emod_nonneg _ (by decide)), Int.emod_eq_of_lt h0 h]

theorem toOffT_of_lt {x : Nat} (h : x < 2 ^ 31) : toOffT x = x := by
  rw [toOffT, if_pos h]

/-- `(off_t) x` of a `DWORD` is non-negative exactly below 2^31. -/
theorem toOffT_nonneg_iff {x : Nat} (h : x < 2 ^ 32) : 0 ≤ toOffT x ↔ x < 2 ^ 31 := by
  unfold toOffT
  split_ifs with hx
  · exact iff_of_true (by omega) hx
  · simp only [hx, iff_false, not_le]; omega

/-! ## §2  What `fat_seek` passes to `f_lseek` -/

/-- The base a `whence` of `SEEK_SET`, `SEEK_CUR` or `SEEK_END` adds the offset to. -/
def seekBase (fil : Fil) (whence : Int) : Option Int :=
  if whence = seekSet then some 0
  else if whence = seekCur then some fil.fptr
  else if whence = seekEnd then some fil.fsize
  else none

theorem seekTarget_eq (fil : Fil) (offset whence : Int) :
    seekTarget fil offset whence = (seekBase fil whence).map fun b => toDword (b + offset) := by
  unfold seekTarget seekBase
  split_ifs <;> simp

/-- **`fat_seek` is one `f_lseek` to `(base + offset) mod 2^32`**, which returns the
engine's cursor as an `off_t`; `fat_tell` returns the cursor as an `off_t`. The
offset passed is the sum itself when it lies in `0..2^32-1`, and an `off_t` is
non-negative exactly when the cursor is below 2^31. -/
theorem fatSeek_lseek_wraps (s : Pool) (fd : Fin maxFatFiles) (offset whence b : Int)
    (r : LseekReply) (hb : seekBase (s.fh fd).fil whence = some b) :
    fatSeek s (fd.val + 1) offset whence r =
      (s.lseek fd (toDword (b + offset)) r,
        if r.rc ≠ .ok then ⟨-1, fatfsSetErrno r.rc⟩ else ⟨toOffT r.fptr, none⟩) ∧
    (0 ≤ b + offset → b + offset < 2 ^ 32 → (toDword (b + offset) : Int) = b + offset) ∧
    fatTell s (fd.val + 1) = ⟨toOffT (s.fh fd).fil.fptr, none⟩ ∧
    ∀ x : Nat, x < 2 ^ 32 → (0 ≤ toOffT x ↔ x < 2 ^ 31) := by
  refine ⟨?_, toDword_of_lt, by simp [fatTell], fun x => toOffT_nonneg_iff⟩
  simp only [fatSeek, fatGetHnd_desc, seekTarget_eq, hb, Option.map_some']
  split_ifs <;> simp

/-- An engine that opens a file of the largest size FAT allows. -/
def hugeOpen : OpenReplies := ⟨.ok, .ok, .ok, ⟨some 0, 0xFFFFFFFF, 0, 2⟩, ⟨.ok, 0, 0, none⟩⟩

/-- Descriptor 1 open read-only on a file of `0xFFFFFFFF` bytes, its cursor at 0. -/
def hugeOpened : Pool :=
  (fatOpen sampleFlags Pool.init (some sampleMnt) (some "/f") sampleFlags.oRdonly hugeOpen).1

/-- On descriptor 1 of `hugeOpened`, `fat_seek(fd, 1, SEEK_END)` asks for offset
`0xFFFFFFFF + 1`, which wraps to 0: `f_lseek` moves the cursor to the start. -/
theorem fatSeek_lseek_wraps_end :
    (hugeOpened.fh 0).used ∧ seekBase (hugeOpened.fh 0).fil seekEnd = some 0xFFFFFFFF ∧
      toDword (0xFFFFFFFF + 1) = 0 ∧
      fatSeek hugeOpened 1 1 seekEnd ⟨.ok, 0, 0xFFFFFFFF, none⟩ =
        (hugeOpened.lseek 0 (toDword (0xFFFFFFFF + 1)) ⟨.ok, 0, 0xFFFFFFFF, none⟩, ⟨toOffT 0, none⟩) :=
  ⟨rfl, rfl, by decide, by simpa using
    (fatSeek_lseek_wraps hugeOpened 0 1 seekEnd 0xFFFFFFFF ⟨.ok, 0, 0xFFFFFFFF, none⟩ rfl).1⟩

/-! ## §3  A file of `0xFFFFFFFF` bytes -/

/-- On a file of `0xFFFFFFFF` bytes open read-only, `fat_seek(fd, -1, SEEK_SET)` calls
`f_lseek` with `CREATE_LINKMAP` instead of failing with `EINVAL`; the engine's
cursor moves to the end, and `fat_seek` and then `fat_tell` return -1 with no
error. -/
theorem fatSeek_minus_one_reaches_engine :
    ∃ s, Reach sampleFlags OnOpenDesc s ∧ (s.fh 0).used = true ∧
      (fatSeek s 1 (-1) seekSet ⟨.ok, 0xFFFFFFFF, 0xFFFFFFFF, none⟩).1.trace =
        s.trace ++ [.engine (.lseek 0 createLinkmap .null 0)] ∧
      (fatSeek s 1 (-1) seekSet ⟨.ok, 0xFFFFFFFF, 0xFFFFFFFF, none⟩).2 = ⟨-1, none⟩ ∧
      fatTell (fatSeek s 1 (-1) seekSet ⟨.ok, 0xFFFFFFFF, 0xFFFFFFFF, none⟩).1 1 = ⟨-1, none⟩ := by
  have h₁ := Reach.step (P := OnOpenDesc) .init (fun _ h => by cases h)
    (show step sampleFlags Pool.init
      (.fatOpen (some sampleMnt) (some "/f") sampleFlags.oRdonly hugeOpen) = some (_, _) from rfl)
  exact ⟨_, h₁, rfl, by decide, by decide, by decide⟩

end DcFatfs
