import DcFatfs.Handle.Linkmap

/-!
# `fat_create_linkmap` and `fat_ioctl`

`fat_create_linkmap` builds the fast-seek table of a file object that has none.
It attaches the slot's inline table `lktbl`, its first cell set to
`FATFS_LINK_TBL_SIZE`, and calls `f_lseek(CREATE_LINKMAP)`. When the engine
answers `FR_NOT_ENOUGH_CORE` it leaves in that cell the length it needs; the
builder then `calloc`s a block of that length, writes the length into its first
cell and calls `f_lseek` once more. A failed retry frees the block; every failure
detaches the table. So the engine is called twice at most, the second time only
after `FR_NOT_ENOUGH_CORE` and on a fresh block, the result is `FR_OK` exactly when
a table stays attached, and a failed build keeps no block (`fatCreateLinkmap_contract`).
This rests on the contract of `f_lseek`: it answers `FR_NOT_ENOUGH_CORE` only after
writing into the first cell a length larger than the one it found there
(`LinkmapReplies.AsksMore`), so the block the builder writes that length into is
never empty.

Three commands of `fat_ioctl` go through the file object's work area:
`FATFS_IOCTL_GET_BOOT_SECTOR_DATA` and the pass-through to `disk_ioctl` read
`sf->fil.fs->drv`, and `FATFS_IOCTL_GET_FD_LBA` hands `sf->fil.fs` to `clust2sect`.
A directory handle's file object is zeroed by `fat_open`, so on every directory
handle these three commands go through a null pointer
(`reach_dir_ioctl_undefined`).
-/

namespace DcFatfs

variable {K : HostFlags} {s s' : Pool} {fd : Fin maxFatFiles}

/-! ## §1  What the builder's steps record -/

namespace Pool

@[simp] theorem writeCell0_trace (s : Pool) (v : Nat) (t : Ptr) : (s.writeCell0 v t).trace = s.trace := by
  cases t <;> rfl

@[simp] theorem lseek_trace (s : Pool) (fd : Fin maxFatFiles) (off : Nat) (r : LseekReply) :
    (s.lseek fd off r).trace =
      s.trace ++ [.engine (.lseek fd off (s.fh fd).fil.cltbl (s.cell0 (s.fh fd).fil.cltbl))] := by
  unfold lseek; split <;> simp

@[simp] theorem setCltbl_trace (s : Pool) (fd : Fin maxFatFiles) (p : Ptr) :
    (s.setCltbl fd p).trace = s.trace := rfl

@[simp] theorem cell0_log (s : Pool) (e : Event) (t : Ptr) : (s.log e).cell0 t = s.cell0 t := by
  cases t <;> rfl

/-- A slot update that keeps the slot's inline first cell leaves every table's
first cell alone. -/
@[simp] theorem cell0_set {sf : Fatfs} (t : Ptr) (h : sf.lktbl0 = (s.fh fd).lktbl0) :
    (s.set fd sf).cell0 t = s.cell0 t := by
  cases t with
  | lktbl j => by_cases hj : j = fd <;> simp [cell0, hj, h]
  | _ => rfl

theorem cell0_writeCell0 {t : Ptr} (v : Nat) (h : t ≠ .null) : (s.writeCell0 v t).cell0 t = v := by
  cases t with
  | null => exact absurd rfl h
  | _ => simp [writeCell0, cell0]

/-- `f_lseek` through a table leaves in its first cell what the engine wrote there,
if it wrote anything. -/
theorem lseek_cell0 {off : Nat} {r : LseekReply} (h : (s.fh fd).fil.cltbl ≠ .null) :
    (s.lseek fd off r).cell0 (s.fh fd).fil.cltbl = r.cell0.getD (s.cell0 (s.fh fd).fil.cltbl) := by
  unfold lseek
  cases r.cell0 <;> simp [cell0_writeCell0 _ h]

end Pool

@[simp] theorem attachLktbl_trace (s : Pool) (fd : Fin maxFatFiles) :
    (attachLktbl s fd).trace = s.trace := rfl

@[simp] theorem attachLktbl_cell0 (s : Pool) (fd : Fin maxFatFiles) :
    (attachLktbl s fd).cell0 (.lktbl fd) = fatfsLinkTblSize := by
  simp [attachLktbl, Pool.cell0]

@[simp] theorem attachHeap_trace (s : Pool) (fd : Fin maxFatFiles) (n : Nat) :
    (attachHeap s fd n).trace = s.trace ++ [.calloc n (some s.brk)] := rfl

@[simp] theorem attachHeap_cell0 (s : Pool) (fd : Fin maxFatFiles) (n : Nat) :
    (attachHeap s fd n).cell0 (.heap s.brk) = n := by
  simp [attachHeap, Pool.cell0]

/-! ## §2  The retry -/

/-- **The retry.** From a slot whose table holds `n` in its first cell: a failed
`calloc` of `n` cells detaches the table and keeps `FR_NOT_ENOUGH_CORE`; a block of
`n > 0` cells is the fresh block `brk`, attached with `n` in its first cell and
handed to the second `f_lseek`, then freed and detached again if that call fails.
Either way a table stays attached exactly when the result is `FR_OK`. -/
theorem linkmapRetry_events {c : Bool} {r : LseekReply}
    (hn : c = true → 0 < s.cell0 (s.fh fd).fil.cltbl) :
    ∃ s' rc, linkmapRetry s fd c r = some (s', rc) ∧ (rc = .ok ↔ (s'.fh fd).fil.cltbl ≠ .null) ∧
      (c = false ∧ rc = .notEnoughCore ∧
          s'.trace = s.trace ++ [.calloc (s.cell0 (s.fh fd).fil.cltbl) none] ∨
       c = true ∧ ∃ rest, s'.trace = s.trace ++ .calloc (s.cell0 (s.fh fd).fil.cltbl) (some s.brk) ::
           .engine (.lseek fd createLinkmap (.heap s.brk) (s.cell0 (s.fh fd).fil.cltbl)) :: rest ∧
         (rc = .ok ∧ rest = [] ∨ rc ≠ .ok ∧ rest = [.free (.heap s.brk)])) := by
  unfold linkmapRetry
  cases c with
  | false => exact ⟨_, _, rfl, by simp, .inl ⟨rfl, rfl, by simp⟩⟩
  | true =>
    rw [Bool.not_true, if_neg Bool.false_ne_true, if_neg (Nat.pos_iff_ne_zero.mp (hn rfl))]
    dsimp only
    split_ifs with hr
    · exact ⟨_, _, rfl, by simp, .inr ⟨rfl, [], by simp, .inl ⟨rfl, rfl⟩⟩⟩
    · exact ⟨_, _, rfl, by simp [hr], .inr ⟨rfl, [.free (.heap s.brk)], by simp, .inr ⟨hr, rfl⟩⟩⟩

/-! ## §3  The builder -/

/-- What the first `f_lseek` of a build leaves in the first cell of the inline
table, which the builder set to `FATFS_LINK_TBL_SIZE`: on `FR_NOT_ENOUGH_CORE`, the
length the engine needs. -/
def LinkmapReplies.needed (r : LinkmapReplies) : Nat := r.first.cell0.getD fatfsLinkTblSize

/-- The contract of the engine's `f_lseek(CREATE_LINKMAP)`: it answers
`FR_NOT_ENOUGH_CORE` only when the table it was given is too short, after writing
into its first cell the length it needs, which is then more than the
`FATFS_LINK_TBL_SIZE` cells of the inline table. -/
def LinkmapReplies.AsksMore (r : LinkmapReplies) : Prop :=
  r.first.rc = .notEnoughCore → fatfsLinkTblSize < r.needed

/-- **`fat_create_linkmap` calls the engine twice at most and keeps no block it
fails with.** A slot that has a table returns `FR_OK` untouched. From a null table
the builder calls `f_lseek(CREATE_LINKMAP)` on the inline table holding
`FATFS_LINK_TBL_SIZE`, and after that at most: only on `FR_NOT_ENOUGH_CORE`, a
`calloc` of the length the engine left in the first cell, and, if it returns a
block, one more `f_lseek` on that fresh block holding its length, and a `free` of
the block if that call fails. The result is `FR_OK` exactly when a table stays attached; on any other result
the table is null and every block the build allocated is freed. This holds
whenever the engine keeps the contract of `f_lseek`. -/
theorem fatCreateLinkmap_contract (s : Pool) (fd : Fin maxFatFiles) (r : LinkmapReplies) :
    ((s.fh fd).fil.cltbl ≠ .null → fatCreateLinkmap s fd r = some (s, .ok)) ∧
    ((s.fh fd).fil.cltbl = .null → r.AsksMore →
      ∃ s' rc tail, fatCreateLinkmap s fd r = some (s', rc) ∧
        s'.trace = s.trace ++ .engine (.lseek fd createLinkmap (.lktbl fd) fatfsLinkTblSize) :: tail ∧
        (tail = [] ∨ r.first.rc = .notEnoughCore ∧ (tail = [.calloc r.needed none] ∨
          ∃ rest, tail = .calloc r.needed (some s.brk) ::
              .engine (.lseek fd createLinkmap (.heap s.brk) r.needed) :: rest ∧
            (rest = [] ∨ rest = [.free (.heap s.brk)]))) ∧
        (rc = .ok ↔ (s'.fh fd).fil.cltbl ≠ .null) ∧
        (rc ≠ .ok → (s'.fh fd).fil.cltbl = .null ∧
          ∀ a, Allocated tail a → freeCount tail (.heap a) ≠ 0)) := by
  refine ⟨fun h => by simp [fatCreateLinkmap, h], fun hnull hn => ?_⟩
  have hc₁ : (((attachLktbl s fd).lseek fd createLinkmap r.first).fh fd).fil.cltbl = .lktbl fd := by
    simp
  have hn₁ : ((attachLktbl s fd).lseek fd createLinkmap r.first).cell0 (.lktbl fd) = r.needed := by
    simpa using @Pool.lseek_cell0 (attachLktbl s fd) fd createLinkmap r.first (by simp)
  simp only [fatCreateLinkmap, hnull, ne_eq, not_true_eq_false, if_false]
  split_ifs with hnec hok
  · obtain ⟨s', rc, hr, hiff, hev⟩ := linkmapRetry_events (c := r.calloc) (r := r.retry)
      (by rw [hc₁, hn₁]; exact fun _ => Nat.zero_lt_of_lt (hn hnec))
    rw [hc₁, hn₁] at hev
    have hnull' := fun hne => not_not.mp (mt hiff.mpr hne)
    rcases hev with ⟨-, -, ht⟩ | ⟨-, rest, ht, hrest⟩
    · exact ⟨s', rc, _, hr, by simpa using ht, .inr ⟨hnec, .inl rfl⟩, hiff,
        fun hne => ⟨hnull' hne, by simp⟩⟩
    · simp only [Pool.lseek_brk, attachLktbl_brk] at ht
      refine ⟨s', rc, _, hr, by simpa using ht, .inr ⟨hnec, .inr ⟨rest, rfl, ?_⟩⟩, hiff,
        fun hne => ⟨hnull' hne, ?_⟩⟩
      · rcases hrest with ⟨-, rfl⟩ | ⟨-, rfl⟩ <;> simp
      · obtain ⟨-, rfl⟩ := hrest.resolve_left fun h => hne h.1
        intro a ha
        simp [Allocated] at ha
        simp [ha, freeCount]
  · exact ⟨_, _, [], rfl, by simp, .inl rfl, by simp [hc₁], fun h => absurd rfl h⟩
  · exact ⟨_, _, [], rfl, by simp, .inl rfl, by simp [hok], fun _ => ⟨by simp, by simp⟩⟩

/-- On the file of `fragOpen`, a build whose engine asks for the 42 cells of its
20 fragments keeps the fresh block 0 and returns `FR_OK`. -/
theorem fatCreateLinkmap_contract_frag :
    (fragOpened.fh 0).fil.cltbl = .null ∧ fragBuild.AsksMore ∧
      ∃ s' rc tail, fatCreateLinkmap fragOpened 0 fragBuild = some (s', rc) ∧
        s'.trace = fragOpened.trace ++ .engine (.lseek 0 createLinkmap (.lktbl 0) fatfsLinkTblSize) :: tail ∧
        (rc = .ok ↔ (s'.fh 0).fil.cltbl ≠ .null) :=
  have h := (fatCreateLinkmap_contract fragOpened 0 fragBuild).2 rfl fun _ => by decide
  let ⟨s', rc, tail, hb, ht, _, hiff, _⟩ := h
  ⟨rfl, fun _ => by decide, s', rc, tail, hb, ht, hiff⟩

/-! ## §4  `fat_ioctl` -/

/-- On a file object with no work area, `FATFS_IOCTL_GET_BOOT_SECTOR_DATA`,
`FATFS_IOCTL_GET_FD_LBA` and every pass-through command go through the null
`sf->fil.fs`. -/
theorem fatIoctl_fs_none {cmd : IoctlCmd} (r : IoctlReplies) (h : (s.fh fd).fil.fs = none)
    (hc : cmd ≠ .getFdLinkMap) : fatIoctl s (fd.val + 1) cmd r = none := by
  cases cmd with
  | getFdLinkMap => exact absurd rfl hc
  | _ => simp only [fatIoctl, fatGetHnd_desc, h, Option.map_none']

/-- **Every open directory handle makes those commands undefined**, on every
admitted run: `fat_open` leaves a directory handle's file object zeroed. -/
theorem reach_dir_ioctl_undefined {cmd : IoctlCmd} (h : Reach K Admitted s)
    (hu : (s.fh fd).used) (hd : (s.fh fd).type = .dir) (hc : cmd ≠ .getFdLinkMap)
    (r : IoctlReplies) : fatIoctl s (fd.val + 1) cmd r = none := by
  rcases (reach_linkmapInv h).typed fd hu with ht | ⟨-, hfs⟩
  · rw [hd] at ht; cases ht
  · exact fatIoctl_fs_none r hfs hc

/-- Open `/` as a directory, descriptor 1: its file object has no work area, and
`FATFS_IOCTL_GET_BOOT_SECTOR_DATA`, `FATFS_IOCTL_GET_FD_LBA` and every pass-through
command on descriptor 1 go through the null `sf->fil.fs`, whatever the engine and
the disk would answer. -/
theorem ioctl_dir_null_work_area :
    ∃ s, Reach sampleFlags Admitted s ∧ (s.fh 0).used ∧ (s.fh 0).type = .dir ∧
      (s.fh 0).fil.fs = none ∧ ∀ r, fatIoctl s 1 .getBootSectorData r = none ∧
        fatIoctl s 1 .getFdLba r = none ∧ ∀ c, fatIoctl s 1 (.other c) r = none :=
  have h := Reach.step .init admitted_fatOpen (show step sampleFlags Pool.init
    (.fatOpen (some sampleMnt) (some "/") sampleFlags.oDir sampleOpen) = some (_, _) from rfl)
  ⟨_, h, rfl, rfl, rfl, fun r =>
    ⟨@reach_dir_ioctl_undefined sampleFlags _ 0 .getBootSectorData h rfl rfl (by decide) r,
      @reach_dir_ioctl_undefined sampleFlags _ 0 .getFdLba h rfl rfl (by decide) r,
      fun c => @reach_dir_ioctl_undefined sampleFlags _ 0 (.other c) h rfl rfl nofun r⟩⟩

end DcFatfs
