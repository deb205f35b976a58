import DcFatfs.Mount.Slots

/-!
# Mount paths and the wrappers' shutdowns

`fs_fat_is_mounted` and `fs_fat_unmount` look a path up with the same loop
(`findMnt`): the first slot whose handler is registered under it. `fs_fat_mount`
never checks whether its path is taken, so two slots can carry one path. A
successful mount always makes its path visible, and an unmount makes the path
disappear exactly when at most one slot carried it.

The wrappers of `dc_bdev.c` build the path of a partition twice, once to mount and
once to unmount. For IDE both are `"/ide"` and `"/ide%d"`. For SD the mount uses
`"sd%d"`, with no slash, for partitions 1 to 3, and the unmount `"/sd%d"`.

Three layers call a device's `shutdown`: `fs_fat_free`, on the slot's `dev` and
`dev_dma`; the failure cleanup of the wrappers after a failed `fs_fat_mount`; and
the loops of `fs_fat_unmount_sd` and `fs_fat_unmount_ide`, on every entry with
`dev_data`. The layers overlap: `fs_fat_unmount_sd` shuts an entry down right
after the `fs_fat_unmount` of its path has done so. `shutdownsSince d l` counts
the shutdowns of `d` in `l` after its last set-up.
-/

namespace DcFatfs

variable {n : Nat} {s s' : Reg n} {i j : Fin n}

/-! ## §1  `fs_fat_is_mounted` -/

theorem fsFatIsMounted_eq_zero_iff {mp : String} :
    fsFatIsMounted s mp = 0 ↔ ∀ i, mntPath s i ≠ some mp := by
  unfold fsFatIsMounted
  rcases h : findMnt s mp with _ | i
  · simpa using findMnt_none.mp h
  · simpa using ⟨i, findMnt_some h⟩

@[simp] theorem mntPath_nmRemove (s : Reg n) (v : Option Vfsh) :
    mntPath (s.nmRemove v) = mntPath s := by
  funext i; simp [mntPath]

@[simp] theorem mntPath_fsFatFree (s : Reg n) (i j : Fin n) :
    mntPath (fsFatFree s i) j = if j = i then none else mntPath s j := by
  by_cases h : j = i <;> simp [mntPath, h]

/-- A successful `fs_fat_mount` leaves its path mounted. -/
theorem fsFatMount_ok_mounted {mp : String} {pio : Dev} {dma : Option Dev} {r : MountReplies}
    (h : (fsFatMount s mp pio dma r).2 = 0) : 0 < fsFatIsMounted (fsFatMount s mp pio dma r).1 mp := by
  rcases fsFatMount_spec (Prod.mk.eta (p := fsFatMount s mp pio dma r)).symm with
    ⟨-, hr⟩ | ⟨i, -, -, -, ⟨hr, -⟩ | ⟨-, -, -, hm⟩⟩
  · exact absurd (hr ▸ h) (by decide)
  · exact absurd (hr ▸ h) (by decide)
  · exact Nat.pos_of_ne_zero fun h0 =>
      fsFatIsMounted_eq_zero_iff.mp h0 i (by simp [mntPath, hm.vfsh])

/-- After `fs_fat_unmount(mp)` the path is no longer mounted exactly when at most
one slot carried it. -/
theorem fsFatUnmount_unmounted_iff {mp : String} :
    fsFatIsMounted (fsFatUnmount s mp).1 mp = 0 ↔
      ∀ i j, mntPath s i = some mp → mntPath s j = some mp → i = j := by
  rcases fsFatUnmount_spec (Prod.mk.eta (p := fsFatUnmount s mp)).symm with
    ⟨-, h, hnone⟩ | ⟨i, v, -, hv, rfl, h⟩
  · rw [h, fsFatIsMounted_eq_zero_iff]
    exact ⟨fun _ j _ hj => absurd hj (hnone j), fun _ => hnone⟩
  · have hi : mntPath s i = some v.pathname := by simp [mntPath, hv]
    have hone : ∀ j, (∀ k, mntPath (fsFatUnmount s v.pathname).1 k ≠ some v.pathname) →
        mntPath s j = some v.pathname → j = i := fun j hz hj => by
      by_contra hji
      exact hz j (by simp [h, hji, hj])
    rw [fsFatIsMounted_eq_zero_iff]
    refine ⟨fun hz j k hj hk => (hone j hz hj).trans (hone k hz hk).symm, fun hu k hk => ?_⟩
    rw [h, mntPath_fsFatFree, mntPath_nmRemove] at hk
    split at hk
    · exact absurd hk (by simp)
    · exact ‹¬k = i› (hu k i hk hi)

/-- **What a mount and an unmount of a path do to `fs_fat_is_mounted`**, from any
registry: after a successful `fs_fat_mount(p)` the path is mounted, and after
`fs_fat_unmount(p)` it is unmounted exactly when no two slots carried it. -/
theorem fsFatIsMounted_mount_unmount (s : Reg n) (mp : String) :
    (∀ pio dma r, (fsFatMount s mp pio dma r).2 = 0 →
      0 < fsFatIsMounted (fsFatMount s mp pio dma r).1 mp) ∧
    (fsFatIsMounted (fsFatUnmount s mp).1 mp = 0 ↔
      ∀ i j, mntPath s i = some mp → mntPath s j = some mp → i = j) :=
  ⟨fun _ _ _ h => fsFatMount_ok_mounted h, fsFatUnmount_unmounted_iff⟩

/-- Two mounts of `"/x"` on a registry of two slots, both successful. -/
def twiceMounted : Reg 2 :=
  (fsFatMount (fsFatMount (fsFatInit .boot) "/x" (.ext 0) none mountOk).1
    "/x" (.ext 1) none mountOk).1

/-- A reachable registry where two slots carry `"/x"`; unmounting `"/x"` succeeds
and leaves it mounted, on the second slot. -/
theorem unmount_leaves_second_mount :
    MReach (fun _ _ => True) twiceMounted ∧ mntPath twiceMounted 0 = some "/x" ∧
      mntPath twiceMounted 1 = some "/x" ∧ (fsFatUnmount twiceMounted "/x").2 = 0 ∧
      fsFatIsMounted (fsFatUnmount twiceMounted "/x").1 "/x" = 2 :=
  ⟨.step (.step (.step .boot trivial (show rstep _ .init = some _ from rfl)) trivial
      (show rstep _ (.mount "/x" (.ext 0) none mountOk) = some _ from rfl)) trivial
      (show rstep _ (.mount "/x" (.ext 1) none mountOk) = some _ from rfl),
    by decide, by decide, by decide, by decide⟩

/-! ## §2  The paths of the wrappers -/

/-- An MBR whose only non-empty entry is partition 1, of type `0x0C` (FAT32). -/
def mbrPart1 (k : Nat) : UInt8 :=
  if k = 0x1FE then 0x55 else if k = 0x1FF then 0xAA else if k = 0x1D2 then 0x0C else 0

/-- `fs_fat_mount_sd` on a card with `mbrPart1`, every call succeeding. -/
def sdPart1 : SdReplies := ⟨true, some mbrPart1, true, fun _ => ⟨some 0x0C, true, mountOk⟩⟩

/-- `fs_fat_mount_sd` then `fs_fat_unmount_sd` on a card whose FAT partition is
entry 1: the partition stays mounted under `"sd1"`, on a slot whose device is entry
1 of `sd_dev`, while `sd_dev` has been freed. -/
theorem sd_unmount_misses_partition :
    fsFatIsMounted (unmountSd (mountSd (Reg.boot : Reg 2) sdPart1).1) (sdMountPath 1) = 1 ∧
      ((unmountSd (mountSd (Reg.boot : Reg 2) sdPart1).1).mnt 0).dev = some (.sd 1) ∧
      (unmountSd (mountSd (Reg.boot : Reg 2) sdPart1).1).sdDev = none :=
  ⟨by decide, by decide, rfl⟩

/-! ## §3  Device shutdowns -/

/-- Whether an event sets device `d` up: a driver call that fills its struct, or a
successful `init`. -/
def REvent.setsUp (d : Dev) : REvent → Bool
  | .setup d' => d' == d
  | .init d' ok => d' == d && ok
  | _ => false

/-- The shutdowns of `d` in `l` after the last event that set it up. -/
def shutdownsSince (d : Dev) (l : List REvent) : Nat :=
  ((l.reverse.takeWhile fun e => !e.setsUp d).filter (· == .shutdown d)).length

/-- An MBR whose only non-empty entry is partition 0, of type `0x0C` (FAT32). -/
def mbrPart0 (k : Nat) : UInt8 :=
  if k = 0x1FE then 0x55 else if k = 0x1FF then 0xAA else if k = 0x1C2 then 0x0C else 0

/-- `fs_fat_mount_sd` on a card with `mbrPart0`, every call succeeding. -/
def sdPart0 : SdReplies := ⟨true, some mbrPart0, true, fun _ => ⟨some 0x0C, true, mountOk⟩⟩

/-- `fs_fat_mount_sd` then `fs_fat_unmount_sd` on a card whose FAT partition is
entry 0: the device `sd_dev[0]`, set up and initialised once, is shut down twice,
by `fs_fat_free` inside `fs_fat_unmount("/sd")` and again by the loop of
`fs_fat_unmount_sd`. -/
theorem unmount_sd_shuts_down_twice :
    (mountSd (Reg.boot : Reg 2) sdPart0).1.events =
        [.setup (.sd 0), .shutdown (.sd 0), .setup (.sd 0), .init (.sd 0) true] ∧
      (unmountSd (mountSd (Reg.boot : Reg 2) sdPart0).1).events =
        (mountSd (Reg.boot : Reg 2) sdPart0).1.events ++
          [.free 0, .free 1, .shutdown (.sd 0), .shutdown (.sd 0)] ∧
      shutdownsSince (.sd 0) (unmountSd (mountSd (Reg.boot : Reg 2) sdPart0).1).events = 2 :=
  ⟨by decide, by decide, by decide⟩

end DcFatfs
