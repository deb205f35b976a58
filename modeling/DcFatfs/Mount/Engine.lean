import DcFatfs.Mount.Slots

/-!
# Drive registrations with the engine

`f_mount(mnt->fs, "i:", 1)` registers the work area of slot `i` for drive `i` with
the engine (`vol i` here) before it tries to mount the volume, and nothing in
`dc.c` registers anything else for the drive: `fs_fat_free`, `fs_fat_unmount`
and `fs_fat_shutdown` free the work area and never call `f_mount(NULL, ...)`.
So a failure of `fs_fat_mount` after `f_mount`, and every unmount, leave the drive
registered to a freed work area. What does hold in every reachable registry: the
drive of a slot with a work area is registered to it, and the drive of a slot
without one to nothing or to a work area that has been freed. So the next
`fs_fat_mount` into such a slot has `f_mount` write through freed memory.
-/

namespace DcFatfs

variable {n : Nat} {s s' : Reg n} {i j : Fin n}

/-! ## §1  The invariant -/

/-- Drive `i` is registered to the work area slot `i` holds, or, when the slot has
none, to nothing or to an address that has been freed. -/
structure VolInv (s : Reg n) : Prop where
  held : ∀ i w, (s.mnt i).fs = some w → s.vol i = some w.addr
  freed : ∀ i, (s.mnt i).fs = none →
    s.vol i = none ∨ ∃ a, s.vol i = some a ∧ REvent.free a ∈ s.events

theorem volInv_boot : VolInv (Reg.boot : Reg n) :=
  ⟨fun _ _ h => by simp [Reg.boot] at h, fun _ _ => .inl rfl⟩

theorem firstFreeMnt_dev (h : firstFreeMnt s = some i) : (s.mnt i).dev = none := by
  simpa [firstFreeMnt] using List.find?_some h

theorem VolInv.freed_of_prefix (hv : VolInv s) (h : (s.mnt i).fs = none) {l : List REvent}
    (he : s.events <+: l) : s.vol i = none ∨ ∃ a, s.vol i = some a ∧ REvent.free a ∈ l :=
  (hv.freed i h).imp id fun ⟨a, ha, hf⟩ => ⟨a, ha, he.subset hf⟩

/-- A step that changes slot `i` alone keeps the invariant when slot `i` ends as
the invariant asks. -/
theorem VolInv.atSlot (hv : VolInv s) (ha : AtSlot i s s')
    (hheld : ∀ w, (s'.mnt i).fs = some w → s'.vol i = some w.addr)
    (hfreed : (s'.mnt i).fs = none →
      s'.vol i = none ∨ ∃ a, s'.vol i = some a ∧ REvent.free a ∈ s'.events) : VolInv s' where
  held j w h := by
    by_cases hj : j = i
    · exact hj ▸ hheld w (hj ▸ h)
    · rw [ha.mnt j hj] at h; rw [ha.vol j hj]; exact hv.held j w h
  freed j h := by
    by_cases hj : j = i
    · exact hj ▸ hfreed (hj ▸ h)
    · rw [ha.mnt j hj] at h; rw [ha.vol j hj]; exact hv.freed_of_prefix h ha.events

/-! ## §2  One lemma per move -/

theorem VolInv.mount (hs : SlotInv s) (hv : VolInv s) (mp : String) (pio : Dev)
    (dma : Option Dev) (r : MountReplies) : VolInv (fsFatMount s mp pio dma r).1 := by
  rcases fsFatMount_spec (Prod.mk.eta (p := fsFatMount s mp pio dma r)).symm with
    ⟨h, -⟩ | ⟨i, -, hfree, ha, ⟨-, -, hz, hvol⟩ | ⟨-, -, -, hm⟩⟩
  · rwa [h]
  · refine hv.atSlot ha (fun w h => by simp [hz] at h) fun _ => ?_
    rcases hvol with hvol | hvol
    · have hf : (s.mnt i).fs = none := by simp [hs.zero_of_dev (firstFreeMnt_dev hfree)]
      rw [hvol]; exact hv.freed_of_prefix hf ha.events
    · exact .inr hvol
  · obtain ⟨w, hw, hvw⟩ := hm.fs
    exact hv.atSlot ha (fun w' h => by rw [hw, Option.some.injEq] at h; exact h ▸ hvw)
      (fun h => by simp [hw] at h)

theorem VolInv.release (hv : VolInv s) (i : Fin n) (v : Vfsh) :
    VolInv (fsFatFree (s.nmRemove (some v)) i) := by
  have ha : AtSlot i s (s.nmRemove (some v)) :=
    ⟨fun _ _ => by simp, fun _ _ => by simp, by simp, by simp, by simp, by simp⟩
  refine hv.atSlot (ha.trans (atSlot_fsFatFree _ i)) (fun w h => by simp at h) fun _ => ?_
  simp only [fsFatFree_vol, Reg.nmRemove_vol, fsFatFree_events, Reg.nmRemove_events,
    Reg.nmRemove_mnt]
  cases hf : (s.mnt i).fs with
  | none => exact hv.freed_of_prefix hf (List.prefix_append _ _)
  | some w => exact .inr ⟨w.addr, hv.held i w hf,
      List.mem_append_right _ (free_mem_freeEvents hf)⟩

theorem VolInv.init (hs : SlotInv s) (hv : VolInv s) : VolInv (fsFatInit s) := by
  unfold fsFatInit
  split
  · exact hv
  · next hin =>
    have hz := hs.boot (by simpa using hin)
    exact ⟨fun _ _ h => by simp at h, fun j _ => hv.freed j (by simp [hz j])⟩

theorem VolInv.move (hs : SlotInv s) (hv : VolInv s) (h : Move s s') : VolInv s' := by
  cases h with
  | mount mp pio dma r => exact hv.mount hs mp pio dma r
  | release i v _ => exact hv.release i v
  | init => exact hv.init hs
  | finish _ => exact ⟨hv.1, hv.2⟩
  | devices hm _ hvol _ _ he =>
    exact ⟨fun j w h => hvol ▸ hv.held j w (hm ▸ h),
      fun j h => hvol ▸ hv.freed_of_prefix (hm ▸ h) he⟩

theorem mreach_slotVolInv (P : Reg n → ROp → Prop) (s : Reg n) (h : MReach P s) :
    SlotInv s ∧ VolInv s :=
  MReach.preserves (fun s => SlotInv s ∧ VolInv s) ⟨slotInv_boot, volInv_boot⟩
    (fun hm hi => ⟨hi.1.move hm, hi.2.move hi.1 hm⟩) h

/-- **Drive registrations in every reachable registry.** Whatever operations are
admitted, the drive of a slot with a work area is registered to it, and the drive of
a slot without one to nothing or to a work area that has been freed. -/
theorem mreach_volInv (P : Reg n → ROp → Prop) (s : Reg n) (h : MReach P s) : VolInv s :=
  (mreach_slotVolInv P s h).2

/-- `"/x"` mounted on a registry of two slots, then unmounted. -/
def mountedThenUnmounted : Reg 2 :=
  (fsFatUnmount (fsFatMount (fsFatInit .boot) "/x" (.ext 0) none mountOk).1 "/x").1

theorem mreach_mountedThenUnmounted : MReach (fun _ _ => True) mountedThenUnmounted :=
  .step (.step (.step .boot trivial (show rstep _ .init = some _ from rfl)) trivial
    (show rstep _ (.mount "/x" (.ext 0) none mountOk) = some _ from rfl)) trivial
    (show rstep _ (.unmount "/x") = some _ from rfl)

theorem volInv_mountedThenUnmounted : VolInv mountedThenUnmounted :=
  mreach_volInv _ _ mreach_mountedThenUnmounted

/-- After a mount and an unmount, both successful, drive 0 is still registered to the
work area at address 1, which the unmount has freed. -/
theorem unmount_frees_registered_area :
    MReach (fun _ _ => True) mountedThenUnmounted ∧
      (fsFatUnmount (fsFatMount (fsFatInit (Reg.boot : Reg 2)) "/x" (.ext 0) none mountOk).1
        "/x").2 = 0 ∧
      mountedThenUnmounted.mnt 0 = .zero ∧ mountedThenUnmounted.vol 0 = some 1 ∧
      REvent.free 1 ∈ mountedThenUnmounted.events :=
  ⟨mreach_mountedThenUnmounted, by decide, by decide, by decide, by decide⟩

/-! ## §3  A second `f_mount` on the drive -/

/-- **A mount into a slot whose drive is still registered is undefined**, in every
reachable registry and whatever operations are admitted: the slot `fs_fat_mount`
picks has no work area, so the drive's registration is one that has been freed,
and once the PIO device's `init` and both `malloc`s succeed, `f_mount` writes
through it. A drive is registered from the first `fs_fat_mount` into its slot that
got as far as `f_mount`, so this is every such mount after an unmount. -/
theorem mreach_remount_undefined (P : Reg n → ROp → Prop) (h : MReach P s) (hin : s.initted)
    (hf : firstFreeMnt s = some i) (hv : s.vol i ≠ none) (mp : String) (pio : Dev)
    (dma : Option Dev) (r : MountReplies) (hp : r.pioInit) (hvm : r.vfshMalloc)
    (hm : r.fsMalloc) : rstep s (.mount mp pio dma r) = none := by
  obtain ⟨hs, hvol⟩ := mreach_slotVolInv P s h
  have hfs : (s.mnt i).fs = none := by simp [hs.zero_of_dev (firstFreeMnt_dev hf)]
  obtain ⟨a, ha, hfr⟩ := (hvol.freed i hfs).resolve_left hv
  obtain ⟨l, l', he⟩ := @fsFatMount_events_clearFs n s i mp pio dma r a hin hf hp hvm hm ha
  have hd : (fsFatMount s mp pio dma r).1.defined = none := by
    rw [Reg.defined, he, if_pos (clearsFreed_append_clearFs l' (.inr (List.mem_append_left l hfr)))]
  simp only [rstep, hd, ite_self]

/-- Mounting `"/x"` again after it was mounted and unmounted: slot 0 is picked
again, drive 0 is still registered, and the mount is undefined. -/
theorem remount_after_unmount_undefined :
    mountedThenUnmounted.initted ∧ firstFreeMnt mountedThenUnmounted = some 0 ∧
      mountedThenUnmounted.vol 0 ≠ none ∧
      rstep mountedThenUnmounted (.mount "/x" (.ext 0) none mountOk) = none :=
  ⟨rfl, rfl, by decide, mreach_remount_undefined _ mreach_mountedThenUnmounted rfl rfl (by decide)
    _ _ _ _ rfl rfl rfl⟩

end DcFatfs
