import DcFatfs.Mount.Frame

/-!
# Mount slots are free or fully populated

Every slot of `fat_mnt` is either zero or holds all that a successful
`fs_fat_mount` puts there. Each failure exit of `fs_fat_mount` ends in
`fs_fat_free`, which zeroes the slot, and the release loops of `fs_fat_unmount`
and `fs_fat_shutdown` zero the slot they release. The invariant is proved once per
move (§5 of `Mount.Frame`), so it holds after every registry operation, the
wrappers of `dc_bdev.c` included.

The three tests the registry uses for "this slot is in use" (`dev != NULL` when
`fs_fat_mount` looks for a free slot and when `fs_fat_shutdown` releases,
`vfsh != NULL` when `fs_fat_unmount` and `fs_fat_is_mounted` look a path up)
therefore agree, and `fs_fat_shutdown` always ends with every slot free.
-/

namespace DcFatfs

variable {n : Nat} {s s' : Reg n} {i j : Fin n}

/-! ## §1  The invariant -/

/-- Slot `i` as a successful `fs_fat_mount` leaves it: a work area, a handler that
points back at the slot and is registered with the name manager, a device, the
slot number and the drive path `"i:"`, and a DMA device only if its `init`
succeeded. -/
structure Populated (s : Reg n) (i : Fin n) : Prop where
  fs : (s.mnt i).fs.isSome
  vfsh : ∃ v, (s.mnt i).vfsh = some v ∧ v.privdata = i ∧ v.addr ∈ s.nmmgr
  dev : (s.mnt i).dev.isSome
  devId : (s.mnt i).devId = i
  devPath : (s.mnt i).devPath = toString i.val ++ ":"
  devDma : ∀ d, (s.mnt i).devDma = some d → REvent.init d true ∈ s.events

/-- The slot invariant: every slot free or populated; handler addresses below the
heap's next fresh address and distinct across slots; nothing in use before
`fs_fat_init`. -/
structure SlotInv (s : Reg n) : Prop where
  slot : ∀ i, s.mnt i = .zero ∨ Populated s i
  fresh : ∀ i v, (s.mnt i).vfsh = some v → v.addr < s.brk
  distinct : ∀ i j v w, (s.mnt i).vfsh = some v → (s.mnt j).vfsh = some w →
    v.addr = w.addr → i = j
  boot : s.initted = false → ∀ i, s.mnt i = .zero

theorem slotInv_boot : SlotInv (Reg.boot : Reg n) :=
  ⟨fun _ => .inl rfl, fun _ _ h => by simp [Reg.boot] at h,
    fun _ _ _ _ h => by simp [Reg.boot] at h, fun _ _ => rfl⟩

/-- A populated slot stays populated while its entry is unchanged, its handler
stays registered and the events only grow. -/
theorem Populated.congr (hp : Populated s i) (hm : s'.mnt i = s.mnt i)
    (hn : ∀ v, (s.mnt i).vfsh = some v → v.addr ∈ s.nmmgr → v.addr ∈ s'.nmmgr)
    (he : s.events <+: s'.events) : Populated s' i := by
  obtain ⟨hf, ⟨v, hv, hpv, hmem⟩, hd, hid, hpath, hdma⟩ := hp
  rw [← hm] at hf hv hd hid hpath hdma
  exact ⟨hf, ⟨v, hv, hpv, hn v (hm ▸ hv) hmem⟩, hd, hid, hpath, fun d h => he.subset (hdma d h)⟩

theorem SlotInv.zero_of_dev (hi : SlotInv s) (h : (s.mnt i).dev = none) : s.mnt i = .zero :=
  (hi.slot i).resolve_right fun hp => by simpa [h] using hp.dev

theorem SlotInv.zero_of_vfsh (hi : SlotInv s) (h : (s.mnt i).vfsh = none) : s.mnt i = .zero :=
  (hi.slot i).resolve_right fun hp => by obtain ⟨v, hv, -⟩ := hp.vfsh; simp [h] at hv

/-! ## §2  One lemma per move -/

/-- A step that changes slot `i` alone keeps the invariant when the other slots'
handlers stay registered, slot `i` ends free or populated, a handler it ends with is
fresh, and before `fs_fat_init` slot `i` stays free. -/
theorem SlotInv.atSlot (hi : SlotInv s) (ha : AtSlot i s s')
    (hn : ∀ j w, j ≠ i → (s.mnt j).vfsh = some w → w.addr ∈ s.nmmgr → w.addr ∈ s'.nmmgr)
    (hslot : s'.mnt i = .zero ∨ Populated s' i)
    (hnew : ∀ v, (s'.mnt i).vfsh = some v →
      v.addr < s'.brk ∧ ∀ j w, j ≠ i → (s.mnt j).vfsh = some w → v.addr ≠ w.addr)
    (hboot : s.initted = false → s'.mnt i = .zero) : SlotInv s' where
  slot j := by
    by_cases hj : j = i
    · exact hj ▸ hslot
    · exact (hi.slot j).imp (ha.mnt j hj ▸ ·)
        (·.congr (ha.mnt j hj) (hn j · hj) ha.events)
  fresh j v hv := by
    by_cases hj : j = i
    · exact (hnew v (hj ▸ hv)).1
    · rw [ha.mnt j hj] at hv
      exact Nat.lt_of_lt_of_le (hi.fresh j v hv) ha.brk
  distinct j k v w hv hw he := by
    by_cases hj : j = i <;> by_cases hk : k = i
    · exact hj.trans hk.symm
    · rw [ha.mnt k hk] at hw
      exact absurd he ((hnew v (hj ▸ hv)).2 k w hk hw)
    · rw [ha.mnt j hj] at hv
      exact absurd he.symm ((hnew w (hk ▸ hw)).2 j v hj hv)
    · rw [ha.mnt j hj] at hv
      rw [ha.mnt k hk] at hw
      exact hi.distinct j k v w hv hw he
  boot h j := by
    rw [ha.initted] at h
    by_cases hj : j = i
    · exact hj ▸ hboot h
    · rw [ha.mnt j hj]; exact hi.boot h j

theorem SlotInv.mount (hi : SlotInv s) (mp : String) (pio : Dev) (dma : Option Dev)
    (r : MountReplies) : SlotInv (fsFatMount s mp pio dma r).1 := by
  rcases fsFatMount_spec (Prod.mk.eta (p := fsFatMount s mp pio dma r)).symm with
    ⟨h, -⟩ | ⟨i, hin, -, ha, ⟨-, hnm, hz, -⟩ | ⟨-, hnm, hb, hm⟩⟩
  · rwa [h]
  · refine hi.atSlot ha (fun _ _ _ _ h => hnm ▸ h) (.inl hz) (fun v hv => ?_) (fun _ => hz)
    simp [hz] at hv
  · obtain ⟨w, hw, -⟩ := hm.fs
    refine hi.atSlot ha (fun _ _ _ _ h => hnm ▸ List.mem_cons_of_mem _ h)
      (.inr ⟨by simp [hw], ⟨_, hm.vfsh, rfl, hnm ▸ List.mem_cons_self _ _⟩, by simp [hm.dev],
        hm.devId, hm.devPath, hm.devDma⟩) (fun v hv => ?_) (by simp [hin])
    rw [hm.vfsh, Option.some.injEq] at hv
    subst hv
    exact ⟨hb, fun j w _ hw he => absurd (he ▸ hi.fresh j w hw) (lt_irrefl _)⟩

theorem SlotInv.release (hi : SlotInv s) (i : Fin n) (v : Vfsh) (hv : (s.mnt i).vfsh = some v) :
    SlotInv (fsFatFree (s.nmRemove (some v)) i) := by
  have ha : AtSlot i s (s.nmRemove (some v)) :=
    ⟨fun _ _ => by simp, fun _ _ => by simp, by simp, by simp, by simp, by simp⟩
  refine hi.atSlot (ha.trans (atSlot_fsFatFree _ i)) (fun j w hj hw h => ?_) (.inl (by simp))
    (fun _ h => by simp at h) (fun _ => by simp)
  simp only [fsFatFree_nmmgr, Reg.nmRemove_some_nmmgr]
  exact (List.mem_erase_of_ne fun he => hj (hi.distinct j i w v hw hv he)).2 h

theorem SlotInv.init (hi : SlotInv s) : SlotInv (fsFatInit s) := by
  unfold fsFatInit
  split
  · exact hi
  · exact ⟨fun _ => .inl rfl, fun _ _ h => by simp at h, fun _ _ _ _ h => by simp at h,
      fun h => by simp at h⟩

theorem SlotInv.move (hi : SlotInv s) (h : Move s s') : SlotInv s' := by
  cases h with
  | mount mp pio dma r => exact hi.mount mp pio dma r
  | release i v hv => exact hi.release i v hv
  | init => exact hi.init
  | finish hdev => exact ⟨fun j => .inl (hi.zero_of_dev (hdev j)), hi.fresh, hi.distinct,
      fun _ j => hi.zero_of_dev (hdev j)⟩
  | devices hm hn hv hin hb he =>
    exact ⟨fun j => (hi.slot j).imp (hm ▸ ·) (·.congr (congrFun hm j) (fun _ _ h => hn ▸ h) he),
      fun j v h => hb ▸ hi.fresh j v (hm ▸ h), fun j k v w hv hw => hi.distinct j k v w (hm ▸ hv) (hm ▸ hw),
      fun h => hm ▸ hi.boot (hin ▸ h)⟩

theorem SlotInv.moveStar (hi : SlotInv s) (h : MoveStar s s') : SlotInv s' :=
  MoveStar.preserves SlotInv (fun hm hi => hi.move hm) h hi

theorem mreach_slotInv {P : Reg n → ROp → Prop} (h : MReach P s) : SlotInv s :=
  MReach.preserves SlotInv slotInv_boot (fun hm hi => hi.move hm) h

/-! ## §3  The tests agree, and shutdown frees every slot -/

/-- With no device array allocated or freed, every slot's devices are set up. -/
theorem slotLive_unallocated (hd : s.toBdevs = Bdevs.unallocated) (i : Fin n) :
    s.slotLive i = true := by
  unfold Reg.slotLive
  cases (s.mnt i).dev <;> cases (s.mnt i).devDma <;> simp [Bdevs.heldState, hd]

/-- Under the invariant the release loop of `fs_fat_shutdown` never meets a slot
with a device but no handler, and it calls only through set-up devices when no
device array is allocated. -/
theorem SlotInv.shutdownSlot_isSome (hi : SlotInv s) (hd : s.toBdevs = Bdevs.unallocated)
    (i : Fin n) : (shutdownSlot s i).isSome := by
  unfold shutdownSlot
  rcases hi.slot i with h | hp
  · simp [h]
  · obtain ⟨v, hv, -⟩ := hp.vfsh
    split <;> simp_all [slotLive_unallocated hd]

theorem SlotInv.foldlM_shutdownSlot_exists (l : List (Fin n)) (hi : SlotInv s)
    (hd : s.toBdevs = Bdevs.unallocated) : ∃ s', l.foldlM shutdownSlot s = some s' := by
  induction l generalizing s with
  | nil => exact ⟨s, rfl⟩
  | cons a l ih =>
    obtain ⟨t, ht⟩ := Option.isSome_iff_exists.mp (hi.shutdownSlot_isSome hd a)
    obtain ⟨hm, -, -, hb⟩ := shutdownSlot_spec ht
    obtain ⟨s', hs'⟩ := ih (hi.moveStar hm) (hb.trans hd)
    exact ⟨s', by simp [ht, hs']⟩

/-- With no device array allocated, the unmount wrappers `fs_fat_shutdown` calls
first do nothing. -/
theorem unmountIde_unmountSd_unallocated (hd : s.toBdevs = Bdevs.unallocated) :
    unmountSdLive s = true ∧ unmountSd s = s ∧ unmountIdeLive s = true ∧ unmountIde s = s := by
  have hsd : s.sdDev = none := congrArg Bdevs.sdDev hd
  have hg1 : s.g1Dev = none := congrArg Bdevs.g1Dev hd
  have hdma : s.g1DevDma = none := congrArg Bdevs.g1DevDma hd
  simp [unmountSdLive, unmountSd, unmountIdeLive, unmountIde, unmountIdePio, unmountIdeDma, hsd, hg1,
    hdma]

/-- Under the invariant, and with no device array allocated, `fs_fat_shutdown` is
defined and ends not `initted` with every slot free and the arrays untouched. -/
theorem SlotInv.shutdown (hi : SlotInv s) (hd : s.toBdevs = Bdevs.unallocated) :
    ∃ s', fsFatShutdown s = some s' ∧ s'.initted = false ∧ (∀ i, s'.mnt i = .zero) ∧
      s'.toBdevs = Bdevs.unallocated := by
  cases hin : s.initted
  · exact ⟨s, by simp [fsFatShutdown, hin], hin, hi.boot hin, hd⟩
  obtain ⟨hsl, hsd, hil, hide⟩ := unmountIde_unmountSd_unallocated hd
  obtain ⟨t, ht⟩ := hi.foldlM_shutdownSlot_exists (List.finRange n) hd
  obtain ⟨hm, hdev, hb⟩ := foldlM_shutdownSlot _ ht
  have htinv := hi.moveStar hm
  refine ⟨{ t with initted := false }, ?_, rfl,
    fun i => htinv.zero_of_dev (hdev i (.inr (List.mem_finRange i))), hb.trans hd⟩
  simp [fsFatShutdown, hin, hsl, hsd, hil, hide, ht]

/-- A step of `fs_fat_init`, `fs_fat_mount`, `fs_fat_unmount` or `fs_fat_shutdown`
from a registry with no device array allocated allocates none. -/
theorem rstep_core_unallocated {op : ROp} (hc : op.Core) (hi : SlotInv s)
    (hd : s.toBdevs = Bdevs.unallocated) (h : rstep s op = some s') :
    s'.toBdevs = Bdevs.unallocated := by
  cases op with
  | init =>
    cases h
    unfold fsFatInit
    split <;> exact hd
  | mount mp pio dma r =>
    rcases fsFatMount_spec (Prod.mk.eta (p := fsFatMount s mp pio dma r)).symm with
      ⟨he, -⟩ | ⟨i, -, -, ha, -⟩ <;> rw [rstep_mount h]
    · rw [he, hd]
    · rw [ha.devs, hd]
  | unmount mp =>
    obtain ⟨-, h⟩ := Option.ite_none_right_eq_some.mp h
    cases h
    rcases fsFatUnmount_spec (Prod.mk.eta (p := fsFatUnmount s mp)).symm with
      ⟨-, he, -⟩ | ⟨i, v, -, -, -, he⟩ <;> rw [he]
    · exact hd
    · simpa using hd
  | shutdown =>
    obtain ⟨s'', hs, -, -, hb⟩ := hi.shutdown hd
    have h' : fsFatShutdown s = some s' := h
    rw [h'] at hs
    cases hs
    exact hb
  | _ => cases hc

/-- What every reachable registry satisfies: the slot invariant; the free-slot
test (`dev == NULL`) and the lookup test (`vfsh == NULL`) agree with each other and
with the slot being zero; and `fs_fat_shutdown` frees every slot. -/
structure MountSlotContract (s : Reg n) : Prop where
  inv : SlotInv s
  dev_iff_vfsh : ∀ i, (s.mnt i).dev = none ↔ (s.mnt i).vfsh = none
  dev_iff_zero : ∀ i, (s.mnt i).dev = none ↔ s.mnt i = .zero
  shutdown_frees : ∃ s', fsFatShutdown s = some s' ∧ s'.initted = false ∧ ∀ i, s'.mnt i = .zero

/-- **Every slot is free or fully populated, in every reachable registry.** Whatever
operations of `dc.c` are admitted, after any run of `fs_fat_init`, `fs_fat_mount`
(each failure exit included), `fs_fat_unmount` and `fs_fat_shutdown`, the registry
satisfies the `MountSlotContract`. The wrappers of `dc_bdev.c` are left out: a
shutdown after them can call through a device they cleared or freed. -/
theorem mreach_mountSlotContract (P : Reg n → ROp → Prop) (hP : ∀ s op, P s op → op.Core)
    (s : Reg n) (h : MReach P s) : MountSlotContract s := by
  have hd : s.toBdevs = Bdevs.unallocated := by
    induction h with
    | boot => rfl
    | step hr hp hs ih => exact rstep_core_unallocated (hP _ _ hp) (mreach_slotInv hr) ih hs
  have hi := mreach_slotInv h
  obtain ⟨s', hs, hin, hz, -⟩ := hi.shutdown hd
  refine ⟨hi, fun i => ⟨fun hd => ?_, fun hv => ?_⟩, fun i => ⟨hi.zero_of_dev, fun h => by simp [h]⟩,
    ⟨s', hs, hin, hz⟩⟩
  · simp [hi.zero_of_dev hd]
  · simp [hi.zero_of_vfsh hv]

/-- `fs_fat_init` and a mount of `/sd` from a device of the caller, on a registry of
two slots: slot 0 is populated, and the contract holds. -/
theorem mountSlotContract_after_mount :
    Populated (fsFatMount (fsFatInit (Reg.boot : Reg 2)) "/sd" (.ext 0) none mountOk).1 0 ∧
      MountSlotContract (fsFatMount (fsFatInit (Reg.boot : Reg 2)) "/sd" (.ext 0) none mountOk).1 :=
  ⟨⟨rfl, ⟨_, rfl, rfl, by decide⟩, rfl, rfl, rfl, fun _ h => Option.noConfusion h⟩,
    mreach_mountSlotContract (fun _ op => op.Core) (fun _ _ h => h) _ (.step (.step .boot
      (by exact trivial) (show rstep _ .init = some _ from rfl)) (by exact trivial)
      (show rstep _ (.mount "/sd" (.ext 0) none mountOk) = some _ from rfl))⟩

end DcFatfs
