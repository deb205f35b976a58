import DcFatfs.Mount.Bdev

/-!
# What each registry operation can do

The one place the definitions of `Registry` and `Bdev` are unfolded.
`fsFatMount_spec` says everything `fs_fat_mount` can do; `fs_fat_unmount`, the
release loop of `fs_fat_shutdown` and `fs_fat_init` have smaller specs. The
wrappers of `dc_bdev.c` and `fs_fat_shutdown` are shown to be chains of `Move`s —
a mount, an unmount, a release, `fs_fat_init`, the end of a shutdown, or a step
that touches only devices and the wrappers' arrays — so that an invariant of the
registry needs one lemma per kind of move (`MoveStar.preserves`).
-/

namespace DcFatfs

variable {n : Nat} {s s' s₁ : Reg n} {i j : Fin n}

/-! ## §1  Changing one slot -/

/-- `s'` differs from `s` only in slot `i`, in the engine's registration of drive
`i`, by fresh heap addresses and by new events; the device arrays are as they were. -/
structure AtSlot (i : Fin n) (s s' : Reg n) : Prop where
  mnt : ∀ j, j ≠ i → s'.mnt j = s.mnt j
  vol : ∀ j, j ≠ i → s'.vol j = s.vol j
  initted : s'.initted = s.initted
  brk : s.brk ≤ s'.brk
  events : s.events <+: s'.events
  devs : s'.toBdevs = s.toBdevs

theorem AtSlot.refl (i : Fin n) (s : Reg n) : AtSlot i s s :=
  ⟨fun _ _ => rfl, fun _ _ => rfl, rfl, le_refl _, List.prefix_refl _, rfl⟩

theorem AtSlot.trans (h₁ : AtSlot i s s₁) (h₂ : AtSlot i s₁ s') : AtSlot i s s' :=
  ⟨fun j hj => (h₂.mnt j hj).trans (h₁.mnt j hj), fun j hj => (h₂.vol j hj).trans (h₁.vol j hj),
    h₂.initted.trans h₁.initted, h₁.brk.trans h₂.brk, h₁.events.trans h₂.events,
    h₂.devs.trans h₁.devs⟩

theorem atSlot_setMnt (s : Reg n) (i : Fin n) (m : FatfsMnt) : AtSlot i s (s.setMnt i m) :=
  ⟨fun j hj => by simp [hj], fun _ _ => rfl, rfl, le_refl _, List.prefix_refl _, rfl⟩

theorem atSlot_emit (s : Reg n) (i : Fin n) (e : REvent) : AtSlot i s (s.emit e) :=
  ⟨fun _ _ => rfl, fun _ _ => rfl, rfl, le_refl _, List.prefix_append _ _, rfl⟩

theorem atSlot_fsFatFree (s : Reg n) (i : Fin n) : AtSlot i s (fsFatFree s i) :=
  ⟨fun j hj => by simp [hj], fun _ _ => rfl, rfl, le_refl _, List.prefix_append _ _, rfl⟩

theorem atSlot_attachDevs (s : Reg n) (i : Fin n) (pio : Dev) (dma : Option Dev) (ok : Bool) :
    AtSlot i s (attachDevs s i pio dma ok) := by
  have h := (atSlot_emit s i (.init pio true)).trans (atSlot_setMnt _ i
    { s.mnt i with dev := some pio, devDma := dma })
  unfold attachDevs
  rcases dma with _ | d
  · exact h
  · dsimp only
    split
    · exact h.trans (atSlot_emit _ i _)
    · exact (h.trans (atSlot_emit _ i _)).trans (atSlot_setMnt _ i _)

/-- The slot `attachDevs` leaves: the PIO device, and the DMA device if its `init`
succeeded. -/
theorem attachDevs_mnt (s : Reg n) (i : Fin n) (pio : Dev) (dma : Option Dev) (ok : Bool) :
    (attachDevs s i pio dma ok).mnt i =
      { s.mnt i with dev := some pio, devDma := if ok then dma else none } := by
  unfold attachDevs
  rcases dma with _ | d
  · simp
  · cases ok <;> simp

theorem attachDevs_dma {s : Reg n} {i : Fin n} {pio : Dev} {dma : Option Dev} {ok : Bool}
    {d : Dev} (h : ((attachDevs s i pio dma ok).mnt i).devDma = some d) :
    REvent.init d true ∈ (attachDevs s i pio dma ok).events := by
  rw [attachDevs_mnt] at h
  unfold attachDevs
  rcases dma with _ | d'
  · simp at h
  · cases ok <;> simp_all

@[simp] theorem attachDevs_vol (s : Reg n) (i : Fin n) (pio : Dev) (dma : Option Dev) (ok : Bool) :
    (attachDevs s i pio dma ok).vol = s.vol := by
  unfold attachDevs; rcases dma with _ | d <;> [rfl; (dsimp only; split <;> rfl)]

@[simp] theorem attachDevs_nmmgr (s : Reg n) (i : Fin n) (pio : Dev) (dma : Option Dev) (ok : Bool) :
    (attachDevs s i pio dma ok).nmmgr = s.nmmgr := by
  unfold attachDevs; rcases dma with _ | d <;> [rfl; (dsimp only; split <;> rfl)]

@[simp] theorem attachDevs_brk (s : Reg n) (i : Fin n) (pio : Dev) (dma : Option Dev) (ok : Bool) :
    (attachDevs s i pio dma ok).brk = s.brk := by
  unfold attachDevs; rcases dma with _ | d <;> [rfl; (dsimp only; split <;> rfl)]

/-! ## §2  The stages of `fs_fat_mount` -/

theorem atSlot_allocVfsh (s : Reg n) (i : Fin n) (mp : String) : AtSlot i s (allocVfsh s i mp) :=
  ⟨fun j hj => by simp [allocVfsh, hj], fun _ _ => rfl, rfl, Nat.le_succ _, List.prefix_refl _, rfl⟩

/-- `f_mount`'s first write changes nothing of the registry but its events. -/
theorem clearRegistered_eq (s : Reg n) (i : Fin n) :
    clearRegistered s i = { s with events := s.events ++ (s.vol i).toList.map .clearFs } := by
  unfold clearRegistered
  split <;> simp [Reg.emit, *]

@[simp] theorem clearRegistered_mnt (s : Reg n) (i : Fin n) : (clearRegistered s i).mnt = s.mnt := by
  rw [clearRegistered_eq]
@[simp] theorem clearRegistered_vol (s : Reg n) (i : Fin n) : (clearRegistered s i).vol = s.vol := by
  rw [clearRegistered_eq]
@[simp] theorem clearRegistered_nmmgr (s : Reg n) (i : Fin n) :
    (clearRegistered s i).nmmgr = s.nmmgr := by
  rw [clearRegistered_eq]
@[simp] theorem clearRegistered_brk (s : Reg n) (i : Fin n) : (clearRegistered s i).brk = s.brk := by
  rw [clearRegistered_eq]

theorem atSlot_allocFs (s : Reg n) (i : Fin n) (c : Nat) : AtSlot i s (allocFs s i c) := by
  have h : AtSlot i s (clearRegistered s i) := by
    rw [clearRegistered_eq]
    exact ⟨fun _ _ => rfl, fun _ _ => rfl, rfl, le_refl _, List.prefix_append _ _, rfl⟩
  refine h.trans ⟨fun j hj => by simp [allocFs, hj], fun j hj => by simp [allocFs, hj], rfl,
    Nat.le_succ _, List.prefix_refl _, rfl⟩

theorem atSlot_allocDmabuf (s : Reg n) (i : Fin n) (ok : Bool) :
    AtSlot i s (allocDmabuf s i ok) := by
  unfold allocDmabuf
  split
  · exact ⟨fun j hj => by simp [hj], fun _ _ => rfl, rfl, Nat.le_succ _, List.prefix_refl _, rfl⟩
  · exact .refl i s

@[simp] theorem allocVfsh_mnt_self (s : Reg n) (i : Fin n) (mp : String) :
    (allocVfsh s i mp).mnt i = { s.mnt i with vfsh := some ⟨s.brk, mp, i⟩ } := by
  simp [allocVfsh]
@[simp] theorem allocVfsh_vol (s : Reg n) (i : Fin n) (mp : String) :
    (allocVfsh s i mp).vol = s.vol := rfl
@[simp] theorem allocVfsh_nmmgr (s : Reg n) (i : Fin n) (mp : String) :
    (allocVfsh s i mp).nmmgr = s.nmmgr := rfl
@[simp] theorem allocVfsh_brk (s : Reg n) (i : Fin n) (mp : String) :
    (allocVfsh s i mp).brk = s.brk + 1 := rfl
@[simp] theorem allocVfsh_events (s : Reg n) (i : Fin n) (mp : String) :
    (allocVfsh s i mp).events = s.events := rfl

@[simp] theorem allocFs_mnt_self (s : Reg n) (i : Fin n) (c : Nat) :
    (allocFs s i c).mnt i =
      { s.mnt i with fs := some ⟨s.brk, c⟩, devPath := toString i.val ++ ":" } := by
  simp [allocFs]
@[simp] theorem allocFs_vol_self (s : Reg n) (i : Fin n) (c : Nat) :
    (allocFs s i c).vol i = some s.brk := by simp [allocFs]
@[simp] theorem allocFs_nmmgr (s : Reg n) (i : Fin n) (c : Nat) :
    (allocFs s i c).nmmgr = s.nmmgr := by simp [allocFs]
@[simp] theorem allocFs_brk (s : Reg n) (i : Fin n) (c : Nat) :
    (allocFs s i c).brk = s.brk + 1 := congrArg (· + 1) (clearRegistered_brk s i)
@[simp] theorem allocFs_events (s : Reg n) (i : Fin n) (c : Nat) :
    (allocFs s i c).events = s.events ++ (s.vol i).toList.map .clearFs := by
  simp [allocFs, clearRegistered_eq]

/-- The DMA buffer changes nothing else of the slot. -/
@[simp] theorem allocDmabuf_mnt_self (s : Reg n) (i : Fin n) (ok : Bool) :
    (allocDmabuf s i ok).mnt i = { s.mnt i with dmabuf :=
      if (s.mnt i).devDma.isSome && ok then some s.brk else (s.mnt i).dmabuf } := by
  unfold allocDmabuf; split <;> simp_all
@[simp] theorem allocDmabuf_vol (s : Reg n) (i : Fin n) (ok : Bool) :
    (allocDmabuf s i ok).vol = s.vol := by unfold allocDmabuf; split <;> rfl
@[simp] theorem allocDmabuf_nmmgr (s : Reg n) (i : Fin n) (ok : Bool) :
    (allocDmabuf s i ok).nmmgr = s.nmmgr := by unfold allocDmabuf; split <;> rfl
@[simp] theorem allocDmabuf_events (s : Reg n) (i : Fin n) (ok : Bool) :
    (allocDmabuf s i ok).events = s.events := by unfold allocDmabuf; split <;> rfl

/-! ## §3  `fs_fat_mount` -/

/-- Slot `i` as a successful `fs_fat_mount(mp, pio, ...)` leaves it, with the
handler at `h`: the handler and its path, a work area registered for drive `i`,
the PIO device, the slot's number and drive path, and a DMA device only after its
`init` succeeded. -/
structure MountedAs (s : Reg n) (i : Fin n) (mp : String) (pio : Dev) (h : Nat) : Prop where
  vfsh : (s.mnt i).vfsh = some ⟨h, mp, i⟩
  fs : ∃ w, (s.mnt i).fs = some w ∧ s.vol i = some w.addr
  dev : (s.mnt i).dev = some pio
  devId : (s.mnt i).devId = i
  devPath : (s.mnt i).devPath = toString i.val ++ ":"
  devDma : ∀ d, (s.mnt i).devDma = some d → REvent.init d true ∈ s.events

/-- A failed `fs_fat_mount` ends in `fs_fat_free` of a slot whose drive registration
is the old one or the slot's own work area: the slot is zero, and the drive keeps
the old registration or one whose work area has been freed. -/
theorem mount_fail {t : Reg n} (ht : AtSlot i s t) (hn : t.nmmgr = s.nmmgr)
    (hv : t.vol i = s.vol i ∨ ∃ w, (t.mnt i).fs = some w ∧ t.vol i = some w.addr) :
    AtSlot i s (fsFatFree t i) ∧ (fsFatFree t i).nmmgr = s.nmmgr ∧ (fsFatFree t i).mnt i = .zero ∧
      ((fsFatFree t i).vol i = s.vol i ∨
        ∃ a, (fsFatFree t i).vol i = some a ∧ REvent.free a ∈ (fsFatFree t i).events) := by
  refine ⟨ht.trans (atSlot_fsFatFree t i), hn, by simp, ?_⟩
  rcases hv with hv | ⟨w, hw, hv⟩
  · exact .inl hv
  · exact .inr ⟨w.addr, hv, by simp [free_mem_freeEvents hw]⟩

/-- Everything `fs_fat_mount` can do. Before `fs_fat_init` or with every slot in
use it changes nothing; otherwise it works on the first free slot alone, and
either fails with that slot zero, the name manager as it was and drive `i`
registered as before or to a freed work area, or succeeds with the slot
`MountedAs` and the fresh handler registered with the name manager. -/
theorem fsFatMount_spec {mp : String} {pio : Dev} {dma : Option Dev} {r : MountReplies}
    {rv : Int} (h : fsFatMount s mp pio dma r = (s', rv)) :
    (s' = s ∧ rv = -1) ∨
    ∃ i, s.initted = true ∧ firstFreeMnt s = some i ∧ AtSlot i s s' ∧
      ((rv = -1 ∧ s'.nmmgr = s.nmmgr ∧ s'.mnt i = .zero ∧
          (s'.vol i = s.vol i ∨ ∃ a, s'.vol i = some a ∧ REvent.free a ∈ s'.events)) ∨
       (rv = 0 ∧ s'.nmmgr = s.brk :: s.nmmgr ∧ s.brk < s'.brk ∧ MountedAs s' i mp pio s.brk)) := by
  unfold fsFatMount at h
  cases hin : s.initted
  · simp only [hin, Bool.not_false, if_true] at h
    cases h; exact .inl ⟨rfl, rfl⟩
  rcases hf : firstFreeMnt s with _ | i
  · simp only [hin, hf, Bool.not_true, Bool.false_eq_true, if_false] at h
    cases h; exact .inl ⟨rfl, rfl⟩
  simp only [hin, hf, Bool.not_true, Bool.false_eq_true, if_false] at h
  refine .inr ⟨i, rfl, rfl, ?_⟩
  -- the stages, each a change of slot `i` alone
  have h₀ := atSlot_setMnt s i { FatfsMnt.zero with devId := i }
  have h₁ := h₀.trans (atSlot_attachDevs _ i pio dma r.dmaInit)
  have h₂ := h₁.trans (atSlot_allocVfsh _ i mp)
  have h₃ := h₂.trans (atSlot_allocFs _ i r.csize)
  have h₄ := h₃.trans (atSlot_allocDmabuf _ i r.memalign)
  -- each reply that fails sends the slot through `fs_fat_free`
  cases hp : r.pioInit <;>
    simp only [hp, Bool.not_false, Bool.not_true, if_true, if_false, Bool.false_eq_true] at h
  case false =>
    cases h
    exact (mount_fail (h₀.trans (atSlot_emit _ i _)) rfl (.inl rfl)).imp_right (.inl ⟨rfl, ·⟩)
  cases hv : r.vfshMalloc <;>
    simp only [hv, Bool.not_false, Bool.not_true, if_true, if_false, Bool.false_eq_true] at h
  case false => cases h; exact (mount_fail h₁ (by simp) (.inl (by simp))).imp_right (.inl ⟨rfl, ·⟩)
  cases hf : r.fsMalloc <;>
    simp only [hf, Bool.not_false, Bool.not_true, if_true, if_false, Bool.false_eq_true] at h
  case false => cases h; exact (mount_fail h₂ (by simp) (.inl (by simp))).imp_right (.inl ⟨rfl, ·⟩)
  by_cases hm : r.fMount ≠ .ok
  · rw [if_pos hm] at h
    cases h
    exact (mount_fail h₃ (by simp) (.inr ⟨⟨s.brk + 1, r.csize⟩, by simp, by simp⟩)).imp_right
      (.inl ⟨rfl, ·⟩)
  rw [if_neg hm] at h
  cases hn : r.nmAdd <;>
    simp only [hn, Bool.not_false, Bool.not_true, if_true, if_false, Bool.false_eq_true] at h <;> cases h
  · exact (mount_fail h₄ (by simp) (.inr ⟨⟨s.brk + 1, r.csize⟩, by simp, by simp⟩)).imp_right
      (.inl ⟨rfl, ·⟩)
  · refine ⟨⟨h₄.mnt, h₄.vol, h₄.initted, h₄.brk, h₄.events, h₄.devs⟩, .inr ⟨rfl, by simp, ?_, ?_⟩⟩
    · have := (atSlot_allocDmabuf (allocFs (allocVfsh (attachDevs
        (s.setMnt i { FatfsMnt.zero with devId := i }) i pio dma r.dmaInit) i mp) i r.csize)
        i r.memalign).brk
      simp only [allocFs_brk, allocVfsh_brk, attachDevs_brk, Reg.setMnt_brk] at this
      exact Nat.lt_of_lt_of_le (by omega) this
    · refine ⟨by simp [attachDevs_mnt], ⟨⟨s.brk + 1, r.csize⟩, by simp, by simp⟩, by simp [attachDevs_mnt],
        by simp [attachDevs_mnt], by simp, fun d hd => ?_⟩
      have hd' : ((attachDevs (s.setMnt i { FatfsMnt.zero with devId := i }) i pio dma
          r.dmaInit).mnt i).devDma = some d := by simpa using hd
      simpa using attachDevs_dma hd'

/-- Once its `init` and both `malloc`s succeed, `fs_fat_mount` records the write of
`f_mount` through the work area registered for the drive before, whatever the
replies that follow. -/
theorem fsFatMount_events_clearFs {mp : String} {pio : Dev} {dma : Option Dev} {r : MountReplies}
    {a : Nat} (hin : s.initted) (hf : firstFreeMnt s = some i) (hp : r.pioInit)
    (hv : r.vfshMalloc) (hm : r.fsMalloc) (ha : s.vol i = some a) :
    ∃ l l', (fsFatMount s mp pio dma r).1.events = s.events ++ l ++ .clearFs a :: l' := by
  let t := allocFs (allocVfsh (attachDevs (s.setMnt i { FatfsMnt.zero with devId := i }) i pio dma
    r.dmaInit) i mp) i r.csize
  obtain ⟨l, hl⟩ := ((atSlot_setMnt s i { FatfsMnt.zero with devId := i }).trans
    (atSlot_attachDevs _ i pio dma r.dmaInit)).events
  have ht : t.events = s.events ++ l ++ [.clearFs a] := by
    rw [allocFs_events, allocVfsh_events, allocVfsh_vol, attachDevs_vol, Reg.setMnt_vol, ha, ← hl]
    rfl
  -- every way on from `f_mount` only appends
  have hpre : t.events <+: (fsFatMount s mp pio dma r).1.events := by
    simp only [fsFatMount, hin, hf, hp, hv, hm, Bool.not_true, Bool.false_eq_true, if_false]
    by_cases hok : r.fMount ≠ .ok
    · rw [if_pos hok]; exact (atSlot_fsFatFree t i).events
    rw [if_neg hok]
    cases r.nmAdd <;> simp only [Bool.not_false, Bool.not_true, if_true, if_false, Bool.false_eq_true]
    · exact ((atSlot_allocDmabuf t i _).trans (atSlot_fsFatFree _ i)).events
    · exact (atSlot_allocDmabuf t i _).events
  obtain ⟨l', hl'⟩ := hpre
  exact ⟨l, l', by rw [← hl', ht]; simp⟩

/-! ## §4  Lookup and `fs_fat_unmount` -/

/-- The path slot `i` is registered under, if it has a handler. -/
def mntPath (s : Reg n) (i : Fin n) : Option String := (s.mnt i).vfsh.map (·.pathname)

theorem findMnt_some {mp : String} (h : findMnt s mp = some i) : mntPath s i = some mp := by
  simpa [mntPath] using List.find?_some h

theorem findMnt_none {mp : String} : findMnt s mp = none ↔ ∀ i, mntPath s i ≠ some mp := by
  simp only [findMnt, List.find?_eq_none, List.mem_finRange, beq_iff_eq, forall_const, mntPath, ne_eq]

/-- `fs_fat_unmount` finds a slot registered under `mp` and releases it, or fails
with nothing changed. -/
theorem fsFatUnmount_spec {mp : String} {rv : Int} (h : fsFatUnmount s mp = (s', rv)) :
    (rv = -1 ∧ s' = s ∧ ∀ i, mntPath s i ≠ some mp) ∨
    ∃ i v, rv = 0 ∧ (s.mnt i).vfsh = some v ∧ v.pathname = mp ∧
      s' = fsFatFree (s.nmRemove (some v)) i := by
  unfold fsFatUnmount at h
  rcases hf : findMnt s mp with _ | i <;> simp only [hf] at h <;> obtain ⟨rfl, rfl⟩ := Prod.mk.inj h
  · exact .inl ⟨rfl, rfl, findMnt_none.mp hf⟩
  · have hp := findMnt_some hf
    simp only [mntPath, Option.map_eq_some'] at hp
    obtain ⟨v, hv, rfl⟩ := hp
    exact .inr ⟨i, v, rfl, hv, rfl, by rw [hv]⟩

/-! ## §5  Moves -/

/-- The steps every registry operation is made of: a mount; the release of a slot
with a handler (unregister it, `fs_fat_free`); `fs_fat_init`; the end of
`fs_fat_shutdown` once no slot has a device; a step that touches only devices, the
wrappers' arrays and the events. -/
inductive Move : Reg n → Reg n → Prop
  | mount (s : Reg n) (mp : String) (pio : Dev) (dma : Option Dev) (r : MountReplies) :
      Move s (fsFatMount s mp pio dma r).1
  | release {s : Reg n} (i : Fin n) (v : Vfsh) :
      (s.mnt i).vfsh = some v → Move s (fsFatFree (s.nmRemove (some v)) i)
  | init (s : Reg n) : Move s (fsFatInit s)
  | finish {s : Reg n} : (∀ i, (s.mnt i).dev = none) → Move s { s with initted := false }
  | devices {s s' : Reg n} : s'.mnt = s.mnt → s'.nmmgr = s.nmmgr → s'.vol = s.vol →
      s'.initted = s.initted → s'.brk = s.brk → s.events <+: s'.events → Move s s'

/-- Chains of moves. -/
abbrev MoveStar : Reg n → Reg n → Prop := Relation.ReflTransGen Move

theorem Move.emit (s : Reg n) (e : REvent) : Move s (s.emit e) :=
  .devices rfl rfl rfl rfl rfl (List.prefix_append _ _)

/-- An invariant kept by every move is kept by every chain of moves. -/
theorem MoveStar.preserves (P : Reg n → Prop) (hP : ∀ {s s'}, Move s s' → P s → P s')
    (h : MoveStar s s') (hs : P s) : P s' := by
  induction h with
  | refl => exact hs
  | tail _ hm ih => exact hP hm ih

theorem moveStar_foldl {α : Type} (f : Reg n → α → Reg n) (hf : ∀ s a, MoveStar s (f s a))
    (l : List α) (s : Reg n) : MoveStar s (l.foldl f s) := by
  induction l generalizing s with
  | nil => exact .refl
  | cons a l ih => exact (hf s a).trans (ih _)

theorem moveStar_unmount (s : Reg n) (mp : String) : MoveStar s (fsFatUnmount s mp).1 := by
  rcases fsFatUnmount_spec (Prod.mk.eta (p := fsFatUnmount s mp)).symm with
    ⟨-, h, -⟩ | ⟨i, v, -, hv, -, h⟩
  · rw [h]
  · rw [h]; exact .single (.release i v hv)

/-- A step that touches only devices, the wrappers' arrays and the events. -/
theorem moveStar_devices {s s' : Reg n} (hm : s'.mnt = s.mnt) (hn : s'.nmmgr = s.nmmgr)
    (hv : s'.vol = s.vol) (hi : s'.initted = s.initted) (hb : s'.brk = s.brk)
    (he : s.events <+: s'.events) : MoveStar s s' :=
  .single (.devices hm hn hv hi hb he)

/-! ## §6  Every operation is a chain of moves -/

theorem mountSdFat_moves (s : Reg n) (p : Fin 4) (r : SdPartReplies) :
    MoveStar s (mountSdFat s p r) := by
  have h₁ := (Relation.ReflTransGen.single (Move.init s)).tail (.emit _ (.shutdown (.sd p)))
  unfold mountSdFat
  dsimp only
  split_ifs
  · exact h₁
  · exact ((h₁.tail (.emit ..)).tail (.mount ..)).tail (.emit ..)
  · exact (h₁.tail (.emit ..)).tail (.mount ..)

theorem mountSdPart_moves (buf : Nat → UInt8) (s : Reg n) (p : Fin 4) (r : SdPartReplies) :
    MoveStar s (mountSdPart buf s p r) := by
  have h₀ : MoveStar s ((s.emit (.setup (.sd p))).setSdData p) :=
    moveStar_devices rfl rfl rfl rfl rfl (List.prefix_append _ _)
  unfold mountSdPart
  split
  · exact .refl
  split
  · exact .refl
  dsimp only
  split
  · exact h₀.tail (.emit ..)
  · exact h₀.trans (mountSdFat_moves ..)

theorem mountSd_moves (s : Reg n) (r : SdReplies) : MoveStar s (mountSd s r).1 := by
  unfold mountSd
  split
  · exact .refl
  split
  · exact .refl
  split
  · exact .refl
  dsimp only
  refine .trans ?_ (moveStar_foldl _ (fun _ _ => mountSdPart_moves ..) _ _)
  exact moveStar_devices rfl rfl rfl rfl rfl (List.prefix_refl _)

theorem mountIdeFat_moves (s : Reg n) (p : Fin 4) (r : IdePartReplies) :
    MoveStar s (mountIdeFat s p r) := by
  have h₁ := (Relation.ReflTransGen.single (Move.init s)).tail (.emit _ (.shutdown (.g1 p)))
  unfold mountIdeFat
  dsimp only
  generalize (fsFatInit s).emit (.shutdown (.g1 p)) = t at h₁ ⊢
  cases r.forDevice
  · exact h₁
  simp only [Bool.not_true, Bool.false_eq_true, if_false]
  have h₂ := h₁.tail (.emit t (.setup (.g1 p)))
  generalize t.emit (.setup (.g1 p)) = t at h₂ ⊢
  generalize hd : (if r.forDma = true then _ else _ : Reg n) = t
  have h₃ : MoveStar s t := by
    subst hd
    split
    · exact h₂.trans (moveStar_devices rfl rfl rfl rfl rfl (List.prefix_append _ _))
    · exact h₂
  generalize (if r.forDma = true then some (Dev.g1Dma p) else none : Option Dev) = dma
  split
  · exact h₃.tail (.mount ..)
  · have h₄ := (h₃.tail (.mount t (ideMountPath p) (.g1 p) dma r.mount)).tail
      (.emit _ (.shutdown (.g1 p)))
    cases dma
    · exact h₄
    · exact h₄.tail (.emit ..)

theorem mountIdePart_moves (buf : Nat → UInt8) (s : Reg n) (p : Fin 4) (r : IdePartReplies) :
    MoveStar s (mountIdePart buf s p r) := by
  have h₀ : MoveStar s ((s.emit (.setup (.g1 p))).setG1Data p) :=
    moveStar_devices rfl rfl rfl rfl rfl (List.prefix_append _ _)
  unfold mountIdePart
  split
  · exact .refl
  split
  · exact .refl
  dsimp only
  split
  · exact h₀.tail (.emit ..)
  · exact h₀.trans (mountIdeFat_moves ..)

theorem mountIde_moves (s : Reg n) (r : IdeReplies) : MoveStar s (mountIde s r).1 := by
  unfold mountIde
  split
  · exact .refl
  split
  · exact .refl
  dsimp only
  generalize hd : (if s.g1Dev.isNone = true then _ else s : Reg n) = t
  have h₀ : MoveStar s t := by
    subst hd
    split
    · exact moveStar_devices rfl rfl rfl rfl rfl (List.prefix_refl _)
    · exact .refl
  split
  · exact h₀
  refine h₀.trans (.trans ?_ (moveStar_foldl _ (fun _ _ => mountIdePart_moves ..) _ _))
  exact moveStar_devices rfl rfl rfl rfl rfl (List.prefix_refl _)

theorem unmountParts_moves (path : Fin 4 → String) (dev : Fin 4 → Dev) (dd : Fin 4 → Bool)
    (s : Reg n) : MoveStar s (unmountParts path dev dd s) := by
  refine moveStar_foldl _ (fun t i => ?_) _ _
  unfold unmountPart
  split
  · exact (moveStar_unmount ..).tail (.emit ..)
  · exact .refl

theorem unmountSd_moves (s : Reg n) : MoveStar s (unmountSd s) := by
  unfold unmountSd
  split
  · exact .refl
  next dd _ => exact (unmountParts_moves _ _ dd s).tail (.devices rfl rfl rfl rfl rfl (List.prefix_refl _))

theorem unmountIde_moves (s : Reg n) : MoveStar s (unmountIde s) := by
  have h₀ : MoveStar s (unmountIdePio s) := by
    unfold unmountIdePio
    split
    · exact .refl
    next dd _ =>
      exact (unmountParts_moves _ _ dd s).tail (.devices rfl rfl rfl rfl rfl (List.prefix_refl _))
  refine h₀.trans ?_
  unfold unmountIde unmountIdeDma
  split
  · exact .refl
  next dd _ =>
    refine .tail (moveStar_foldl (fun s i => if dd i then s.emit (.shutdown (.g1Dma i)) else s)
      (fun t i => ?_) _ _) (.devices rfl rfl rfl rfl rfl (List.prefix_refl _))
    dsimp only
    split
    · exact .single (.emit ..)
    · exact .refl

theorem shutdownSlot_spec (h : shutdownSlot s i = some s') :
    MoveStar s s' ∧ (s'.mnt i).dev = none ∧ (∀ j, j ≠ i → s'.mnt j = s.mnt j) ∧
      s'.toBdevs = s.toBdevs := by
  unfold shutdownSlot at h
  split at h
  · cases h; exact ⟨.refl, ‹_›, fun _ _ => rfl, rfl⟩
  · cases h
  · obtain ⟨-, h⟩ := Option.ite_none_right_eq_some.mp h
    cases h
    exact ⟨.single (.release i _ ‹_›), by simp [FatfsMnt.zero], fun j hj => by simp [hj], by simp⟩

/-- The release loop of `fs_fat_shutdown` leaves no device on the slots it visits,
and none on a slot that had none; it does not touch the device arrays. -/
theorem foldlM_shutdownSlot (l : List (Fin n)) (h : l.foldlM shutdownSlot s = some s') :
    MoveStar s s' ∧ (∀ k, ((s.mnt k).dev = none ∨ k ∈ l) → (s'.mnt k).dev = none) ∧
      s'.toBdevs = s.toBdevs := by
  induction l generalizing s with
  | nil => cases h; exact ⟨.refl, fun k hk => by simpa using hk, rfl⟩
  | cons a l ih =>
    obtain ⟨t, ht, h'⟩ := Option.bind_eq_some.mp h
    obtain ⟨hst, hta, hfr, hb⟩ := shutdownSlot_spec ht
    obtain ⟨hts', hk, hb'⟩ := ih h'
    refine ⟨hst.trans hts', fun k hk' => hk k ?_, hb'.trans hb⟩
    by_cases hka : k = a
    · exact .inl (hka ▸ hta)
    · simpa [List.mem_cons, hka, hfr k hka] using hk'

theorem fsFatShutdown_spec (h : fsFatShutdown s = some s') :
    (s.initted = false ∧ s' = s) ∨
    ∃ t, MoveStar s t ∧ (∀ i, (t.mnt i).dev = none) ∧ s' = { t with initted := false } := by
  unfold fsFatShutdown at h
  split at h
  next hi => cases h; exact .inl ⟨by simpa using hi, rfl⟩
  split at h
  · cases h
  obtain ⟨t, ht, rfl⟩ := Option.map_eq_some'.mp h
  obtain ⟨hm, hdev, -⟩ := foldlM_shutdownSlot _ ht
  exact .inr ⟨t, (unmountSd_moves s).trans ((unmountIde_moves _).trans hm),
    fun i => hdev i (.inr (List.mem_finRange i)), rfl⟩

theorem fsFatShutdown_moves (h : fsFatShutdown s = some s') : MoveStar s s' := by
  rcases fsFatShutdown_spec h with ⟨-, rfl⟩ | ⟨t, ht, hdev, rfl⟩
  · exact .refl
  · exact ht.tail (.finish hdev)

theorem Reg.defined_eq {t : Reg n} (h : t.defined = some s') : s' = t := by
  unfold Reg.defined at h
  split at h <;> cases h
  rfl

/-- A history in which an `f_mount` clears a work area freed before it, earlier in
the history or in `fr`, is undefined. -/
theorem clearsFreed_append_clearFs {a : Nat} (l' : List REvent) {l : List REvent} :
    ∀ {fr : List Nat}, (a ∈ fr ∨ REvent.free a ∈ l) →
      clearsFreed fr (l ++ .clearFs a :: l') = true := by
  induction l with
  | nil =>
    intro fr h
    have : a ∈ fr := by simpa using h
    simp [clearsFreed, this]
  | cons e l ih =>
    intro fr h
    cases e with
    | free b => exact ih (by simp only [List.mem_cons, REvent.free.injEq] at h ⊢; tauto)
    | clearFs b =>
      simp only [List.cons_append, clearsFreed, Bool.or_eq_true]
      exact .inr (ih (by simpa using h))
    | _ => exact ih (by simpa using h)

/-- A mount step, once its guards hold, is `fs_fat_mount`. -/
theorem rstep_mount {mp : String} {pio : Dev} {dma : Option Dev} {r : MountReplies}
    (h : rstep s (.mount mp pio dma r) = some s') : s' = (fsFatMount s mp pio dma r).1 := by
  obtain ⟨-, h⟩ := Option.ite_none_right_eq_some.mp h
  exact Reg.defined_eq h

/-- Every registry operation is a chain of moves. -/
theorem rstep_moves {op : ROp} (h : rstep s op = some s') : MoveStar s s' := by
  cases op with
  | init => cases h; exact .single (.init s)
  | mount => rw [rstep_mount h]; exact .single (.mount ..)
  | unmount =>
    obtain ⟨-, h⟩ := Option.ite_none_right_eq_some.mp h
    cases h; exact moveStar_unmount ..
  | shutdown => exact fsFatShutdown_moves h
  | mountSd => rw [Reg.defined_eq h]; exact mountSd_moves ..
  | mountIde => rw [Reg.defined_eq h]; exact mountIde_moves ..
  | unmountSd =>
    obtain ⟨-, h⟩ := Option.ite_none_right_eq_some.mp h
    cases h; exact unmountSd_moves s
  | unmountIde =>
    obtain ⟨-, h⟩ := Option.ite_none_right_eq_some.mp h
    cases h; exact unmountIde_moves s

/-- An invariant of the boot state kept by every move holds in every reachable
registry. -/
theorem MReach.preserves {P : Reg n → ROp → Prop} (I : Reg n → Prop) (h₀ : I .boot)
    (hI : ∀ {s s'}, Move s s' → I s → I s') (h : MReach P s) : I s := by
  induction h with
  | boot => exact h₀
  | step _ _ hs ih => exact MoveStar.preserves I hI (rstep_moves hs) ih

end DcFatfs
