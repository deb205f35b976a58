import DcFatfs.Handle.Isolation
import DcFatfs.Mount.Engine

/-!
# Live mount pointers

The pool model takes a copy of the mount when `fat_open` runs (`Fatfs.mnt`). In
`dc.c`, `sf->mnt` points into `fat_mnt[]`, and `mnt->dev` into a device array of
`dc_bdev.c` or a device of the caller. Every later read of `sf->mnt->fs->csize` or
`sf->mnt->dev->l_block_size` reads that slot and that device as they are at the
time of the read: through a device a wrapper's `memset` has cleared it reads
`l_block_size` 0, and through one a wrapper has freed it is undefined (`mntView`).

This file puts the registry and the pool together with those pointers (`Sys`).
Each descriptor operation reads the mount of its own slot of `fh[]`, the only
slot a handler reads, through that slot's pointer (`Sys.seen`).

While every descriptor in use holds as its copy what its pointer reads now
(`Coherent`), the copy is the live value. Every step of the adapter keeps this,
except a registry operation that changes what an open descriptor reads: an
unmount of its volume, or a wrapper that clears or frees its device. A mount never
does (`mount_admitted`). Under that discipline the adapter refines the copy model:
each of its steps is a step of the pool model or leaves the pool alone
(`sreach_refines`). So every result proved of `Reach` holds of the adapter.
-/

namespace DcFatfs

variable {n : Nat}

/-! ## §1  The adapter with its pointers -/

/-- What the adapter reads from a block device through `mnt->dev`: the device's
address, which `fat_fstat` reports as `st_dev`, and its `l_block_size`. -/
structure DevGeom where
  addr : Nat
  lBlockSize : Nat
  deriving DecidableEq, Repr

/-- What a read through a pointer to device `d` gives, once the struct behind it
is as `st` says: the device as its driver set it up, a struct cleared by `memset`
(`l_block_size` 0 at the same address), or nothing, the struct being freed. -/
def readDev (geom : Dev → DevGeom) (d : Dev) : DevState → Option DevGeom
  | .live => some (geom d)
  | .zeroed => some ⟨(geom d).addr, 0⟩
  | .freed => none

/-- Mount slot `i` as the descriptor operations read it through a pointer to it:
the drive path, `fs->csize` and the PIO device as `mnt->dev` reaches it. Reading
`fs->csize` or `dev->...` of a slot with no work area or no device, or through a
freed device, is undefined. -/
def mntView (geom : Dev → DevGeom) (reg : Reg n) (i : Fin n) : Option MntCtx :=
  (reg.mnt i).fs.bind fun w => (reg.mnt i).dev.bind fun d =>
    (readDev geom d (reg.heldState (reg.staleDev i) d)).map fun g =>
      ⟨(reg.mnt i).devPath, w.csize, g.addr, g.lBlockSize⟩

/-- A slot reads the same through its pointer while its contents and the device
arrays are as they were. -/
theorem mntView_congr {geom : Dev → DevGeom} {s t : Reg n} {i : Fin n} (hm : t.mnt i = s.mnt i)
    (hb : t.toBdevs = s.toBdevs) : mntView geom t i = mntView geom s i := by
  simp only [mntView, hm, hb]

/-- The adapter: the mount registry, the handle pool, and for each slot of `fh[]`
the slot of `fat_mnt[]` its `sf->mnt` points at. -/
structure Sys (n : Nat) where
  reg : Reg n
  pool : Pool
  mntOf : Fin maxFatFiles → Option (Fin n)

/-- Load time: both arrays zero, no pointer set. -/
def Sys.boot : Sys n := ⟨.boot, .init, fun _ => none⟩

/-- A step of the adapter: a registry operation, a `fat_open` through the handler
of mount slot `i`, or a descriptor operation. -/
inductive SOp (n : Nat)
  | reg (op : ROp)
  | fatOpen (i : Fin n) (fn : Option String) (flags : Nat) (r : OpenReplies)
  | hnd (op : Op)

section Defs

variable (K : HostFlags) (geom : Dev → DevGeom)

/-- What slot `j`'s `sf->mnt` reads now. -/
def Sys.ptrView (sys : Sys n) (j : Fin maxFatFiles) : Option MntCtx :=
  (sys.mntOf j).bind (mntView geom sys.reg)

/-- The pool as operation `op` sees it: its handler reads `sf->mnt` of its own
slot `fh[fd]`, through the pointer. -/
def Sys.seen (sys : Sys n) (op : Op) : Pool :=
  match op.hnd.bind fatGetHnd with
  | none => sys.pool
  | some fd => sys.pool.set fd { sys.pool.fh fd with mnt := sys.ptrView geom fd }

/-- The pointers after `fat_open` through the handler of slot `i`: the `memset`
clears the first free slot's `sf->mnt`, and `sf->mnt = mnt` sets it once
`f_chdrive` has succeeded. -/
def openMntOf (s : Pool) (mntOf : Fin maxFatFiles → Option (Fin n)) (i : Fin n)
    (chdrive : FResult) : Fin maxFatFiles → Option (Fin n) :=
  match firstFree s with
  | none => mntOf
  | some fd => Function.update mntOf fd (if chdrive = .ok then some i else none)

/-- One step of the adapter, with what a descriptor operation returned; `none` is
undefined behaviour. The VFS finds a mount's handler through the name manager, so
a `fat_open` goes through a slot with a handler, whose `privdata` is
`&fat_mnt[i]`. An operation with no descriptor is a `fat_open`, which is reached
that way only. -/
def sstep (sys : Sys n) : SOp n → Option (Sys n × Option Out)
  | .reg op => (rstep sys.reg op).map fun reg => ({ sys with reg := reg }, none)
  | .fatOpen i fn flags r =>
    match (sys.reg.mnt i).vfsh, mntView geom sys.reg i with
    | some _, some m =>
      some ({ sys with pool := (fatOpen K sys.pool (some m) fn flags r).1,
                       mntOf := openMntOf sys.pool sys.mntOf i r.chdrive },
            some (fatOpen K sys.pool (some m) fn flags r).2)
    | _, _ => none
  | .hnd op =>
    match op.hnd with
    | none => none
    | some _ => (step K (sys.seen geom op) op).map fun p => ({ sys with pool := p.1 }, some p.2)

/-- Every descriptor in use holds, as its copy of the mount, what its pointer
reads now. -/
def Coherent (sys : Sys n) : Prop :=
  ∀ j, (sys.pool.fh j).used → (sys.pool.fh j).mnt = sys.ptrView geom j

/-- The copy model's reading of a step: the pool operation, with `fat_open` given
the mount slot's contents; a registry operation is no pool operation. -/
def SOp.poolOp (reg : Reg n) : SOp n → Option Op
  | .reg _ => none
  | .fatOpen i fn flags r => some (.fatOpen (mntView geom reg i) fn flags r)
  | .hnd op => some op

/-- A step of the copy model: the pool operation, or nothing. -/
def poolStep (s : Pool) : Option Op → Option (Pool × Option Out)
  | none => some (s, none)
  | some op => (step K s op).map fun p => (p.1, some p.2)

/-- The steps the refinement admits: a pool operation admitted by `P`, on an open
descriptor if it names one, and a registry operation that leaves what every open
descriptor reads through its pointer as it was. -/
def SAdmits (P : Pool → Op → Prop) (sys : Sys n) : SOp n → Prop
  | .reg op => ∀ reg', rstep sys.reg op = some reg' →
      ∀ j i, (sys.pool.fh j).used → sys.mntOf j = some i → mntView geom reg' i = mntView geom sys.reg i
  | .fatOpen i fn flags r => P sys.pool (.fatOpen (mntView geom sys.reg i) fn flags r)
  | .hnd op => P sys.pool op ∧ OnOpenDesc sys.pool op

/-- The states of the adapter reached from load time by admitted steps. -/
inductive SReach (P : Pool → Op → Prop) : Sys n → Prop
  | boot : SReach P .boot
  | step {sys sys' : Sys n} {sop : SOp n} {o : Option Out} :
      SReach P sys → SAdmits geom P sys sop → sstep K geom sys sop = some (sys', o) → SReach P sys'

end Defs

/-- Every device on 512-byte blocks, at one address. -/
def sampleGeom : Dev → DevGeom := fun _ => ⟨0x8c100000, 9⟩

/-- `/sd` mounted on slot 0 of a registry of two slots. -/
def sdMounted : Sys 2 :=
  ⟨(fsFatMount (fsFatInit .boot) "/sd" (.ext 0) none mountOk).1, .init, fun _ => none⟩

/-- `sdMounted` once `/sd/f`, the file of `fragOpen`, is opened read-only, as
descriptor 1. -/
def sdOpen : Sys 2 :=
  ((sstep sampleFlags sampleGeom sdMounted (.fatOpen 0 (some "/f") sampleFlags.oRdonly fragOpen)).map
    Prod.fst).getD sdMounted

theorem sreach_sdOpen : SReach sampleFlags sampleGeom (fun _ _ => True) sdOpen :=
  have h₁ := SReach.step .boot (by exact fun _ _ _ _ hj => absurd hj Bool.false_ne_true)
    (show sstep sampleFlags sampleGeom Sys.boot (.reg .init) = some (_, none) from rfl)
  have h₂ := SReach.step h₁ (by exact fun _ _ _ _ hj => absurd hj Bool.false_ne_true)
    (show sstep sampleFlags sampleGeom _ (.reg (.mount "/sd" (.ext 0) none mountOk)) =
      some (sdMounted, none) from rfl)
  .step h₂ (by trivial) (show sstep sampleFlags sampleGeom sdMounted
    (.fatOpen 0 (some "/f") sampleFlags.oRdonly fragOpen) = some (sdOpen, _) from rfl)

/-! ## §2  What a pool step does to `sf->mnt` -/

section Pool

variable {K : HostFlags} {s s' : Pool} {j : Fin maxFatFiles} {x : Out}

theorem Pool.set_self (s : Pool) (fd : Fin maxFatFiles) : s.set fd (s.fh fd) = s := by
  simp only [Pool.set, Function.update_eq_self]

/-- `fat_open` hands out a descriptor only after `f_chdrive` succeeded. -/
theorem fatOpen_chdrive_ok {m : MntCtx} {fn : Option String} {flags : Nat} {r : OpenReplies}
    (h : fatOpen K s (some m) fn flags r = (s', x)) (hx : x.ret ≠ 0) : r.chdrive = .ok := by
  by_contra hc
  rcases hfd : firstFree s with _ | fd <;> simp only [fatOpen, hfd] at h
  · exact hx (congrArg (fun p : Pool × Out => p.2.ret) h).symm
  · rw [if_pos hc] at h
    exact hx (congrArg (fun p : Pool × Out => p.2.ret) h).symm

/-- A slot `fat_open` takes is the first free one, taken after `f_chdrive`
succeeded, and holds the mount the handler points at. -/
theorem fatOpen_taken {vfs : Option MntCtx} {fn : Option String} {flags : Nat} {r : OpenReplies}
    (h : fatOpen K s vfs fn flags r = (s', x)) (hj : (s'.fh j).used) (hn : (s.fh j).used = false) :
    ∃ m, vfs = some m ∧ firstFree s = some j ∧ r.chdrive = .ok ∧ (s'.fh j).mnt = some m := by
  obtain ⟨-, -, ⟨-, rfl, -⟩ | ⟨fd, hfd, hoth, hres⟩⟩ := fatOpen_spec h
  · exact absurd hj (by rw [hn]; exact Bool.false_ne_true)
  obtain rfl : j = fd := by
    by_contra he
    rw [hoth j he, hn] at hj
    exact Bool.false_ne_true hj
  rcases hres with ⟨-, -, hf⟩ | ⟨rfl, -, -⟩
  · exact absurd hj (by rw [hf]; exact Bool.false_ne_true)
  rcases vfs with _ | m
  · obtain ⟨-, he⟩ := Prod.mk.inj h
    exact absurd (congrArg Out.ret he) (by simp only [ne_eq]; omega)
  have hx : (⟨j.val + 1, none⟩ : Out).ret ≠ 0 := by dsimp only; omega
  obtain ⟨fd', he, -, -, hm⟩ := fatOpen_ident h hx
  obtain rfl : fd' = j := Fin.ext (by have := congrArg Out.ret he; dsimp only at this; omega)
  exact ⟨m, rfl, hfd, fatOpen_chdrive_ok h hx, hm⟩

/-- An operation other than `fat_open` takes no slot and keeps the mount of every
slot it leaves in use. -/
theorem step_used_mnt {op : Op} (ho : OwnTables s) (hop : op.hnd.isSome)
    (h : step K s op = some (s', x)) (hj : (s'.fh j).used) :
    (s.fh j).used ∧ (s'.fh j).mnt = (s.fh j).mnt := by
  cases htf : op.takesOrFrees
  · have e := (step_confined ho htf h).ident j
    exact ⟨(congrArg SlotIdent.used e).symm.trans hj, congrArg SlotIdent.mnt e⟩
  cases op with
  | fatOpen => cases hop
  | fatClose hnd rc =>
    rcases fatClose_spec (Option.some.inj h) with ⟨-, rfl, -⟩ | ⟨fd, -, hoth, hself, -⟩
    · exact ⟨hj, rfl⟩
    by_cases he : j = fd
    · subst he
      rw [hself] at hj
      exact absurd hj Bool.false_ne_true
    · rw [hoth j he] at hj ⊢
      exact ⟨hj, rfl⟩
  | _ => cases htf

/-- Every slot in use in a reachable pool holds a mount. -/
theorem reach_used_mnt {P : Pool → Op → Prop} (hr : Reach K P s) (hj : (s.fh j).used) :
    (s.fh j).mnt.isSome := by
  induction hr generalizing j with
  | init => exact absurd hj Bool.false_ne_true
  | @step s s' op x hr _ h ih =>
    cases hh : op.hnd with
    | some _ =>
      obtain ⟨hu, hm⟩ := step_used_mnt (reach_ownTables hr) (by rw [hh]; rfl) h hj
      exact hm ▸ ih hu
    | none =>
      cases op with
      | fatOpen vfs fn flags r =>
        cases hu : (s.fh j).used
        · obtain ⟨m, -, -, -, hm⟩ := fatOpen_taken (Option.some.inj h) hj hu
          rw [hm]; rfl
        · rw [fatOpen_used_fh (Option.some.inj h) hu]
          exact ih hu
      | _ => cases hh

end Pool

/-! ## §3  One step -/

section Step

variable {K : HostFlags} {geom : Dev → DevGeom} {P : Pool → Op → Prop} {sys sys' : Sys n}
  {sop : SOp n} {o : Option Out}

/-- A descriptor in use reads through its pointer what its copy holds. -/
theorem Coherent.seen {op : Op} (hc : Coherent geom sys) (ho : OnOpenDesc sys.pool op) :
    sys.seen geom op = sys.pool := by
  rcases hh : op.hnd with _ | hnd
  · simp only [Sys.seen, hh, Option.none_bind]
  obtain ⟨fd, rfl, hu⟩ := ho _ hh
  simp only [Sys.seen, hh, Option.some_bind, fatGetHnd_desc, ← hc fd hu]
  exact Pool.set_self _ _

theorem openMntOf_of_used {s : Pool} {mntOf : Fin maxFatFiles → Option (Fin n)} {i : Fin n}
    {rc : FResult} {j : Fin maxFatFiles} (hu : (s.fh j).used) : openMntOf s mntOf i rc j = mntOf j := by
  unfold openMntOf
  rcases hfd : firstFree s with _ | fd
  · rfl
  · refine Function.update_noteq (fun he => ?_) _ _
    rw [he, firstFree_used hfd] at hu
    exact Bool.false_ne_true hu

/-- Everything one step of the adapter can do: a registry operation, which leaves
the pool and the pointers alone; a `fat_open` on a slot with a handler and a view,
which points the descriptor it takes at that slot; or a descriptor operation on
the pool as its own slot's pointer shows it. -/
theorem sstep_cases (h : sstep K geom sys sop = some (sys', o)) :
    (∃ op reg, sop = .reg op ∧ rstep sys.reg op = some reg ∧ sys' = { sys with reg := reg } ∧
        o = none) ∨
    (∃ i fn flags r m, sop = .fatOpen i fn flags r ∧ (sys.reg.mnt i).vfsh.isSome ∧
        mntView geom sys.reg i = some m ∧
        sys' = { sys with pool := (fatOpen K sys.pool (some m) fn flags r).1,
                          mntOf := openMntOf sys.pool sys.mntOf i r.chdrive } ∧
        o = some (fatOpen K sys.pool (some m) fn flags r).2) ∨
    (∃ op p, sop = .hnd op ∧ op.hnd.isSome ∧ step K (sys.seen geom op) op = some p ∧
        sys' = { sys with pool := p.1 } ∧ o = some p.2) := by
  cases sop with
  | reg op =>
    obtain ⟨reg', hr, he⟩ := Option.map_eq_some'.mp h
    cases he
    exact .inl ⟨op, reg', rfl, hr, rfl, rfl⟩
  | fatOpen i fn flags r =>
    rcases hv : (sys.reg.mnt i).vfsh with _ | v <;>
      rcases hm : mntView geom sys.reg i with _ | m <;>
      simp only [sstep, hv, hm, reduceCtorEq] at h
    cases h
    exact .inr (.inl ⟨i, fn, flags, r, m, rfl, by rw [hv]; rfl, hm, rfl, rfl⟩)
  | hnd op =>
    rcases hh : op.hnd with _ | hnd <;> simp only [sstep, hh, reduceCtorEq] at h
    obtain ⟨p, hp, he⟩ := Option.map_eq_some'.mp h
    cases he
    exact .inr (.inr ⟨op, p, rfl, by rw [hh]; rfl, hp, rfl, rfl⟩)

/-- One admitted step of the adapter is one step of the copy model, or leaves the
pool alone. -/
theorem sstep_poolStep (hc : Coherent geom sys) (ha : SAdmits geom P sys sop)
    (h : sstep K geom sys sop = some (sys', o)) :
    poolStep K sys.pool (sop.poolOp geom sys.reg) = some (sys'.pool, o) := by
  rcases sstep_cases h with ⟨op, reg, rfl, -, rfl, rfl⟩ | ⟨i, fn, flags, r, m, rfl, -, hm, rfl, rfl⟩ |
      ⟨op, p, rfl, -, hp, rfl, rfl⟩
  · rfl
  · simp only [SOp.poolOp, hm, poolStep, step, Option.map_some']
  · rw [hc.seen ha.2] at hp
    simp only [SOp.poolOp, poolStep, hp, Option.map_some']

/-- **Every admitted step keeps the copies coherent.** -/
theorem Coherent.step (hc : Coherent geom sys) (ho : OwnTables sys.pool) (ha : SAdmits geom P sys sop)
    (h : sstep K geom sys sop = some (sys', o)) : Coherent geom sys' := by
  rcases sstep_cases h with ⟨op, reg', rfl, hr, rfl, -⟩ | ⟨i, fn, flags, r, m, rfl, -, hm, rfl, -⟩ |
      ⟨op, p, rfl, hh, hp, rfl, -⟩
  · intro j hj
    rw [hc j hj]
    unfold Sys.ptrView
    rcases hm : sys.mntOf j with _ | i
    · rfl
    · exact (ha reg' hr j i hj hm).symm
  · intro j hj
    have ho := (Prod.mk.eta (p := fatOpen K sys.pool (some m) fn flags r)).symm
    cases hu : (sys.pool.fh j).used
    · obtain ⟨m', hm', hfd, hcd, hj'⟩ := fatOpen_taken ho hj hu
      cases hm'
      simp only [Sys.ptrView, openMntOf, hfd, hcd, Function.update_same, if_true,
        Option.some_bind, hm, hj']
    · simp only [Sys.ptrView, openMntOf_of_used hu, fatOpen_used_fh ho hu]
      exact hc j hu
  · rw [hc.seen ha.2] at hp
    intro j hj
    obtain ⟨hu, hm⟩ := step_used_mnt ho hh hp hj
    exact hm.trans (hc j hu)

/-- A run of the copy model grows by the pool step of an admitted operation. -/
theorem Reach.poolStep {s s' : Pool} {oop : Option Op} (hr : Reach K P s)
    (hp : ∀ op, oop = some op → P s op) (h : poolStep K s oop = some (s', o)) : Reach K P s' := by
  cases oop with
  | none => cases h; exact hr
  | some op =>
    obtain ⟨p, hs, he⟩ := Option.map_eq_some'.mp h
    cases he
    exact .step hr (hp op rfl) hs

theorem SAdmits.pool (ha : SAdmits geom P sys sop) :
    ∀ op, sop.poolOp geom sys.reg = some op → P sys.pool op := by
  intro op hop
  cases sop with
  | reg => cases hop
  | fatOpen => cases hop; exact ha
  | hnd => cases hop; exact ha.1

end Step

/-! ## §4  Runs -/

section Run

variable {K : HostFlags} {geom : Dev → DevGeom} {P : Pool → Op → Prop} {sys sys' : Sys n}
  {sop : SOp n} {o : Option Out}

/-- Every reachable state of the adapter is coherent, and its pool is one the copy
model reaches. -/
theorem SReach.inv (h : SReach K geom P sys) : Coherent geom sys ∧ Reach K P sys.pool := by
  induction h with
  | boot => exact ⟨fun _ hj => absurd hj Bool.false_ne_true, .init⟩
  | step _ ha hs ih =>
    exact ⟨ih.1.step (reach_ownTables ih.2) ha hs,
      ih.2.poolStep ha.pool (sstep_poolStep ih.1 ha hs)⟩

/-- **Mounting never disturbs an open descriptor.** In every reachable state,
`fs_fat_mount` changes only a slot with no device and no device array, and no open
descriptor points at such a slot: the refinement admits every mount. -/
theorem mount_admitted (h : SReach K geom P sys) (mp : String) (pio : Dev) (dma : Option Dev)
    (r : MountReplies) : SAdmits geom P sys (.reg (.mount mp pio dma r)) := by
  intro reg' hr j i hj hm
  rw [rstep_mount hr]
  obtain ⟨hc, hreach⟩ := h.inv
  rcases fsFatMount_spec (Prod.mk.eta (p := fsFatMount sys.reg mp pio dma r)).symm with
    ⟨he, -⟩ | ⟨i', -, hfree, hat, -⟩
  · rw [he]
  by_cases hi : i = i'
  · subst hi
    have hmnt := reach_used_mnt hreach hj
    rw [hc j hj] at hmnt
    simp [Sys.ptrView, hm, mntView, firstFreeMnt_dev hfree] at hmnt
  · exact mntView_congr (hat.mnt i hi) hat.devs

/-- With descriptor 1 open on `/sd`, mounting `/ide` is admitted. -/
theorem mount_admitted_ide :
    (sdOpen.pool.fh 0).used ∧ sdOpen.mntOf 0 = some 0 ∧
      SAdmits sampleGeom (fun _ _ => True) sdOpen (.reg (.mount "/ide" (.ext 1) none mountOk)) :=
  ⟨rfl, rfl, mount_admitted sreach_sdOpen _ _ _ _⟩

end Run

end DcFatfs
