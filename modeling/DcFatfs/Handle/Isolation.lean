import DcFatfs.Handle.Linkmap

/-!
# Descriptors do not interfere

Every operation but `fat_open` works on the one slot its descriptor names
(`FAT_GET_HND`), and there only on the file object, the link-map tables and the
directory entry. Two facts follow, over every run from `fs_fat_init` and every
interleaving of operations on different descriptors:

- **Isolation** (`descriptor_isolation`): a run of operations none of which names
  an open descriptor `d` — on other open descriptors, on closed ones, `fat_open`
  and `fat_close` of others included — leaves `d`'s slot exactly as it was, so
  `fat_tell`, `fat_total`, `fat_fcntl` and `fat_fstat` on `d` answer as before.
- **Identity** (`open_flags_kept`): a run that does not close `d` leaves `d` in use
  with the type, the open flags and the mount `fat_open` gave it, so `F_GETFL`
  returns the flags `d` was opened with.

Isolation rests on one invariant of the pool (`OwnTables`): a slot's table pointer
names no other slot's inline table. `f_lseek` writes the first cell of the table
the slot points at, so a slot pointing into another slot's inline table would
write into that slot. `fat_create_linkmap` only ever attaches a slot's own inline
table, so every run keeps the invariant (`reach_ownTables`). Heap blocks are fresh
addresses in this model and never reused: a stale descriptor's write into a freed
block is not seen here as a write into another descriptor's table.
-/

namespace DcFatfs

variable {K : HostFlags} {s s' s₁ : Pool} {fd i : Fin maxFatFiles} {o : Option (Fin maxFatFiles)}

/-! ## §1  A slot's identity, and the tables it may point at -/

/-- What `fat_open` gives a slot: whether it is in use, its type, the flags it was
opened with and the mount it was opened on. -/
structure SlotIdent where
  used : Bool
  type : StatType
  mode : Nat
  mnt : Option MntCtx
  deriving DecidableEq

def Fatfs.ident (sf : Fatfs) : SlotIdent := ⟨sf.used, sf.type, sf.mode, sf.mnt⟩

/-- No slot's table pointer names another slot's inline table. -/
def OwnTables (s : Pool) : Prop := ∀ i j, (s.fh i).fil.cltbl = .lktbl j → j = i

theorem ownTables_init : OwnTables Pool.init := fun _ _ h => Ptr.noConfusion h

/-- `s'` differs from `s` only in slot `o`, the one an operation's descriptor names
(in no slot when it names none), and there only in the file object, the tables
and the directory entry: every slot keeps its identity, and no table pointer comes
to name another slot's inline table. -/
structure Confined (o : Option (Fin maxFatFiles)) (s s' : Pool) : Prop where
  others : ∀ i, o ≠ some i → s'.fh i = s.fh i
  ident : ∀ i, (s'.fh i).ident = (s.fh i).ident
  own : OwnTables s → OwnTables s'

theorem Confined.refl (o : Option (Fin maxFatFiles)) (s : Pool) : Confined o s s :=
  ⟨fun _ _ => rfl, fun _ => rfl, id⟩

theorem Confined.trans (h₁ : Confined o s s₁) (h₂ : Confined o s₁ s') : Confined o s s' :=
  ⟨fun i hi => (h₂.others i hi).trans (h₁.others i hi), fun i => (h₂.ident i).trans (h₁.ident i),
    h₂.own ∘ h₁.own⟩

theorem Confined.of_fh (h : Confined o s s₁) (he : s'.fh = s₁.fh) : Confined o s s' :=
  ⟨fun i hi => he ▸ h.others i hi, fun i => he ▸ h.ident i,
    fun hs i j hj => h.own hs i j (he ▸ hj)⟩

theorem Confined.of_eq {p : Pool × Out} {x : Out} (hc : Confined o s p.1) (h : p = (s', x)) :
    Confined o s s' := by subst h; exact hc

theorem confined_log (o : Option (Fin maxFatFiles)) (s : Pool) (e : Event) : Confined o s (s.log e) :=
  ⟨fun _ _ => rfl, fun _ => rfl, id⟩

/-- Rewriting slot `fd` with a record of the same identity whose table pointer is the
old one or names no other slot's inline table. -/
theorem confined_set {sf : Fatfs} (hi : sf.ident = (s.fh fd).ident)
    (hc : ∀ j, sf.fil.cltbl = .lktbl j → (s.fh fd).fil.cltbl = .lktbl j ∨ j = fd) :
    Confined (some fd) s (s.set fd sf) := by
  refine ⟨fun i hi' => Pool.set_fh_ne s sf fun h => hi' (by rw [h]), fun i => ?_, fun ho i j h => ?_⟩
  · by_cases h : i = fd
    · subst h; rw [Pool.set_fh_self, hi]
    · rw [Pool.set_fh_ne s sf h]
  · by_cases h' : i = fd
    · subst h'
      rw [Pool.set_fh_self] at h
      exact (hc j h).elim (ho i j) id
    · rw [Pool.set_fh_ne s sf h'] at h
      exact ho i j h

/-- Rewriting slot `fd`'s file object or directory entry and nothing else. -/
theorem confined_set_same {sf : Fatfs} (hi : sf.ident = (s.fh fd).ident)
    (hc : sf.fil.cltbl = (s.fh fd).fil.cltbl) : Confined (some fd) s (s.set fd sf) :=
  confined_set hi fun _ h => .inl (hc ▸ h)

theorem confined_setCltbl {p : Ptr} (hp : ∀ j, p = .lktbl j → j = fd) :
    Confined (some fd) s (s.setCltbl fd p) :=
  confined_set rfl fun j h => .inr (hp j h)

theorem confined_writeCell0 {v : Nat} {t : Ptr} (ht : ∀ j, t = .lktbl j → j = fd) :
    Confined (some fd) s (s.writeCell0 v t) := by
  cases t with
  | null => exact .refl _ s
  | lktbl j => obtain rfl := ht j rfl; exact confined_set_same rfl rfl
  | heap p => exact ⟨fun _ _ => rfl, fun _ => rfl, id⟩

/-- An `f_lseek` on slot `fd` stays on `fd`, as long as `fd`'s table is not another
slot's inline one. -/
theorem confined_lseek {off : Nat} {r : LseekReply}
    (h : ∀ j, (s.fh fd).fil.cltbl = .lktbl j → j = fd) : Confined (some fd) s (s.lseek fd off r) := by
  have hb : Confined (some fd) s ((s.log (.engine (.lseek fd off (s.fh fd).fil.cltbl
      (s.cell0 (s.fh fd).fil.cltbl)))).set fd
      { s.fh fd with fil := { (s.fh fd).fil with fptr := r.fptr, fsize := r.fsize } }) :=
    (confined_log _ s _).trans (confined_set_same rfl rfl)
  unfold Pool.lseek
  split
  · exact hb
  · exact hb.trans (confined_writeCell0 h)

/-! ## §2  Every operation but `fat_open` and `fat_close` stays on its slot -/

theorem confined_attachLktbl (s : Pool) (fd : Fin maxFatFiles) :
    Confined (some fd) s (attachLktbl s fd) :=
  confined_set rfl fun _ h => .inr (Ptr.lktbl.inj h).symm

theorem confined_attachHeap (s : Pool) (fd : Fin maxFatFiles) (n : Nat) :
    Confined (some fd) s (attachHeap s fd n) :=
  ((confined_log _ s _).trans (confined_setCltbl fun _ h => Ptr.noConfusion h)).of_fh rfl

theorem linkmapRetry_confined {c : Bool} {r : LseekReply} {p : Pool × FResult}
    (h : linkmapRetry s fd c r = some p) : Confined (some fd) s p.1 := by
  have hh : Confined (some fd) s ((attachHeap s fd (s.cell0 (s.fh fd).fil.cltbl)).lseek fd
      createLinkmap r) :=
    (confined_attachHeap s fd _).trans (confined_lseek fun _ h => by simp at h)
  unfold linkmapRetry at h
  cases c
  · obtain rfl := Option.some.inj h
    exact (confined_log _ s _).trans (confined_setCltbl fun _ h => Ptr.noConfusion h)
  dsimp only [Bool.not_true] at h
  by_cases h0 : s.cell0 (s.fh fd).fil.cltbl = 0
  · rw [if_pos h0] at h; cases h
  rw [if_neg h0] at h
  by_cases hr : r.rc = .ok
  · rw [if_pos hr] at h; obtain rfl := Option.some.inj h; exact hh
  · rw [if_neg hr] at h; obtain rfl := Option.some.inj h
    exact (hh.trans (confined_log _ _ _)).trans (confined_setCltbl fun _ h => Ptr.noConfusion h)

/-- A link-map build stays on its slot: the only inline table it attaches is the
slot's own. -/
theorem fatCreateLinkmap_confined {r : LinkmapReplies} {p : Pool × FResult}
    (h : fatCreateLinkmap s fd r = some p) : Confined (some fd) s p.1 := by
  have hb : Confined (some fd) s ((attachLktbl s fd).lseek fd createLinkmap r.first) :=
    (confined_attachLktbl s fd).trans
      (confined_lseek fun _ h => (Ptr.lktbl.inj ((attachLktbl_cltbl s fd).symm.trans h)).symm)
  unfold fatCreateLinkmap at h
  by_cases hc : (s.fh fd).fil.cltbl ≠ .null
  · rw [if_pos hc] at h; obtain rfl := Option.some.inj h; exact .refl _ s
  rw [if_neg hc] at h
  dsimp only at h
  by_cases h1 : r.first.rc = .notEnoughCore
  · rw [if_pos h1] at h; exact hb.trans (linkmapRetry_confined h)
  rw [if_neg h1] at h
  by_cases h2 : r.first.rc ≠ .ok
  · rw [if_pos h2] at h; obtain rfl := Option.some.inj h
    exact hb.trans (confined_setCltbl fun _ h => Ptr.noConfusion h)
  · rw [if_neg h2] at h; obtain rfl := Option.some.inj h; exact hb

theorem fatReadRest_confined (s : Pool) (fd : Fin maxFatFiles) (size : Nat) (r : ReadReply) :
    Confined (some fd) s (fatReadRest s fd size r).1 := by
  unfold fatReadRest
  split_ifs
  · exact .refl _ s
  all_goals exact (confined_log _ s _).trans (confined_set_same rfl rfl)

theorem fatRead_confined {hnd : Int} {size : Nat} {lm : LinkmapReplies} {r : ReadReply} {x : Out}
    (h : fatRead K s hnd size lm r = some (s', x)) : Confined (fatGetHnd hnd) s s' := by
  unfold fatRead at h
  split at h
  · obtain ⟨rfl, rfl⟩ := Prod.mk.inj (Option.some.inj h); exact .refl _ s
  rename_i fd hfd
  rw [hfd]
  dsimp only at h
  split at h
  · cases h
  · exact (fatReadRest_confined s fd size r).of_eq (Option.some.inj h)
  · obtain ⟨p, hb, hr⟩ := Option.map_eq_some'.mp h
    exact (fatCreateLinkmap_confined hb).trans ((fatReadRest_confined p.1 fd size r).of_eq hr)

theorem fatWrite_confined (s : Pool) (hnd : Int) (r : WriteReply) :
    Confined (fatGetHnd hnd) s (fatWrite s hnd r).1 := by
  unfold fatWrite
  split
  · exact .refl _ s
  rename_i fd hfd
  rw [hfd]
  split_ifs <;> exact (confined_log _ s _).trans (confined_set_same rfl rfl)

/-- `fat_seek` stays on its slot in a pool where no table pointer names another
slot's inline table. -/
theorem fatSeek_confined (ho : OwnTables s) (hnd offset whence : Int) (r : LseekReply) :
    Confined (fatGetHnd hnd) s (fatSeek s hnd offset whence r).1 := by
  unfold fatSeek
  split
  · exact .refl _ s
  rename_i fd hfd
  rw [hfd]
  split
  · exact .refl _ s
  · split_ifs <;> exact confined_lseek (ho fd)

theorem fatReaddir_confined (s : Pool) (hnd : Int) (r : ReaddirReply) :
    Confined (fatGetHnd hnd) s (fatReaddir K s hnd r).1 := by
  unfold fatReaddir
  rcases fatGetHnd hnd with _ | fd
  · exact .refl _ s
  have h₀ : Confined (some fd) s ((s.set fd { s.fh fd with dent := .zero }).log
      (.engine (.readdir fd))) := by
    refine (confined_set_same ?_ ?_).trans (confined_log _ _ _) <;> rfl
  dsimp only
  by_cases hrc : r.rc ≠ .ok
  · rw [if_pos hrc]; exact h₀
  rw [if_neg hrc]
  by_cases hf : r.fname = ""
  · rw [if_pos hf]; refine h₀.trans (confined_set_same ?_ ?_) <;> rfl
  · rw [if_neg hf]
    refine (h₀.trans (confined_set_same ?_ ?_)).trans (confined_set_same ?_ ?_) <;> rfl

theorem fatRewinddir_confined (s : Pool) (hnd : Int) (rc : FResult) :
    Confined (fatGetHnd hnd) s (fatRewinddir s hnd rc).1 := by
  unfold fatRewinddir
  split
  · exact .refl _ s
  · split_ifs <;> exact confined_log _ s _

theorem fatComplete_confined (s : Pool) (hnd : Int) (rc : FResult) :
    Confined (fatGetHnd hnd) s (fatComplete s hnd rc).1 := by
  unfold fatComplete
  split
  · exact .refl _ s
  · split_ifs <;> exact confined_log _ s _

theorem fatIoctl_confined {hnd : Int} {cmd : IoctlCmd} {r : IoctlReplies} {x : Out}
    (h : fatIoctl s hnd cmd r = some (s', x)) : Confined (fatGetHnd hnd) s s' := by
  unfold fatIoctl at h
  split at h
  · obtain ⟨rfl, rfl⟩ := Prod.mk.inj (Option.some.inj h); exact .refl _ s
  rename_i fd hfd
  rw [hfd]
  dsimp only at h
  split at h
  all_goals obtain ⟨p, hp, hd⟩ := Option.map_eq_some'.mp h
  all_goals obtain ⟨rfl, rfl⟩ := Prod.mk.inj hd
  · exact confined_log _ s _
  · exact confined_log _ s _
  · exact fatCreateLinkmap_confined hp
  · exact confined_log _ s _

/-- **One operation other than `fat_open` and `fat_close` stays on the slot its
descriptor names**, in a pool where no table pointer names another slot's inline
table. -/
theorem step_confined {op : Op} {x : Out} (ho : OwnTables s) (hop : op.takesOrFrees = false)
    (h : step K s op = some (s', x)) : Confined (op.hnd.bind fatGetHnd) s s' := by
  cases op with
  | fatOpen | fatClose => cases hop
  | fatRead hnd size lm r => exact fatRead_confined h
  | fatIoctl hnd cmd r => exact fatIoctl_confined h
  | fatWrite hnd r => exact (fatWrite_confined s hnd r).of_eq (Option.some.inj h)
  | fatSeek hnd offset whence r =>
    exact (fatSeek_confined ho hnd offset whence r).of_eq (Option.some.inj h)
  | fatReaddir hnd r => exact (fatReaddir_confined s hnd r).of_eq (Option.some.inj h)
  | fatRewinddir hnd rc => exact (fatRewinddir_confined s hnd rc).of_eq (Option.some.inj h)
  | fatComplete hnd rc => exact (fatComplete_confined s hnd rc).of_eq (Option.some.inj h)
  | fatTell hnd | fatTotal hnd | fatFcntl hnd _ =>
    obtain ⟨rfl, rfl⟩ := Prod.mk.inj (Option.some.inj h); exact .refl _ s
  | fatFstat hnd =>
    obtain ⟨_, -, hp⟩ := Option.map_eq_some'.mp h
    obtain ⟨rfl, rfl⟩ := Prod.mk.inj hp; exact .refl _ s

/-! ## §3  `fat_open` and `fat_close` -/

@[simp] theorem Pool.writeCell0_ident (s : Pool) (v : Nat) (t : Ptr) (i : Fin maxFatFiles) :
    ((s.writeCell0 v t).fh i).ident = (s.fh i).ident := by
  cases t with
  | lktbl j => by_cases h : i = j <;> simp [Pool.writeCell0, Pool.set_fh, h, Fatfs.ident]
  | _ => rfl

@[simp] theorem Pool.lseek_ident (s : Pool) (fd i : Fin maxFatFiles) (off : Nat) (r : LseekReply) :
    ((s.lseek fd off r).fh i).ident = (s.fh i).ident := by
  unfold Pool.lseek
  split
  · by_cases h : i = fd <;> simp [Pool.set_fh, h, Fatfs.ident]
  · rw [Pool.writeCell0_ident]
    by_cases h : i = fd <;> simp [Pool.set_fh, h, Fatfs.ident]

@[simp] theorem Pool.lseek_mode (s : Pool) (fd i : Fin maxFatFiles) (off : Nat) (r : LseekReply) :
    ((s.lseek fd off r).fh i).mode = (s.fh i).mode := congrArg SlotIdent.mode (s.lseek_ident fd i off r)

@[simp] theorem Pool.lseek_mnt (s : Pool) (fd i : Fin maxFatFiles) (off : Nat) (r : LseekReply) :
    ((s.lseek fd off r).fh i).mnt = (s.fh i).mnt := congrArg SlotIdent.mnt (s.lseek_ident fd i off r)

/-- The file branch of `fat_open` keeps the flags and the mount the slot was given. -/
theorem fatOpenFile_mode_mnt {path : String} {flags : Nat} {fa : FaFlags} {r : OpenReplies}
    {x : Out} (h : fatOpenFile K s fd path flags fa r = (s', x)) :
    (s'.fh fd).mode = (s.fh fd).mode ∧ (s'.fh fd).mnt = (s.fh fd).mnt := by
  unfold fatOpenFile at h
  dsimp only at h
  by_cases hf : r.fopen ≠ .ok
  · rw [if_pos hf] at h
    obtain ⟨rfl, -⟩ := Prod.mk.inj h
    simp only [Pool.set_fh_self, Pool.log_fh, and_self]
  rw [if_neg hf] at h
  obtain ⟨rfl, -⟩ := Prod.mk.inj h
  simp only [Pool.set_fh_self, apply_ite (fun t : Pool => t.fh fd), apply_ite Fatfs.mode,
    apply_ite Fatfs.mnt, Pool.log_fh, Pool.lseek_mode, Pool.lseek_mnt, ite_self, and_self]

/-- A successful `fat_open` hands out a slot in use with the flags and the mount it
was called with. -/
theorem fatOpen_ident {m : MntCtx} {fn : Option String} {flags : Nat} {r : OpenReplies} {x : Out}
    (h : fatOpen K s (some m) fn flags r = (s', x)) (hx : x.ret ≠ 0) :
    ∃ fd : Fin maxFatFiles, x = ⟨fd.val + 1, none⟩ ∧ (s'.fh fd).used ∧
      (s'.fh fd).mode = flags ∧ (s'.fh fd).mnt = some m := by
  obtain ⟨-, -, ⟨h0, -⟩ | ⟨fd, hfd, -, ⟨h0, -⟩ | ⟨rfl, hu, -⟩⟩⟩ := fatOpen_spec h
  · exact absurd h0 hx
  · exact absurd h0 hx
  refine ⟨fd, rfl, hu, ?_⟩
  simp only [fatOpen, hfd] at h
  split_ifs at h
  · have := congrArg (fun p : Pool × Out => p.2.ret) h; dsimp only at this; omega
  · obtain ⟨-, hf | hf⟩ := fatOpenDir_spec h
    · have := hf.1; dsimp only at this; omega
    · rw [hf.2]; simp [Fatfs.zero]
  split at h
  · have := congrArg (fun p : Pool × Out => p.2.ret) h; dsimp only at this; omega
  · simpa [Fatfs.zero] using fatOpenFile_mode_mnt h

/-- `fat_open` changes no slot in use: it only takes the first free one. -/
theorem fatOpen_used_fh {vfs : Option MntCtx} {fn : Option String} {flags : Nat}
    {r : OpenReplies} {x : Out} (h : fatOpen K s vfs fn flags r = (s', x)) (hu : (s.fh i).used) :
    s'.fh i = s.fh i := by
  obtain ⟨-, -, ⟨-, rfl, -⟩ | ⟨fd, hfd, hoth, -⟩⟩ := fatOpen_spec h
  · rfl
  · refine hoth i fun he => ?_
    have := firstFree_used hfd
    simp_all

/-- After `fat_open` every slot's table pointer is the old one or null. -/
theorem fatOpen_cltbl {vfs : Option MntCtx} {fn : Option String} {flags : Nat}
    {r : OpenReplies} {x : Out} (h : fatOpen K s vfs fn flags r = (s', x)) (i : Fin maxFatFiles) :
    (s'.fh i).fil.cltbl = (s.fh i).fil.cltbl ∨ (s'.fh i).fil.cltbl = .null := by
  rcases vfs with _ | m
  · obtain ⟨rfl, -⟩ := Prod.mk.inj h; exact .inl rfl
  obtain ⟨-, -, ⟨-, rfl, -⟩ | ⟨fd, hfd, hoth, -⟩⟩ := fatOpen_spec h
  · exact .inl rfl
  by_cases hi : i = fd
  swap
  · exact .inl (by rw [hoth i hi])
  subst hi
  refine .inr ?_
  simp only [fatOpen, hfd] at h
  by_cases hc : r.chdrive ≠ .ok
  · rw [if_pos hc] at h; obtain ⟨rfl, -⟩ := Prod.mk.inj h; simp [Fatfs.zero, Fil.zero]
  rw [if_neg hc] at h
  by_cases hd : flags &&& K.oDir ≠ 0
  · rw [if_pos hd] at h
    rcases (fatOpenDir_spec h).2 with ⟨-, -, hf⟩ | ⟨-, hf⟩ <;> simp [hf, Fatfs.zero, Fil.zero]
  rw [if_neg hd] at h
  cases hfa : faFlagsOf K flags with
  | none => rw [hfa] at h; obtain ⟨rfl, -⟩ := Prod.mk.inj h; simp [Fatfs.zero, Fil.zero]
  | some fa => rw [hfa] at h; exact (fatOpenFile_spec (by simp [Fatfs.zero, Fil.zero]) h).2.1

/-- `fat_close` changes no slot but the one its descriptor names, and there only
`used`. -/
theorem fatClose_fh {hnd : Int} {rc : FResult} {x : Out} (h : fatClose s hnd rc = (s', x)) :
    (∀ i, fatGetHnd hnd ≠ some i → s'.fh i = s.fh i) ∧
      ∀ i, (s'.fh i).fil.cltbl = (s.fh i).fil.cltbl := by
  rcases fatClose_spec h with ⟨-, rfl, -⟩ | ⟨fd, hfd, hoth, hself, -⟩
  · exact ⟨fun _ _ => rfl, fun _ => rfl⟩
  refine ⟨fun i hi => hoth i fun he => hi (he ▸ hfd), fun i => ?_⟩
  by_cases he : i = fd
  · subst he; rw [hself]
  · rw [hoth i he]

/-! ## §4  Steps and runs -/

/-- **Every operation keeps every table pointer on its own slot.** -/
theorem ownTables_step {op : Op} {x : Out} (ho : OwnTables s) (h : step K s op = some (s', x)) :
    OwnTables s' := by
  cases hop : op.takesOrFrees
  · exact (step_confined ho hop h).own ho
  cases op with
  | fatOpen vfs fn flags r =>
    intro i j hj
    rcases fatOpen_cltbl (Option.some.inj h) i with hc | hc <;> rw [hc] at hj
    · exact ho i j hj
    · cases hj
  | fatClose hnd rc =>
    intro i j hj
    exact ho i j (((fatClose_fh (Option.some.inj h)).2 i).symm.trans hj)
  | _ => cases hop

theorem reach_ownTables {P : Pool → Op → Prop} (h : Reach K P s) : OwnTables s := by
  induction h with
  | init => exact ownTables_init
  | step _ _ hs ih => exact ownTables_step ih hs

/-- An operation that does not name `fd` leaves `fd`'s slot as it was, if `fd` is
in use. -/
theorem step_isolated {op : Op} {x : Out} (ho : OwnTables s) (hu : (s.fh fd).used)
    (hn : op.hnd ≠ some (fd.val + 1)) (h : step K s op = some (s', x)) : s'.fh fd = s.fh fd := by
  have hg : op.hnd.bind fatGetHnd ≠ some fd := by
    rcases hh : op.hnd with _ | hnd
    · exact Option.noConfusion
    · rw [hh] at hn
      exact fun he => hn (congrArg some (fatGetHnd_eq_some.mp he))
  cases hop : op.takesOrFrees
  · exact (step_confined ho hop h).others fd hg
  cases op with
  | fatOpen => exact fatOpen_used_fh (Option.some.inj h) hu
  | fatClose hnd rc => exact (fatClose_fh (Option.some.inj h)).1 fd hg
  | _ => cases hop

/-- An operation other than a `fat_close` of `fd` keeps the identity of `fd`'s slot,
if `fd` is in use. -/
theorem step_ident {op : Op} {x : Out} (ho : OwnTables s) (hu : (s.fh fd).used)
    (hn : ∀ rc, op ≠ .fatClose (fd.val + 1) rc) (h : step K s op = some (s', x)) :
    (s'.fh fd).ident = (s.fh fd).ident := by
  cases hop : op.takesOrFrees
  · exact (step_confined ho hop h).ident fd
  cases op with
  | fatOpen => rw [fatOpen_used_fh (Option.some.inj h) hu]
  | fatClose hnd rc =>
    refine congrArg Fatfs.ident ((fatClose_fh (Option.some.inj h)).1 fd fun he => ?_)
    exact hn rc (by rw [fatGetHnd_eq_some.mp he])
  | _ => cases hop

/-- A run none of whose operations names `fd` leaves `fd`'s slot as it was, if `fd`
is in use. -/
theorem exec_isolated {ops : List Op} {os : List Out} (ho : OwnTables s) (hu : (s.fh fd).used)
    (hops : ∀ op ∈ ops, op.hnd ≠ some (fd.val + 1)) (h : exec K s ops = some (s', os)) :
    s'.fh fd = s.fh fd := by
  induction ops generalizing s os with
  | nil => obtain ⟨rfl, -⟩ := Prod.mk.inj (Option.some.inj h); rfl
  | cons op ops ih =>
    obtain ⟨s₁, x, os', h₁, h₂, -⟩ := exec_cons_eq_some.mp h
    have e := step_isolated ho hu (hops op (.head _)) h₁
    rw [ih (ownTables_step ho h₁) (e ▸ hu) (fun op hm => hops op (.tail _ hm)) h₂, e]

/-- A run that does not close `fd` keeps the identity of `fd`'s slot, if `fd` is in
use. -/
theorem exec_ident {ops : List Op} {os : List Out} (ho : OwnTables s) (hu : (s.fh fd).used)
    (hops : ∀ op ∈ ops, ∀ rc, op ≠ .fatClose (fd.val + 1) rc) (h : exec K s ops = some (s', os)) :
    (s'.fh fd).ident = (s.fh fd).ident := by
  induction ops generalizing s os with
  | nil => obtain ⟨rfl, -⟩ := Prod.mk.inj (Option.some.inj h); rfl
  | cons op ops ih =>
    obtain ⟨s₁, x, os', h₁, h₂, -⟩ := exec_cons_eq_some.mp h
    have e := step_ident ho hu (hops op (.head _)) h₁
    have hu₁ : (s₁.fh fd).used := (congrArg SlotIdent.used e).trans hu
    rw [ih (ownTables_step ho h₁) hu₁ (fun op hm => hops op (.tail _ hm)) h₂, e]

/-! ## §5  What a caller sees -/

/-- **Descriptors are isolated.** In every pool reached from `fs_fat_init`, an open
descriptor `d` is not touched by any run of operations that does not name it:
operations on other open descriptors, on closed ones or out of range, `fat_open`
and `fat_close` of others, in any order and whatever the engine answers. Its slot
is as it was, and `fat_tell`, `fat_total`, `fat_fcntl` and `fat_fstat` on `d`
answer as before the run. -/
theorem descriptor_isolation {P : Pool → Op → Prop} {ops : List Op} {os : List Out}
    (hr : Reach K P s) (hu : (s.fh fd).used) (hops : ∀ op ∈ ops, op.hnd ≠ some (fd.val + 1))
    (h : exec K s ops = some (s', os)) :
    s'.fh fd = s.fh fd ∧ fatTell s' (fd.val + 1) = fatTell s (fd.val + 1) ∧
      fatTotal s' (fd.val + 1) = fatTotal s (fd.val + 1) ∧
      (∀ cmd, fatFcntl s' (fd.val + 1) cmd = fatFcntl s (fd.val + 1) cmd) ∧
      fatFstat s' (fd.val + 1) = fatFstat s (fd.val + 1) := by
  have e := exec_isolated (reach_ownTables hr) hu hops h
  simp only [fatTell, fatTotal, fatFcntl, fatFstat, fatGetHnd_desc, e, implies_true, and_self]

/-- Descriptor 1 open on `/a`. A second file is opened as descriptor 2, sought, read
with a heap link map built, closed, and sought again once closed: descriptor 1 is
untouched. -/
theorem descriptor_isolation_second_file :
    ∃ s s' os, Reach sampleFlags (fun _ _ => True) s ∧ (s.fh 0).used ∧
      exec sampleFlags s [.fatOpen (some sampleMnt) (some "/b") 0 sampleOpen,
        .fatSeek 2 100 seekSet ⟨.ok, 100, 4095, none⟩, .fatRead 2 512 growBuild ⟨.ok, 512, 612⟩,
        .fatClose 2 .ok, .fatSeek 2 0 seekSet ⟨.ok, 0, 4095, none⟩] = some (s', os) ∧
      s'.fh 0 = s.fh 0 ∧ fatTell s' 1 = fatTell s 1 ∧ fatTotal s' 1 = fatTotal s 1 ∧
      (∀ cmd, fatFcntl s' 1 cmd = fatFcntl s 1 cmd) ∧ fatFstat s' 1 = fatFstat s 1 := by
  have h₁ := Reach.step (P := fun _ _ => True) .init trivial
    (show step sampleFlags Pool.init (.fatOpen (some sampleMnt) (some "/a") 0 sampleOpen) =
      some (_, _) from rfl)
  exact ⟨_, _, _, h₁, rfl,
    (and_iff_left_of_imp fun h => descriptor_isolation h₁ (by rfl) (by decide) h).mpr rfl⟩

/-- **A descriptor keeps what `fat_open` gave it until it is closed.** From every
pool reached from `fs_fat_init`, a `fat_open` on a mount `m` that returns a
descriptor, followed by any run that does not close that descriptor, leaves it in
use, of the type it was opened as and on the mount `m`; `fcntl(F_GETFL)` on it
returns the flags it was opened with. -/
theorem open_flags_kept {P : Pool → Op → Prop} {m : MntCtx} {fn : Option String} {flags : Nat}
    {r : OpenReplies} {x : Out} {ops : List Op} {os : List Out} (hr : Reach K P s)
    (hopen : fatOpen K s (some m) fn flags r = (s₁, x)) (hx : x.ret ≠ 0)
    (hops : ∀ op ∈ ops, ∀ rc, op ≠ .fatClose x.ret rc) (h : exec K s₁ ops = some (s', os)) :
    ∃ fd : Fin maxFatFiles, x = ⟨fd.val + 1, none⟩ ∧ (s'.fh fd).used ∧
      (s'.fh fd).type = (s₁.fh fd).type ∧ (s'.fh fd).mnt = some m ∧
      fatFcntl s' x.ret .getfl = ⟨flags, none⟩ := by
  obtain ⟨fd, rfl, hu, hmode, hmnt⟩ := fatOpen_ident hopen hx
  have ho := ownTables_step (reach_ownTables hr) (show step K s (.fatOpen _ _ _ _) = some _ from
    congrArg some hopen)
  have e := exec_ident ho hu hops h
  have hu' : (s'.fh fd).used := (congrArg SlotIdent.used e).trans hu
  refine ⟨fd, rfl, hu', congrArg SlotIdent.type e, (congrArg SlotIdent.mnt e).trans hmnt, ?_⟩
  simp only [fatFcntl, fatGetHnd_desc, ← hmode]
  exact congrArg (fun n : Nat => (⟨n, none⟩ : Out)) (congrArg SlotIdent.mode e)

/-- `/a` opened read-only as descriptor 1, then read with a heap link map built,
sought, and a second file opened and closed: `F_GETFL` on descriptor 1 still
returns `O_RDONLY`. -/
theorem open_flags_kept_read_seek :
    ∃ s₁ x s' os, fatOpen sampleFlags Pool.init (some sampleMnt) (some "/a") sampleFlags.oRdonly
        sampleOpen = (s₁, x) ∧ x.ret ≠ 0 ∧
      exec sampleFlags s₁ [.fatRead 1 512 growBuild ⟨.ok, 512, 512⟩,
        .fatSeek 1 0 seekSet ⟨.ok, 0, 4095, none⟩, .fatOpen (some sampleMnt) (some "/b") 0 sampleOpen,
        .fatClose 2 .ok] = some (s', os) ∧
      ∃ fd : Fin maxFatFiles, x = ⟨fd.val + 1, none⟩ ∧ (s'.fh fd).used ∧
        (s'.fh fd).type = (s₁.fh fd).type ∧ (s'.fh fd).mnt = some sampleMnt ∧
        fatFcntl s' x.ret .getfl = ⟨sampleFlags.oRdonly, none⟩ := by
  exact ⟨_, _, _, _, rfl, by decide, (and_iff_left_of_imp fun h => @open_flags_kept sampleFlags .init _ _
    (fun _ _ => True) sampleMnt (some "/a") sampleFlags.oRdonly sampleOpen _ _ _ .init rfl (by decide)
    (fun _ hop _ he => by subst he; simp at hop) h).mpr rfl⟩

end DcFatfs
