import DcFatfs.Handle.Ops

/-!
# What each descriptor operation can do

The one place the definitions of `Ops` are unfolded. Every later result about the
pool is derived from these inversion lemmas:

- `fatCreateLinkmap_spec`: the four ways a build can touch the heap;
- `fatOpen_spec` and `fatClose_spec`: the only two operations that move a slot's
  `used` flag;
- `step_spec`: every other operation is, up to one link-map build, `Quiet` — it
  leaves every slot's use, type, work area and table pointer, the heap and the
  allocation trace alone.
-/

namespace DcFatfs

variable {K : HostFlags} {s s' s₁ : Pool} {fd i : Fin maxFatFiles}

/-! ## §1  The allocation trace -/

def Event.isEngine : Event → Bool
  | .engine _ => true
  | _ => false

/-- The trace without engine calls: every `calloc` and `free`, in order. -/
def Pool.allocs (s : Pool) : List Event := s.trace.filter fun e => !e.isEngine

namespace Pool

@[simp] theorem log_engine_allocs (s : Pool) (c : Call) :
    (s.log (.engine c)).allocs = s.allocs := by
  rw [allocs, log, List.filter_append]; exact List.append_nil _

@[simp] theorem log_calloc_allocs (s : Pool) (n : Nat) (a : Option Nat) :
    (s.log (.calloc n a)).allocs = s.allocs ++ [.calloc n a] := by
  rw [allocs, log, List.filter_append]; rfl

@[simp] theorem log_free_allocs (s : Pool) (p : Ptr) :
    (s.log (.free p)).allocs = s.allocs ++ [.free p] := by
  rw [allocs, log, List.filter_append]; rfl

@[simp] theorem set_allocs (s : Pool) (fd : Fin maxFatFiles) (sf : Fatfs) :
    (s.set fd sf).allocs = s.allocs := rfl

end Pool

/-! ## §2  Quiet steps -/

/-- `s'` differs from `s` in nothing the pool's invariants read: no slot's use,
type, work area or table pointer, neither the next heap address nor the
allocation trace. -/
structure Quiet (s s' : Pool) : Prop where
  used : ∀ i, (s'.fh i).used = (s.fh i).used
  type : ∀ i, (s'.fh i).type = (s.fh i).type
  fs : ∀ i, (s'.fh i).fil.fs = (s.fh i).fil.fs
  cltbl : ∀ i, (s'.fh i).fil.cltbl = (s.fh i).fil.cltbl
  brk : s'.brk = s.brk
  allocs : s'.allocs = s.allocs

theorem Quiet.refl (s : Pool) : Quiet s s := ⟨fun _ => rfl, fun _ => rfl, fun _ => rfl,
  fun _ => rfl, rfl, rfl⟩

theorem Quiet.trans (h₁ : Quiet s s₁) (h₂ : Quiet s₁ s') : Quiet s s' :=
  ⟨fun i => (h₂.used i).trans (h₁.used i), fun i => (h₂.type i).trans (h₁.type i),
    fun i => (h₂.fs i).trans (h₁.fs i), fun i => (h₂.cltbl i).trans (h₁.cltbl i),
    h₂.brk.trans h₁.brk, h₂.allocs.trans h₁.allocs⟩

theorem quiet_log_engine (s : Pool) (c : Call) : Quiet s (s.log (.engine c)) :=
  ⟨fun _ => rfl, fun _ => rfl, fun _ => rfl, fun _ => rfl, rfl, by simp⟩

/-- Rewriting a slot with a record that agrees with it on what `Quiet` reads. -/
theorem quiet_set {sf : Fatfs} (hu : sf.used = (s.fh fd).used) (ht : sf.type = (s.fh fd).type)
    (hf : sf.fil.fs = (s.fh fd).fil.fs) (hc : sf.fil.cltbl = (s.fh fd).fil.cltbl) :
    Quiet s (s.set fd sf) := by
  refine ⟨fun i => ?_, fun i => ?_, fun i => ?_, fun i => ?_, rfl, rfl⟩ <;>
    by_cases h : i = fd <;> simp_all

theorem quiet_writeCell0 (s : Pool) (v : Nat) (t : Ptr) : Quiet s (s.writeCell0 v t) := by
  cases t with
  | null => exact .refl s
  | lktbl j => exact quiet_set rfl rfl rfl rfl
  | heap p => exact ⟨fun _ => rfl, fun _ => rfl, fun _ => rfl, fun _ => rfl, rfl, rfl⟩

theorem quiet_lseek (s : Pool) (fd : Fin maxFatFiles) (off : Nat) (r : LseekReply) :
    Quiet s (s.lseek fd off r) := by
  have h : Quiet s ((s.log (.engine (.lseek fd off (s.fh fd).fil.cltbl
      (s.cell0 (s.fh fd).fil.cltbl)))).set fd
      { s.fh fd with fil := { (s.fh fd).fil with fptr := r.fptr, fsize := r.fsize } }) :=
    (quiet_log_engine s _).trans (quiet_set rfl rfl rfl rfl)
  unfold Pool.lseek
  split
  · exact h
  · exact h.trans (quiet_writeCell0 _ _ _)

namespace Pool

@[simp] theorem lseek_used (s : Pool) (fd i : Fin maxFatFiles) (off : Nat) (r : LseekReply) :
    ((s.lseek fd off r).fh i).used = (s.fh i).used := (quiet_lseek s fd off r).used i

@[simp] theorem lseek_type (s : Pool) (fd i : Fin maxFatFiles) (off : Nat) (r : LseekReply) :
    ((s.lseek fd off r).fh i).type = (s.fh i).type := (quiet_lseek s fd off r).type i

@[simp] theorem lseek_fs (s : Pool) (fd i : Fin maxFatFiles) (off : Nat) (r : LseekReply) :
    ((s.lseek fd off r).fh i).fil.fs = (s.fh i).fil.fs := (quiet_lseek s fd off r).fs i

@[simp] theorem lseek_cltbl (s : Pool) (fd i : Fin maxFatFiles) (off : Nat) (r : LseekReply) :
    ((s.lseek fd off r).fh i).fil.cltbl = (s.fh i).fil.cltbl := (quiet_lseek s fd off r).cltbl i

@[simp] theorem lseek_brk (s : Pool) (fd : Fin maxFatFiles) (off : Nat) (r : LseekReply) :
    (s.lseek fd off r).brk = s.brk := (quiet_lseek s fd off r).brk

@[simp] theorem lseek_allocs (s : Pool) (fd : Fin maxFatFiles) (off : Nat) (r : LseekReply) :
    (s.lseek fd off r).allocs = s.allocs := (quiet_lseek s fd off r).allocs

@[simp] theorem setCltbl_cltbl (s : Pool) (fd : Fin maxFatFiles) (p : Ptr) :
    ((s.setCltbl fd p).fh fd).fil.cltbl = p := by simp [setCltbl]

@[simp] theorem setCltbl_brk (s : Pool) (fd : Fin maxFatFiles) (p : Ptr) :
    (s.setCltbl fd p).brk = s.brk := rfl

@[simp] theorem setCltbl_allocs (s : Pool) (fd : Fin maxFatFiles) (p : Ptr) :
    (s.setCltbl fd p).allocs = s.allocs := rfl

end Pool

/-! ## §3  `fat_create_linkmap` -/

/-- `s'` differs from `s` at most in slot `fd`'s table pointer and on the heap:
every slot keeps its use, type and work area, every other slot its table. -/
structure Retable (fd : Fin maxFatFiles) (s s' : Pool) : Prop where
  used : ∀ i, (s'.fh i).used = (s.fh i).used
  type : ∀ i, (s'.fh i).type = (s.fh i).type
  fs : ∀ i, (s'.fh i).fil.fs = (s.fh i).fil.fs
  cltbl : ∀ i, i ≠ fd → (s'.fh i).fil.cltbl = (s.fh i).fil.cltbl

theorem Retable.refl (fd : Fin maxFatFiles) (s : Pool) : Retable fd s s :=
  ⟨fun _ => rfl, fun _ => rfl, fun _ => rfl, fun _ _ => rfl⟩

theorem Retable.trans (h₁ : Retable fd s s₁) (h₂ : Retable fd s₁ s') : Retable fd s s' :=
  ⟨fun i => (h₂.used i).trans (h₁.used i), fun i => (h₂.type i).trans (h₁.type i),
    fun i => (h₂.fs i).trans (h₁.fs i), fun i hi => (h₂.cltbl i hi).trans (h₁.cltbl i hi)⟩

theorem Quiet.retable (h : Quiet s s') (fd : Fin maxFatFiles) : Retable fd s s' :=
  ⟨h.used, h.type, h.fs, fun i _ => h.cltbl i⟩

theorem Retable.of_fh (h₁ : Retable fd s s₁) (h : s'.fh = s₁.fh) : Retable fd s s' :=
  ⟨fun i => h ▸ h₁.used i, fun i => h ▸ h₁.type i, fun i => h ▸ h₁.fs i,
    fun i hi => h ▸ h₁.cltbl i hi⟩

theorem retable_log (s : Pool) (fd : Fin maxFatFiles) (e : Event) : Retable fd s (s.log e) :=
  ⟨fun _ => rfl, fun _ => rfl, fun _ => rfl, fun _ _ => rfl⟩

/-- Rewriting slot `fd` with a record of the same use, type and work area. -/
theorem retable_set {sf : Fatfs} (hu : sf.used = (s.fh fd).used) (ht : sf.type = (s.fh fd).type)
    (hf : sf.fil.fs = (s.fh fd).fil.fs) : Retable fd s (s.set fd sf) := by
  refine ⟨fun i => ?_, fun i => ?_, fun i => ?_, fun i hi => by simp [hi]⟩ <;>
    by_cases h : i = fd <;> simp_all

theorem retable_setCltbl (s : Pool) (fd : Fin maxFatFiles) (p : Ptr) :
    Retable fd s (s.setCltbl fd p) := retable_set rfl rfl rfl

theorem retable_attachLktbl (s : Pool) (fd : Fin maxFatFiles) :
    Retable fd s (attachLktbl s fd) := retable_set rfl rfl rfl

theorem retable_attachHeap (s : Pool) (fd : Fin maxFatFiles) (n : Nat) :
    Retable fd s (attachHeap s fd n) :=
  ((retable_log s fd _).trans (retable_setCltbl _ fd _)).of_fh rfl

@[simp] theorem attachLktbl_cltbl (s : Pool) (fd : Fin maxFatFiles) :
    ((attachLktbl s fd).fh fd).fil.cltbl = .lktbl fd := by simp [attachLktbl]

@[simp] theorem attachLktbl_brk (s : Pool) (fd : Fin maxFatFiles) :
    (attachLktbl s fd).brk = s.brk := rfl

@[simp] theorem attachLktbl_allocs (s : Pool) (fd : Fin maxFatFiles) :
    (attachLktbl s fd).allocs = s.allocs := rfl

@[simp] theorem attachHeap_cltbl (s : Pool) (fd : Fin maxFatFiles) (n : Nat) :
    ((attachHeap s fd n).fh fd).fil.cltbl = .heap s.brk := by simp [attachHeap]

@[simp] theorem attachHeap_brk (s : Pool) (fd : Fin maxFatFiles) (n : Nat) :
    (attachHeap s fd n).brk = s.brk + 1 := rfl

@[simp] theorem attachHeap_allocs (s : Pool) (fd : Fin maxFatFiles) (n : Nat) :
    (attachHeap s fd n).allocs = s.allocs ++ [.calloc n (some s.brk)] :=
  Pool.log_calloc_allocs s n (some s.brk)

/-- What the retry can do, from a pool whose slot `fd` holds its inline table:
give up on a failed `calloc`, or attach the fresh block `brk` and keep it, or free
it at once. -/
theorem linkmapRetry_spec {c : Bool} {r : LseekReply} {rc : FResult}
    (h : linkmapRetry s fd c r = some (s', rc)) :
    Retable fd s s' ∧ ∃ n,
      (s'.allocs = s.allocs ++ [.calloc n none] ∧ s'.brk = s.brk ∧ rc ≠ .ok ∧
          (s'.fh fd).fil.cltbl = .null) ∨
      (s'.allocs = s.allocs ++ [.calloc n (some s.brk)] ∧ s'.brk = s.brk + 1 ∧ rc = .ok ∧
          (s'.fh fd).fil.cltbl = .heap s.brk) ∨
      (s'.allocs = s.allocs ++ [.calloc n (some s.brk), .free (.heap s.brk)] ∧
          s'.brk = s.brk + 1 ∧ rc ≠ .ok ∧ (s'.fh fd).fil.cltbl = .null) := by
  have hr : Retable fd s ((attachHeap s fd (s.cell0 (s.fh fd).fil.cltbl)).lseek fd
      createLinkmap r) :=
    (retable_attachHeap s fd _).trans ((quiet_lseek _ fd createLinkmap r).retable fd)
  unfold linkmapRetry at h
  dsimp only at h
  split_ifs at h with h0 h1 h2
  · obtain ⟨rfl, rfl⟩ := Prod.mk.inj (Option.some.inj h)
    exact ⟨(retable_log s fd _).trans (retable_setCltbl _ fd _), s.cell0 (s.fh fd).fil.cltbl,
      .inl ⟨by simp, rfl, by decide, by simp⟩⟩
  all_goals obtain ⟨rfl, rfl⟩ := Prod.mk.inj (Option.some.inj h)
  · exact ⟨hr, s.cell0 (s.fh fd).fil.cltbl, .inr (.inl ⟨by simp, by simp, rfl, by simp⟩)⟩
  · exact ⟨(hr.trans (retable_log _ fd _)).trans (retable_setCltbl _ fd _),
      s.cell0 (s.fh fd).fil.cltbl, .inr (.inr ⟨by simp, by simp, h2, by simp⟩)⟩

/-- Everything a link-map build can do. It keeps every slot's use, type and work
area and every other slot's table, and either returns at once on an attached
table, or — from a null table — ends in one of the heap outcomes: none (the inline
table kept, or dropped on an engine error), or, only after a first
`FR_NOT_ENOUGH_CORE`, one of the three of `linkmapRetry_spec`. -/
theorem fatCreateLinkmap_spec {r : LinkmapReplies} {rc : FResult}
    (h : fatCreateLinkmap s fd r = some (s', rc)) :
    Retable fd s s' ∧
    ((s' = s ∧ rc = .ok ∧ (s.fh fd).fil.cltbl ≠ .null) ∨
     ((s.fh fd).fil.cltbl = .null ∧
      ((s'.allocs = s.allocs ∧ s'.brk = s.brk ∧
          ((rc = .ok ∧ (s'.fh fd).fil.cltbl = .lktbl fd) ∨ (rc ≠ .ok ∧ (s'.fh fd).fil.cltbl = .null))) ∨
       (r.first.rc = .notEnoughCore ∧ ∃ n,
        (s'.allocs = s.allocs ++ [.calloc n none] ∧ s'.brk = s.brk ∧ rc ≠ .ok ∧
            (s'.fh fd).fil.cltbl = .null) ∨
        (s'.allocs = s.allocs ++ [.calloc n (some s.brk)] ∧ s'.brk = s.brk + 1 ∧ rc = .ok ∧
            (s'.fh fd).fil.cltbl = .heap s.brk) ∨
        (s'.allocs = s.allocs ++ [.calloc n (some s.brk), .free (.heap s.brk)] ∧
            s'.brk = s.brk + 1 ∧ rc ≠ .ok ∧ (s'.fh fd).fil.cltbl = .null))))) := by
  have hb : Retable fd s ((attachLktbl s fd).lseek fd createLinkmap r.first) :=
    (retable_attachLktbl s fd).trans ((quiet_lseek _ fd _ _).retable fd)
  unfold fatCreateLinkmap at h
  dsimp only at h
  split_ifs at h with h0 h1 h2
  · obtain ⟨rfl, rfl⟩ := Prod.mk.inj (Option.some.inj h)
    exact ⟨.refl fd s, .inl ⟨rfl, rfl, h0⟩⟩
  · obtain ⟨hr, n, hc⟩ := linkmapRetry_spec h
    exact ⟨hb.trans hr, .inr ⟨not_not.mp h0, .inr ⟨h1, n, by simpa using hc⟩⟩⟩
  all_goals obtain ⟨rfl, rfl⟩ := Prod.mk.inj (Option.some.inj h)
  · exact ⟨hb.trans (retable_setCltbl _ fd _), .inr ⟨not_not.mp h0,
      .inl ⟨by simp, by simp, .inr ⟨h2, by simp⟩⟩⟩⟩
  · exact ⟨hb, .inr ⟨not_not.mp h0, .inl ⟨by simp, by simp, .inl ⟨rfl, by simp⟩⟩⟩⟩

/-! ## §4  `fat_open` and `fat_close` -/

/-- `s'` differs from `s` only in slot `fd` and by engine calls. -/
structure Local (fd : Fin maxFatFiles) (s s' : Pool) : Prop where
  fh : ∀ i, i ≠ fd → s'.fh i = s.fh i
  brk : s'.brk = s.brk
  allocs : s'.allocs = s.allocs

theorem Local.refl (fd : Fin maxFatFiles) (s : Pool) : Local fd s s :=
  ⟨fun _ _ => rfl, rfl, rfl⟩

theorem Local.trans (h₁ : Local fd s s₁) (h₂ : Local fd s₁ s') : Local fd s s' :=
  ⟨fun i hi => (h₂.fh i hi).trans (h₁.fh i hi), h₂.brk.trans h₁.brk, h₂.allocs.trans h₁.allocs⟩

theorem local_set (s : Pool) (fd : Fin maxFatFiles) (sf : Fatfs) : Local fd s (s.set fd sf) :=
  ⟨fun _ hi => by simp [hi], rfl, rfl⟩

theorem local_log_engine (s : Pool) (fd : Fin maxFatFiles) (c : Call) :
    Local fd s (s.log (.engine c)) :=
  ⟨fun _ _ => rfl, rfl, by simp⟩

/-- An `f_lseek` on slot `fd` writes into no other slot, unless `fd`'s table is
another slot's inline one. -/
theorem local_lseek {off : Nat} {r : LseekReply}
    (h : ∀ j, (s.fh fd).fil.cltbl = .lktbl j → j = fd) : Local fd s (s.lseek fd off r) := by
  have hb := (local_log_engine s fd (.lseek fd off (s.fh fd).fil.cltbl
    (s.cell0 (s.fh fd).fil.cltbl))).trans (local_set _ fd
      { s.fh fd with fil := { (s.fh fd).fil with fptr := r.fptr, fsize := r.fsize } })
  unfold Pool.lseek
  split
  · exact hb
  · refine hb.trans ?_
    rcases ht : (s.fh fd).fil.cltbl with _ | j | p
    · exact .refl fd _
    · obtain rfl := h j ht
      exact local_set _ _ _
    · exact ⟨fun _ _ => rfl, rfl, rfl⟩

theorem lseek_fh_of_null {off : Nat} {r : LseekReply} (h : (s.fh fd).fil.cltbl = .null)
    (hi : i ≠ fd) : (s.lseek fd off r).fh i = s.fh i :=
  (local_lseek (by simp [h])).fh i hi

theorem fatOpenDir_spec {path : String} {rc : FResult} {o : Out}
    (h : fatOpenDir s fd path rc = (s', o)) :
    Local fd s s' ∧ ((o.ret = 0 ∧ o.errno ≠ some .enfile ∧ s'.fh fd = s.fh fd) ∨
      (o = ⟨fd.val + 1, none⟩ ∧ s'.fh fd = { s.fh fd with used := true, type := .dir })) := by
  unfold fatOpenDir at h
  split_ifs at h
  all_goals obtain ⟨rfl, rfl⟩ := Prod.mk.inj h
  · exact ⟨local_log_engine s fd _, .inl ⟨rfl, fatfsSetErrno_ne_enfile rc, rfl⟩⟩
  · exact ⟨(local_log_engine s fd _).trans (local_set _ fd _), .inr ⟨rfl, by simp⟩⟩

theorem fatOpenFile_spec {path : String} {flags : Nat} {fa : FaFlags} {r : OpenReplies}
    {o : Out} (hc : (s.fh fd).fil.cltbl = .null) (h : fatOpenFile K s fd path flags fa r = (s', o)) :
    Local fd s s' ∧ (s'.fh fd).fil.cltbl = .null ∧
      ((o.ret = 0 ∧ o.errno ≠ some .enfile ∧ (s'.fh fd).used = (s.fh fd).used) ∨
        (o = ⟨fd.val + 1, none⟩ ∧ (s'.fh fd).used = true ∧ (s'.fh fd).type = .file)) := by
  unfold fatOpenFile at h
  dsimp only at h
  split at h
  all_goals obtain ⟨rfl, rfl⟩ := Prod.mk.inj h
  · refine ⟨⟨fun i hi => ?_, rfl, by simp⟩, by simp [hc],
      .inl ⟨rfl, fatfsSetErrno_ne_enfile _, by simp⟩⟩
    simp [hi]
  · split_ifs
    all_goals refine ⟨⟨fun i hi => by simp only [Pool.log_fh, Pool.set_fh_self, Pool.set_fh_ne,
      Pool.lseek_type, lseek_fh_of_null, hc, hi, ne_eq, not_false_eq_true], ?_, ?_⟩, ?_,
      .inr ⟨rfl, ?_, ?_⟩⟩ <;>
      simp only [Pool.log_fh, Pool.set_fh_self, Pool.lseek_type, Pool.lseek_cltbl, Pool.set_brk,
        Pool.log_brk, Pool.lseek_brk, Pool.set_allocs, Pool.log_engine_allocs, Pool.lseek_allocs, hc]

theorem firstFree_used (h : firstFree s = some fd) : (s.fh fd).used = false := by
  simpa using List.find?_some h

theorem firstFree_eq_none : firstFree s = none ↔ ∀ i, (s.fh i).used = true := by
  simp [firstFree, List.find?_eq_none]

/-- Everything `fat_open` can do. It fails with the pool unchanged when there is no
mount (`ENOMEM`) or no free slot (`ENFILE`); otherwise it works on the first free
slot alone, and either fails with that slot still free (never with `ENFILE`), or
returns its descriptor with the slot in use, holding no table, as a file or as a
directory with no work area. -/
theorem fatOpen_spec {vfs : Option MntCtx} {fn : Option String} {flags : Nat}
    {r : OpenReplies} {o : Out} (h : fatOpen K s vfs fn flags r = (s', o)) :
    s'.brk = s.brk ∧ s'.allocs = s.allocs ∧
    ((o.ret = 0 ∧ s' = s ∧ (vfs = none ∧ o.errno = some .enomem ∨
        vfs.isSome ∧ firstFree s = none ∧ o.errno = some .enfile)) ∨
     (∃ fd, firstFree s = some fd ∧ (∀ i, i ≠ fd → s'.fh i = s.fh i) ∧
       ((o.ret = 0 ∧ o.errno ≠ some .enfile ∧ (s'.fh fd).used = false) ∨
        (o = ⟨fd.val + 1, none⟩ ∧ (s'.fh fd).used = true ∧ (s'.fh fd).fil.cltbl = .null ∧
          ((s'.fh fd).type = .file ∨ (s'.fh fd).type = .dir ∧ (s'.fh fd).fil.fs = none))))) := by
  rcases vfs with _ | mnt
  · obtain ⟨rfl, rfl⟩ := Prod.mk.inj h
    exact ⟨rfl, rfl, .inl ⟨rfl, rfl, .inl ⟨rfl, rfl⟩⟩⟩
  rcases hfd : firstFree s with _ | fd
  · simp only [fatOpen, hfd] at h
    obtain ⟨rfl, rfl⟩ := Prod.mk.inj h
    exact ⟨rfl, rfl, .inl ⟨rfl, rfl, .inr ⟨rfl, rfl, rfl⟩⟩⟩
  have hs₀ := (local_set s fd .zero).trans (local_log_engine _ fd (.chdrive mnt.devPath))
  have hs₁ := hs₀.trans (local_set _ fd { Fatfs.zero with mode := flags, mnt := some mnt })
  simp only [fatOpen, hfd] at h
  split_ifs at h
  · obtain ⟨rfl, rfl⟩ := Prod.mk.inj h
    exact ⟨hs₀.brk, hs₀.allocs, .inr ⟨fd, rfl, hs₀.fh,
      .inl ⟨rfl, fatfsSetErrno_ne_enfile _, by simp [Fatfs.zero]⟩⟩⟩
  · obtain ⟨hl, hd⟩ := fatOpenDir_spec h
    refine ⟨hl.brk.trans hs₁.brk, hl.allocs.trans hs₁.allocs, .inr ⟨fd, rfl,
      fun i hi => (hl.fh i hi).trans (hs₁.fh i hi), ?_⟩⟩
    rcases hd with ⟨h0, he, hf⟩ | ⟨h0, hf⟩
    · exact .inl ⟨h0, he, by simp [hf, Fatfs.zero]⟩
    · exact .inr ⟨h0, by simp [hf], by simp [hf, Fatfs.zero, Fil.zero],
        .inr ⟨by simp [hf], by simp [hf, Fatfs.zero, Fil.zero]⟩⟩
  split at h
  · obtain ⟨rfl, rfl⟩ := Prod.mk.inj h
    exact ⟨hs₁.brk, hs₁.allocs, .inr ⟨fd, rfl, hs₁.fh, .inl ⟨rfl, by decide, by simp [Fatfs.zero]⟩⟩⟩
  · obtain ⟨hl, hc, hd⟩ := fatOpenFile_spec (by simp [Fatfs.zero, Fil.zero]) h
    refine ⟨hl.brk.trans hs₁.brk, hl.allocs.trans hs₁.allocs, .inr ⟨fd, rfl,
      fun i hi => (hl.fh i hi).trans (hs₁.fh i hi), ?_⟩⟩
    rcases hd with ⟨h0, he, hu⟩ | ⟨h0, hu, ht⟩
    · exact .inl ⟨h0, he, by simp [hu, Fatfs.zero]⟩
    · exact .inr ⟨h0, hu, hc, .inl ht⟩

@[simp] theorem closeResult_fst (s : Pool) (rc : FResult) : (closeResult s rc).1 = s := by
  unfold closeResult; split_ifs <;> rfl

/-- Everything `fat_close` can do. A descriptor out of range changes nothing; any
other marks its slot free, whatever the slot held, and for a file slot frees the
table it points at unless that is null or the slot's own inline one. -/
theorem fatClose_spec {hnd : Int} {rc : FResult} {o : Out} (h : fatClose s hnd rc = (s', o)) :
    (fatGetHnd hnd = none ∧ s' = s ∧ o = badHnd (-1)) ∨
    (∃ fd, fatGetHnd hnd = some fd ∧ (∀ i, i ≠ fd → s'.fh i = s.fh i) ∧
      s'.fh fd = { s.fh fd with used := false } ∧ s'.brk = s.brk ∧
      s'.allocs = s.allocs ++ (if (s.fh fd).type = .file ∧ (s.fh fd).fil.cltbl ≠ .lktbl fd ∧
        (s.fh fd).fil.cltbl ≠ .null then [.free (s.fh fd).fil.cltbl] else [])) := by
  unfold fatClose at h
  rcases hg : fatGetHnd hnd with _ | fd <;> simp only [hg] at h
  · obtain ⟨rfl, rfl⟩ := Prod.mk.inj h
    exact .inl ⟨rfl, rfl, rfl⟩
  have hs := congrArg Prod.fst h
  simp only [Pool.set_fh_self] at hs
  refine .inr ⟨fd, rfl, ?_⟩
  split at hs
  · split_ifs at hs with hc <;> subst hs <;> simp_all
  all_goals subst hs; simp_all

/-! ## §5  The other operations -/

/-- The link-map replies an operation carries: `fat_read` and `fat_ioctl` are the
two entry points that may call `fat_create_linkmap`. -/
def Op.linkmap : Op → Option LinkmapReplies
  | .fatRead _ _ lm _ => some lm
  | .fatIoctl _ _ r => some r.linkmap
  | _ => none

/-- `fat_write` moves the cursor and the size, nothing `Quiet` reads. -/
theorem fatWrite_quiet (s : Pool) (hnd : Int) (r : WriteReply) : Quiet s (fatWrite s hnd r).1 := by
  unfold fatWrite
  split
  · exact .refl s
  · split_ifs <;> exact (quiet_log_engine s _).trans (quiet_set rfl rfl rfl rfl)

theorem fatSeek_quiet (s : Pool) (hnd offset whence : Int) (r : LseekReply) :
    Quiet s (fatSeek s hnd offset whence r).1 := by
  unfold fatSeek
  split
  · exact .refl s
  · split
    · exact .refl s
    · split_ifs <;> exact quiet_lseek s _ _ r

theorem fatReaddir_quiet (s : Pool) (hnd : Int) (r : ReaddirReply) :
    Quiet s (fatReaddir K s hnd r).1 := by
  unfold fatReaddir
  split
  · exact .refl s
  · rename_i fd _
    have h₀ : Quiet s ((s.set fd { s.fh fd with dent := .zero }).log (.engine (.readdir fd))) := by
      refine (quiet_set ?_ ?_ ?_ ?_).trans (quiet_log_engine _ _) <;> rfl
    dsimp only
    split
    · exact h₀
    split
    · refine h₀.trans (quiet_set ?_ ?_ ?_ ?_) <;> rfl
    · refine (h₀.trans (quiet_set ?_ ?_ ?_ ?_)).trans (quiet_set ?_ ?_ ?_ ?_) <;> rfl

theorem fatRewinddir_quiet (s : Pool) (hnd : Int) (rc : FResult) :
    Quiet s (fatRewinddir s hnd rc).1 := by
  unfold fatRewinddir
  split
  · exact .refl s
  · split_ifs <;> exact quiet_log_engine s _

theorem fatComplete_quiet (s : Pool) (hnd : Int) (rc : FResult) :
    Quiet s (fatComplete s hnd rc).1 := by
  unfold fatComplete
  split
  · exact .refl s
  · split_ifs <;> exact quiet_log_engine s _

theorem fatReadRest_quiet (s : Pool) (fd : Fin maxFatFiles) (size : Nat) (r : ReadReply) :
    Quiet s (fatReadRest s fd size r).1 := by
  unfold fatReadRest
  split_ifs
  · exact .refl s
  all_goals exact (quiet_log_engine s _).trans (quiet_set rfl rfl rfl rfl)

/-- `fat_read` is quiet but for the link-map build it may start on its own slot. -/
theorem fatRead_spec {hnd : Int} {size : Nat} {lm : LinkmapReplies} {r : ReadReply} {o : Out}
    (h : fatRead K s hnd size lm r = some (s', o)) :
    Quiet s s' ∨ ∃ fd s₁ rc, fatGetHnd hnd = some fd ∧
      fatCreateLinkmap s fd lm = some (s₁, rc) ∧ Quiet s₁ s' := by
  unfold fatRead at h
  split at h
  · obtain ⟨rfl, rfl⟩ := Prod.mk.inj (Option.some.inj h)
    exact .inl (.refl s)
  rename_i fd hfd
  dsimp only at h
  split at h
  · cases h
  · have hq := fatReadRest_quiet s fd size r
    rw [Option.some.inj h] at hq
    exact .inl hq
  · obtain ⟨⟨s₁, rc⟩, hb, hr⟩ := Option.map_eq_some'.mp h
    have hq := fatReadRest_quiet s₁ fd size r
    rw [hr] at hq
    exact .inr ⟨fd, s₁, rc, hfd, hb, hq⟩

/-- `fat_ioctl` is quiet but for the link-map build of `FATFS_IOCTL_GET_FD_LINK_MAP`. -/
theorem fatIoctl_spec {hnd : Int} {cmd : IoctlCmd} {r : IoctlReplies} {o : Out}
    (h : fatIoctl s hnd cmd r = some (s', o)) :
    Quiet s s' ∨ ∃ fd s₁ rc, fatGetHnd hnd = some fd ∧
      fatCreateLinkmap s fd r.linkmap = some (s₁, rc) ∧ Quiet s₁ s' := by
  unfold fatIoctl at h
  split at h
  · obtain ⟨rfl, rfl⟩ := Prod.mk.inj (Option.some.inj h)
    exact .inl (.refl s)
  rename_i fd hfd
  dsimp only at h
  split at h
  · obtain ⟨_, -, hd⟩ := Option.map_eq_some'.mp h
    obtain ⟨rfl, rfl⟩ := Prod.mk.inj hd
    exact .inl (quiet_log_engine s _)
  · obtain ⟨_, -, hd⟩ := Option.map_eq_some'.mp h
    obtain ⟨rfl, rfl⟩ := Prod.mk.inj hd
    exact .inl (quiet_log_engine s _)
  · obtain ⟨⟨s₁, rc⟩, hb, hd⟩ := Option.map_eq_some'.mp h
    obtain ⟨rfl, rfl⟩ := Prod.mk.inj hd
    exact .inr ⟨fd, s₁, rc, hfd, hb, .refl _⟩
  · obtain ⟨_, -, hd⟩ := Option.map_eq_some'.mp h
    obtain ⟨rfl, rfl⟩ := Prod.mk.inj hd
    exact .inl (quiet_log_engine s _)

theorem Quiet.of_eq {p : Pool × Out} {o : Out} (hq : Quiet s p.1) (h : p = (s', o)) :
    Quiet s s' := by subst h; exact hq

/-- `fat_open` and `fat_close`, the two operations that take or free a slot. -/
def Op.takesOrFrees : Op → Bool
  | .fatOpen .. | .fatClose .. => true
  | _ => false

/-- Everything one operation can do: `fat_open` and `fat_close` as their specs say;
any other operation is quiet, up to one link-map build on the slot of its own
descriptor, answered by the link-map replies it carries. -/
theorem step_spec {op : Op} {o : Out} (h : step K s op = some (s', o)) :
    (∃ vfs fn flags r, op = .fatOpen vfs fn flags r ∧ fatOpen K s vfs fn flags r = (s', o)) ∨
    (∃ hnd rc, op = .fatClose hnd rc ∧ fatClose s hnd rc = (s', o)) ∨
    (op.takesOrFrees = false ∧ (Quiet s s' ∨
      ∃ fd lm s₁ rc, op.hnd = some (fd.val + 1 : Int) ∧ op.linkmap = some lm ∧
        fatCreateLinkmap s fd lm = some (s₁, rc) ∧ Quiet s₁ s')) := by
  cases op with
  | fatOpen vfs fn flags r => exact .inl ⟨vfs, fn, flags, r, rfl, Option.some.inj h⟩
  | fatClose hnd rc => exact .inr (.inl ⟨hnd, rc, rfl, Option.some.inj h⟩)
  | fatRead hnd size lm r =>
    rcases fatRead_spec h with hq | ⟨fd, s₁, rc, hfd, hb, hq⟩
    · exact .inr (.inr ⟨rfl, .inl hq⟩)
    · exact .inr (.inr ⟨rfl, .inr ⟨fd, lm, s₁, rc,
        by simp [Op.hnd, fatGetHnd_eq_some.mp hfd], rfl, hb, hq⟩⟩)
  | fatIoctl hnd cmd r =>
    rcases fatIoctl_spec h with hq | ⟨fd, s₁, rc, hfd, hb, hq⟩
    · exact .inr (.inr ⟨rfl, .inl hq⟩)
    · exact .inr (.inr ⟨rfl, .inr ⟨fd, r.linkmap, s₁, rc,
        by simp [Op.hnd, fatGetHnd_eq_some.mp hfd], rfl, hb, hq⟩⟩)
  | fatWrite hnd r =>
    exact .inr (.inr ⟨rfl, .inl ((fatWrite_quiet s hnd r).of_eq (Option.some.inj h))⟩)
  | fatSeek hnd offset whence r =>
    exact .inr (.inr ⟨rfl, .inl ((fatSeek_quiet s hnd offset whence r).of_eq (Option.some.inj h))⟩)
  | fatReaddir hnd r =>
    exact .inr (.inr ⟨rfl, .inl ((fatReaddir_quiet s hnd r).of_eq (Option.some.inj h))⟩)
  | fatRewinddir hnd rc =>
    exact .inr (.inr ⟨rfl, .inl ((fatRewinddir_quiet s hnd rc).of_eq (Option.some.inj h))⟩)
  | fatComplete hnd rc =>
    exact .inr (.inr ⟨rfl, .inl ((fatComplete_quiet s hnd rc).of_eq (Option.some.inj h))⟩)
  | fatTell hnd | fatTotal hnd | fatFcntl hnd _ =>
    obtain ⟨rfl, rfl⟩ := Prod.mk.inj (Option.some.inj h)
    exact .inr (.inr ⟨rfl, .inl (.refl s)⟩)
  | fatFstat hnd =>
    obtain ⟨_, -, hp⟩ := Option.map_eq_some'.mp h
    obtain ⟨rfl, rfl⟩ := Prod.mk.inj hp
    exact .inr (.inr ⟨rfl, .inl (.refl s)⟩)

/-! ## §6  Runs -/

theorem exec_cons_eq_some {op : Op} {ops : List Op} {os : List Out} :
    exec K s (op :: ops) = some (s', os) ↔
      ∃ s₁ o os', step K s op = some (s₁, o) ∧ exec K s₁ ops = some (s', os') ∧ os = o :: os' := by
  simp only [exec, Option.bind_eq_bind, Option.bind_eq_some, Prod.exists, Option.pure_def,
    Option.some.injEq, Prod.mk.injEq]
  constructor
  · rintro ⟨s₁, o, h₁, s₂, os', h₂, rfl, rfl⟩
    exact ⟨s₁, o, os', h₁, h₂, rfl⟩
  · rintro ⟨s₁, o, os', h₁, h₂, rfl⟩
    exact ⟨s₁, o, h₁, s', os', h₂, rfl, rfl⟩

/-- The pools a run from `fs_fat_init` reaches when every operation is admitted by
`P` in the pool it starts from. -/
inductive Reach (K : HostFlags) (P : Pool → Op → Prop) : Pool → Prop
  | init : Reach K P Pool.init
  | step {s s' : Pool} {op : Op} {o : Out} :
      Reach K P s → P s op → step K s op = some (s', o) → Reach K P s'

end DcFatfs
