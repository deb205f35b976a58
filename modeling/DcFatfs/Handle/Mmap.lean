import DcFatfs.Handle.Seek

/-!
# `fat_mmap`: the whole file, read from the cursor

`fat_mmap` stores `fat_total`'s `size_t` in an `int`, allocates that many bytes
with `memalign`, and reads the file into them with `fat_read`. It returns the block
when the read returned `size`, and frees the block otherwise (`fatMmap_spec`).

`fat_mmap` never seeks. It reads from the descriptor's cursor and leaves the cursor
past what it read. With an engine that answers as FatFs does, it returns a buffer
exactly when the cursor is at 0 and `f_read` read the whole file
(`fatMmap_readsFrom`). So after a `fat_mmap` that returned a buffer, the next
`fat_mmap` of the same descriptor returns `NULL` (`fatMmap_twice`).
-/

namespace DcFatfs

/-! ## §1  The model -/

/-- What `fat_mmap` leaves: the pool once its `fat_total` and `fat_read` have run,
the pointer it returns (`none` is `NULL`), the last errno they assigned, and its
heap traffic: the answer of `memalign` if it was called, and the argument of
`free` if it was called. -/
structure MmapOut where
  pool : Pool
  data : Option Nat
  errno : Option Errno
  alloc : Option (Option Nat)
  freed : Option (Option Nat)

/-- `size` in `fat_mmap`: `fat_total`'s `size_t` stored in a 32-bit `int`. -/
def mmapSize (s : Pool) (hnd : Int) : Int := toOffT (toDword (fatTotal s hnd).ret)

section Defs

variable (K : HostFlags)

/-- `fat_mmap(hnd)`, with `mem` the answer of `memalign(32, size)` (`none` is
`NULL`) and `lm`, `r` the replies its `fat_read` consumes, which receives `size`
back as a `size_t`. The engine storing bytes through a null `data` is
undefined. -/
def fatMmap (s : Pool) (hnd : Int) (mem : Option Nat) (lm : LinkmapReplies) (r : ReadReply) :
    Option MmapOut :=
  let t := fatTotal s hnd
  let size := mmapSize s hnd
  if size = 0 then some ⟨s, none, t.errno, none, none⟩
  else if (fatGetHnd hnd).isSome ∧ mem = none ∧ r.count ≠ 0 then none
  else (fatRead K s hnd (toDword size) lm r).map fun p =>
    if p.2.ret ≠ size then ⟨p.1, none, p.2.errno.or t.errno, some mem, some mem⟩
    else ⟨p.1, mem, p.2.errno.or t.errno, some mem, none⟩

end Defs

/-- Descriptor 1 open read-only on the 4096-byte file of `sampleOpen`, its cursor
at 0. -/
def mmapOpen : Pool :=
  (fatOpen sampleFlags Pool.init (some sampleMnt) (some "/f") sampleFlags.oRdonly sampleOpen).1

/-- A link-map build that fits the inline table, leaving the cursor at `fptr`. -/
def fitBuild (fptr : Nat) : LinkmapReplies :=
  ⟨⟨.ok, fptr, 4096, some 0⟩, false, ⟨.ok, fptr, 4096, none⟩⟩

variable {K : HostFlags} {s s' : Pool} {fd : Fin maxFatFiles} {hnd : Int} {mem : Option Nat}
  {lm : LinkmapReplies} {r : ReadReply} {out : MmapOut}

/-- Everything `fat_mmap` can do. On a size of 0 it returns `NULL` and touches
nothing. Otherwise its `fat_read` of `size` bytes is defined, and the block
`memalign` answered is returned when that read returned `size` and freed
otherwise. -/
theorem fatMmap_spec (h : fatMmap K s hnd mem lm r = some out) :
    (mmapSize s hnd = 0 ∧ out = ⟨s, none, (fatTotal s hnd).errno, none, none⟩) ∨
    (mmapSize s hnd ≠ 0 ∧ ∃ o, fatRead K s hnd (toDword (mmapSize s hnd)) lm r = some (out.pool, o) ∧
      out.alloc = some mem ∧ out.errno = o.errno.or (fatTotal s hnd).errno ∧
      ((o.ret = mmapSize s hnd ∧ out.data = mem ∧ out.freed = none) ∨
        (o.ret ≠ mmapSize s hnd ∧ out.data = none ∧ out.freed = some mem))) := by
  unfold fatMmap at h
  dsimp only at h
  by_cases h0 : mmapSize s hnd = 0
  · rw [if_pos h0] at h
    exact .inl ⟨h0, (Option.some.inj h).symm⟩
  rw [if_neg h0] at h
  by_cases hu : (fatGetHnd hnd).isSome ∧ mem = none ∧ r.count ≠ 0
  · rw [if_pos hu] at h; cases h
  rw [if_neg hu] at h
  obtain ⟨⟨s₁, o⟩, hr, he⟩ := Option.map_eq_some'.mp h
  refine .inr ⟨h0, o, ?_⟩
  by_cases hret : o.ret = mmapSize s hnd
  · rw [if_neg (not_not.mpr hret)] at he; subst he
    exact ⟨hr, rfl, rfl, .inl ⟨hret, rfl, rfl⟩⟩
  · rw [if_pos hret] at he; subst he
    exact ⟨hr, rfl, rfl, .inr ⟨hret, rfl, rfl⟩⟩

/-! ## §2  The cursor -/

/-- The cursor and the size of the file object of slot `fd`. -/
def Pool.cursor (s : Pool) (fd : Fin maxFatFiles) : Nat × Nat :=
  ((s.fh fd).fil.fptr, (s.fh fd).fil.fsize)

/-- The cursor and the size an `f_lseek` leaves. -/
def LseekReply.cursor (r : LseekReply) : Nat × Nat := (r.fptr, r.fsize)

@[simp] theorem Pool.cursor_log (s : Pool) (fd : Fin maxFatFiles) (e : Event) :
    (s.log e).cursor fd = s.cursor fd := rfl

@[simp] theorem Pool.cursor_setCltbl (s : Pool) (fd : Fin maxFatFiles) (p : Ptr) :
    (s.setCltbl fd p).cursor fd = s.cursor fd := by
  simp [Pool.cursor, Pool.setCltbl]

@[simp] theorem Pool.cursor_attachHeap (s : Pool) (fd : Fin maxFatFiles) (n : Nat) :
    (attachHeap s fd n).cursor fd = s.cursor fd := by
  simp [Pool.cursor, attachHeap, Pool.setCltbl]

@[simp] theorem Pool.cursor_attachLktbl (s : Pool) (fd : Fin maxFatFiles) :
    (attachLktbl s fd).cursor fd = s.cursor fd := by
  simp [Pool.cursor, attachLktbl]

@[simp] theorem Pool.cursor_lseek (s : Pool) (fd : Fin maxFatFiles) (off : Nat) (r : LseekReply) :
    (s.lseek fd off r).cursor fd = r.cursor := by
  unfold Pool.lseek
  split <;> simp [Pool.cursor, LseekReply.cursor]

/-- The retry of a link-map build leaves the cursor and the size as they were, or
as its `f_lseek` answered. -/
theorem linkmapRetry_cursor {c : Bool} {rc : FResult} {r : LseekReply}
    (h : linkmapRetry s fd c r = some (s', rc)) : s'.cursor fd = s.cursor fd ∨ s'.cursor fd = r.cursor := by
  unfold linkmapRetry at h
  cases c
  · obtain ⟨rfl, -⟩ := Prod.mk.inj (Option.some.inj h)
    exact .inl (by simp)
  dsimp only [Bool.not_true] at h
  by_cases h0 : s.cell0 (s.fh fd).fil.cltbl = 0
  · rw [if_pos h0] at h; cases h
  rw [if_neg h0] at h
  by_cases hr : r.rc = .ok
  · rw [if_pos hr] at h; obtain ⟨rfl, -⟩ := Prod.mk.inj (Option.some.inj h)
    exact .inr (by simp)
  · rw [if_neg hr] at h; obtain ⟨rfl, -⟩ := Prod.mk.inj (Option.some.inj h)
    exact .inr (by simp)

/-- A link-map build leaves the cursor and the size as they were, or as one of its
two `f_lseek` calls answered. -/
theorem fatCreateLinkmap_cursor {rc : FResult} (h : fatCreateLinkmap s fd lm = some (s', rc)) :
    s'.cursor fd = s.cursor fd ∨ s'.cursor fd = lm.first.cursor ∨ s'.cursor fd = lm.retry.cursor := by
  unfold fatCreateLinkmap at h
  by_cases hc : (s.fh fd).fil.cltbl ≠ .null
  · rw [if_pos hc] at h; obtain ⟨rfl, -⟩ := Prod.mk.inj (Option.some.inj h); exact .inl rfl
  rw [if_neg hc] at h
  dsimp only at h
  by_cases h1 : lm.first.rc = .notEnoughCore
  · rw [if_pos h1] at h
    rcases linkmapRetry_cursor h with he | he
    · exact .inr (.inl (he.trans (by simp)))
    · exact .inr (.inr he)
  rw [if_neg h1] at h
  by_cases h2 : lm.first.rc ≠ .ok
  · rw [if_pos h2] at h; obtain ⟨rfl, -⟩ := Prod.mk.inj (Option.some.inj h)
    exact .inr (.inl (by simp))
  · rw [if_neg h2] at h; obtain ⟨rfl, -⟩ := Prod.mk.inj (Option.some.inj h)
    exact .inr (.inl (by simp))

/-- The engine read of `fat_read`, for a nonzero size: it moves the cursor where
the engine answered and returns the count read as a `ssize_t`, or -1 on an error. -/
theorem fatReadRest_of_ne {size : Nat} (hs : size ≠ 0) :
    (fatReadRest s fd size r).1.cursor fd = (r.fptr, (s.fh fd).fil.fsize) ∧
      (fatReadRest s fd size r).2.ret = if r.rc = .ok then toSsizeT r.count else -1 := by
  unfold fatReadRest
  rw [if_neg hs]
  by_cases hr : r.rc = .ok <;> simp [hr, Pool.cursor]

/-- `fat_read` on a descriptor in range ends in its engine read, from the pool the
link-map build left if it ran. -/
theorem fatRead_rest {size : Nat} {o : Out} (h : fatRead K s (fd.val + 1) size lm r = some (s', o)) :
    ∃ s₁, (s₁ = s ∨ ∃ rc, fatCreateLinkmap s fd lm = some (s₁, rc)) ∧
      fatReadRest s₁ fd size r = (s', o) := by
  simp only [fatRead, fatGetHnd_desc] at h
  split at h
  · cases h
  · exact ⟨s, .inl rfl, Option.some.inj h⟩
  · obtain ⟨⟨s₁, rc⟩, hb, hr⟩ := Option.map_eq_some'.mp h
    exact ⟨s₁, .inr ⟨rc, hb⟩, hr⟩

/-- The replies of one `fat_read` as FatFs gives them on the file object `fil`: the
`CREATE_LINKMAP` seeks move neither the cursor nor the size, and `f_read` reads at
most the bytes left from the cursor and moves the cursor past them. -/
structure ReadsFrom (fil : Fil) (lm : LinkmapReplies) (r : ReadReply) : Prop where
  first : lm.first.cursor = (fil.fptr, fil.fsize)
  retry : lm.retry.cursor = (fil.fptr, fil.fsize)
  count : r.count ≤ fil.fsize - fil.fptr
  fptr : r.fptr = fil.fptr + r.count

/-- With replies as FatFs gives them, `fat_read` of a nonzero size on a descriptor
in range moves the cursor past the bytes read, keeps the size, and returns the
count read as a `ssize_t`, or -1. -/
theorem fatRead_readsFrom {size : Nat} {o : Out} (hr : ReadsFrom (s.fh fd).fil lm r)
    (hs : size ≠ 0) (h : fatRead K s (fd.val + 1) size lm r = some (s', o)) :
    s'.cursor fd = ((s.fh fd).fil.fptr + r.count, (s.fh fd).fil.fsize) ∧
      o.ret = if r.rc = .ok then toSsizeT r.count else -1 := by
  obtain ⟨s₁, hs₁, hrest⟩ := fatRead_rest h
  have hc : s₁.cursor fd = s.cursor fd := by
    rcases hs₁ with rfl | ⟨rc, hb⟩
    · rfl
    · rcases fatCreateLinkmap_cursor hb with he | he | he
      · exact he
      · exact he.trans hr.first
      · exact he.trans hr.retry
  have hsz : (s₁.fh fd).fil.fsize = (s.fh fd).fil.fsize := congrArg Prod.snd hc
  obtain ⟨hcur, hret⟩ := @fatReadRest_of_ne s₁ fd r _ hs
  rw [hrest] at hcur hret
  exact ⟨by rw [hcur, hsz, hr.fptr], hret⟩

theorem toDword_natCast {n : Nat} (h : n < 2 ^ 32) : toDword n = n :=
  Int.ofNat_inj.mp (toDword_of_lt (Int.natCast_nonneg _) (by omega))

theorem toSsizeT_of_lt {x : Nat} (h : x < 2 ^ 31) : toSsizeT x = x := by
  rw [toSsizeT, Nat.mod_eq_of_lt (by omega), toOffT_of_lt h]

/-- The size `fat_mmap` computes for a descriptor in range, on a file below 2 GiB. -/
theorem mmapSize_desc (h : (s.fh fd).fil.fsize < 2 ^ 31) :
    mmapSize s (fd.val + 1) = (s.fh fd).fil.fsize := by
  simp only [mmapSize, fatTotal, fatGetHnd_desc, toDword_natCast (by omega : (s.fh fd).fil.fsize < 2 ^ 32),
    toOffT_of_lt h]

/-- What `fat_mmap` does on a descriptor in range, a file below 2 GiB and replies as
FatFs gives them. It returns a buffer exactly when the file is not empty,
`memalign` gave a block, the cursor is at 0 and `f_read` succeeded on the whole
file. It keeps the size, and on a file that is not empty it moves the cursor past
what `f_read` read. -/
theorem fatMmap_readsFrom (hsz : (s.fh fd).fil.fsize < 2 ^ 31)
    (hr : ReadsFrom (s.fh fd).fil lm r) (h : fatMmap K s (fd.val + 1) mem lm r = some out) :
    (out.data.isSome ↔ (s.fh fd).fil.fsize ≠ 0 ∧ mem.isSome ∧ (s.fh fd).fil.fptr = 0 ∧
        r.rc = .ok ∧ r.count = (s.fh fd).fil.fsize) ∧
      out.pool.cursor fd = if (s.fh fd).fil.fsize = 0 then s.cursor fd
        else ((s.fh fd).fil.fptr + r.count, (s.fh fd).fil.fsize) := by
  have hsize := mmapSize_desc hsz
  rcases fatMmap_spec h with ⟨h0, rfl⟩ | ⟨h0, o, hread, -, -, hdf⟩
  · have hf : (s.fh fd).fil.fsize = 0 := by omega
    simp [hf]
  have hf : (s.fh fd).fil.fsize ≠ 0 := by omega
  rw [hsize, toDword_natCast (by omega)] at hread
  obtain ⟨hcur, hret⟩ := fatRead_readsFrom hr hf hread
  refine ⟨?_, by rw [if_neg hf, hcur]⟩
  have hc := hr.count
  rw [toSsizeT_of_lt (by omega)] at hret
  rcases hdf with ⟨he, hd, -⟩ | ⟨he, hd, -⟩ <;> rw [hd] <;> rw [hret, hsize] at he
  · by_cases hrc : r.rc = .ok
    · rw [if_pos hrc, Nat.cast_inj] at he
      simp only [hf, hrc, he, ne_eq, not_false_eq_true, true_and, and_true, iff_self_and]
      omega
    · rw [if_neg hrc] at he; omega
  · simp only [Option.isSome_none, Bool.false_eq_true, false_iff, not_and]
    intro _ _ _ hrc hcnt
    rw [if_pos hrc, hcnt] at he
    exact he rfl

/-- **A second `fat_mmap` of a descriptor returns `NULL`.** `fat_mmap` never seeks:
after one that returned a buffer, the cursor is at the end of the file. So, with
replies as FatFs gives them, the next `fat_mmap` of the same descriptor returns
`NULL`, whatever `memalign` answers. -/
theorem fatMmap_twice {mem' : Option Nat} {lm' : LinkmapReplies} {r' : ReadReply}
    {out' : MmapOut} (hsz : (s.fh fd).fil.fsize < 2 ^ 31) (hr : ReadsFrom (s.fh fd).fil lm r)
    (h : fatMmap K s (fd.val + 1) mem lm r = some out) (hd : out.data.isSome)
    (hr' : ReadsFrom (out.pool.fh fd).fil lm' r')
    (h' : fatMmap K out.pool (fd.val + 1) mem' lm' r' = some out') : out'.data = none := by
  obtain ⟨hiff, hcur⟩ := fatMmap_readsFrom hsz hr h
  obtain ⟨hf, -, h0, -, hcnt⟩ := hiff.mp hd
  rw [if_neg hf, h0, hcnt, zero_add] at hcur
  have hfptr : (out.pool.fh fd).fil.fptr = (s.fh fd).fil.fsize := congrArg Prod.fst hcur
  have hsize : (out.pool.fh fd).fil.fsize = (s.fh fd).fil.fsize := congrArg Prod.snd hcur
  obtain ⟨hiff', -⟩ := fatMmap_readsFrom (hsize ▸ hsz) hr' h'
  exact Option.not_isSome_iff_eq_none.mp fun hd' => hf ((hiff'.mp hd').2.2.1 ▸ hfptr).symm

/-- `fat_mmap` of `mmapOpen` reads the whole file into the block `memalign` gave; a
second `fat_mmap` then finds the cursor at the end, reads nothing, frees its block
and returns `NULL`. -/
theorem fatMmap_twice_sample :
    ∃ out out', fatMmap sampleFlags mmapOpen 1 (some 0x8c400000) (fitBuild 0) ⟨.ok, 4096, 4096⟩ =
        some out ∧ out.data = some 0x8c400000 ∧
      fatMmap sampleFlags out.pool 1 (some 0x8c500000) (fitBuild 4096) ⟨.ok, 0, 4096⟩ = some out' ∧
      out'.freed = some (some 0x8c500000) ∧ out'.data = none :=
  ⟨_, _, rfl, rfl, rfl, rfl, @fatMmap_twice sampleFlags mmapOpen 0 (some 0x8c400000)
    (fitBuild 0) ⟨.ok, 4096, 4096⟩ _ (some 0x8c500000) (fitBuild 4096) ⟨.ok, 0, 4096⟩ _ (by decide)
    ⟨rfl, rfl, by decide, rfl⟩ rfl rfl ⟨rfl, rfl, by decide, rfl⟩ rfl⟩

end DcFatfs
