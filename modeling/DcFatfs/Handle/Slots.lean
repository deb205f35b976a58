import DcFatfs.Handle.Frame

/-!
# The slots in use are the descriptors handed out

The caller's view of the handle pool is a set of descriptors: a successful
`fat_open` adds the one it returns, a `fat_close` removes the one it is given
(`openDescs`). Over every run from `fs_fat_init`, whatever the engine answers and
whatever other operations run in between, this set is exactly the set of slots
with `used` set (`Tracks`), so a descriptor `fat_open` hands out is always one
no caller holds. The step lemma is `tracks_step`, the run lemma `tracks_exec`;
`SlotContract` collects what a caller may rely on after any run.
-/

namespace DcFatfs

variable {K : HostFlags} {s s' : Pool} {g : Int → Bool} {fd : Fin maxFatFiles}

/-! ## §1  The descriptors a caller holds -/

/-- How an operation and its result change the set of descriptors a caller holds. -/
def Op.track (g : Int → Bool) : Op → Out → Int → Bool
  | .fatOpen .., o => if o.ret ≠ 0 then Function.update g o.ret true else g
  | .fatClose hnd _, _ => Function.update g hnd false
  | _, _ => g

/-- The descriptors returned by successful `fat_open` calls of a run and not passed
to `fat_close` since. -/
def openDescsFrom (g : Int → Bool) : List Op → List Out → Int → Bool
  | op :: ops, o :: os => openDescsFrom (op.track g o) ops os
  | _, _ => g

def openDescs (ops : List Op) (os : List Out) : Int → Bool := openDescsFrom (fun _ => false) ops os

/-- The held descriptors are exactly the numbers of the slots in use. -/
def Tracks (s : Pool) (g : Int → Bool) : Prop :=
  ∀ d, g d = true ↔ ∃ fd : Fin maxFatFiles, d = fd.val + 1 ∧ (s.fh fd).used = true

theorem tracks_init : Tracks Pool.init fun _ => false := by
  simp [Tracks, Pool.init, Fatfs.zero]

theorem Tracks.desc (hg : Tracks s g) (fd : Fin maxFatFiles) : g (fd.val + 1) = (s.fh fd).used := by
  have key : ∀ i : Fin maxFatFiles, (fd.val + 1 : Int) = i.val + 1 ↔ i = fd := fun i => by
    simp only [Fin.ext_iff]; omega
  rw [Bool.eq_iff_iff, hg]
  simp [key]

/-! ## §2  One step -/

theorem Tracks.congr (hg : Tracks s g) (hu : ∀ i, (s'.fh i).used = (s.fh i).used) : Tracks s' g :=
  fun d => by simp only [hg d, hu]

/-- Changing one slot changes the held set at that slot's descriptor only. -/
theorem Tracks.update (hg : Tracks s g) (hfr : ∀ i, i ≠ fd → (s'.fh i).used = (s.fh i).used) :
    Tracks s' (Function.update g (fd.val + 1) (s'.fh fd).used) := by
  intro d
  by_cases hd : d = fd.val + 1
  · subst hd
    have key : ∀ i : Fin maxFatFiles, (fd.val + 1 : Int) = i.val + 1 ↔ i = fd := fun i => by
      simp only [Fin.ext_iff]; omega
    simp [key]
  · have key : ∀ i : Fin maxFatFiles, d = i.val + 1 → i ≠ fd := fun i hi h => hd (h ▸ hi)
    rw [Function.update_noteq hd, hg d]
    constructor <;> rintro ⟨i, rfl, hu⟩ <;> refine ⟨i, rfl, ?_⟩
    · rwa [hfr i (key i rfl)]
    · rwa [← hfr i (key i rfl)]

theorem tracks_fatOpen {vfs : Option MntCtx} {fn : Option String} {flags : Nat}
    {r : OpenReplies} {o : Out} (hg : Tracks s g) (h : fatOpen K s vfs fn flags r = (s', o)) :
    Tracks s' ((Op.fatOpen vfs fn flags r).track g o) := by
  obtain ⟨-, -, ⟨h0, rfl, -⟩ | ⟨fd, hfd, hfr, ⟨h0, -, hu⟩ | ⟨rfl, hu, -⟩⟩⟩ := fatOpen_spec h
  · simpa [Op.track, h0] using hg
  · simp only [Op.track, h0, ne_eq, not_true_eq_false, if_false]
    refine hg.congr fun i => ?_
    by_cases hi : i = fd
    · subst hi; rw [hu, firstFree_used hfd]
    · rw [hfr i hi]
  · have : Tracks s' (Function.update g (fd.val + 1) (s'.fh fd).used) :=
      hg.update fun i hi => by rw [hfr i hi]
    simpa [Op.track, hu] using this

theorem tracks_fatClose {hnd : Int} {rc : FResult} {o : Out} (hg : Tracks s g)
    (h : fatClose s hnd rc = (s', o)) : Tracks s' ((Op.fatClose hnd rc).track g o) := by
  obtain ⟨hn, rfl, -⟩ | ⟨fd, hfd, hfr, hf, -⟩ := fatClose_spec h
  · have hne : g hnd = false := by
      rw [Bool.eq_false_iff, ne_eq, hg hnd]
      rintro ⟨fd, rfl, -⟩
      simp at hn
    simpa [Op.track, ← hne] using hg
  · have : Tracks s' (Function.update g (fd.val + 1) (s'.fh fd).used) :=
      hg.update fun i hi => by rw [hfr i hi]
    rw [hf] at this
    simpa [Op.track, fatGetHnd_eq_some.mp hfd] using this

/-- **One step keeps the held set and the slots in use in step.** -/
theorem tracks_step {op : Op} {o : Out} (hg : Tracks s g) (h : step K s op = some (s', o)) :
    Tracks s' (op.track g o) := by
  rcases step_spec h with ⟨vfs, fn, flags, r, rfl, ho⟩ | ⟨hnd, rc, rfl, hc⟩ | ⟨hop, hs⟩
  · exact tracks_fatOpen hg ho
  · exact tracks_fatClose hg hc
  have keep : op.track g o = g := by
    cases op <;> first | rfl | cases hop
  rw [keep]
  rcases hs with hq | ⟨fd, lm, s₁, rc, -, -, hb, hq⟩
  · exact hg.congr hq.used
  · exact hg.congr fun i => (hq.used i).trans ((fatCreateLinkmap_spec hb).1.used i)

/-! ## §3  Runs -/

/-- **Every run keeps the held set and the slots in use in step.** -/
theorem tracks_exec {ops : List Op} {os : List Out} (hg : Tracks s g)
    (h : exec K s ops = some (s', os)) : Tracks s' (openDescsFrom g ops os) := by
  induction ops generalizing s g os with
  | nil =>
    obtain ⟨rfl, rfl⟩ := Prod.mk.inj (Option.some.inj h)
    exact hg
  | cons op ops ih =>
    obtain ⟨s₁, o, os', h₁, h₂, rfl⟩ := exec_cons_eq_some.mp h
    exact ih (tracks_step hg h₁) h₂

/-! ## §4  What `fat_open` promises -/

/-- A descriptor `fat_open` returns is the number of a slot that was free. -/
theorem fatOpen_ret_fresh {vfs : Option MntCtx} {fn : Option String} {flags : Nat}
    {r : OpenReplies} {o : Out} (hg : Tracks s g) (h : fatOpen K s vfs fn flags r = (s', o))
    (h0 : o.ret ≠ 0) : 1 ≤ o.ret ∧ o.ret ≤ maxFatFiles ∧ g o.ret = false := by
  obtain ⟨-, -, ⟨h0', -⟩ | ⟨fd, hfd, -, ⟨h0', -⟩ | ⟨rfl, -⟩⟩⟩ := fatOpen_spec h
  · exact absurd h0' h0
  · exact absurd h0' h0
  · have := fd.isLt
    dsimp only
    refine ⟨by omega, by simp only [maxFatFiles] at this ⊢; omega, ?_⟩
    rw [hg.desc, firstFree_used hfd]

/-- `fat_open` reports `ENFILE` exactly when it has a mount and every slot is in use. -/
theorem fatOpen_enfile_iff {vfs : Option MntCtx} {fn : Option String} {flags : Nat}
    {r : OpenReplies} {o : Out} (h : fatOpen K s vfs fn flags r = (s', o)) :
    o.errno = some .enfile ↔ vfs.isSome ∧ ∀ fd, (s.fh fd).used = true := by
  rw [← firstFree_eq_none]
  obtain ⟨-, -, ⟨-, -, ⟨rfl, he⟩ | ⟨hv, hf, he⟩⟩ | ⟨fd, hfd, -, ⟨-, he, -⟩ | ⟨rfl, -⟩⟩⟩ :=
    fatOpen_spec h
  · simp [he]
  · simp [he, hv, hf]
  · simp [he, hfd]
  · simp [hfd]

/-- A failed `fat_open` frees or takes no slot and leaves every slot in use as it was. -/
theorem fatOpen_failed_frame {vfs : Option MntCtx} {fn : Option String} {flags : Nat}
    {r : OpenReplies} {o : Out} (h : fatOpen K s vfs fn flags r = (s', o)) (h0 : o.ret = 0)
    (i : Fin maxFatFiles) :
    (s'.fh i).used = (s.fh i).used ∧ ((s.fh i).used = true → s'.fh i = s.fh i) := by
  obtain ⟨-, -, ⟨-, rfl, -⟩ | ⟨fd, hfd, hfr, ⟨-, -, hu⟩ | ⟨rfl, -⟩⟩⟩ := fatOpen_spec h
  · exact ⟨rfl, fun _ => rfl⟩
  · by_cases hi : i = fd
    · subst hi
      rw [hu, firstFree_used hfd]
      exact ⟨rfl, nofun⟩
    · exact ⟨by rw [hfr i hi], fun _ => hfr i hi⟩
  · dsimp only at h0; omega

/-- What a caller may rely on after the run `ops`, which returned `os` and left the
pool in `s`. -/
structure SlotContract (K : HostFlags) (ops : List Op) (os : List Out) (s : Pool) : Prop where
  /-- The slots in use are exactly the descriptors handed out and not closed since. -/
  used_iff : ∀ d, openDescs ops os d = true ↔
    ∃ fd : Fin maxFatFiles, d = fd.val + 1 ∧ (s.fh fd).used = true
  /-- A descriptor the next `fat_open` returns is in `1..MAX_FAT_FILES` and not held. -/
  fresh : ∀ {vfs fn flags r s' o}, fatOpen K s vfs fn flags r = (s', o) → o.ret ≠ 0 →
    1 ≤ o.ret ∧ o.ret ≤ maxFatFiles ∧ openDescs ops os o.ret = false
  /-- The next `fat_open` fails with `ENFILE` exactly when it has a mount and no free slot. -/
  enfile_iff : ∀ {vfs fn flags r s' o}, fatOpen K s vfs fn flags r = (s', o) →
    (o.errno = some .enfile ↔ vfs.isSome ∧ ∀ fd, (s.fh fd).used = true)
  /-- A failed `fat_open` changes no slot's use and no slot in use. -/
  failed_frame : ∀ {vfs fn flags r s' o}, fatOpen K s vfs fn flags r = (s', o) → o.ret = 0 →
    ∀ fd, (s'.fh fd).used = (s.fh fd).used ∧ ((s.fh fd).used = true → s'.fh fd = s.fh fd)

/-- **The handle pool keeps its contract over every run from `fs_fat_init`.** -/
theorem exec_slotContract (K : HostFlags) (ops : List Op) (os : List Out) (s : Pool)
    (h : exec K Pool.init ops = some (s, os)) : SlotContract K ops os s := by
  have hg := tracks_exec tracks_init h
  exact ⟨hg, fun ho h0 => fatOpen_ret_fresh hg ho h0, fatOpen_enfile_iff,
    fun ho h0 => fatOpen_failed_frame ho h0⟩

/-- A file opened read-only and a directory opened after it hold descriptors 1
and 2, and the contract holds after the two opens. -/
theorem slotContract_file_dir :
    SlotContract sampleFlags [.fatOpen (some sampleMnt) (some "/a") 0 sampleOpen,
        .fatOpen (some sampleMnt) (some "/d") sampleFlags.oDir sampleOpen] [⟨1, none⟩, ⟨2, none⟩]
      (fatOpen sampleFlags (fatOpen sampleFlags Pool.init (some sampleMnt) (some "/a") 0 sampleOpen).1
        (some sampleMnt) (some "/d") sampleFlags.oDir sampleOpen).1 :=
  exec_slotContract sampleFlags _ _ _ rfl

end DcFatfs
