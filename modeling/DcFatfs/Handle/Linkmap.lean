import DcFatfs.Handle.Frame

/-!
# Who owns a link-map table

`fat_create_linkmap` attaches to a file object either the slot's inline table
`lktbl` or, when the engine asks for more room, a `calloc`ed block; `fat_close`
frees the block of a file slot. Over every run in which each operation names a
descriptor in use, the tables obey an ownership discipline (`LinkmapInv`): an
open slot's table is null, its own inline table, or a live block that no other
open slot shares; every block is freed at most once, and a block not yet freed is
held by an open file slot, whose `fat_close` frees exactly it
(`reach_linkmapContract`).

The discipline rests on the contract of the engine's `f_lseek`: it checks its
object first, so a build on a file object with no work area is refused, never
answered with `FR_NOT_ENOUGH_CORE` (`ValidatesFs`). That is what keeps a directory
handle, whose file object `fat_open` leaves zeroed and whose table `fat_close`
never frees, from holding a heap block.
-/

namespace DcFatfs

variable {K : HostFlags} {s s' : Pool} {fd : Fin maxFatFiles} {l l' : List Event}
  {a b n : Nat} {p : Ptr}

/-! ## §1  Blocks handed out and freed -/

/-- Heap block `a` was handed out by a `calloc` of `l`. -/
def Allocated (l : List Event) (a : Nat) : Prop := ∃ n, Event.calloc n (some a) ∈ l

/-- The number of `free`s of `p` in `l`. -/
def freeCount (l : List Event) (p : Ptr) : Nat := l.count (.free p)

@[simp] theorem allocated_append : Allocated (l ++ l') a ↔ Allocated l a ∨ Allocated l' a := by
  simp only [Allocated, List.mem_append, exists_or]

@[simp] theorem allocated_nil : ¬ Allocated [] a := by simp [Allocated]

@[simp] theorem allocated_calloc_some : Allocated [.calloc n (some b)] a ↔ a = b := by
  simp [Allocated]

@[simp] theorem allocated_calloc_none : ¬ Allocated [.calloc n none] a := by simp [Allocated]

@[simp] theorem allocated_free : ¬ Allocated [.free p] a := by simp [Allocated]

@[simp] theorem freeCount_append : freeCount (l ++ l') p = freeCount l p + freeCount l' p :=
  List.count_append ..

@[simp] theorem freeCount_nil : freeCount [] p = 0 := rfl

@[simp] theorem freeCount_calloc {x : Option Nat} : freeCount [.calloc n x] p = 0 := by
  simp [freeCount]

@[simp] theorem freeCount_free {q : Ptr} : freeCount [.free q] p = if q = p then 1 else 0 := by
  simp [freeCount, List.count_singleton]

/-! ## §2  The discipline -/

/-- The ownership discipline of link-map tables, as the pool records it. -/
structure LinkmapInv (s : Pool) : Prop where
  /-- An open slot is a file, or a directory whose file object has no work area. -/
  typed : ∀ fd, (s.fh fd).used → (s.fh fd).type = .file ∨
    (s.fh fd).type = .dir ∧ (s.fh fd).fil.fs = none
  /-- An open slot's table is null, its own inline table, or a live block of a file
  slot. -/
  cltbl : ∀ fd, (s.fh fd).used → (s.fh fd).fil.cltbl = .null ∨
    (s.fh fd).fil.cltbl = .lktbl fd ∨ ∃ a, (s.fh fd).fil.cltbl = .heap a ∧
      Allocated s.allocs a ∧ freeCount s.allocs (.heap a) = 0 ∧ (s.fh fd).type = .file
  /-- No two open slots share a block. -/
  unshared : ∀ fd fd' a, (s.fh fd).used → (s.fh fd').used → (s.fh fd).fil.cltbl = .heap a →
    (s.fh fd').fil.cltbl = .heap a → fd = fd'
  /-- A block is freed at most once. -/
  freed_once : ∀ a, freeCount s.allocs (.heap a) ≤ 1
  /-- A block not yet freed is held by an open slot. -/
  held : ∀ a, Allocated s.allocs a → freeCount s.allocs (.heap a) = 0 →
    ∃ fd, (s.fh fd).used ∧ (s.fh fd).fil.cltbl = .heap a
  /-- Only blocks handed out are freed: never null, never an inline table. -/
  frees_heap : ∀ p, freeCount s.allocs p ≠ 0 → ∃ a, p = .heap a ∧ Allocated s.allocs a
  /-- Blocks handed out lie below the next fresh address. -/
  fresh : ∀ a, Allocated s.allocs a → a < s.brk

theorem linkmapInv_init : LinkmapInv Pool.init where
  typed _ h := nomatch h
  cltbl _ h := nomatch h
  unshared _ _ _ h := nomatch h
  freed_once _ := Nat.zero_le _
  held _ h := absurd h allocated_nil
  frees_heap _ h := absurd rfl h
  fresh _ h := absurd h allocated_nil

namespace LinkmapInv

variable (hi : LinkmapInv s)
include hi

/-- The next fresh block has never been freed. -/
theorem freeCount_brk : freeCount s.allocs (.heap s.brk) = 0 := by
  by_contra h
  obtain ⟨a, ha, hal⟩ := hi.frees_heap _ h
  cases ha
  exact Nat.lt_irrefl _ (hi.fresh _ hal)

/-- No open slot holds the next fresh block. -/
theorem cltbl_ne_brk (i : Fin maxFatFiles) (hu : (s.fh i).used) :
    (s.fh i).fil.cltbl ≠ .heap s.brk := by
  intro hc
  rcases hi.cltbl i hu with h | h | ⟨a, h, hal, -⟩ <;> rw [hc] at h <;> cases h
  exact Nat.lt_irrefl _ (hi.fresh _ hal)

theorem quiet (hq : Quiet s s') : LinkmapInv s' := by
  obtain ⟨hu, ht, hf, hc, hb, ha⟩ := hq
  obtain ⟨h₁, h₂, h₃, h₄, h₅, h₆, h₇⟩ := hi
  constructor <;> simp only [hu, ht, hf, hc, hb, ha] <;> assumption

end LinkmapInv

/-! ## §3  Changing one slot -/

/-- `s` and `s'` agree on every slot but `fd` in what `LinkmapInv` reads. -/
structure Outside (fd : Fin maxFatFiles) (s s' : Pool) : Prop where
  used : ∀ i, i ≠ fd → (s'.fh i).used = (s.fh i).used
  type : ∀ i, i ≠ fd → (s'.fh i).type = (s.fh i).type
  fs : ∀ i, i ≠ fd → (s'.fh i).fil.fs = (s.fh i).fil.fs
  cltbl : ∀ i, i ≠ fd → (s'.fh i).fil.cltbl = (s.fh i).fil.cltbl

theorem Outside.of_fh (h : ∀ i, i ≠ fd → s'.fh i = s.fh i) : Outside fd s s' :=
  ⟨fun i hi => by rw [h i hi], fun i hi => by rw [h i hi], fun i hi => by rw [h i hi],
    fun i hi => by rw [h i hi]⟩

theorem Retable.outside (h : Retable fd s s') : Outside fd s s' :=
  ⟨fun i _ => h.used i, fun i _ => h.type i, fun i _ => h.fs i, h.cltbl⟩

/-- A block held by an open slot other than `fd` is still held. -/
theorem Outside.held (ho : Outside fd s s') {i : Fin maxFatFiles} {c : Nat} (h : i ≠ fd)
    (hu : (s.fh i).used) (hc : (s.fh i).fil.cltbl = .heap c) :
    ∃ i, (s'.fh i).used ∧ (s'.fh i).fil.cltbl = .heap c :=
  ⟨i, by rwa [ho.used i h], by rwa [ho.cltbl i h]⟩

namespace LinkmapInv

variable (hi : LinkmapInv s) (ho : Outside fd s s')
include hi ho

/-- An open slot other than `fd` reads the same in `s'` as in `s`. -/
theorem typed_of_ne {i : Fin maxFatFiles} (h : i ≠ fd) (hu : (s'.fh i).used) :
    (s'.fh i).type = .file ∨ (s'.fh i).type = .dir ∧ (s'.fh i).fil.fs = none := by
  rw [ho.used i h] at hu
  rw [ho.type i h, ho.fs i h]
  exact hi.typed i hu

/-- Two open slots other than `fd` that hold one block are one slot. -/
theorem unshared_of_ne {i j : Fin maxFatFiles} {c : Nat} (hi' : i ≠ fd) (hj' : j ≠ fd)
    (hui : (s'.fh i).used) (huj : (s'.fh j).used) (hci : (s'.fh i).fil.cltbl = .heap c)
    (hcj : (s'.fh j).fil.cltbl = .heap c) : i = j := by
  rw [ho.used i hi'] at hui; rw [ho.used j hj'] at huj
  rw [ho.cltbl i hi'] at hci; rw [ho.cltbl j hj'] at hcj
  exact hi.unshared i j c hui huj hci hcj

/-- Slot `fd` is rewritten with a slot that holds no block, before and after, and
the blocks handed out and freed stay as they were. -/
theorem of_slot (hb : s'.brk = s.brk) (hal : ∀ a, Allocated s'.allocs a ↔ Allocated s.allocs a)
    (hfc : ∀ p, freeCount s'.allocs p = freeCount s.allocs p)
    (hold : (s.fh fd).used → ∀ a, (s.fh fd).fil.cltbl ≠ .heap a)
    (hnew : (s'.fh fd).used → ((s'.fh fd).fil.cltbl = .null ∨ (s'.fh fd).fil.cltbl = .lktbl fd) ∧
      ((s'.fh fd).type = .file ∨ (s'.fh fd).type = .dir ∧ (s'.fh fd).fil.fs = none)) :
    LinkmapInv s' := by
  have nofd : ∀ i a, (s'.fh i).used → (s'.fh i).fil.cltbl = .heap a → i ≠ fd := by
    rintro i a hu hc rfl
    rcases (hnew hu).1 with h | h <;> rw [hc] at h <;> cases h
  refine ⟨fun i hu => ?_, fun i hu => ?_, fun i j a hui huj hci hcj => ?_, fun a => ?_,
    fun a ha hf => ?_, fun p hp => ?_, fun a ha => ?_⟩
  · by_cases h : i = fd
    · subst h; exact (hnew hu).2
    · exact hi.typed_of_ne ho h hu
  · by_cases h : i = fd
    · subst h; exact (hnew hu).1.imp_right .inl
    · rw [ho.used i h] at hu
      rw [ho.cltbl i h, ho.type i h]
      simpa only [hal, hfc] using hi.cltbl i hu
  · exact hi.unshared_of_ne ho (nofd i a hui hci) (nofd j a huj hcj) hui huj hci hcj
  · rw [hfc]; exact hi.freed_once a
  · rw [hal] at ha; rw [hfc] at hf
    obtain ⟨i, hu, hc⟩ := hi.held a ha hf
    exact ho.held (by rintro rfl; exact hold hu a hc) hu hc
  · rw [hfc] at hp
    obtain ⟨a, rfl, ha⟩ := hi.frees_heap p hp
    exact ⟨a, rfl, (hal a).mpr ha⟩
  · rw [hb]; exact hi.fresh a ((hal a).mp ha)

/-- Closing open file slot `fd`, which holds block `a`, frees `a` and nothing else. -/
theorem close_heap (hu : (s.fh fd).used) (hc : (s.fh fd).fil.cltbl = .heap a)
    (hf : (s'.fh fd).used = false) (hb : s'.brk = s.brk)
    (ha : s'.allocs = s.allocs ++ [.free (.heap a)]) : LinkmapInv s' := by
  have ne : ∀ i, (s'.fh i).used → i ≠ fd := by rintro i hu' rfl; simp [hf] at hu'
  have live : freeCount s.allocs (.heap a) = 0 := by
    rcases hi.cltbl fd hu with h | h | ⟨a', h, -, h0, -⟩ <;> rw [hc] at h <;> cases h
    exact h0
  have alloc : Allocated s.allocs a := by
    rcases hi.cltbl fd hu with h | h | ⟨a', h, h1, -⟩ <;> rw [hc] at h <;> cases h
    exact h1
  refine ⟨fun i hu' => hi.typed_of_ne ho (ne i hu') hu', fun i hu' => ?_,
    fun i j c hui huj hci hcj => ?_, fun c => ?_, fun c hc' hf' => ?_, fun q hq => ?_,
    fun c hc' => ?_⟩
  · have h := ne i hu'
    rw [ho.used i h] at hu'
    rw [ho.cltbl i h, ho.type i h, ha]
    rcases hi.cltbl i hu' with h' | h' | ⟨c, h', h1, h2, h3⟩
    · exact .inl h'
    · exact .inr (.inl h')
    · have hca : a ≠ c := by rintro rfl; exact h (hi.unshared i fd a hu' hu h' hc)
      exact .inr (.inr ⟨c, h', by simp [h1], by simp [h2, hca], h3⟩)
  · exact hi.unshared_of_ne ho (ne i hui) (ne j huj) hui huj hci hcj
  · rw [ha, freeCount_append, freeCount_free]
    by_cases h : a = c
    · subst h; simp [live]
    · simpa [h] using hi.freed_once c
  · rw [ha] at hc' hf'
    have hca : a ≠ c := by rintro rfl; simp at hf'
    simp only [allocated_append, allocated_free, or_false] at hc'
    simp only [freeCount_append, freeCount_free, Ptr.heap.injEq, hca, if_false,
      Nat.add_zero] at hf'
    obtain ⟨i, hu', hci⟩ := hi.held c hc' hf'
    exact ho.held (by rintro rfl; rw [hc] at hci; exact hca (Ptr.heap.inj hci)) hu' hci
  · rw [ha, freeCount_append, freeCount_free] at hq
    by_cases h : Ptr.heap a = q
    · exact ⟨a, h.symm, by rw [ha]; simp [alloc]⟩
    · simp only [h, if_false, Nat.add_zero] at hq
      obtain ⟨c, rfl, hc'⟩ := hi.frees_heap _ hq
      exact ⟨c, rfl, by rw [ha]; simp [hc']⟩
  · rw [ha] at hc'
    simp only [allocated_append, allocated_free, or_false] at hc'
    rw [hb]; exact hi.fresh c hc'

end LinkmapInv

/-! ## §4  A fresh block -/

namespace LinkmapInv

variable (hi : LinkmapInv s) (hr : Retable fd s s')
include hi hr

/-- Open slot `fd`, a file holding no table, takes the fresh block `brk`. -/
theorem attach (hu : (s.fh fd).used) (hnull : (s.fh fd).fil.cltbl = .null)
    (hfile : (s.fh fd).type = .file) (hc : (s'.fh fd).fil.cltbl = .heap s.brk)
    (hb : s'.brk = s.brk + 1) (ha : s'.allocs = s.allocs ++ [.calloc n (some s.brk)]) :
    LinkmapInv s' := by
  have hal : ∀ c, Allocated s'.allocs c ↔ Allocated s.allocs c ∨ c = s.brk := by simp [ha]
  have hfc : ∀ q, freeCount s'.allocs q = freeCount s.allocs q := by simp [ha]
  have other : ∀ i, (s.fh i).used → (s.fh i).fil.cltbl = .heap s.brk → False :=
    fun i hu' hc' => hi.cltbl_ne_brk i hu' hc'
  refine ⟨fun i hu' => ?_, fun i hu' => ?_, fun i j c hui huj hci hcj => ?_, fun c => ?_,
    fun c hc' hf' => ?_, fun q hq => ?_, fun c hc' => ?_⟩
  · rw [hr.used] at hu'; rw [hr.type, hr.fs]; exact hi.typed i hu'
  · by_cases h : i = fd
    · subst h
      exact .inr (.inr ⟨s.brk, hc, (hal _).mpr (.inr rfl), by rw [hfc]; exact hi.freeCount_brk,
        by rw [hr.type]; exact hfile⟩)
    · rw [hr.used] at hu'
      rw [hr.cltbl i h, hr.type]
      simpa only [hal, hfc] using (hi.cltbl i hu').imp_right (.imp_right fun ⟨c, h1, h2, h3⟩ =>
        ⟨c, h1, .inl h2, h3⟩)
  · rw [hr.used] at hui huj
    by_cases h₁ : i = fd <;> by_cases h₂ : j = fd
    · rw [h₁, h₂]
    · subst h₁; rw [hc] at hci; cases hci; rw [hr.cltbl j h₂] at hcj; exact (other j huj hcj).elim
    · subst h₂; rw [hc] at hcj; cases hcj; rw [hr.cltbl i h₁] at hci; exact (other i hui hci).elim
    · rw [hr.cltbl i h₁] at hci; rw [hr.cltbl j h₂] at hcj
      exact hi.unshared i j c hui huj hci hcj
  · rw [hfc]; exact hi.freed_once c
  · rw [hfc] at hf'
    rcases (hal c).mp hc' with hc' | rfl
    · obtain ⟨i, hu', hci⟩ := hi.held c hc' hf'
      exact hr.outside.held (by rintro rfl; rw [hnull] at hci; cases hci) hu' hci
    · exact ⟨fd, by rwa [hr.used], hc⟩
  · rw [hfc] at hq
    obtain ⟨c, rfl, hc'⟩ := hi.frees_heap q hq
    exact ⟨c, rfl, (hal c).mpr (.inl hc')⟩
  · rw [hb]
    rcases (hal c).mp hc' with hc' | rfl
    · exact Nat.lt_succ_of_lt (hi.fresh c hc')
    · exact Nat.lt_succ_self _

/-- Slot `fd`, holding no table, takes the fresh block `brk` and frees it at once. -/
theorem allocFree (hnull : (s.fh fd).fil.cltbl = .null) (hc : (s'.fh fd).fil.cltbl = .null)
    (hb : s'.brk = s.brk + 1)
    (ha : s'.allocs = s.allocs ++ [.calloc n (some s.brk), .free (.heap s.brk)]) :
    LinkmapInv s' := by
  have ha' : s'.allocs = s.allocs ++ [.calloc n (some s.brk)] ++ [.free (.heap s.brk)] := by
    rw [ha, List.append_assoc]; rfl
  have hal : ∀ c, Allocated s'.allocs c ↔ Allocated s.allocs c ∨ c = s.brk := fun c => by
    simp only [ha', allocated_append, allocated_calloc_some, allocated_free, or_false]
  have hfc : ∀ q, freeCount s'.allocs q =
      freeCount s.allocs q + if Ptr.heap s.brk = q then 1 else 0 := fun q => by
    simp only [ha', freeCount_append, freeCount_calloc, freeCount_free, Nat.add_zero]
  have lt : ∀ c, Allocated s.allocs c → Ptr.heap s.brk ≠ .heap c := by
    rintro c hc' h; cases h; exact Nat.lt_irrefl _ (hi.fresh _ hc')
  have nofd : ∀ i c, (s'.fh i).fil.cltbl = .heap c → i ≠ fd := by
    rintro i c hc' rfl; rw [hc] at hc'; cases hc'
  refine ⟨fun i hu' => ?_, fun i hu' => ?_, fun i j c hui huj hci hcj => ?_, fun c => ?_,
    fun c hc' hf' => ?_, fun q hq => ?_, fun c hc' => ?_⟩
  · rw [hr.used] at hu'; rw [hr.type, hr.fs]; exact hi.typed i hu'
  · by_cases h : i = fd
    · subst h; exact .inl hc
    · rw [hr.used] at hu'
      rw [hr.cltbl i h, hr.type]
      rcases hi.cltbl i hu' with h' | h' | ⟨c, h1, h2, h3, h4⟩
      · exact .inl h'
      · exact .inr (.inl h')
      · exact .inr (.inr ⟨c, h1, (hal c).mpr (.inl h2), by simp [hfc, h3, lt c h2], h4⟩)
  · exact hi.unshared_of_ne hr.outside (nofd i c hci) (nofd j c hcj) hui huj hci hcj
  · rw [hfc]
    by_cases h : Ptr.heap s.brk = .heap c
    · cases h; simp [hi.freeCount_brk]
    · simpa [h] using hi.freed_once c
  · have hne : Ptr.heap s.brk ≠ .heap c := by rintro h; simp [hfc, h] at hf'
    have hc'' : Allocated s.allocs c := by
      rcases (hal c).mp hc' with h | rfl
      · exact h
      · exact absurd rfl hne
    rw [hfc, if_neg hne, Nat.add_zero] at hf'
    obtain ⟨i, hu', hci⟩ := hi.held c hc'' hf'
    exact hr.outside.held (by rintro rfl; rw [hnull] at hci; cases hci) hu' hci
  · rw [hfc] at hq
    by_cases h : Ptr.heap s.brk = q
    · exact ⟨s.brk, h.symm, (hal _).mpr (.inr rfl)⟩
    · rw [if_neg h, Nat.add_zero] at hq
      obtain ⟨c, rfl, hc'⟩ := hi.frees_heap _ hq
      exact ⟨c, rfl, (hal c).mpr (.inl hc')⟩
  · rw [hb]
    rcases (hal c).mp hc' with hc' | rfl
    · exact Nat.lt_succ_of_lt (hi.fresh c hc')
    · exact Nat.lt_succ_self _

end LinkmapInv

/-! ## §5  Each operation keeps the discipline -/

namespace LinkmapInv

variable (hi : LinkmapInv s)
include hi

/-- A link-map build on an open slot, from an engine that asks for a larger table
only for a file object with a work area. -/
theorem build {lm : LinkmapReplies} {rc : FResult} (hu : (s.fh fd).used)
    (hv : (s.fh fd).fil.fs = none → lm.first.rc ≠ .notEnoughCore)
    (h : fatCreateLinkmap s fd lm = some (s', rc)) : LinkmapInv s' := by
  -- only a file slot is asked for a larger table
  have hfile : lm.first.rc = .notEnoughCore → (s.fh fd).type = .file := fun hnec => by
    rcases hi.typed fd hu with h | ⟨-, h⟩
    · exact h
    · exact absurd hnec (hv h)
  obtain ⟨hr, ⟨rfl, -⟩ | ⟨hnull, ⟨hal, hb, hc⟩ | ⟨hnec, n, hcn | hkeep | hfree⟩⟩⟩ :=
    fatCreateLinkmap_spec h
  · exact hi
  · refine hi.of_slot hr.outside hb (by simp [hal]) (by simp [hal]) (fun _ a => by simp [hnull])
      fun hu' => ⟨hc.imp (fun h => h.2) (fun h => h.2) |>.symm, ?_⟩
    rw [hr.type, hr.fs]; exact hi.typed fd (by rwa [hr.used] at hu')
  · obtain ⟨hal, hb, -, hc⟩ := hcn
    refine hi.of_slot hr.outside hb (by simp [hal]) (by simp [hal]) (fun _ a => by simp [hnull])
      fun _ => ⟨.inl hc, ?_⟩
    rw [hr.type]; exact .inl (hfile hnec)
  · obtain ⟨hal, hb, -, hc⟩ := hkeep
    exact hi.attach hr hu hnull (hfile hnec) hc hb hal
  · obtain ⟨hal, hb, -, hc⟩ := hfree
    exact hi.allocFree hr hnull hc hb hal

theorem fatOpen {vfs : Option MntCtx} {fn : Option String} {flags : Nat} {r : OpenReplies}
    {o : Out} (h : fatOpen K s vfs fn flags r = (s', o)) : LinkmapInv s' := by
  obtain ⟨hb, ha, ⟨-, rfl, -⟩ | ⟨fd, hfd, hfr, hd⟩⟩ := fatOpen_spec h
  · exact hi
  refine hi.of_slot (Outside.of_fh hfr) hb (by simp [ha]) (by simp [ha])
    (fun hu => absurd hu (by simp [firstFree_used hfd])) fun hu => ?_
  rcases hd with ⟨-, -, hu'⟩ | ⟨-, -, hc, ht⟩
  · exact absurd hu (by simp [hu'])
  · exact ⟨.inl hc, ht⟩

/-- `fat_close` of an open descriptor frees the block its slot holds, and only that. -/
theorem fatClose {rc : FResult} {o : Out} (hu : (s.fh fd).used)
    (h : DcFatfs.fatClose s (fd.val + 1) rc = (s', o)) : LinkmapInv s' := by
  obtain ⟨hn, -⟩ | ⟨fd', hfd, hfr, hf, hb, ha⟩ := fatClose_spec h
  · simp at hn
  obtain rfl : fd = fd' := by simpa using hfd
  have ho := Outside.of_fh hfr
  have hf' : (s'.fh fd).used = false := by simp [hf]
  rcases hi.cltbl fd hu with hc | hc | ⟨a, hc, -, -, ht⟩
  · exact hi.of_slot ho hb (by simp [ha, hc]) (by simp [ha, hc]) (fun _ a => by simp [hc])
      (fun h => absurd h (by simp [hf']))
  · exact hi.of_slot ho hb (by simp [ha, hc]) (by simp [ha, hc]) (fun _ a => by simp [hc])
      (fun h => absurd h (by simp [hf']))
  · exact hi.close_heap ho hu hc hf' hb (by simp [ha, hc, ht])

end LinkmapInv

/-! ## §6  Runs -/

/-- Every operation but `fat_open` names a descriptor in use. -/
def OnOpenDesc (s : Pool) (op : Op) : Prop :=
  ∀ hnd, op.hnd = some hnd → ∃ fd : Fin maxFatFiles, hnd = fd.val + 1 ∧ (s.fh fd).used = true

/-- The contract of the engine's `f_lseek`: it checks its object before anything
else, so a link-map build on a file object with no work area is never answered
with `FR_NOT_ENOUGH_CORE`. -/
def ValidatesFs (s : Pool) (op : Op) : Prop :=
  ∀ (fd : Fin maxFatFiles) lm, op.hnd = some (fd.val + 1 : Int) → op.linkmap = some lm →
    (s.fh fd).fil.fs = none → lm.first.rc ≠ .notEnoughCore

/-- The operations the discipline is proved for: each names a descriptor in use,
and the engine keeps the contract of `f_lseek`. -/
def Admitted (s : Pool) (op : Op) : Prop := OnOpenDesc s op ∧ ValidatesFs s op

theorem admitted_fatOpen {vfs : Option MntCtx} {fn : Option String} {flags : Nat}
    {r : OpenReplies} : Admitted s (.fatOpen vfs fn flags r) :=
  ⟨fun _ h => Option.noConfusion h, fun _ _ h => Option.noConfusion h⟩

/-- An operation on a descriptor in use whose file object has a work area is
admitted, whatever the engine answers. -/
theorem admitted_of_fs {op : Op} (fd : Fin maxFatFiles) (hh : op.hnd = some (fd.val + 1 : Int))
    (hu : (s.fh fd).used) (hfs : (s.fh fd).fil.fs.isSome) : Admitted s op := by
  refine ⟨fun hnd h => ⟨fd, Option.some.inj (h.symm.trans hh), hu⟩, fun fd' lm h _ hn => ?_⟩
  obtain rfl : fd' = fd := Fin.ext (by have := Option.some.inj (h.symm.trans hh); omega)
  rw [hn] at hfs
  cases hfs

/-- **One admitted operation keeps the discipline.** -/
theorem LinkmapInv.step {op : Op} {o : Out} (hi : LinkmapInv s) (hadm : Admitted s op)
    (h : step K s op = some (s', o)) : LinkmapInv s' := by
  rcases step_spec h with ⟨_, _, _, _, -, ho⟩ | ⟨hnd, rc, rfl, hc⟩ | ⟨-, hq | hb⟩
  · exact hi.fatOpen ho
  · obtain ⟨fd, rfl, hu⟩ := hadm.1 hnd rfl
    exact hi.fatClose hu hc
  · exact hi.quiet hq
  · obtain ⟨fd, lm, s₁, rc, hhnd, hlm, hb, hq⟩ := hb
    obtain ⟨fd', hfd, hu⟩ := hadm.1 _ hhnd
    obtain rfl : fd = fd' := by
      have := congrArg fatGetHnd hfd; simpa using this
    exact (hi.build hu (hadm.2 fd lm hhnd hlm) hb).quiet hq

theorem reach_linkmapInv (h : Reach K Admitted s) : LinkmapInv s := by
  induction h with
  | init => exact linkmapInv_init
  | step _ hadm hs ih => exact ih.step hadm hs

/-- The discipline of a pool, and what its next `fat_close` frees. -/
structure LinkmapContract (s : Pool) : Prop where
  inv : LinkmapInv s
  /-- Closing an open slot that holds block `a` frees `a`. -/
  close_frees_held : ∀ (fd : Fin maxFatFiles) a rc s' o, (s.fh fd).used →
    (s.fh fd).fil.cltbl = .heap a → fatClose s (fd.val + 1) rc = (s', o) →
    s'.allocs = s.allocs ++ [.free (.heap a)]
  /-- Closing an open slot that holds no block frees nothing. -/
  close_frees_nothing : ∀ (fd : Fin maxFatFiles) rc s' o, (s.fh fd).used →
    (∀ a, (s.fh fd).fil.cltbl ≠ .heap a) → fatClose s (fd.val + 1) rc = (s', o) →
    s'.allocs = s.allocs

/-- What closing an open slot frees: the block it holds, if any. -/
theorem LinkmapInv.close_allocs {rc : FResult} {o : Out} (hi : LinkmapInv s)
    (hu : (s.fh fd).used) (h : DcFatfs.fatClose s (fd.val + 1) rc = (s', o)) :
    s'.allocs = s.allocs ++ match (s.fh fd).fil.cltbl with
      | .heap a => [.free (.heap a)]
      | _ => [] := by
  obtain ⟨hn, -⟩ | ⟨fd', hfd, -, -, -, ha⟩ := fatClose_spec h
  · simp at hn
  obtain rfl : fd = fd' := by simpa using hfd
  rw [ha]
  rcases hi.cltbl fd hu with hc | hc | ⟨a, hc, -, -, ht⟩
  · simp [hc]
  · simp [hc]
  · simp [hc, ht]

/-! ## §7  A fragmented file -/

/-- Replies to a build: `FR_NOT_ENOUGH_CORE` with 5 cells asked for, then `FR_OK`;
`calloc` succeeds. -/
def growBuild : LinkmapReplies := ⟨⟨.notEnoughCore, 0, 0, some 5⟩, true, ⟨.ok, 0, 0, none⟩⟩

/-- Replies to a build on the file of `fragOpen`: its 20 fragments need a table of
42 cells, more than `FATFS_LINK_TBL_SIZE`, so the engine answers
`FR_NOT_ENOUGH_CORE` with 42 in the first cell; `calloc` returns a block and the
retry succeeds. Neither call moves the cursor. -/
def fragBuild : LinkmapReplies :=
  ⟨⟨.notEnoughCore, 0, 0x40000, some 42⟩, true, ⟨.ok, 0, 0x40000, none⟩⟩

/-- The file of `fragOpen` opened read-only as descriptor 1. -/
def fragOpened : Pool :=
  (fatOpen sampleFlags Pool.init (some sampleMnt) (some "/f") sampleFlags.oRdonly fragOpen).1

/-- `fragOpened` once read: the read builds the link map in heap block 0. -/
def fragRead : Pool :=
  ((fatRead sampleFlags fragOpened 1 512 fragBuild ⟨.ok, 512, 512⟩).map Prod.fst).getD Pool.init

theorem reach_fragOpened : Reach sampleFlags Admitted fragOpened :=
  .step .init admitted_fatOpen (show step sampleFlags Pool.init
    (.fatOpen (some sampleMnt) (some "/f") sampleFlags.oRdonly fragOpen) = some (fragOpened, _) from rfl)

theorem reach_fragRead : Reach sampleFlags Admitted fragRead :=
  .step reach_fragOpened (by exact admitted_of_fs 0 rfl rfl rfl)
    (show step sampleFlags _ (.fatRead 1 512 fragBuild ⟨.ok, 512, 512⟩) = some (fragRead, _) from rfl)

/-! ## §8  The contract -/

/-- **Over every admitted run, the link-map tables obey the discipline, and
closing an open slot frees exactly the block it holds.** The runs are those in
which each operation names a descriptor in use and the engine keeps the contract
of `f_lseek` (`Admitted`). -/
theorem reach_linkmapContract (K : HostFlags) (s : Pool) (h : Reach K Admitted s) :
    LinkmapContract s := by
  have hi := reach_linkmapInv h
  refine ⟨hi, fun fd a rc s' o hu hc hcl => ?_, fun fd rc s' o hu hc hcl => ?_⟩
  · simpa [hc] using hi.close_allocs hu hcl
  · have := hi.close_allocs hu hcl
    split at this
    · exact absurd ‹_› (hc _)
    · simpa using this

/-- Descriptor 1 holds heap block 0 after the read of `fragRead`, and the
discipline holds there. -/
theorem linkmapContract_fragRead :
    (fragRead.fh 0).fil.cltbl = .heap 0 ∧ LinkmapContract fragRead :=
  ⟨rfl, reach_linkmapContract sampleFlags fragRead reach_fragRead⟩

end DcFatfs
