import DcFatfs.Handle.Linkmap

/-!
# Descriptors that are not open

`FAT_GET_HND` checks only that a descriptor lies in `1..MAX_FAT_FILES`. A
descriptor in range whose slot is free is not refused: the operation runs on
whatever the slot still holds. `fat_close` marks the slot free but leaves its
table pointer in place, so a second `fat_close` of a file descriptor calls
`f_close` again and frees the same heap block a second time (`fatClose_twice`, and
the run `double_close_frees_twice`).
-/

namespace DcFatfs

variable {s : Pool}

/-! ## §1  A slot closed before -/

/-- `fat_close` keeps a slot's type and table pointer. -/
theorem fatClose_keeps_table (s : Pool) (fd : Fin maxFatFiles) (rc : FResult) :
    ((fatClose s (fd.val + 1) rc).1.fh fd).type = (s.fh fd).type ∧
      ((fatClose s (fd.val + 1) rc).1.fh fd).fil.cltbl = (s.fh fd).fil.cltbl := by
  obtain ⟨hn, -⟩ | ⟨fd', hfd, -, hf, -⟩ := fatClose_spec
    (Prod.mk.eta (p := fatClose s (fd.val + 1) rc)).symm
  · simp at hn
  obtain rfl : fd = fd' := by simpa using hfd
  simp [hf]

/-- `fat_close` of a file slot that points at heap block `a`, open or not, frees
`a` and calls `f_close`. -/
theorem fatClose_frees_heap {fd : Fin maxFatFiles} {a : Nat} {rc : FResult}
    (ht : (s.fh fd).type = .file) (hc : (s.fh fd).fil.cltbl = .heap a) :
    (fatClose s (fd.val + 1) rc).1.trace = s.trace ++ [.free (.heap a), .engine (.close fd)] := by
  simp [fatClose, ht, hc, Pool.set, Pool.log]

/-- **Closing a file descriptor twice frees its heap table twice.** -/
theorem fatClose_twice {fd : Fin maxFatFiles} {a : Nat} {rc rc' : FResult}
    (ht : (s.fh fd).type = .file) (hc : (s.fh fd).fil.cltbl = .heap a) :
    (fatClose (fatClose s (fd.val + 1) rc).1 (fd.val + 1) rc').1.trace =
      s.trace ++ [.free (.heap a), .engine (.close fd), .free (.heap a), .engine (.close fd)] := by
  obtain ⟨ht', hc'⟩ := fatClose_keeps_table s fd rc
  rw [fatClose_frees_heap (ht'.trans ht) (hc'.trans hc), fatClose_frees_heap ht hc]
  simp

/-! ## §2  The run -/

/-- The file of `fragOpen` opened read-only and read once: the read builds its link
map in heap block 0, as the engine asks. A first `fat_close` of descriptor 1
succeeds and leaves no slot open; a second `fat_close` of descriptor 1, which
`f_close` answers `FR_INVALID_OBJECT`, is not refused: it frees block 0 a second
time and calls `f_close` again. -/
theorem double_close_frees_twice :
    Reach sampleFlags Admitted fragRead ∧ (fragRead.fh 0).fil.cltbl = .heap 0 ∧
      (fatClose fragRead 1 .ok).2 = ⟨0, none⟩ ∧
      (∀ fd, ((fatClose fragRead 1 .ok).1.fh fd).used = false) ∧
      (fatClose (fatClose fragRead 1 .ok).1 1 .invalidObject).2 = ⟨-1, some .ebadf⟩ ∧
      (fatClose (fatClose fragRead 1 .ok).1 1 .invalidObject).1.trace =
        fragRead.trace ++ [.free (.heap 0), .engine (.close 0), .free (.heap 0), .engine (.close 0)] :=
  ⟨reach_fragRead, rfl, rfl, by decide, rfl, @fatClose_twice fragRead 0 0 .ok .invalidObject rfl rfl⟩

end DcFatfs
