import DcFatfs.Handle.Seek

/-!
# `get_fattime`: the FAT time stamp

The engine stamps files with the `DWORD` that `get_fattime` returns: the RTC's
seconds since the epoch, broken down by `gmtime`, packed as the FAT time stamp.
The FAT layout puts the years since 1980 in bits 25-31, the month (1-12) in bits
21-24, the day in 16-20, the hour in 11-15, the minute in 5-10 and the seconds
halved in 0-4. `FatStamp` is a stamp in that layout with `pack` and `ofDword` its
two directions; `getFattime` is the C code, which shifts each field of the
`struct tm` into place and ORs the six words together.

Every `struct tm` that `gmtime` returns for a year from 1980 to 2107 packs to the
stamp of its own fields (`getFattime_eq_pack`): the OR is the sum, no field's bits
reach another's, and decoding gives the fields back (`getFattime_decodes`).
-/

namespace DcFatfs

/-! ## §1  The FAT layout -/

/-- A FAT time stamp's fields: the year itself, and the month, day, hour, minute
and seconds halved as they are stored. -/
@[ext]
structure FatStamp where
  year : Nat
  month : Nat
  day : Nat
  hour : Nat
  minute : Nat
  sec2 : Nat
  deriving DecidableEq, Repr

/-- The `w` bits of `d` from bit `o` on. -/
def bitField (d o w : Nat) : Nat := (d >>> o) % 2 ^ w

/-- The fields a `DWORD` holds under the FAT layout. -/
def FatStamp.ofDword (d : Nat) : FatStamp :=
  ⟨bitField d 25 7 + 1980, bitField d 21 4, bitField d 16 5, bitField d 11 5,
    bitField d 5 6, bitField d 0 5⟩

/-- The `DWORD` of a stamp under the FAT layout, each field at its offset. -/
def FatStamp.pack (f : FatStamp) : Nat :=
  (f.year - 1980) * 2 ^ 25 + f.month * 2 ^ 21 + f.day * 2 ^ 16 + f.hour * 2 ^ 11 +
    f.minute * 2 ^ 5 + f.sec2

/-- Each field of the stamp fits its bits. -/
structure FatStamp.Fits (f : FatStamp) : Prop where
  year : 1980 ≤ f.year ∧ f.year < 1980 + 2 ^ 7
  month : f.month < 2 ^ 4
  day : f.day < 2 ^ 5
  hour : f.hour < 2 ^ 5
  minute : f.minute < 2 ^ 6
  sec2 : f.sec2 < 2 ^ 5

/-- A stamp whose fields fit their bits decodes from its `DWORD` unchanged. -/
theorem FatStamp.ofDword_pack {f : FatStamp} (hf : f.Fits) : ofDword f.pack = f := by
  obtain ⟨⟨y₀, y₁⟩, hm, hd, hh, hi, hs⟩ := hf
  ext <;> simp only [ofDword, pack, bitField, Nat.shiftRight_eq_div_pow] <;> omega

/-- ORing a word below bit `k` into a multiple of `2 ^ k` adds it. -/
theorem or_eq_add_of_dvd {a b k : Nat} (ha : 2 ^ k ∣ a) (hb : b < 2 ^ k) : a ||| b = a + b := by
  obtain ⟨q, rfl⟩ := ha
  exact (Nat.mul_add_lt_is_or hb q).symm

/-- The fields of a stamp that fits lie in disjoint bits: its `DWORD` is the OR of
the shifted fields as well as their sum. -/
theorem FatStamp.pack_eq_or {f : FatStamp} (hf : f.Fits) :
    f.pack = (f.year - 1980) * 2 ^ 25 ||| f.month * 2 ^ 21 ||| f.day * 2 ^ 16 |||
      f.hour * 2 ^ 11 ||| f.minute * 2 ^ 5 ||| f.sec2 := by
  obtain ⟨-, hm, hd, hh, hi, hs⟩ := hf
  rw [pack, ← or_eq_add_of_dvd (k := 5) ?_ ?_, ← or_eq_add_of_dvd (k := 11) ?_ ?_,
    ← or_eq_add_of_dvd (k := 16) ?_ ?_, ← or_eq_add_of_dvd (k := 21) ?_ ?_,
    ← or_eq_add_of_dvd (k := 25) ?_ ?_]
  all_goals omega

/-! ## §2  The C code -/

/-- The fields of the `struct tm` that `gmtime` returns and `get_fattime` reads,
as `int`s. -/
structure Tm where
  tmSec : Int
  tmMin : Int
  tmHour : Int
  tmMday : Int
  tmMon : Int
  tmYear : Int
  deriving DecidableEq, Repr

/-- `(DWORD)(x) << k`, a shift of a 32-bit unsigned word. -/
def dwordShl (x : Int) (k : Nat) : Nat := (toDword x <<< k) % 2 ^ 32

/-- `get_fattime`, given what `gmtime` returned: 0 for a null `struct tm`, otherwise
the six fields shifted into place and ORed. `tm_sec / 2` is C's division, which
truncates. -/
def getFattime : Option Tm → Nat
  | none => 0
  | some t =>
    dwordShl (t.tmYear - 80) 25 ||| dwordShl (t.tmMon + 1) 21 ||| dwordShl t.tmMday 16 |||
      dwordShl t.tmHour 11 ||| dwordShl t.tmMin 5 ||| toDword (t.tmSec.tdiv 2)

/-- The ranges `gmtime` keeps each field in (`tm_sec` up to 60 for a leap second),
for a year from 1980 to 2107: `tm_year` counts from 1900. -/
structure Tm.Valid (t : Tm) : Prop where
  sec : 0 ≤ t.tmSec ∧ t.tmSec ≤ 60
  min : 0 ≤ t.tmMin ∧ t.tmMin ≤ 59
  hour : 0 ≤ t.tmHour ∧ t.tmHour ≤ 23
  mday : 1 ≤ t.tmMday ∧ t.tmMday ≤ 31
  mon : 0 ≤ t.tmMon ∧ t.tmMon ≤ 11
  year : 80 ≤ t.tmYear ∧ t.tmYear ≤ 207

/-- The stamp a `struct tm` stands for: `(tm_year + 1900, tm_mon + 1, tm_mday,
tm_hour, tm_min, ⌊tm_sec / 2⌋)`. -/
def Tm.stamp (t : Tm) : FatStamp :=
  ⟨(t.tmYear + 1900).toNat, (t.tmMon + 1).toNat, t.tmMday.toNat, t.tmHour.toNat,
    t.tmMin.toNat, (t.tmSec / 2).toNat⟩

theorem Tm.Valid.fits {t : Tm} (h : t.Valid) : t.stamp.Fits := by
  obtain ⟨⟨s₀, s₁⟩, ⟨i₀, i₁⟩, ⟨h₀, h₁⟩, ⟨d₀, d₁⟩, ⟨m₀, m₁⟩, ⟨y₀, y₁⟩⟩ := h
  constructor <;> simp only [stamp] <;> omega

/-! ## §3  The code packs the stamp -/

theorem toDword_eq_toNat {x : Int} (h₀ : 0 ≤ x) (h : x < 2 ^ 32) : toDword x = x.toNat := by
  have := toDword_of_lt h₀ h
  omega

/-- A field below `2 ^ w`, shifted by `k` with `w + k ≤ 32`, stays in the word. -/
theorem dwordShl_eq {x : Int} {k w : Nat} (h₀ : 0 ≤ x) (h : x < 2 ^ w) (hw : w + k ≤ 32) :
    dwordShl x k = x.toNat * 2 ^ k := by
  have hx : x.toNat < 2 ^ w := (Int.toNat_lt h₀).mpr (by exact_mod_cast h)
  have hw' : 2 ^ w ≤ 2 ^ 32 := Nat.pow_le_pow_right (by decide) (by omega)
  have hlt : x.toNat * 2 ^ k < 2 ^ 32 :=
    calc x.toNat * 2 ^ k < 2 ^ w * 2 ^ k := Nat.mul_lt_mul_of_pos_right hx (Nat.two_pow_pos k)
      _ = 2 ^ (w + k) := (Nat.pow_add 2 w k).symm
      _ ≤ 2 ^ 32 := Nat.pow_le_pow_right (by decide) hw
  rw [dwordShl, toDword_eq_toNat h₀ (by omega), Nat.shiftLeft_eq, Nat.mod_eq_of_lt hlt]

/-- **`get_fattime` packs the stamp of its `struct tm`.** For every `struct tm`
that `gmtime` can return from 1980 to 2107, each shifted field lies in its own bits,
so the OR of the six words is their sum: the stamp's `DWORD` in the FAT layout. -/
theorem getFattime_eq_pack {t : Tm} (h : t.Valid) : getFattime (some t) = t.stamp.pack := by
  obtain ⟨⟨s₀, s₁⟩, ⟨i₀, i₁⟩, ⟨h₀, h₁⟩, ⟨d₀, d₁⟩, ⟨m₀, m₁⟩, ⟨y₀, y₁⟩⟩ := h
  have hy : (t.tmYear + 1900).toNat - 1980 = (t.tmYear - 80).toNat := by omega
  rw [FatStamp.pack_eq_or (Tm.Valid.fits ⟨⟨s₀, s₁⟩, ⟨i₀, i₁⟩, ⟨h₀, h₁⟩, ⟨d₀, d₁⟩, ⟨m₀, m₁⟩, ⟨y₀, y₁⟩⟩),
    getFattime, dwordShl_eq (w := 7) (by omega) (by omega) (by decide),
    dwordShl_eq (w := 4) (by omega) (by omega) (by decide),
    dwordShl_eq (w := 5) (by omega) (by omega) (by decide),
    dwordShl_eq (w := 5) (by omega) (by omega) (by decide),
    dwordShl_eq (w := 6) (by omega) (by omega) (by decide), Int.tdiv_eq_ediv s₀ (by decide),
    toDword_eq_toNat (by omega) (by omega)]
  simp only [Tm.stamp, hy]

/-- **The stamp decodes to the fields it was packed from.** For every `struct tm`
that `gmtime` can return from 1980 to 2107, the `DWORD` of `get_fattime` is the sum
of the fields at their offsets, and reading it back under the FAT layout gives the
year, `tm_mon + 1`, `tm_mday`, `tm_hour`, `tm_min` and `⌊tm_sec / 2⌋`. -/
theorem getFattime_decodes {t : Tm} (h : t.Valid) :
    getFattime (some t) = t.stamp.pack ∧ FatStamp.ofDword (getFattime (some t)) = t.stamp := by
  rw [getFattime_eq_pack h]
  exact ⟨rfl, FatStamp.ofDword_pack h.fits⟩

/-- The last second the stamp holds, 2107-12-31 23:59:59. -/
theorem getFattime_decodes_last :
    (⟨59, 59, 23, 31, 11, 207⟩ : Tm).Valid ∧
      getFattime (some ⟨59, 59, 23, 31, 11, 207⟩) = (Tm.stamp ⟨59, 59, 23, 31, 11, 207⟩).pack ∧
      FatStamp.ofDword (getFattime (some ⟨59, 59, 23, 31, 11, 207⟩)) =
        Tm.stamp ⟨59, 59, 23, 31, 11, 207⟩ :=
  have hv : (⟨59, 59, 23, 31, 11, 207⟩ : Tm).Valid :=
    ⟨by decide, by decide, by decide, by decide, by decide, by decide⟩
  ⟨hv, getFattime_decodes hv⟩

end DcFatfs
