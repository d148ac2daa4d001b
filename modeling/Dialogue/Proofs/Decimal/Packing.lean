import Dialogue.Proofs.Decimal.Rounding

/-! The bits of a floating-point number: every finite one is packed from its mantissa and its
exponent, and these are what its bits tell. -/
namespace Dialogue.Binary64
open Float.Model Float.Model.UnpackedFloat

theorem toNat_packComponents (s : Sign) (e : BitVec 11) (m : BitVec 52) :
    (packComponents Format.binary64 s e m).toNat =
      s.toBitVec.toNat * 2 ^ 63 + e.toNat * 2 ^ 52 + m.toNat := by
  have he := e.isLt
  have hm := m.isLt
  change (s.toBitVec ++ e ++ m).toNat = _
  rw [BitVec.toNat_append, BitVec.toNat_append, Nat.shiftLeft_eq, Nat.shiftLeft_eq,
    Nat.mul_comm _ (2 ^ 52), Nat.mul_comm _ (2 ^ 11), ← Nat.two_pow_add_eq_or_of_lt he,
    ← Nat.two_pow_add_eq_or_of_lt hm]
  omega

private theorem toNat_unpackExponent (b : BitVec 64) :
    (@unpackExponent Format.binary64 b).toNat = b.toNat / 2 ^ 52 % 2048 := by
  rw [unpackExponent, BitVec.toNat_cast, BitVec.extractLsb_toNat, Nat.shiftRight_eq_div_pow]
  rfl

private theorem toNat_unpackMantissa (b : BitVec 64) :
    (@unpackMantissa Format.binary64 b).toNat = b.toNat % 2 ^ 52 := by
  rw [unpackMantissa, BitVec.toNat_cast, BitVec.extractLsb_toNat, Nat.shiftRight_zero]
  rfl

/-- What is packed for a full mantissa, and for one that the least exponent leaves shorter. -/
private theorem pack_finite (s : Sign) {m : Nat} {e : Int} (hc : Canonical m e) (he : e ≤ 971) :
    pack Format.binary64 (.finite s m e hc.pos) =
      packComponents Format.binary64 s
        (BitVec.ofNat 11 (if 2 ^ 52 ≤ m then (e + 1075).toNat else 0)) (BitVec.ofNat 52 m) := by
  have hle := hc.least
  have hbiased :
      (e + (Format.binary64.exponentBias : Int) + (52 : Nat)).toNat = (e + 1075).toNat := by
    change (e + (1023 : Nat) + (52 : Nat)).toNat = _
    omega
  have hfits : ¬ 2 ^ 11 ≤ (e + 1075).toNat + 1 := by omega
  have hbits : Format.binary64.mantissaBits = 53 := rfl
  rw [UnpackedFloat.pack]
  simp only [hbiased, if_neg hfits, hbits]
  by_cases hfull : 2 ^ 52 ≤ m
  · have hlog : m.log2 = 52 := (Nat.log2_eq_iff hc.pos.ne').mpr ⟨hfull, hc.lt⟩
    rw [if_pos (by rw [hlog]), if_pos hfull]
  · have hlog : m.log2 < 52 := (Nat.log2_lt hc.pos.ne').mpr (Nat.lt_of_not_le hfull)
    rw [if_neg (by omega), if_neg hfull]

theorem unpack_pack (s : Sign) {m : Nat} {e : Int} (hc : Canonical m e) (he : e ≤ 971) :
    unpack Format.binary64 (pack Format.binary64 (.finite s m e hc.pos)) =
      .finite s m e hc.pos := by
  have hle := hc.least
  have hlt := hc.lt
  have hall : (-1#11).toNat = 2047 := rfl
  rw [pack_finite s hc he, UnpackedFloat.unpack]
  simp only [unpackMantissa_packComponents, unpackExponent_packComponents,
    unpackSign_packComponents, Sign.ofBitVec_toBitVec]
  by_cases hfull : 2 ^ 52 ≤ m
  · have hexponent : (BitVec.ofNat 11 (e + 1075).toNat).toNat = (e + 1075).toNat := by
      rw [BitVec.toNat_ofNat, Nat.mod_eq_of_lt (by omega)]
    have hfinite : BitVec.ofNat 11 (e + 1075).toNat ≠ -1#11 := fun h => by
      have := congrArg BitVec.toNat h
      omega
    have hnormal : BitVec.ofNat 11 (e + 1075).toNat ≠ 0#11 := fun h => by
      have := congrArg BitVec.toNat h
      rw [BitVec.toNat_zero] at this
      omega
    have hmantissa : (1#1 ++ BitVec.ofNat 52 m).toNat = m := by
      rw [BitVec.toNat_append, Nat.shiftLeft_eq, BitVec.toNat_ofNat, BitVec.toNat_ofNat,
        Nat.mul_comm, ← Nat.two_pow_add_eq_or_of_lt (Nat.mod_lt m (by decide))]
      omega
    have hvalue :
        (((e + 1075).toNat : Int) - ((Format.binary64.exponentBias : Nat) + (52 : Nat))) = e := by
      change ((e + 1075).toNat : Int) - ((1023 : Nat) + (52 : Nat)) = e
      omega
    simp only [if_pos hfull, if_neg hfinite, if_neg hnormal, hexponent, hmantissa, hvalue]
  · have heq : e = -1074 := hc.full.resolve_left hfull
    have hmantissa : (BitVec.ofNat 52 m).toNat = m := by
      rw [BitVec.toNat_ofNat, Nat.mod_eq_of_lt (Nat.lt_of_not_le hfull)]
    have hpos : BitVec.ofNat 52 m ≠ 0#52 := fun h => by
      have := congrArg BitVec.toNat h
      rw [hmantissa, BitVec.toNat_zero] at this
      have := hc.pos
      omega
    have hfinite : BitVec.ofNat 11 0 ≠ -1#11 := by decide
    have hvalue : ((BitVec.ofNat 11 0).toNat : Int) -
        ((Format.binary64.exponentBias : Nat) + (52 : Nat)) + 1 = e := by
      rw [heq]
      rfl
    simp only [if_neg hfull, if_neg hfinite, if_true, dif_neg hpos, hmantissa, hvalue]

def signOf (negative : Bool) : Sign := if negative then .negative else .positive

private theorem toNat_signOf (negative : Bool) :
    (signOf negative).toBitVec.toNat = if negative then 1 else 0 := by
  cases negative <;> rfl

private theorem eq_ofModel_pack {x : Float} {u : UnpackedFloat}
    (h : x.toBits.toNat = (UnpackedFloat.pack Format.binary64 u).toNat) :
    x = .ofModel (.pack u) := by
  obtain ⟨⟨bits, valid⟩⟩ := x
  have hbits : bits = UInt64.ofBitVec (UnpackedFloat.pack Format.binary64 u) :=
    UInt64.toNat_inj.mp h
  subst hbits
  rfl

/-- The parts of the bits of a finite number. -/
private theorem toBits_of_finite {x : Float} {negative : Bool} {m : Nat} {e : Int}
    (h : ofFloat x = finite negative m e) : ∃ exponent < 2047, ∃ fraction < 2 ^ 52,
      x.toBits.toNat = (signOf negative).toBitVec.toNat * 2 ^ 63 + exponent * 2 ^ 52 + fraction ∧
        m = (if exponent = 0 then fraction else fraction + 2 ^ 52) ∧
        e = if exponent = 0 then -1074 else (exponent : Int) - 1075 := by
  have hbits : x.toBits.toNat < 2 ^ 64 := x.toBits.toNat_lt
  have hsign : (signOf (x.toBits.toNat / 2 ^ 63 % 2 == 1)).toBitVec.toNat =
      x.toBits.toNat / 2 ^ 63 := by
    rw [toNat_signOf]
    split
    · rename_i hone
      have := eq_of_beq hone
      omega
    · rename_i hone
      have := mt beq_iff_eq.mpr hone
      omega
  simp only [ofFloat, ofBits, Nat.pow_eq] at h
  split at h
  · split at h <;> cases h
  rename_i hspecial
  have hspecial := mt beq_iff_eq.mpr hspecial
  refine ⟨x.toBits.toNat / 2 ^ 52 % 2048, by omega, x.toBits.toNat % 2 ^ 52,
    Nat.mod_lt _ (by decide), ?_⟩
  split at h
  · rename_i hzero
    have hzero := eq_of_beq hzero
    obtain ⟨rfl, rfl, rfl⟩ := finite.inj h
    rw [hsign, if_pos hzero, if_pos hzero]
    exact ⟨by omega, rfl, rfl⟩
  · rename_i hzero
    have hzero := mt beq_iff_eq.mpr hzero
    obtain ⟨rfl, rfl, rfl⟩ := finite.inj h
    rw [hsign, if_neg hzero, if_neg hzero]
    exact ⟨by omega, rfl, rfl⟩

theorem canonical_of_finite {x : Float} {negative : Bool} {m : Nat} {e : Int}
    (h : ofFloat x = finite negative m e) (hm : m ≠ 0) : Canonical m e ∧ e ≤ 971 := by
  obtain ⟨exponent, hexponent, fraction, hfraction, -, rfl, rfl⟩ := toBits_of_finite h
  split at hm
  · rename_i hzero
    rw [if_pos hzero, if_pos hzero]
    exact ⟨⟨by omega, by omega, by omega, .inr rfl⟩, by omega⟩
  · rename_i hzero
    rw [if_neg hzero, if_neg hzero]
    exact ⟨⟨by omega, by omega, by omega, .inl (by omega)⟩, by omega⟩

/-- A finite number is packed from the mantissa and the exponent that its bits tell. -/
theorem eq_pack_of_finite {x : Float} {negative : Bool} {m : Nat} {e : Int}
    (h : ofFloat x = finite negative m e) (hc : Canonical m e) :
    x = .ofModel (.pack (.finite (signOf negative) m e hc.pos)) := by
  have he := (canonical_of_finite h hc.pos.ne').2
  obtain ⟨exponent, hexponent, fraction, hfraction, hbits, hm, hvalue⟩ := toBits_of_finite h
  refine eq_ofModel_pack ?_
  rw [hbits, pack_finite _ hc he, toNat_packComponents, BitVec.toNat_ofNat, BitVec.toNat_ofNat]
  split at hm
  · rename_i hzero
    rw [if_neg (by omega)]
    omega
  · rename_i hzero
    rw [if_neg hzero] at hvalue
    rw [if_pos (by omega)]
    omega

theorem eq_pack_of_zero {x : Float} {negative : Bool} {e : Int}
    (h : ofFloat x = finite negative 0 e) : x = .ofModel (.pack (.zero (signOf negative))) := by
  obtain ⟨exponent, hexponent, fraction, hfraction, hbits, hm, -⟩ := toBits_of_finite h
  refine eq_ofModel_pack ?_
  rw [hbits, UnpackedFloat.pack, packedZero]
  have hzero := toNat_packComponents (signOf negative) 0 0
  rw [hzero]
  split at hm
  · rename_i hexponent
    rw [← hm, hexponent]
    rfl
  · omega

/-- What the parts of the bits of a finite number tell. -/
private theorem ofBits_parts (negative : Bool) {exponent fraction : Nat}
    (hexponent : exponent < 2047) (hfraction : fraction < 2 ^ 52) :
    ofBits ((signOf negative).toBitVec.toNat * 2 ^ 63 + exponent * 2 ^ 52 + fraction) =
      finite negative (if exponent = 0 then fraction else fraction + 2 ^ 52)
        (if exponent = 0 then -1074 else (exponent : Int) - 1075) := by
  generalize hbits :
    (signOf negative).toBitVec.toNat * 2 ^ 63 + exponent * 2 ^ 52 + fraction = bits
  have hexponent' : bits / 2 ^ 52 % 2048 = exponent := by omega
  have hfraction' : bits % 2 ^ 52 = fraction := by omega
  have hsign : (bits / 2 ^ 63 % 2 == 1) = negative := by
    rw [toNat_signOf] at hbits
    cases negative <;> simp at hbits ⊢ <;> omega
  simp only [ofBits, Nat.pow_eq, hexponent', hfraction', hsign, beq_iff_eq]
  rw [if_neg (by omega)]
  split <;> rfl

/-- The bits of a finite number tell the mantissa and the exponent from which it is packed. -/
theorem ofFloat_pack (negative : Bool) {m : Nat} {e : Int} (hc : Canonical m e) (he : e ≤ 971) :
    ofFloat (.ofModel (.pack (.finite (signOf negative) m e hc.pos))) = finite negative m e := by
  have hleast := hc.least
  have hlt := hc.lt
  change ofBits (pack Format.binary64 (.finite (signOf negative) m e hc.pos)).toNat = _
  rw [pack_finite _ hc he, toNat_packComponents, BitVec.toNat_ofNat, BitVec.toNat_ofNat,
    ofBits_parts negative (by split <;> omega) (Nat.mod_lt _ (by decide))]
  by_cases hfull : 2 ^ 52 ≤ m
  · rw [if_pos hfull, if_neg (by omega), if_neg (by omega)]
    congr 1 <;> omega
  · have := hc.full.resolve_left hfull
    rw [if_neg hfull, if_pos (by omega), if_pos (by omega)]
    congr 1 <;> omega

/-- What is too large for the greatest exponent is infinite. -/
theorem pack_of_large (s : Sign) {m : Nat} {e : Int} (hm : 0 < m) (he : 971 < e) :
    Float.Model.pack (.finite s m e hm) = Float.Model.pack (.infinity s) := by
  have hlarge : 2 ^ Format.binary64.exponentBits ≤ (e + (Format.binary64.exponentBias : Int) +
      (Format.binary64.mantissaBitsWithoutImplicit : Nat)).toNat + 1 := by
    change 2 ^ 11 ≤ (e + (1023 : Nat) + (52 : Nat)).toNat + 1
    omega
  have hpack : pack Format.binary64 (.finite s m e hm) = pack Format.binary64 (.infinity s) :=
    if_pos hlarge
  simp only [Float.Model.pack, hpack]

theorem ofFloat_infinity (negative : Bool) : ofFloat (infinity negative) = infinite negative := by
  cases negative <;> decide +kernel

theorem eq_infinity {x : Float} {negative : Bool} (h : ofFloat x = infinite negative) :
    x = infinity negative := by
  have hbits : x.toBits.toNat < 2 ^ 64 := x.toBits.toNat_lt
  simp only [ofFloat, ofBits, Nat.pow_eq] at h
  split at h
  · rename_i hspecial
    have hspecial := eq_of_beq hspecial
    split at h
    · rename_i hfraction
      have hfraction := eq_of_beq hfraction
      have hsign := infinite.inj h
      refine Float.toBits_inj.mp (UInt64.toNat_inj.mp ?_)
      cases negative with
      | false =>
        have hlow := beq_eq_false_iff_ne.mp hsign
        have hvalue : (infinity false).toBits.toNat = 2047 * 2 ^ 52 := by decide +kernel
        omega
      | true =>
        have hhigh := eq_of_beq hsign
        have hvalue : (infinity true).toBits.toNat = 2 ^ 63 + 2047 * 2 ^ 52 := by decide +kernel
        omega
    · cases h
  · split at h <;> cases h

/-- There is only one number that is none. -/
theorem eq_quietNaN {x : Float} (h : ofFloat x = nan) : x = quietNaN := by
  have hbits : x.toBits.toNat < 2 ^ 64 := x.toBits.toNat_lt
  simp only [ofFloat, ofBits, Nat.pow_eq] at h
  split at h
  · rename_i hspecial
    have hspecial := eq_of_beq hspecial
    split at h
    · cases h
    · rename_i hfraction
      have hfraction := mt beq_iff_eq.mpr hfraction
      refine Float.toBits_inj.mp (UInt64.toNat_inj.mp ?_)
      have hexponent : @unpackExponent Format.binary64 x.toBits.toBitVec = -1#11 := by
        refine BitVec.eq_of_toNat_eq ?_
        rw [toNat_unpackExponent]
        exact hspecial
      have hmantissa : @unpackMantissa Format.binary64 x.toBits.toBitVec ≠ 0#52 := fun h => by
        have := congrArg BitVec.toNat h
        rw [toNat_unpackMantissa] at this
        exact hfraction this
      have hpacked : x.toBits.toBitVec = packedNaN Format.binary64 :=
        x.toModel.valid.eq_packedNaN hexponent hmantissa
      exact congrArg BitVec.toNat hpacked
  · split at h <;> cases h

end Dialogue.Binary64
