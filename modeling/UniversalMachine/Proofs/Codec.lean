import Mathlib
import UniversalMachine.Instruction.Codec
import UniversalMachine.Instruction.Text

/-! Instructions as platters and back. An instruction comes back from its platter with its operands cut to
the room that they have there, and a platter comes back from its instruction without the bits that the
operator does not read. -/
namespace UniversalMachine.Instruction

variable {ρ : Type}

/-- The instruction with its operands cut to their room: registers modulo eight, a value modulo 2^25. -/
def clip : Instruction ℕ → Instruction ℕ
  | orthography a value => orthography (a%8) (.ofNat (value.toNat%2^25))
  | i => i.map (·%8)

/-- Every operand has room in a platter. -/
def InRange (i : Instruction ℕ) : Prop :=
  (∀ operand ∈ i.operands, operand.2 < 8) ∧ ∀ value ∈ i.value?, value.toNat < 2^25

/-- The operands of an operator stand in the lowest bits of its platters, this many of them: three for
each register from C on up to the first that it has, or 28 for a register and a value. -/
def operandBits : Instruction ρ → ℕ
  | conditionalMove .. | arrayIndex .. | arrayAmendment .. | addition .. | multiplication ..
  | division .. | notAnd .. => 9
  | halt => 0
  | allocation .. | loadProgram .. => 6
  | abandonment .. | output .. | input .. => 3
  | orthography .. => 28

/-- The bits that an operator reads in its platters: those of its own number, and its operands'. -/
def usedBits (i : Instruction ρ) : UInt32 := .ofNat (15*2^28+(2^i.operandBits-1))

example : (addition 1 2 3).usedBits = 0xf00001ff := by decide
example : (output 5).usedBits = 0xf0000007 := by decide

/-! ### From instructions to platters and back -/

section Operate
variable {opcode : ℕ} (h : opcode < 16) (a b c : ℕ)
include h

theorem toNat_operate :
    (operate opcode a b c).toNat = opcode*2^28+a%8*64+b%8*8+c%8 := by
  unfold operate operatorWeight
  rw [UInt32.toNat_ofNat_of_lt']
  · rfl
  · unfold UInt32.size
    omega

theorem opcodeOf_operate : opcodeOf (operate opcode a b c) = opcode := by
  unfold opcodeOf operatorWeight
  rw [toNat_operate h]
  omega

/-- The three registers do not run into one another, nor into the operator. -/
theorem registers_operate :
    register (operate opcode a b c) 64 = Fin.ofNat 8 a ∧
    register (operate opcode a b c) 8 = Fin.ofNat 8 b ∧
    register (operate opcode a b c) 1 = Fin.ofNat 8 c := by
  simp only [register, Fin.ext_iff, Fin.val_ofNat, toNat_operate h]
  omega

end Operate

theorem toNat_encode_orthography (a : ℕ) (value : UInt32) :
    (encode (orthography a value)).toNat = 13*2^28+a%8*2^25+value.toNat%2^25 := by
  simp only [encode, opcode, operatorWeight, valueLimit]
  rw [UInt32.toNat_ofNat_of_lt']
  · rfl
  · unfold UInt32.size
    omega

theorem decode_encode (i : Instruction ℕ) : (decode i.encode).map (map Fin.val) = .ok i.clip := by
  cases i with
  | orthography a value =>
    have hword := toNat_encode_orthography a value
    have hop : opcodeOf (encode (orthography a value)) = 13 := by
      unfold opcodeOf operatorWeight
      omega
    have hregister : register (encode (orthography a value)) valueLimit = Fin.ofNat 8 a := by
      simp only [register, valueLimit, Fin.ext_iff, Fin.val_ofNat]
      omega
    have hvalue : (encode (orthography a value)).toNat%valueLimit = value.toNat%2^25 := by
      unfold valueLimit
      omega
    simp only [decode, hop, hregister, hvalue]
    rfl
  | _ =>
    simp [encode, decode, opcode, opcodeOf_operate, registers_operate, clip, map, Except.map]

theorem clip_of_inRange {i : Instruction ℕ} (h : i.InRange) : i.clip = i := by
  obtain ⟨hoperands,hvalue⟩ := h
  cases i <;> simp_all [clip, map, operands, value?, Nat.mod_eq_of_lt]

/-- Of an instruction on the eight registers, only the value can lack room. -/
theorem inRange_map_val {i : Instruction Register} :
    (i.map Fin.val).InRange ↔ ∀ value ∈ i.value?, value.toNat < 2^25 := by
  cases i <;> simp [InRange, map, operands, value?]

/-- An instruction on the eight registers comes back whole if its value has room. -/
theorem decode_encode_of_inRange {i : Instruction Register} (h : (i.map Fin.val).InRange) :
    decode (encode (i.map Fin.val)) = .ok i := by
  have hback := decode_encode (i.map Fin.val)
  rw [clip_of_inRange h] at hback
  cases hd : decode (encode (i.map Fin.val)) with
  | error fault =>
    rw [hd] at hback
    cases hback
  | ok j =>
    rw [hd] at hback
    have hreduce : Fin.ofNat 8 ∘ Fin.val = (id : Register → Register) := by
      funext r
      exact Fin.ofNat_val_eq_self r
    have hsame := congrArg (map (Fin.ofNat 8)) (Except.ok.inj hback)
    rw [map_map,map_map,hreduce,map_id,map_id] at hsame
    rw [hsame]

/-! ### From platters to instructions and back -/

theorem decode_eq_error_iff {word : UInt32} {fault : Fault} :
    decode word = .error fault ↔
      14*2^28 ≤ word.toNat ∧ fault = .invalidOpcode (.ofNat (word.toNat/2^28)) word := by
  have hop : opcodeOf word = word.toNat/2^28 := rfl
  unfold decode
  dsimp only
  split
  case h_15 =>
    simp only [imp_false] at *
    have hle : 14*2^28 ≤ word.toNat := by omega
    rw [Except.error.injEq,hop,eq_comm]
    exact ⟨fun h => ⟨hle,h⟩,And.right⟩
  all_goals
    simp only [reduceCtorEq, false_iff, not_and]
    omega

theorem opcode_of_decode {word : UInt32} {i : Instruction Register} (h : decode word = .ok i) :
    i.opcode = word.toNat/2^28 := by
  unfold decode at h
  dsimp only at h
  split at h <;> cases h <;> exact Eq.symm ‹opcodeOf word = _›

theorem inRange_of_decode {word : UInt32} {i : Instruction Register} (h : decode word = .ok i) :
    (i.map Fin.val).InRange := by
  unfold decode at h
  dsimp only at h
  split at h <;> cases h
  case h_14 =>
    have hvalue : (UInt32.ofNat (word.toNat%valueLimit)).toNat < 2^25 := by
      rw [UInt32.toNat_ofNat',valueLimit]
      omega
    simpa [InRange, map, operands, value?] using hvalue
  all_goals simp [InRange, map, operands, value?]

/-- The bits from 28 on and the low `k` bits of a number below 2^32. -/
theorem and_highBits_lowBits {n k : ℕ} (hn : n < 2^32) (hk : k ≤ 28) :
    n &&& (2^28*15+(2^k-1)) = 2^28*(n/2^28)+n%2^k := by
  have hpow : 2^k ≤ 2^28 := Nat.pow_le_pow_right (by decide) hk
  have hpos : 0 < 2^k := Nat.two_pow_pos k
  have hmask : 2^k-1 < 2^28 := by omega
  have hlow : n%2^k < 2^28 := (Nat.mod_lt n hpos).trans_le hpow
  apply Nat.eq_of_testBit_eq
  intro bit
  rw [Nat.testBit_and,Nat.testBit_two_pow_mul_add _ hmask,Nat.testBit_two_pow_mul_add _ hlow]
  by_cases hb : bit < 28
  · simp [hb, Nat.testBit_two_pow_sub_one, Nat.testBit_mod_two_pow, Bool.and_comm]
  · have hfifteen : Nat.testBit 15 (bit-28) = decide (bit-28 < 4) := Nat.testBit_two_pow_sub_one 4 _
    have hdiv : Nat.testBit (n/2^28) (bit-28) = n.testBit bit := by
      rw [Nat.testBit_div_two_pow,Nat.sub_add_cancel (by omega)]
    simp only [hb, if_false, hfifteen, hdiv, Bool.and_eq_left_iff_imp, decide_eq_true_eq]
    intro hset
    by_contra hlarge
    have hle : 2^32 ≤ 2^bit := Nat.pow_le_pow_right (by decide) (by omega)
    rw [Nat.testBit_lt_two_pow (hn.trans_le hle)] at hset
    cases hset

/-- Of a platter the mask leaves the operator and the low bits. -/
theorem and_usedBits_toNat (word : UInt32) (i : Instruction ρ) :
    (word &&& i.usedBits).toNat = word.toNat/2^28*2^28+word.toNat%2^i.operandBits := by
  have hk : i.operandBits ≤ 28 := by cases i <;> simp [operandBits]
  have hpow : 2^i.operandBits ≤ 2^28 := Nat.pow_le_pow_right (by decide) hk
  have hmask : i.usedBits.toNat = 2^28*15+(2^i.operandBits-1) := by
    unfold usedBits
    rw [UInt32.toNat_ofNat_of_lt' (by unfold UInt32.size; omega),Nat.mul_comm]
  rw [UInt32.toNat_and,hmask,and_highBits_lowBits word.toNat_lt hk,Nat.mul_comm]

theorem toNat_encode_of_decode {word : UInt32} {i : Instruction Register}
    (h : decode word = .ok i) :
    (encode (i.map Fin.val)).toNat = word.toNat/2^28*2^28+word.toNat%2^i.operandBits := by
  unfold decode at h
  dsimp only at h
  split at h <;> cases h
  case h_14 hop =>
    change word.toNat/2^28 = _ at hop
    simp only [map, toNat_encode_orthography, operandBits, register, valueLimit, Fin.val_ofNat,
      UInt32.toNat_ofNat']
    omega
  -- every other operator has its registers from C on upward, and zeros in place of those it lacks
  all_goals
    next hop =>
    change word.toNat/2^28 = _ at hop
    simp only [map, encode, opcode, operandBits, toNat_operate, register, Fin.val_ofNat,
      Nat.reduceLT]
    omega

theorem encode_of_decode {word : UInt32} {i : Instruction Register} (h : decode word = .ok i) :
    encode (i.map Fin.val) = word &&& i.usedBits := by
  apply UInt32.toNat_inj.mp
  rw [toNat_encode_of_decode h,and_usedBits_toNat]

/-- Every instruction comes back from its platter, with its operands cut to their room there and so
unchanged if they have it. A platter is refused exactly if its operator is 14 or 15. Any other has an
instruction with its operator and with operands in range, and comes back from it with the bits cleared that
the operator does not read, and those only. -/
theorem codec_round_trip :
    (∀ i : Instruction ℕ, (decode i.encode).map (map Fin.val) = .ok i.clip ∧
      (i.InRange → i.clip = i)) ∧
    ∀ word : UInt32,
      (∀ fault, decode word = .error fault ↔
        14*2^28 ≤ word.toNat ∧ fault = .invalidOpcode (.ofNat (word.toNat/2^28)) word) ∧
      (word.toNat < 14*2^28 → ∃ i, decode word = .ok i ∧ (i.map Fin.val).InRange ∧
        i.opcode = word.toNat/2^28 ∧ encode (i.map Fin.val) = word &&& i.usedBits) := by
  refine ⟨fun i => ⟨decode_encode i,clip_of_inRange⟩,?_⟩
  intro word
  refine ⟨fun fault => decode_eq_error_iff,?_⟩
  intro hlt
  cases hd : decode word with
  | error fault =>
    have hle := (decode_eq_error_iff.mp hd).1
    omega
  | ok i => exact ⟨i,rfl,inRange_of_decode hd,opcode_of_decode hd,encode_of_decode hd⟩

/-- The largest value there is, and a platter that writes register 5 and is full of bits beside it. -/
theorem codec_round_trip_trimmed :
    (orthography 7 0x1ffffff).InRange ∧
    (decode (encode (orthography 7 0x1ffffff))).map (map Fin.val) = .ok (orthography 7 0x1ffffff) ∧
    (0xa0fffe05 : UInt32).toNat < 14*2^28 ∧
    ∃ i, decode 0xa0fffe05 = .ok i ∧ i.opcode = 10 ∧
      encode (i.map Fin.val) = 0xa0fffe05 &&& i.usedBits ∧ encode (i.map Fin.val) = 0xa0000005 := by
  obtain ⟨hinstruction,hword⟩ := codec_round_trip
  have hrange : (orthography 7 0x1ffffff).InRange := by simp [InRange, operands, value?]
  have hlt : (0xa0fffe05 : UInt32).toNat < 14*2^28 := by decide
  obtain ⟨hback,hclip⟩ := hinstruction (orthography 7 0x1ffffff)
  rw [hclip hrange] at hback
  obtain ⟨i,hd,_,hop,hencode⟩ := (hword 0xa0fffe05).2 hlt
  refine ⟨hrange,hback,hlt,i,hd,hop,hencode,?_⟩
  obtain rfl : output 5 = i := Except.ok.inj hd
  rfl

end UniversalMachine.Instruction
