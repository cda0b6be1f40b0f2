import Mathlib
import UniversalMachine.Console.Scripted
import UniversalMachine.Proofs.Codec
import UniversalMachine.Proofs.Slicing
import UniversalMachine.Proofs.Twins

/-! Assembled programs. Code that computes from the registers alone leads every machine that comes to it to
the registers that an evaluator gives, without a word to the console. So constants of 32 bits can be loaded
in halves, although a platter has room for 25 bits of a value, and the arithmetic on them is exact. -/
namespace UniversalMachine

namespace Instruction

/-- The platter of an instruction on the eight registers. -/
def platter (i : Instruction Register) : UInt32 := encode (i.map Fin.val)

def assemble (code : List (Instruction Register)) : Array UInt32 := (code.map platter).toArray

/-- The registers after an instruction that computes from them alone; `none` for any other, and for a
division by zero. -/
def evaluate? (registers : Register → UInt32) : Instruction Register → Option (Register → UInt32)
  | conditionalMove a b c =>
    some (if registers c = 0 then registers else Function.update registers a (registers b))
  | addition a b c => some (Function.update registers a (registers b+registers c))
  | multiplication a b c => some (Function.update registers a (registers b*registers c))
  | division a b c =>
    if registers c = 0 then none else some (Function.update registers a (registers b/registers c))
  | notAnd a b c => some (Function.update registers a (~~~(registers b &&& registers c)))
  | orthography a value => some (Function.update registers a value)
  | _ => none

/-- Loads a constant in halves: the high one is shifted by a multiplication with 2^16 before the low one is
added. -/
def loadConstant (r scratch : Register) (value : UInt32) : List (Instruction Register) :=
  [orthography r (value >>> 16),orthography scratch 0x10000,multiplication r r scratch,
    orthography scratch (value &&& 0xFFFF),addition r r scratch]

end Instruction

namespace Machine
open Instruction

variable {κ : Type} [Console κ] {m : Machine}

theorem get_set_eq_update (m : Machine) (r : Register) (value : UInt32) :
    (m.set r value).get = Function.update m.get r value := by
  funext s
  rw [get_set,Function.update_apply]

theorem execute_of_evaluate? {i : Instruction Register} {registers : Register → UInt32}
    (h : evaluate? m.get i = some registers) (c : κ) :
    ∃ stored, m.execute i c = (.next,{ m with registers := stored },c) ∧
      { m with registers := stored }.get = registers := by
  cases i with
  | conditionalMove a b r =>
    cases h
    simp only [execute]
    split
    · exact ⟨m.registers,rfl,rfl⟩
    · exact ⟨_,rfl,m.get_set_eq_update a _⟩
  | division a b r =>
    simp only [evaluate?] at h
    split at h
    · cases h
    · next hne =>
      cases h
      simp only [execute, hne, if_false]
      exact ⟨_,rfl,m.get_set_eq_update a _⟩
  | addition a | multiplication a | notAnd a | orthography a =>
    cases h
    exact ⟨_,rfl,m.get_set_eq_update a _⟩
  | _ => cases h

/-- The program of `m` from the program counter on is `code`, whose values have room in their platters. -/
structure Faces (m : Machine) (code : List (Instruction Register)) : Prop where
  rest : m.heap.program.toList.drop m.pc.toNat = code.map platter
  small : m.heap.program.size < 2^32
  inRange : ∀ i ∈ code, (i.map Fin.val).InRange

namespace Faces

variable {i : Instruction Register} {code rest : List (Instruction Register)}

theorem ofProgram (refuses : UInt32 → Bool) (hr : ∀ i ∈ code, (i.map Fin.val).InRange)
    (hs : code.length < 2^32) : (ofProgram refuses (assemble code)).Faces code where
  rest := rfl
  small := by
    change (assemble code).size < 2^32
    simpa [assemble] using hs
  inRange := hr

theorem step (h : m.Faces (i::code)) (c : κ) : m.step c = (m.fetched i.platter).execute i c := by
  have hfetch : m.fetch? = some i.platter := by
    unfold fetch?
    rw [← Array.getElem?_toList,← Nat.add_zero m.pc.toNat,← List.getElem?_drop,h.rest]
    rfl
  exact step_of_decode hfetch (decode_encode_of_inRange (h.inRange i List.mem_cons_self)) c

/-- An instruction that changes nothing but registers is followed by the rest of the code. -/
theorem next (h : m.Faces (i::code)) (stored : Registers) :
    { m.fetched i.platter with registers := stored }.tick.Faces code where
  rest := by
    have hlt : m.pc.toNat < m.heap.program.size := by
      by_contra hle
      have hrest := h.rest
      rw [List.drop_eq_nil_of_le (by simpa using hle)] at hrest
      cases hrest
    -- the counter does not wrap, as the program ends below 2^32
    have hpc : (m.pc+1).toNat = m.pc.toNat+1 := by
      have hsmall := h.small
      rw [UInt32.toNat_add]
      change (m.pc.toNat+1)%2^32 = _
      omega
    change m.heap.program.toList.drop (m.pc+1).toNat = _
    rw [hpc,← List.drop_drop,h.rest]
    rfl
  small := h.small
  inRange j hj := h.inRange j (List.mem_cons_of_mem i hj)

/-- Code that computes is executed to its end, whatever follows it. -/
theorem advance (h : m.Faces (code++rest)) {registers : Register → UInt32}
    (he : code.foldlM evaluate? m.get = some registers) (c : κ) :
    ∃ m' : Machine, m'.Faces rest ∧ m'.get = registers ∧
      ∀ budget, m.advance (code.length+budget) c = m'.advance budget c := by
  induction code generalizing m with
  | nil =>
    cases he
    exact ⟨m,h,rfl,fun budget => by rw [List.length_nil,Nat.zero_add]⟩
  | cons i code ih =>
    obtain ⟨between,hi,hcode⟩ := Option.bind_eq_some_iff.mp he
    obtain ⟨stored,hexecute,rfl⟩ :=
      execute_of_evaluate? (m := m.fetched i.platter) hi c
    obtain ⟨m',hfaces,hget,hrun⟩ := ih (h.next stored) hcode
    refine ⟨m',hfaces,hget,fun budget => ?_⟩
    rw [← hrun,List.length_cons,Nat.add_right_comm,Machine.advance,h.step,hexecute]

theorem advance_divisionByZero {a b r : Register} (h : m.Faces (.division a b r::code))
    (hzero : m.get r = 0) (budget : ℕ) (c : κ) :
    m.advance (budget+1) c = (m.fetched (platter (.division a b r))).stop .divisionByZero c := by
  have hstep : m.step c = (.fault .divisionByZero,m.fetched (platter (.division a b r)),c) :=
    (h.step c).trans (if_pos hzero)
  rw [Machine.advance,hstep]

/-- A halt that the console takes ends the run with the registers as they are. -/
theorem advance_halt (h : m.Faces (.halt::code)) {c : κ} (hc : (Console.announceHalt c).1 = .ok ()) :
    (m.advance 1 c).result = .ok .halted ∧ (m.advance 1 c).machine.get = m.get := by
  rcases ha : Console.announceHalt c with ⟨answer,c'⟩
  rw [ha] at hc
  cases hc
  have hrun : m.advance 1 c =
      ⟨.ok .halted,{ m.fetched (platter .halt) with state := .halted }.tick,c'⟩ := by
    rw [Machine.advance,h.step]
    simp only [execute, ha]
  rw [hrun]
  exact ⟨rfl,rfl⟩

end Faces
end Machine

/-! ### Constants -/

namespace Instruction

theorem toNat_high (value : UInt32) : (value >>> 16).toNat = value.toNat/2^16 := by
  rw [UInt32.toNat_shiftRight]
  exact Nat.shiftRight_eq_div_pow _ 16

theorem toNat_low (value : UInt32) : (value &&& 0xFFFF).toNat = value.toNat%2^16 := by
  rw [UInt32.toNat_and]
  exact Nat.and_two_pow_sub_one_eq_mod _ 16

theorem high_mul_add_low (value : UInt32) : (value >>> 16)*0x10000+(value &&& 0xFFFF) = value := by
  have hlt := value.toNat_lt
  apply UInt32.toNat_inj.mp
  rw [UInt32.toNat_add,UInt32.toNat_mul,toNat_high,toNat_low]
  change (value.toNat/2^16*2^16%2^32+value.toNat%2^16)%2^32 = _
  omega

theorem evaluate?_loadConstant {r scratch : Register} (h : r ≠ scratch) (value : UInt32)
    (registers : Register → UInt32) :
    (loadConstant r scratch value).foldlM evaluate? registers =
      some (Function.update (Function.update registers scratch (value &&& 0xFFFF)) r value) := by
  simp [loadConstant, evaluate?, h, h.symm, high_mul_add_low, Function.update_comm]

/-- The halves have room in their platters. -/
theorem inRange_loadConstant (r scratch : Register) (value : UInt32) :
    ∀ i ∈ loadConstant r scratch value, (i.map Fin.val).InRange := by
  have hlt := value.toNat_lt
  have hhigh : (value >>> 16).toNat < 2^25 := by
    rw [toNat_high]
    omega
  have hlow : (value &&& 0xFFFF).toNat < 2^25 := by
    rw [toNat_low]
    omega
  simp only [inRange_map_val, loadConstant, List.forall_mem_cons, value?]
  simpa using ⟨hhigh,hlow⟩

end Instruction

/-! ### Arithmetic -/

/-- The operators that compute one value from two. -/
inductive BinaryOperator where
  | addition
  | multiplication
  | division
  | notAnd
  deriving DecidableEq, Repr

namespace BinaryOperator
open Instruction

def instruction {ρ : Type} (a b c : ρ) : BinaryOperator → Instruction ρ
  | .addition => .addition a b c
  | .multiplication => .multiplication a b c
  | .division => .division a b c
  | .notAnd => .notAnd a b c

/-- The value among the numbers below 2^32. -/
def value (x y : ℕ) : BinaryOperator → ℕ
  | .addition => (x+y)%2^32
  | .multiplication => x*y%2^32
  | .division => x/y
  | .notAnd => 2^32-1-(x &&& y)

/-- Loads `x` into register `b` and `y` into register `c`, puts the value into register `a` and halts. -/
def code (operator : BinaryOperator) (a b c scratch : Register) (x y : UInt32) :
    List (Instruction Register) :=
  loadConstant b scratch x++loadConstant c scratch y++[operator.instruction a b c,.halt]

theorem evaluate?_instruction {operator : BinaryOperator} {registers : Register → UInt32}
    (a b c : Register) (h : ¬ (operator = .division ∧ registers c = 0)) :
    ∃ result, evaluate? registers (operator.instruction a b c) =
        some (Function.update registers a result) ∧
      result.toNat = operator.value (registers b).toNat (registers c).toNat := by
  cases operator with
  | addition => exact ⟨_,rfl,UInt32.toNat_add _ _⟩
  | multiplication => exact ⟨_,rfl,UInt32.toNat_mul _ _⟩
  | division =>
    have hne : registers c ≠ 0 := fun hzero => h ⟨rfl,hzero⟩
    exact ⟨_,if_neg hne,UInt32.toNat_div _ _⟩
  | notAnd =>
    refine ⟨_,rfl,?_⟩
    rw [UInt32.toNat_not,UInt32.toNat_and]
    rfl

theorem inRange_code (operator : BinaryOperator) (a b c scratch : Register) (x y : UInt32) :
    ∀ i ∈ operator.code a b c scratch x y, (i.map Fin.val).InRange := by
  intro i hi
  rcases List.mem_append.mp hi with hload | hlast
  · rcases List.mem_append.mp hload with hx | hy
    · exact inRange_loadConstant b scratch x i hx
    · exact inRange_loadConstant c scratch y i hy
  · rw [inRange_map_val]
    have hlast : i = operator.instruction a b c ∨ i = .halt := by simpa using hlast
    rcases hlast with rfl | rfl
    · cases operator <;> simp [instruction, value?]
    · simp [value?]

end BinaryOperator

namespace Machine
open Instruction

variable {κ : Type} [Console κ]

/-- Ten instructions load the operands. -/
theorem runFor_code (refuses : UInt32 → Bool) (operator : BinaryOperator) {b c scratch : Register}
    (hbc : b ≠ c) (hb : b ≠ scratch) (hc : c ≠ scratch) (a : Register) (x y : UInt32) (console : κ) :
    ∃ m : Machine, m.Faces [operator.instruction a b c,.halt] ∧ m.get b = x ∧ m.get c = y ∧
      ∀ budget, (ofProgram refuses (assemble (operator.code a b c scratch x y))).runFor (10+budget)
        console = m.advance budget console := by
  have hsmall : (operator.code a b c scratch x y).length < 2^32 := by
    change 12 < 2^32
    decide
  have hfaces := Faces.ofProgram refuses (operator.inRange_code a b c scratch x y) hsmall
  have hload (registers : Register → UInt32) :
      (loadConstant b scratch x++loadConstant c scratch y).foldlM evaluate? registers =
        some (Function.update (Function.update (Function.update (Function.update registers
          scratch (x &&& 0xFFFF)) b x) scratch (y &&& 0xFFFF)) c y) := by
    rw [List.foldlM_append,evaluate?_loadConstant hb]
    exact evaluate?_loadConstant hc y _
  obtain ⟨m,hm,hget,hrun⟩ := hfaces.advance (hload _) console
  refine ⟨m,hm,?_,?_,hrun⟩
  · rw [hget,Function.update_of_ne hbc,Function.update_of_ne hb,Function.update_self]
  · rw [hget,Function.update_self]

/-- Every sum, product, quotient and negated conjunction of two numbers of 32 bits comes out exact, on every
console that takes the news of a halt and with any further register for scratch. The operands stay in their
registers, and nothing but a division by zero faults. -/
theorem arithmetic_exact (refuses : UInt32 → Bool) (operator : BinaryOperator) {scratch : Register}
    (h1 : scratch ≠ 1) (h2 : scratch ≠ 2) (x y : UInt32) (console : κ)
    (hhalt : (Console.announceHalt console).1 = .ok ()) :
    ∃ r, (ofProgram refuses (assemble (operator.code 0 1 2 scratch x y))).Ends console r ∧
      r.machine.get 1 = x ∧ r.machine.get 2 = y ∧
      (∀ fault, r.result = .error fault ↔
        operator = .division ∧ y = 0 ∧ fault = .divisionByZero) ∧
      (¬ (operator = .division ∧ y = 0) → r.result = .ok .halted ∧
        (r.machine.get 0).toNat = operator.value x.toNat y.toNat) := by
  obtain ⟨m,hfaces,hx,hy,hrun⟩ :=
    runFor_code refuses operator (by decide) h1.symm h2.symm 0 x y console
  by_cases hzero : operator = .division ∧ y = 0
  · -- the eleventh instruction faults
    obtain ⟨rfl,rfl⟩ := hzero
    have hstop := hfaces.advance_divisionByZero hy 1 console
    refine ⟨m.advance 2 console,ends_iff.mpr ⟨12,hrun 2,?_⟩,?_⟩
    all_goals rw [hstop]
    · simp [stop]
    · refine ⟨hx,hy,fun fault => ?_,fun hnot => absurd ⟨rfl,rfl⟩ hnot⟩
      simp [stop, eq_comm]
  · -- the eleventh instruction computes and the twelfth halts
    have hsplit : m.Faces ([operator.instruction 0 1 2]++[.halt]) := hfaces
    obtain ⟨result,hevaluate,hvalue⟩ :=
      BinaryOperator.evaluate?_instruction 0 1 2 (hy.symm ▸ hzero)
    have hcompute : [operator.instruction 0 1 2].foldlM evaluate? m.get =
        some (Function.update m.get 0 result) := by
      rw [List.foldlM_cons,hevaluate]
      rfl
    obtain ⟨n,hlast,hget,hnext⟩ := hsplit.advance hcompute console
    obtain ⟨hhalted,hfinal⟩ := hlast.advance_halt hhalt
    refine ⟨n.advance 1 console,ends_iff.mpr ⟨12,(hrun 2).trans (hnext 1),?_⟩,?_⟩
    all_goals rw [hhalted]
    · simp
    · rw [hfinal,hget]
      refine ⟨hx,hy,fun fault => ?_,fun _ => ⟨rfl,?_⟩⟩
      · constructor
        · intro h
          cases h
        · rintro ⟨hdivision,hnone,_⟩
          exact absurd ⟨hdivision,hnone⟩ hzero
      · rw [Function.update_self,hvalue,hx,hy]

/-- The largest number times itself, and seven divided by nothing. -/
theorem arithmetic_exact_largest :
    let refuses : UInt32 → Bool := fun _ => false
    let console : ScriptedConsole := {}
    (7 : Register) ≠ 1 ∧ (7 : Register) ≠ 2 ∧ (Console.announceHalt console).1 = .ok () ∧
    (∃ r, (ofProgram refuses (assemble
        (BinaryOperator.multiplication.code 0 1 2 7 0xFFFFFFFF 0xFFFFFFFF))).Ends console r ∧
      r.result = .ok .halted ∧ r.machine.get 0 = 1) ∧
    ∃ r, (ofProgram refuses (assemble (BinaryOperator.division.code 0 1 2 7 7 0))).Ends console r ∧
      r.result = .error .divisionByZero ∧ r.machine.get 1 = 7 := by
  intro refuses console
  have h1 : (7 : Register) ≠ 1 := by decide
  have h2 : (7 : Register) ≠ 2 := by decide
  obtain ⟨r,hends,_,_,_,hexact⟩ :=
    arithmetic_exact refuses .multiplication h1 h2 0xFFFFFFFF 0xFFFFFFFF console rfl
  obtain ⟨s,hfaulted,hx,_,hfault,_⟩ := arithmetic_exact refuses .division h1 h2 7 0 console rfl
  obtain ⟨hhalted,hvalue⟩ := hexact (by decide)
  refine ⟨h1,h2,rfl,⟨r,hends,hhalted,?_⟩,s,hfaulted,?_,hx⟩
  · exact UInt32.toNat_inj.mp hvalue
  · exact (hfault _).mpr ⟨rfl,rfl,rfl⟩

end Machine
end UniversalMachine
