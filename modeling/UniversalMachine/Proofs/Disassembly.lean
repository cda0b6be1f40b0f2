import Mathlib
import UniversalMachine.Proofs.Codec

/-! A line of assembly tells which instruction it was written for. Once its commas are taken out, the line is
a row of words with a blank between each two: the mnemonic, the registers, the value. No word holds a blank
or a comma, so the words can be read off the line, and they name the operator and its operands. -/
namespace UniversalMachine.Instruction

/-- The words for the operands, in the order in which a line has them. -/
def operandWords (i : Instruction ℕ) : List String :=
  i.operands.map (fun (_,r) => s!"r{r}")++i.value?.toList.map (fun value => toString value.toNat)

def words (i : Instruction ℕ) : List String := i.mnemonic::i.operandWords

theorem text_eq (i : Instruction ℕ) :
    i.text = if i.operandWords.isEmpty then i.mnemonic
      else i.mnemonic++" "++", ".intercalate i.operandWords := rfl

/-! ### From lines to words -/

theorem isAlphanum_of_mem_toString {n : ℕ} {c : Char} (h : c ∈ (toString n).toList) :
    c.isAlphanum := by
  rw [Nat.toString_eq_ofList_toDigits,String.toList_ofList] at h
  rw [Char.isAlphanum,Nat.isDigit_of_mem_toDigits (by decide) (by decide) h,Bool.or_true]

theorem isAlphanum_of_mem_words {i : Instruction ℕ} {word : String} (hw : word ∈ i.words) {c : Char}
    (hc : c ∈ word.toList) : c.isAlphanum := by
  rcases List.mem_cons.mp hw with rfl | hw
  · revert c
    cases i <;> simp [mnemonic]
  rcases List.mem_append.mp hw with hw | hw
  · obtain ⟨⟨_,r⟩,_,rfl⟩ := List.mem_map.mp hw
    have hletter : c = 'r' ∨ c ∈ (toString r).toList := by simpa [toString] using hc
    rcases hletter with rfl | hdigit
    · rfl
    · exact isAlphanum_of_mem_toString hdigit
  · obtain ⟨value,_,rfl⟩ := List.mem_map.mp hw
    exact isAlphanum_of_mem_toString hc

/-- No word holds a character that stands between words. -/
theorem not_mem_of_mem_words (i : Instruction ℕ) (separator : Char) (hs : ¬ separator.isAlphanum) :
    ∀ word ∈ i.words.map String.toList, separator ∉ word := by
  intro _ hmap hmem
  obtain ⟨word,hw,rfl⟩ := List.mem_map.mp hmap
  exact hs (isAlphanum_of_mem_words hw hmem)

/-- Words without commas stay when the commas between them are taken out. -/
theorem filter_intercalate {row : List (List Char)} (h : ∀ word ∈ row, ',' ∉ word) :
    ([',',' '].intercalate row).filter (· != ',') = [' '].intercalate row := by
  induction row with
  | nil => rfl
  | cons word row ih =>
    obtain ⟨hword,hrow⟩ := List.forall_mem_cons.mp h
    cases row with
    | nil => simpa using List.filter_bne_eq_self_of_not_mem hword
    | cons next row =>
      rw [List.intercalate_cons_cons,List.intercalate_cons_cons,List.filter_append,
        List.filter_append,List.filter_bne_eq_self_of_not_mem hword,ih hrow]
      rfl

/-- Without its commas, a line is its words with a blank between each two. -/
theorem filter_text (i : Instruction ℕ) :
    i.text.toList.filter (· != ',') = [' '].intercalate (i.words.map String.toList) := by
  obtain ⟨hmnemonic,hoperands⟩ :=
    List.forall_mem_cons.mp (i.not_mem_of_mem_words ',' (by decide))
  rw [text_eq,words,List.map_cons]
  cases hw : i.operandWords with
  | nil => simpa using List.filter_bne_eq_self_of_not_mem hmnemonic
  | cons word row =>
    -- the mnemonic is set off by a blank alone, the operands by a comma and a blank
    rw [hw] at hoperands
    rw [List.isEmpty_cons,if_neg Bool.false_ne_true,String.toList_append,String.toList_append,
      String.toList_intercalate,List.filter_append,List.filter_append,
      List.filter_bne_eq_self_of_not_mem hmnemonic]
    change _++[' ']++([',',' '].intercalate _).filter _ = _
    rw [filter_intercalate hoperands]
    exact List.intercalate_cons_cons.symm

theorem splitOn_text (i : Instruction ℕ) :
    (i.text.toList.filter (· != ',')).splitOn ' ' = i.words.map String.toList := by
  rw [filter_text]
  exact List.splitOn_intercalate ' ' (i.not_mem_of_mem_words ' ' (by decide)) (by simp [words])

/-! ### From words to instructions -/

/-- The mnemonics in the order of their operators. -/
def mnemonics : List String :=
  ["cmov","index","amend","add","mul","div","nand","halt","alloc","free","out","in","load","ortho"]

theorem getElem?_mnemonics {ρ : Type} (i : Instruction ρ) :
    mnemonics[i.opcode]? = some i.mnemonic := by cases i <;> rfl

theorem opcode_eq_of_mnemonic {i j : Instruction ℕ} (h : i.mnemonic = j.mnemonic) :
    i.opcode = j.opcode := by
  have hdistinct : mnemonics.Nodup := by decide
  apply (List.getElem?_inj i.opcode_lt hdistinct).mp
  rw [getElem?_mnemonics,getElem?_mnemonics,h]

/-- Registers and values are known by their decimals, once the operator is known. -/
theorem eq_of_operandWords {i j : Instruction ℕ} (hop : i.opcode = j.opcode)
    (hw : i.operandWords = j.operandWords) : i = j := by
  -- two constructors either differ in the operator or have their operands in the same places
  cases i <;> cases j <;>
    simp_all [opcode, operandWords, operands, value?, Nat.repr_inj, UInt32.toNat_inj]

theorem text_injective : Function.Injective text := by
  intro i j h
  have hwords : i.words = j.words := by
    apply List.map_injective_iff.mpr (fun _ _ => String.toList_inj.mp)
    rw [← splitOn_text,← splitOn_text,h]
  obtain ⟨hm,hw⟩ := List.cons.inj hwords
  exact eq_of_operandWords (opcode_eq_of_mnemonic hm) hw

/-- Different instructions have different texts, whatever numbers their operands are. Two platters that are
instructions have the same text exactly if they have the same canonical form, which is the platter of the
instruction that they decode to. -/
theorem text_unambiguous :
    (∀ i j : Instruction ℕ, i.text = j.text → i = j) ∧
    ∀ (v w : UInt32) (i j : Instruction Register), decode v = .ok i → decode w = .ok j →
      ((i.map Fin.val).text = (j.map Fin.val).text ↔
        encode (i.map Fin.val) = encode (j.map Fin.val)) := by
  refine ⟨fun i j h => text_injective h,?_⟩
  intro v w i j hi hj
  constructor
  · intro h
    rw [text_injective h]
  · intro h
    have hback : decode (encode (i.map Fin.val)) = .ok j := by
      rw [h]
      exact decode_encode_of_inRange (inRange_of_decode hj)
    rw [decode_encode_of_inRange (inRange_of_decode hi)] at hback
    rw [Except.ok.inj hback]

/-- Two platters that write register 5, one of them with bits that nothing reads, and two platters that differ
in their operator alone. -/
theorem text_unambiguous_padded :
    let writes : Instruction Register := .output 5
    let adds : Instruction Register := .addition 1 2 3
    let multiplies : Instruction Register := .multiplication 1 2 3
    decode 0xa0fffe05 = .ok writes ∧ decode 0xa0000005 = .ok writes ∧
    encode (writes.map Fin.val) = 0xa0000005 ∧ (writes.map Fin.val).text = (output 5).text ∧
    writes.map Fin.val = output 5 ∧
    decode 0x30000053 = .ok adds ∧ decode 0x40000053 = .ok multiplies ∧
    (adds.map Fin.val).text ≠ (multiplies.map Fin.val).text := by
  intro writes adds multiplies
  obtain ⟨hinstructions,hplatters⟩ := text_unambiguous
  have hsame := (hplatters 0xa0fffe05 0xa0000005 writes writes rfl rfl).mpr rfl
  have hdiffer := hplatters 0x30000053 0x40000053 adds multiplies rfl rfl
  refine ⟨rfl,rfl,by decide,hsame,hinstructions _ _ hsame,rfl,rfl,?_⟩
  rw [ne_eq,hdiffer]
  decide

end UniversalMachine.Instruction
