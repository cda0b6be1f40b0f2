import Mathlib
import UniversalMachine.Image

/-! Programs and their images determine each other. A platter is the number that its four bytes spell to the
base 256, the most significant first, and every whole number of platters is an image. -/
namespace UniversalMachine.Image

/-! ### One platter -/

theorem bytes_word (a b c d : UInt8) : bytes (word a b c d) = [a,b,c,d] := by
  have ha := a.toNat_lt
  have hb := b.toNat_lt
  have hc := c.toNat_lt
  have hd := d.toNat_lt
  have hword : (word a b c d).toNat =
      ((a.toNat*256+b.toNat)*256+c.toNat)*256+d.toNat :=
    UInt32.toNat_ofNat_of_lt' (by change _ < 4294967296; omega)
  simp only [bytes, hword, List.cons.injEq, and_true, ← UInt8.toNat_inj, UInt8.toNat_ofNat']
  omega

/-- The value of a platter is spelled by its bytes. The digits of a number are listed from the least
significant one on, so the bytes are turned round. -/
theorem toNat_eq_ofDigits (platter : UInt32) :
    platter.toNat = Nat.ofDigits 256 ((bytes platter).reverse.map UInt8.toNat) := by
  have hlt := platter.toNat_lt
  simp only [bytes, List.reverse_cons, List.reverse_nil, List.nil_append, List.cons_append,
    List.map_cons, List.map_nil, Nat.ofDigits_cons, Nat.ofDigits_nil, UInt8.toNat_ofNat']
  omega

theorem word_bytes (platter : UInt32) : ∃ a b c d, bytes platter = [a,b,c,d] ∧
    word a b c d = platter := by
  refine ⟨_,_,_,_,rfl,?_⟩
  have hlt := platter.toNat_lt
  rw [← UInt32.toNat_inj]
  simp only [word, UInt32.toNat_ofNat', UInt8.toNat_ofNat']
  omega

/-! ### Whole images -/

theorem encode_push (program : Array UInt32) (platter : UInt32) :
    encode (program.push platter) = encode program++bytes platter := by simp [encode]

theorem length_encode (program : Array UInt32) : (encode program).length = 4*program.size := by
  have hfour : ∀ platter, (bytes platter).length = 4 := fun _ => rfl
  simp [encode, List.length_flatMap, hfour, Nat.mul_comm]

/-- Platters are read from the bytes of a program one after the other. -/
theorem words_flatMap (read : Array UInt32) (platters : List UInt32) :
    words read (platters.flatMap bytes) = read++platters.toArray := by
  induction platters generalizing read with
  | nil => simp [words]
  | cons platter platters ih =>
    obtain ⟨a,b,c,d,hbytes,hword⟩ := word_bytes platter
    rw [List.flatMap_cons,hbytes]
    simp only [List.cons_append, List.nil_append, words, hword, ih]
    simp

theorem decode_encode (program : Array UInt32) : decode (encode program) = .ok program := by
  have hsize : (encode program).length % 4 = 0 := by
    rw [length_encode]
    omega
  rw [decode,if_pos hsize,encode,words_flatMap]
  simp

/-- No byte of a whole number of platters is lost. -/
theorem encode_words (read : Array UInt32) (image : List UInt8) (h : 4 ∣ image.length) :
    encode (words read image) = encode read++image := by
  fun_induction words read image with
  | case1 read a b c d rest ih =>
    have hrest : 4 ∣ rest.length := by
      simp only [List.length_cons] at h
      omega
    rw [ih hrest,encode_push,bytes_word,List.append_assoc]
    rfl
  | case2 image read hshort =>
    rcases image with _ | ⟨a,_ | ⟨b,_ | ⟨c,_ | ⟨d,rest⟩⟩⟩⟩
    · simp
    · simp at h
    · simp at h
    · simp at h
    · exact absurd rfl (hshort a b c d rest)

theorem decode_eq_error_iff {image : List UInt8} {error : LoadError} :
    decode image = .error error ↔ ¬ 4 ∣ image.length ∧ error = .misaligned image.length := by
  unfold decode
  split
  · next h => simp [Nat.dvd_of_mod_eq_zero h]
  · next h => simp [Nat.dvd_iff_mod_eq_zero, h, eq_comm]

theorem exists_decode {image : List UInt8} (h : 4 ∣ image.length) :
    ∃ program, decode image = .ok program ∧ encode program = image := by
  refine ⟨words #[] image,if_pos (Nat.mod_eq_zero_of_dvd h),?_⟩
  rw [encode_words _ _ h]
  rfl

theorem encode_of_decode {image : List UInt8} {program : Array UInt32}
    (h : decode image = .ok program) : encode program = image := by
  have hsize : 4 ∣ image.length := by
    by_contra hn
    rw [decode_eq_error_iff.mpr ⟨hn,rfl⟩] at h
    cases h
  obtain ⟨program',hdecode,hencode⟩ := exists_decode hsize
  obtain rfl : program' = program := Except.ok.inj (hdecode.symm.trans h)
  exact hencode

/-- The bytes of a platter stand at four times its place. -/
theorem take_drop_flatMap (platters : List UInt32) (i : ℕ) (hi : i < platters.length) :
    ((platters.flatMap bytes).drop (4*i)).take 4 = bytes platters[i] := by
  induction platters generalizing i with
  | nil => simp at hi
  | cons platter platters ih =>
    cases i with
    | zero => rfl
    | succ i =>
      have hskip : (bytes platter++platters.flatMap bytes).drop (4*(i+1)) =
          (platters.flatMap bytes).drop (4*i) := by
        have hfour : 4*(i+1) = (bytes platter).length+4*i := by
          change 4*(i+1) = 4+4*i
          omega
        rw [hfour,List.drop_length_add_append]
      rw [List.flatMap_cons,hskip]
      exact ih i (Nat.lt_of_succ_lt_succ hi)

/-- The image of a program holds four bytes for each platter and is read as this program. An image that is
not a whole number of platters is refused with its length, and no other is. Any other image is that of the
program which is read from it, where each platter is the number that its four bytes spell, the most
significant first. -/
theorem image_round_trip (program : Array UInt32) (image : List UInt8) :
    decode (encode program) = .ok program ∧ (encode program).length = 4*program.size ∧
    (∀ error, decode image = .error error ↔
      ¬ 4 ∣ image.length ∧ error = .misaligned image.length) ∧
    (4 ∣ image.length → ∃ platters, decode image = .ok platters ∧ encode platters = image ∧
      ∀ i (hi : i < platters.size),
        platters[i].toNat =
          Nat.ofDigits 256 (((image.drop (4*i)).take 4).reverse.map UInt8.toNat)) := by
  refine ⟨decode_encode program,length_encode program,fun error => decode_eq_error_iff,?_⟩
  intro hsize
  obtain ⟨platters,hdecode,rfl⟩ := exists_decode hsize
  refine ⟨platters,hdecode,rfl,?_⟩
  intro i hi
  rw [toNat_eq_ofDigits,encode,take_drop_flatMap platters.toList i (by simpa using hi)]
  rfl

/-- The second platter of two, with a different byte at each place. -/
theorem image_round_trip_second :
    let image : List UInt8 := [0xd0,0,0,0x48,0x12,0x34,0x56,0x78]
    4 ∣ image.length ∧ ∃ platters, decode image = .ok platters ∧ encode platters = image ∧
      platters.size = 2 ∧ platters[1]? = some 0x12345678 ∧
      ∀ i (hi : i < platters.size), platters[i].toNat =
        Nat.ofDigits 256 (((image.drop (4*i)).take 4).reverse.map UInt8.toNat) := by
  intro image
  have hsize : 4 ∣ image.length := by decide
  have hprogram : decode image = .ok #[0xd0000048,0x12345678] := by
    simp only [image]
    cbv
  obtain ⟨platters,hdecode,hencode,hspelled⟩ := (image_round_trip #[] image).2.2.2 hsize
  obtain rfl : platters = #[0xd0000048,0x12345678] := Except.ok.inj (hdecode.symm.trans hprogram)
  exact ⟨hsize,_,hdecode,hencode,rfl,rfl,hspelled⟩

end UniversalMachine.Image
