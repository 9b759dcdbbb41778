import WatershedDelineation.Reader.IdIndexFile

/-!
# The frame of an id index

A shift of the checksum loses nothing, so a changed byte changes it (`crc32_set_ne`). The search for
the footer does not stop at a magic word within the footer, since the bytes before it are no length
that ends at the end of the file (`searchMarker_of_footer`), so a frame is taken apart where it was
put together (`splitBodyAndFooter_frame`).
-/

namespace WatershedDelineation

namespace IndexFile

/-! ### The checksum -/

/-- The generator of the checksum. -/
def crc32Poly : BitVec 32 := 0xedb88320

theorem toBitVec_crc32Bit (crc : UInt32) :
    (crc32Bit crc).toBitVec = Crc.bitStep crc32Poly crc.toBitVec := by
  have hlow : (crc &&& 1).toBitVec = (BitVec.ofBool (crc.toBitVec.getLsbD 0)).setWidth 32 := by
    rw [UInt32.toBitVec_and]
    exact BitVec.and_one_eq_setWidth_ofBool_getLsbD
  have hshift : (crc >>> 1).toBitVec = crc.toBitVec >>> 1 := rfl
  rw [crc32Bit, UInt32.toBitVec_xor, UInt32.toBitVec_and, UInt32.toBitVec_sub, hlow, hshift,
    Crc.bitStep]
  cases crc.toBitVec.getLsbD 0
  · simp
  · have hmask : (0xedb88320 : UInt32).toBitVec &&&
        ((0 : UInt32).toBitVec - (BitVec.ofBool true).setWidth 32) = crc32Poly := by decide
    rw [hmask, if_pos rfl]

theorem toBitVec_crc32Byte (crc : UInt32) (byte : UInt8) :
    (crc32Byte crc byte).toBitVec = Crc.byteStep crc32Poly crc.toBitVec byte.toBitVec := by
  have hiterate : ∀ k crc,
      (crc32Bit^[k] crc).toBitVec = (Crc.bitStep crc32Poly)^[k] crc.toBitVec := by
    intro k crc
    exact Function.Semiconj.iterate_right toBitVec_crc32Bit k crc
  rw [crc32Byte, hiterate, UInt32.toBitVec_xor]
  rfl

theorem toBitVec_foldl_crc32Byte (bytes : List UInt8) (crc : UInt32) :
    (bytes.foldl crc32Byte crc).toBitVec
      = (bytes.map UInt8.toBitVec).foldl (Crc.byteStep crc32Poly) crc.toBitVec := by
  rw [List.foldl_map]
  exact (List.foldl_hom UInt32.toBitVec fun crc byte => (toBitVec_crc32Byte crc byte).symm).symm

/-- **A changed byte** changes the checksum. -/
theorem crc32_set_ne {bytes : List UInt8} {i : ℕ} (hi : i < bytes.length) {byte : UInt8}
    (hbyte : byte ≠ bytes[i]) : crc32 (bytes.set i byte) ≠ crc32 bytes := by
  have hsplit : bytes = bytes.take i ++ bytes[i] :: bytes.drop (i + 1) := by
    rw [List.getElem_cons_drop, List.take_append_drop]
  have hset : bytes.set i byte = bytes.take i ++ byte :: bytes.drop (i + 1) := by
    rw [List.set_eq_take_append_cons_drop, if_pos hi]
  intro h
  have hfold := congrArg UInt32.toBitVec (UInt32.not_inj.mp h)
  rw [toBitVec_foldl_crc32Byte, toBitVec_foldl_crc32Byte, hset] at hfold
  conv at hfold => rhs; rw [hsplit]
  simp only [List.map_append, List.map_cons] at hfold
  exact Crc.foldl_byteStep_ne (by decide) (by decide) _ _ _
    (fun h => hbyte (UInt8.toBitVec_inj.mp h)) hfold

/-! ### The frame -/

theorem length_frame (body footerJson : List UInt8) :
    (frame body footerJson).length = body.length + markerLen + footerJson.length := by
  simp only [frame, magic, markerLen, List.length_append, LittleEndian.length_ofNat,
    List.length_cons, List.length_nil]

/-- Where a length ends with a byte of a text, it leads past any file, but not out of the address
space. -/
theorem toNat_length_bounds {lengthBytes : List UInt8} {byte : UInt8}
    (hlen : lengthBytes.length = 7) (hlow : 0x20 ≤ byte.toNat) (hhigh : byte.toNat < 0xC0) :
    2 ^ 61 ≤ LittleEndian.toNat (lengthBytes ++ [byte]) ∧
      LittleEndian.toNat (lengthBytes ++ [byte]) < 2 ^ 63 + 2 ^ 62 := by
  have hlt := LittleEndian.toNat_lt lengthBytes
  rw [LittleEndian.toNat_concat]
  rw [hlen] at hlt ⊢
  omega

/-- The file after the length: the magic word and the footer, in one text. -/
theorem drop_frame (body : List UInt8) (footer : String) :
    (frame body (Utf8.bytes footer)).drop (body.length + 8) = Utf8.bytes ("IIDX" ++ footer) := by
  have hlen : body.length + 8
      = (body ++ LittleEndian.ofNat 8 (Utf8.bytes footer).length).length := by simp
  rw [frame, List.append_assoc, hlen, List.drop_left, Utf8.bytes_append]
  rfl

/-- The search does not stop within the footer. -/
theorem searchMarker_of_footer (body : List UInt8) {footer : String}
    (hfooter : Utf8.Printable footer) (hsize : (frame body (Utf8.bytes footer)).length < 2 ^ 61)
    {lengthStart : ℕ} (hlt : body.length < lengthStart) :
    searchMarker (frame body (Utf8.bytes footer)) (lengthStart + 1)
      = searchMarker (frame body (Utf8.bytes footer)) lengthStart := by
  rw [searchMarker]
  split_ifs with hmagic
  · rfl
  -- the marker starts within the text after the length
  have hdrop := drop_frame body footer
  generalize hbytes : frame body (Utf8.bytes footer) = bytes at hmagic hsize hdrop ⊢
  obtain ⟨k, rfl⟩ : ∃ k, lengthStart = body.length + k + 1 :=
    ⟨lengthStart - body.length - 1, by omega⟩
  have hmagic : ((Utf8.bytes ("IIDX" ++ footer)).drop (k + 1)).take 4 = magic := by
    rw [← hdrop, List.drop_drop]
    simpa [Nat.add_assoc, Nat.add_comm, Nat.add_left_comm, magic] using hmagic
  have hk : k + 1 < (Utf8.bytes ("IIDX" ++ footer)).length := by
    have hlen := congrArg List.length hmagic
    rw [List.length_take, List.length_drop] at hlen
    have : magic.length = 4 := rfl
    omega
  have hfirst : (Utf8.bytes ("IIDX" ++ footer))[k + 1] = 0x49 := by
    have hhead := congrArg List.head? hmagic
    rw [List.head?_take, List.head?_drop, List.getElem?_eq_getElem hk] at hhead
    simpa [magic] using hhead
  have hprintable : Utf8.Printable ("IIDX" ++ footer) :=
    Utf8.Printable.append (by decide) hfooter
  have hlow := Utf8.toNat_of_mem_bytes hprintable (List.getElem_mem (Nat.lt_of_succ_lt hk))
  have hhigh := List.isChain_iff_getElem.mp (Utf8.isChain_bytes ("IIDX" ++ footer)) k hk
    (by rw [hfirst]; decide)
  have hroom : body.length + 8 + (k + 1) < bytes.length := by
    rw [← hdrop, List.length_drop] at hk
    omega
  have hseven : 7 < (bytes.drop (body.length + k + 1)).length := by
    rw [List.length_drop]
    omega
  have hlast : (bytes.drop (body.length + k + 1))[7] = (Utf8.bytes ("IIDX" ++ footer))[k] := by
    have hget := congrArg (·[k]?) hdrop
    rw [List.getElem?_drop, List.getElem?_eq_getElem (Nat.lt_of_succ_lt hk)] at hget
    rw [← Option.some_inj, ← hget, List.getElem_drop, ← List.getElem?_eq_getElem]
    congr 1
    omega
  have hend : (bytes.drop (body.length + k + 1)).take 8
      = (bytes.drop (body.length + k + 1)).take 7 ++ [(Utf8.bytes ("IIDX" ++ footer))[k]] := by
    rw [← hlast, List.take_append_getElem]
  obtain ⟨hlarge, hfits⟩ := toNat_length_bounds (List.length_take_of_le hseven.le) hlow hhigh
  rw [← hend] at hlarge hfits
  rw [if_neg (by simp only [magic, List.length_cons, List.length_nil]; omega), if_neg (by omega)]

/-- **The frame is unambiguous**: a body and a footer without control characters are found again. -/
theorem splitBodyAndFooter_frame (body : List UInt8) {footer : String}
    (hfooter : Utf8.Printable footer)
    (hsize : (frame body (Utf8.bytes footer)).length < 2 ^ 61) :
    splitBodyAndFooter (frame body (Utf8.bytes footer)) = some (body, Utf8.bytes footer) := by
  have hlen := length_frame body (Utf8.bytes footer)
  have hsearch : ∀ k, searchMarker (frame body (Utf8.bytes footer)) (body.length + k + 1)
      = searchMarker (frame body (Utf8.bytes footer)) (body.length + 1) := by
    intro k
    induction k with
    | zero => rfl
    | succ k ih =>
      rw [← ih]
      exact searchMarker_of_footer body hfooter hsize (by omega)
  have hlast : (frame body (Utf8.bytes footer)).length - markerLen + 1
      = body.length + (Utf8.bytes footer).length + 1 := by omega
  have hmagic : ((frame body (Utf8.bytes footer)).drop (body.length + 8)).take magic.length
      = magic := by
    rw [drop_frame, Utf8.bytes_append]
    rfl
  have hfooterJson : (frame body (Utf8.bytes footer)).drop (body.length + 8 + magic.length)
      = Utf8.bytes footer := by
    rw [← List.drop_drop, drop_frame, Utf8.bytes_append]
    rfl
  have hbody : (frame body (Utf8.bytes footer)).take body.length = body := by
    rw [frame, List.append_assoc, List.append_assoc, List.take_left]
  have hfooterLen : LittleEndian.toNat (((frame body (Utf8.bytes footer)).drop body.length).take 8)
      = (Utf8.bytes footer).length := by
    rw [frame, List.append_assoc, List.append_assoc, List.drop_left,
      List.take_left' LittleEndian.length_ofNat, LittleEndian.toNat_ofNat (by omega)]
  have hend : body.length + 8 + magic.length + (Utf8.bytes footer).length
      = (frame body (Utf8.bytes footer)).length := by
    simp only [magic, List.length_cons, List.length_nil, hlen, markerLen]
  rw [splitBodyAndFooter, if_neg (by omega), hlast, hsearch, searchMarker]
  simp only [hmagic, hfooterLen, hend, hfooterJson, hbody, ne_eq, not_true_eq_false, if_false,
    if_true, List.take_length]
  rw [if_neg (by omega)]

end IndexFile

end WatershedDelineation
