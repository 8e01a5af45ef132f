/-!
# Characters of one byte

The texts in which bytes travel are made of characters below 128. In UTF-8 each of these is a
single byte, and a text all of whose bytes are below 128 has only such characters
(`ContractSchema.map_ofNat_flatMap_utf8EncodeChar`). So the text and its bytes may be taken
for each other (`ContractSchema.toByteArray_eq_iff`).
-/

namespace ContractSchema

theorem toList_toByteArray_eq (text : String) :
    text.toByteArray.data.toList = text.toList.flatMap String.utf8EncodeChar := by
  have h : (String.ofList text.toList).toByteArray = text.toList.utf8Encode :=
    String.toByteArray_ofList
  rw [String.ofList_toList] at h
  rw [h, List.utf8Encode, List.data_toByteArray]

theorem utf8EncodeChar_of_lt {c : Char} (h : c.toNat < 128) :
    String.utf8EncodeChar c = [UInt8.ofNat c.toNat] := by
  have hle : c.val.toNat ≤ 0x7f := Nat.le_of_lt_succ h
  rw [String.utf8EncodeChar]
  exact if_pos hle

/-- A text of characters below 128 has a byte for each. -/
theorem toList_toByteArray_of_lt {text : String} (h : ∀ c ∈ text.toList, c.toNat < 128) :
    text.toByteArray.data.toList = text.toList.map fun c => UInt8.ofNat c.toNat := by
  have hbytes : text.toList.map String.utf8EncodeChar =
      text.toList.map fun c => [UInt8.ofNat c.toNat] :=
    List.map_congr_left fun c hc => utf8EncodeChar_of_lt (h c hc)
  rw [toList_toByteArray_eq, List.map_eq_flatMap, List.flatMap_def, List.flatMap_def, hbytes]

/-- A character with a byte below 128 is this byte. -/
theorem toNat_lt_of_utf8EncodeChar {c : Char}
    (h : ∀ byte ∈ String.utf8EncodeChar c, byte.toNat < 128) : c.toNat < 128 := by
  refine Nat.lt_of_not_le fun hge => ?_
  have hle : ¬ c.val.toNat ≤ 0x7f := Nat.not_le.mpr hge
  rw [String.utf8EncodeChar] at h
  simp only [if_neg hle] at h
  -- the first byte of a longer form is at least 192
  split at h
  · have hfirst := h _ (List.mem_cons_self ..)
    rw [UInt8.toNat_ofNat'] at hfirst
    omega
  · split at h
    · have hfirst := h _ (List.mem_cons_self ..)
      rw [UInt8.toNat_ofNat'] at hfirst
      omega
    · have hfirst := h _ (List.mem_cons_self ..)
      rw [UInt8.toNat_ofNat'] at hfirst
      omega

theorem map_ofNat_flatMap_utf8EncodeChar {cs : List Char}
    (h : ∀ byte ∈ cs.flatMap String.utf8EncodeChar, byte.toNat < 128) :
    (cs.flatMap String.utf8EncodeChar).map (fun byte => Char.ofNat byte.toNat) = cs := by
  induction cs with
  | nil => rfl
  | cons c cs ih =>
    simp only [List.flatMap_cons, List.mem_append] at h
    have hc : c.toNat < 128 := toNat_lt_of_utf8EncodeChar fun byte hbyte => h byte (.inl hbyte)
    have hbyte : (UInt8.ofNat c.toNat).toNat = c.toNat :=
      UInt8.toNat_ofNat_of_lt' (Nat.lt_trans hc (by decide))
    rw [List.flatMap_cons, List.map_append, ih fun byte hb => h byte (.inr hb),
      utf8EncodeChar_of_lt hc, List.map_singleton, hbyte, Char.ofNat_toNat, List.singleton_append]

theorem toNat_ofNat_of_lt : ∀ n < 128, (Char.ofNat n).toNat = n := by
  decide

theorem flatMap_utf8EncodeChar_map_ofNat {symbols : List UInt8}
    (h : ∀ symbol ∈ symbols, symbol.toNat < 128) :
    (symbols.map fun symbol => Char.ofNat symbol.toNat).flatMap String.utf8EncodeChar =
      symbols := by
  induction symbols with
  | nil => rfl
  | cons symbol symbols ih =>
    obtain ⟨hsymbol, hrest⟩ := List.forall_mem_cons.mp h
    have hchar := toNat_ofNat_of_lt symbol.toNat hsymbol
    have hbyte := utf8EncodeChar_of_lt (hchar.symm ▸ hsymbol)
    rw [List.map_cons, List.flatMap_cons, ih hrest, hbyte, hchar, UInt8.ofNat_toNat]
    rfl

/-- **Bytes below 128** are those of the text of the same characters. -/
theorem toByteArray_eq_iff {text : String} {symbols : List UInt8}
    (h : ∀ symbol ∈ symbols, symbol.toNat < 128) :
    text.toByteArray.data.toList = symbols ↔
      text = String.ofList (symbols.map fun symbol => Char.ofNat symbol.toNat) := by
  rw [toList_toByteArray_eq]
  constructor
  · rintro rfl
    rw [map_ofNat_flatMap_utf8EncodeChar h, String.ofList_toList]
  · rintro rfl
    rw [String.toList_ofList, flatMap_utf8EncodeChar_map_ofNat h]

end ContractSchema
