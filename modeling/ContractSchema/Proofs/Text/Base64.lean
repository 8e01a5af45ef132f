import ContractSchema.Proofs.Steps
import ContractSchema.Proofs.Text.Characters
import ContractSchema.Proofs.Text.Sextets
import ContractSchema.Text.Base64

/-!
# Base64 text there and back

The Base64 form of bytes has a letter for each group of six of their bits, and `=` for the
groups that are missing from the last four (`ContractSchema.Base64.Armours`). A byte string
has exactly one such text (`ContractSchema.Base64.Armours.unique`), and this is the text that
is written (`ContractSchema.Base64.armours_iff`). It is also the only text that is read as
these bytes (`ContractSchema.Base64.decode_eq_ok_iff`). For the groups of four in front of the
last one this is arithmetic of numbers below 2^24. In the last group, whatever comes before
padding is of the alphabet, and there may be two, three or four symbols before it; in the
first two cases the bits that belong to no byte have to be zero.

Whether a text is the form of any bytes can be seen from its letters alone
(`ContractSchema.Base64.exists_armours_iff`).
-/

namespace ContractSchema.Base64

/-! ### Symbols -/

theorem symbolValue?_symbol : ∀ value < 64, symbolValue? (symbol value) = some value := by
  decide

theorem symbol_ne_padding : ∀ value < 64, symbol value ≠ padding := by
  decide

theorem symbol_lt : ∀ value < 64, (symbol value).toNat < 128 := by
  decide

theorem symbol_of_symbolValue? : ∀ n < 256, ∀ value ∈ symbolValue? (UInt8.ofNat n),
    value < 64 ∧ UInt8.ofNat n = symbol value := by
  decide +kernel

theorem symbolValue_symbol (offset : Nat) {value : Nat} (h : value < 64) :
    symbolValue offset (symbol value) = .ok value := by
  rw [symbolValue, symbolValue?_symbol value h]

theorem symbolValue_eq_ok {offset value : Nat} {byte : UInt8}
    (h : symbolValue offset byte = .ok value) : value < 64 ∧ byte = symbol value := by
  rw [symbolValue] at h
  split at h
  · next v hv =>
    obtain rfl := Except.ok.inj h
    have hbyte := symbol_of_symbolValue? byte.toNat byte.toNat_lt v
    rw [UInt8.ofNat_toNat] at hbyte
    exact hbyte hv
  · cases h

/-! ### What is written -/

/-- **What is written** are the symbols of the groups, and padding for those that are
missing. -/
theorem exists_sextets (bytes : List UInt8) : ∃ values pads, Sextets bytes values pads ∧
    encodeBytes bytes = values.map symbol ++ List.replicate pads padding := by
  -- on the bytes, three at a time as they are written
  induction bytes using encodeBytes.induct with
  | case1 a b c rest ih =>
    obtain ⟨values, pads, hsextets, hsymbols⟩ := ih
    refine ⟨_, pads, hsextets.cons rfl, ?_⟩
    rw [encodeBytes, hsymbols]
    rfl
  | case2 a b => exact ⟨_, _, sextets_two rfl, rfl⟩
  | case3 a => exact ⟨_, _, sextets_one a, rfl⟩
  | case4 => exact ⟨_, _, sextets_nil, rfl⟩

/-! ### The last group -/

theorem scanTail_symbols (start place : Nat) {values : List Nat}
    (h : ∀ value ∈ values, value < 64) (met : List Nat) (last : UInt8) (rest : List UInt8) :
    ∃ last', scanTail start place ⟨met, last, 0⟩ (values.map symbol ++ rest) =
      scanTail start (place + values.length) ⟨met ++ values, last', 0⟩ rest := by
  induction values generalizing place met last with
  | nil => exact ⟨last, by simp⟩
  | cons value values ih =>
    obtain ⟨hvalue, hvalues⟩ := List.forall_mem_cons.mp h
    obtain ⟨last', hlast'⟩ := ih (place + 1) hvalues (met ++ [value]) (symbol value)
    refine ⟨last', ?_⟩
    rw [List.map_cons, List.cons_append, scanTail, if_neg (symbol_ne_padding value hvalue),
      if_neg (Nat.lt_irrefl 0), symbolValue_symbol _ hvalue]
    refine hlast'.trans ?_
    rw [List.length_cons, List.append_assoc, Nat.add_assoc, Nat.add_comm 1]
    rfl

theorem scanTail_padding (start : Nat) {place : Nat} (h : 2 ≤ place) (tail : Tail)
    (pads : Nat) :
    scanTail start place tail (List.replicate pads padding) =
      .ok { tail with pads := tail.pads + pads } := by
  induction pads generalizing place tail with
  | zero => rfl
  | succ pads ih =>
    have hpads : tail.pads + 1 + pads = tail.pads + (pads + 1) := by omega
    rw [List.replicate_succ, scanTail, if_pos rfl, if_neg (Nat.not_lt.mpr h),
      ih (Nat.le_succ_of_le h)]
    exact congrArg (fun n => Except.ok (Tail.mk tail.values tail.last n)) hpads

/-- **What a scan has met**: symbols of values, and then padding. -/
theorem scanTail_eq_ok {start place : Nat} {tail tail' : Tail} {group : List UInt8}
    (h : scanTail start place tail group = .ok tail') :
    ∃ values pads, group = values.map symbol ++ List.replicate pads padding ∧
      (∀ value ∈ values, value < 64) ∧ tail'.values = tail.values ++ values ∧
        tail'.pads = tail.pads + pads ∧ (0 < tail.pads → values = []) := by
  induction group generalizing place tail with
  | nil =>
    obtain rfl := Except.ok.inj h
    exact ⟨[], 0, rfl, by simp, by simp, rfl, fun _ => rfl⟩
  | cons byte group ih =>
    rw [scanTail] at h
    split at h
    · next hpadding =>
      split at h
      · cases h
      · obtain ⟨values, pads, rfl, hvalues, hmet, hpads, hnone⟩ := ih h
        -- behind padding there are no symbols
        obtain rfl := hnone (Nat.succ_pos _)
        have hcount : tail.pads + 1 + pads = tail.pads + (pads + 1) := by omega
        refine ⟨[], pads + 1, ?_, hvalues, hmet, hpads.trans hcount, fun _ => rfl⟩
        rw [hpadding]
        rfl
    · split at h
      · cases h
      · next hpads =>
        obtain ⟨value, hvalue, h⟩ := except_bind_eq_ok.mp h
        obtain ⟨hlt, rfl⟩ := symbolValue_eq_ok hvalue
        obtain ⟨values, pads, rfl, hvalues, hmet, hcount, -⟩ := ih h
        refine ⟨value :: values, pads, rfl, List.forall_mem_cons.mpr ⟨hlt, hvalues⟩, ?_, hcount,
          fun hpos => absurd hpos hpads⟩
        rw [hmet, List.append_assoc]
        rfl

theorem scanTail_group (start : Nat) {values : List Nat} (h : ∀ value ∈ values, value < 64)
    (hlength : 2 ≤ values.length) (pads : Nat) :
    ∃ last, scanTail start 0 ⟨[], 0, 0⟩ (values.map symbol ++ List.replicate pads padding) =
      .ok ⟨values, last, pads⟩ := by
  obtain ⟨last, hlast⟩ := scanTail_symbols start 0 h [] 0 (List.replicate pads padding)
  refine ⟨last, hlast.trans ?_⟩
  rw [scanTail_padding start (by omega), Nat.zero_add, List.nil_append]

/-- **A last group that is read** is empty, or it has at least two symbols and is full with
its padding. -/
theorem decodeTail_shape {start : Nat} {group bytes : List UInt8}
    (h : decodeTail start group = .ok bytes) (hne : group ≠ []) :
    ∃ (values : List Nat) (pads : Nat),
      group = values.map symbol ++ List.replicate pads padding ∧
        (∀ value ∈ values, value < 64) ∧ 2 ≤ values.length ∧
          (values.length + pads) % 4 = 0 := by
  rw [decodeTail] at h
  obtain ⟨tail, hscan, h⟩ := except_bind_eq_ok.mp h
  obtain ⟨values, pads, hgroup, hvalues, hmet, hpads, -⟩ := scanTail_eq_ok hscan
  have hlength : tail.values.length = values.length := congrArg List.length hmet
  have hcount : tail.pads = pads := hpads.trans (Nat.zero_add pads)
  rw [List.isEmpty_eq_false_iff.mpr hne, hlength, hcount] at h
  refine ⟨values, pads, hgroup, hvalues, Nat.le_of_not_lt fun hshort => ?_,
    Decidable.byContradiction fun hfull => ?_⟩
  · simp [hshort, throw, throwThe, MonadExceptOf.throw, bind, Except.bind] at h
  · by_cases hshort : values.length < 2
    · simp [hshort, throw, throwThe, MonadExceptOf.throw, bind, Except.bind] at h
    · simp [hshort, hfull, throw, throwThe, MonadExceptOf.throw, bind, Except.bind] at h

section LastGroup

variable {start p q r s : Nat} {bytes : List UInt8}

theorem decodeTail_two (hp : p < 64) (hq : q < 64) :
    decodeTail start [symbol p, symbol q, padding, padding] = .ok bytes ↔
      q % 16 = 0 ∧ [UInt8.ofNat ((64 * p + q) / 16)] = bytes := by
  have hvalues : ∀ value ∈ [p, q], value < 64 := by simp [hp, hq]
  obtain ⟨last, hscan⟩ := scanTail_group start hvalues (by simp) 2
  have hscan' : scanTail start 0 ⟨[], 0, 0⟩ [symbol p, symbol q, padding, padding] =
    .ok ⟨[p, q], last, 2⟩ := hscan
  rw [decodeTail, hscan']
  by_cases hzero : q % 16 = 0
  · simp [bind, Except.bind, pure, Except.pure, hzero]
  · simp [bind, Except.bind, throw, throwThe, MonadExceptOf.throw, hzero]

theorem decodeTail_three (hp : p < 64) (hq : q < 64) (hr : r < 64) :
    decodeTail start [symbol p, symbol q, symbol r, padding] = .ok bytes ↔
      r % 4 = 0 ∧ [UInt8.ofNat ((4096 * p + 64 * q + r) / 4 / 256),
        UInt8.ofNat ((4096 * p + 64 * q + r) / 4)] = bytes := by
  have hvalues : ∀ value ∈ [p, q, r], value < 64 := by simp [hp, hq, hr]
  obtain ⟨last, hscan⟩ := scanTail_group start hvalues (by simp) 1
  have hscan' : scanTail start 0 ⟨[], 0, 0⟩ [symbol p, symbol q, symbol r, padding] =
    .ok ⟨[p, q, r], last, 1⟩ := hscan
  rw [decodeTail, hscan']
  by_cases hzero : r % 4 = 0
  · simp [bind, Except.bind, pure, Except.pure, hzero]
  · simp [bind, Except.bind, throw, throwThe, MonadExceptOf.throw, hzero]

theorem decodeTail_four (hp : p < 64) (hq : q < 64) (hr : r < 64) (hs : s < 64) :
    decodeTail start [symbol p, symbol q, symbol r, symbol s] =
      .ok [UInt8.ofNat ((262144 * p + 4096 * q + 64 * r + s) / 65536),
        UInt8.ofNat ((262144 * p + 4096 * q + 64 * r + s) / 256),
        UInt8.ofNat (262144 * p + 4096 * q + 64 * r + s)] := by
  have hvalues : ∀ value ∈ [p, q, r, s], value < 64 := by simp [hp, hq, hr, hs]
  obtain ⟨last, hscan⟩ := scanTail_group start hvalues (by simp) 0
  have hscan' : scanTail start 0 ⟨[], 0, 0⟩ [symbol p, symbol q, symbol r, symbol s] =
    .ok ⟨[p, q, r, s], last, 0⟩ := hscan
  rw [decodeTail, hscan']
  simp [bind, Except.bind, pure, Except.pure]

end LastGroup

/-! ### Groups and the bytes they are read as -/

section Group

variable {start p q r s : Nat}

theorem encodeBytes_four (hp : p < 64) (hq : q < 64) (hr : r < 64) (hs : s < 64)
    (bytes : List UInt8) :
    encodeBytes (UInt8.ofNat ((262144 * p + 4096 * q + 64 * r + s) / 65536) ::
      UInt8.ofNat ((262144 * p + 4096 * q + 64 * r + s) / 256) ::
        UInt8.ofNat (262144 * p + 4096 * q + 64 * r + s) :: bytes) =
      symbol p :: symbol q :: symbol r :: symbol s :: encodeBytes bytes := by
  generalize hn : 262144 * p + 4096 * q + 64 * r + s = n
  have hbytes : 65536 * (n / 65536 % 256) + 256 * (n / 256 % 256) + n % 256 = n := by omega
  have hp' : n / 262144 = p := by omega
  have hq' : n / 4096 % 64 = q := by omega
  have hr' : n / 64 % 64 = r := by omega
  have hs' : n % 64 = s := by omega
  simp only [encodeBytes, UInt8.toNat_ofNat', Nat.reducePow, hbytes, hp', hq', hr', hs']

theorem encodeBytes_three (hp : p < 64) (hq : q < 64) (hr : r < 64) (hzero : r % 4 = 0) :
    encodeBytes [UInt8.ofNat ((4096 * p + 64 * q + r) / 4 / 256),
      UInt8.ofNat ((4096 * p + 64 * q + r) / 4)] =
      [symbol p, symbol q, symbol r, padding] := by
  generalize hn : (4096 * p + 64 * q + r) / 4 = n
  have hbytes : 256 * (n / 256 % 256) + n % 256 = n := by omega
  have hp' : n / 1024 = p := by omega
  have hq' : n / 16 % 64 = q := by omega
  have hr' : n % 16 * 4 = r := by omega
  simp only [encodeBytes, UInt8.toNat_ofNat', Nat.reducePow, hbytes, hp', hq', hr']

theorem encodeBytes_two (hp : p < 64) (hq : q < 64) (hzero : q % 16 = 0) :
    encodeBytes [UInt8.ofNat ((64 * p + q) / 16)] =
      [symbol p, symbol q, padding, padding] := by
  have hbyte : (64 * p + q) / 16 % 256 = (64 * p + q) / 16 := by omega
  have hp' : (64 * p + q) / 16 / 4 = p := by omega
  have hq' : (64 * p + q) / 16 % 4 * 16 = q := by omega
  simp only [encodeBytes, UInt8.toNat_ofNat', Nat.reducePow, hbyte, hp', hq']

/-- **A group of four symbols** is three bytes, and after it there comes the rest. -/
theorem decodeGroups_four (hp : p < 64) (hq : q < 64) (hr : r < 64) (hs : s < 64)
    (rest : List UInt8) :
    decodeGroups start (symbol p :: symbol q :: symbol r :: symbol s :: rest) =
      (decodeGroups (start + 4) rest).map fun bytes =>
        UInt8.ofNat ((262144 * p + 4096 * q + 64 * r + s) / 65536) ::
          UInt8.ofNat ((262144 * p + 4096 * q + 64 * r + s) / 256) ::
            UInt8.ofNat (262144 * p + 4096 * q + 64 * r + s) :: bytes := by
  rcases rest with _ | ⟨byte, rest⟩
  · exact decodeTail_four hp hq hr hs
  · rw [decodeGroups, symbolValue_symbol _ hp, symbolValue_symbol _ hq, symbolValue_symbol _ hr,
      symbolValue_symbol _ hs]
    rfl

end Group

/-- **A last group that is read** is the one written for its bytes. -/
theorem decodeTail_eq_ok {start : Nat} {group bytes : List UInt8}
    (h : decodeTail start group = .ok bytes) (hlength : group.length ≤ 4) :
    group = encodeBytes bytes := by
  by_cases hne : group = []
  · subst hne
    obtain rfl := Except.ok.inj h
    rfl
  · obtain ⟨values, pads, rfl, hvalues, htwo, hfull⟩ := decodeTail_shape h hne
    rw [List.length_append, List.length_map, List.length_replicate] at hlength
    rcases values with _ | ⟨p, _ | ⟨q, _ | ⟨r, _ | ⟨s, _ | ⟨t, values⟩⟩⟩⟩⟩
    · simp at htwo
    · simp at htwo
    · obtain rfl : pads = 2 := by
        simp only [List.length_cons, List.length_nil] at hlength hfull
        omega
      obtain ⟨hp, hq⟩ : p < 64 ∧ q < 64 := by simpa using hvalues
      obtain ⟨hzero, rfl⟩ := (decodeTail_two hp hq).mp h
      exact (encodeBytes_two hp hq hzero).symm
    · obtain rfl : pads = 1 := by
        simp only [List.length_cons, List.length_nil] at hlength hfull
        omega
      obtain ⟨hp, hq, hr⟩ : p < 64 ∧ q < 64 ∧ r < 64 := by simpa using hvalues
      obtain ⟨hzero, rfl⟩ := (decodeTail_three hp hq hr).mp h
      exact (encodeBytes_three hp hq hr hzero).symm
    · obtain rfl : pads = 0 := by
        simp only [List.length_cons, List.length_nil] at hlength hfull
        omega
      obtain ⟨hp, hq, hr, hs⟩ : p < 64 ∧ q < 64 ∧ r < 64 ∧ s < 64 := by simpa using hvalues
      obtain rfl := Except.ok.inj ((decodeTail_four hp hq hr hs).symm.trans h)
      exact (encodeBytes_four hp hq hr hs []).symm
    · simp only [List.length_cons] at hlength
      omega

theorem length_le_four {group : List UInt8}
    (h : ∀ a b c d e rest, group = a :: b :: c :: d :: e :: rest → False) :
    group.length ≤ 4 := by
  rcases group with _ | ⟨a, _ | ⟨b, _ | ⟨c, _ | ⟨d, _ | ⟨e, rest⟩⟩⟩⟩⟩
  · simp
  · simp
  · simp
  · simp
  · simp
  · exact (h a b c d e rest rfl).elim

/-- **Symbols that are read** are those written for their bytes. -/
theorem decodeGroups_eq_ok {start : Nat} {symbols bytes : List UInt8}
    (h : decodeGroups start symbols = .ok bytes) : symbols = encodeBytes bytes := by
  -- on the symbols, four at a time as they are read
  induction start, symbols using decodeGroups.induct generalizing bytes with
  | case1 start a b c d e rest ih =>
    rw [decodeGroups] at h
    obtain ⟨p, hfirst, h⟩ := except_bind_eq_ok.mp h
    obtain ⟨q, hsecond, h⟩ := except_bind_eq_ok.mp h
    obtain ⟨r, hthird, h⟩ := except_bind_eq_ok.mp h
    obtain ⟨s, hfourth, h⟩ := except_bind_eq_ok.mp h
    obtain ⟨others, hothers, h⟩ := except_bind_eq_ok.mp h
    obtain rfl := Except.ok.inj h
    obtain ⟨hp, rfl⟩ := symbolValue_eq_ok hfirst
    obtain ⟨hq, rfl⟩ := symbolValue_eq_ok hsecond
    obtain ⟨hr, rfl⟩ := symbolValue_eq_ok hthird
    obtain ⟨hs, rfl⟩ := symbolValue_eq_ok hfourth
    rw [ih hothers]
    exact (encodeBytes_four hp hq hr hs others).symm
  | case2 start group hshort =>
    rw [decodeGroups] at h
    · exact decodeTail_eq_ok h (length_le_four hshort)
    · exact hshort

theorem ofNat_eq_of_mod {n : Nat} {byte : UInt8} (h : n % 256 = byte.toNat) :
    UInt8.ofNat n = byte := by
  rw [← UInt8.toNat_inj, UInt8.toNat_ofNat']
  exact h

/-- **Symbols that are written** are read as the bytes they are written for. -/
theorem decodeGroups_encodeBytes (start : Nat) (bytes : List UInt8) :
    decodeGroups start (encodeBytes bytes) = .ok bytes := by
  induction bytes using encodeBytes.induct generalizing start with
  | case1 a b c rest ih =>
    have ha : a.toNat < 256 := a.toNat_lt
    have hb : b.toNat < 256 := b.toNat_lt
    have hc : c.toNat < 256 := c.toNat_lt
    rw [encodeBytes]
    generalize hn : 65536 * a.toNat + 256 * b.toNat + c.toNat = n
    have hjoin : 262144 * (n / 262144) + 4096 * (n / 4096 % 64) + 64 * (n / 64 % 64) + n % 64 =
        n := by
      omega
    have ha' : UInt8.ofNat (n / 65536) = a := ofNat_eq_of_mod (by omega)
    have hb' : UInt8.ofNat (n / 256) = b := ofNat_eq_of_mod (by omega)
    have hc' : UInt8.ofNat n = c := ofNat_eq_of_mod (by omega)
    rw [decodeGroups_four (by omega) (by omega) (by omega) (by omega), ih, hjoin, ha', hb', hc']
    rfl
  | case2 a b =>
    have ha : a.toNat < 256 := a.toNat_lt
    have hb : b.toNat < 256 := b.toNat_lt
    rw [encodeBytes]
    generalize hn : 256 * a.toNat + b.toNat = n
    have hjoin : (4096 * (n / 1024) + 64 * (n / 16 % 64) + n % 16 * 4) / 4 = n := by omega
    have ha' : UInt8.ofNat (n / 256) = a := ofNat_eq_of_mod (by omega)
    have hb' : UInt8.ofNat n = b := ofNat_eq_of_mod (by omega)
    refine (decodeTail_three (by omega) (by omega) (by omega)).mpr ⟨by omega, ?_⟩
    rw [hjoin, ha', hb']
  | case3 a =>
    have ha : a.toNat < 256 := a.toNat_lt
    have hjoin : (64 * (a.toNat / 4) + a.toNat % 4 * 16) / 16 = a.toNat := by omega
    refine (decodeTail_two (by omega) (by omega)).mpr ⟨by omega, ?_⟩
    rw [hjoin, UInt8.ofNat_toNat]
  | case4 => rfl

/-! ### Texts -/

theorem length_encodeBytes_mod_four (bytes : List UInt8) :
    (encodeBytes bytes).length % 4 = 0 := by
  obtain ⟨values, pads, hsextets, hsymbols⟩ := exists_sextets bytes
  rw [hsymbols, List.length_append, List.length_map, List.length_replicate]
  exact hsextets.groups

theorem lt_of_mem_encodeBytes {bytes : List UInt8} :
    ∀ byte ∈ encodeBytes bytes, byte.toNat < 128 := by
  intro byte hbyte
  obtain ⟨values, pads, hsextets, hsymbols⟩ := exists_sextets bytes
  rw [hsymbols, List.mem_append] at hbyte
  rcases hbyte with hsymbol | hpadding
  · obtain ⟨value, hvalue, rfl⟩ := List.mem_map.mp hsymbol
    exact symbol_lt value (hsextets.lt value hvalue)
  · rw [List.eq_of_mem_replicate hpadding]
    decide

theorem strayLast?_encodeBytes (bytes : List UInt8) : strayLast? (encodeBytes bytes) = none := by
  have hlength := length_encodeBytes_mod_four bytes
  rw [strayLast?]
  split
  · exact if_neg fun h => by omega
  · rfl

/-- **Reading Base64**: the only text that is read as bytes is the one that is written for
them. -/
theorem decode_eq_ok_iff {text : String} {bytes : List UInt8} :
    decode text = .ok bytes ↔ text = encode bytes := by
  have htext : text.toByteArray.data.toList = encodeBytes bytes ↔ text = encode bytes :=
    toByteArray_eq_iff lt_of_mem_encodeBytes
  rw [← htext, decode]
  constructor
  · intro h
    split at h
    · cases h
    · exact decodeGroups_eq_ok h
  · intro h
    rw [h, strayLast?_encodeBytes]
    exact decodeGroups_encodeBytes 0 bytes

/-! ### What the text of bytes is -/

/-- The alphabet. -/
def alphabet : List Char :=
  "ABCDEFGHIJKLMNOPQRSTUVWXYZabcdefghijklmnopqrstuvwxyz0123456789+/".toList

/-- The letter of a value of six bits. -/
def letter (value : Nat) : Char :=
  alphabet.getD value '='

/-- **The text is the Base64 form of the bytes**: it has a letter for each group of six bits,
and padding for those that are missing. -/
def Armours (bytes : List UInt8) (text : String) : Prop :=
  ∃ values pads, Sextets bytes values pads ∧
    text.toList = values.map letter ++ List.replicate pads '='

theorem letter_eq : ∀ value < 64, letter value = Char.ofNat (symbol value).toNat := by
  decide

theorem toList_encode {bytes : List UInt8} {values : List Nat} {pads : Nat}
    (hlt : ∀ value ∈ values, value < 64)
    (h : encodeBytes bytes = values.map symbol ++ List.replicate pads padding) :
    (encode bytes).toList = values.map letter ++ List.replicate pads '=' := by
  rw [encode, String.toList_ofList, h, List.map_append, List.map_map, List.map_replicate]
  refine congrArg (· ++ _) (List.map_congr_left fun value hvalue => ?_)
  exact (letter_eq value (hlt value hvalue)).symm

theorem armours_encode (bytes : List UInt8) : Armours bytes (encode bytes) := by
  obtain ⟨values, pads, hsextets, hsymbols⟩ := exists_sextets bytes
  exact ⟨values, pads, hsextets, toList_encode hsextets.lt hsymbols⟩

/-- **Bytes have one Base64 form only.** -/
theorem Armours.unique {bytes : List UInt8} {text text' : String} (h : Armours bytes text)
    (h' : Armours bytes text') : text = text' := by
  obtain ⟨values, pads, hsextets, htext⟩ := h
  obtain ⟨values', pads', hsextets', htext'⟩ := h'
  obtain ⟨rfl, rfl⟩ := hsextets.unique hsextets'
  exact String.toList_inj.mp (htext.trans htext'.symm)

/-- **What is written** is the Base64 form. -/
theorem armours_iff {bytes : List UInt8} {text : String} :
    Armours bytes text ↔ text = encode bytes := by
  constructor
  · exact fun h => h.unique (armours_encode bytes)
  · rintro rfl
    exact armours_encode bytes

/-! ### Which texts are forms of bytes -/

/-- **Letters and padding in groups of four**, where the last letter has no bits that belong
to no byte. -/
def WellPadded (text : String) : Prop :=
  ∃ (values : List Nat) (pads : Nat),
    text.toList = values.map letter ++ List.replicate pads '=' ∧
      (∀ value ∈ values, value < 64) ∧ pads ≤ 2 ∧ (values.length + pads) % 4 = 0 ∧
        ∀ last ∈ values.getLast?, 4 ^ pads ∣ last

theorem exists_encodeBytes {values : List Nat} {pads groups : Nat}
    (hlt : ∀ value ∈ values, value < 64) (hpads : pads ≤ 2)
    (hgroups : values.length + pads = 4 * groups)
    (hlast : ∀ last ∈ values.getLast?, 4 ^ pads ∣ last) :
    ∃ bytes, encodeBytes bytes = values.map symbol ++ List.replicate pads padding := by
  induction groups generalizing values with
  | zero =>
    obtain rfl : pads = 0 := by omega
    obtain rfl : values = [] := List.length_eq_zero_iff.mp hgroups
    exact ⟨[], rfl⟩
  | succ groups ih =>
    rcases values with _ | ⟨p, _ | ⟨q, _ | ⟨r, _ | ⟨s, values⟩⟩⟩⟩
    · rw [List.length_nil] at hgroups
      omega
    · rw [List.length_singleton] at hgroups
      omega
    · obtain rfl : pads = 2 := by
        simp only [List.length_cons, List.length_nil] at hgroups
        omega
      obtain ⟨hp, hq⟩ : p < 64 ∧ q < 64 := by simpa using hlt
      have hzero : 4 ^ 2 ∣ q := hlast q rfl
      exact ⟨_, encodeBytes_two hp hq (Nat.mod_eq_zero_of_dvd hzero)⟩
    · obtain rfl : pads = 1 := by
        simp only [List.length_cons, List.length_nil] at hgroups
        omega
      obtain ⟨hp, hq, hr⟩ : p < 64 ∧ q < 64 ∧ r < 64 := by simpa using hlt
      have hzero : 4 ^ 1 ∣ r := hlast r rfl
      exact ⟨_, encodeBytes_three hp hq hr (Nat.mod_eq_zero_of_dvd hzero)⟩
    · simp only [List.forall_mem_cons] at hlt
      obtain ⟨hp, hq, hr, hs, hlt⟩ := hlt
      have hrest : values.length + pads = 4 * groups := by
        simp only [List.length_cons] at hgroups
        omega
      have hlast' : ∀ last ∈ values.getLast?, 4 ^ pads ∣ last := fun last hmem =>
        hlast last (@List.mem_getLast?_append_of_mem_getLast? Nat [p, q, r, s] values last hmem)
      obtain ⟨bytes, hbytes⟩ := ih hlt hrest hlast'
      refine ⟨_, (encodeBytes_four hp hq hr hs bytes).trans ?_⟩
      rw [hbytes]
      rfl

/-- **The texts that are the form of some bytes** are those in groups of four. -/
theorem exists_armours_iff {text : String} : (∃ bytes, Armours bytes text) ↔ WellPadded text := by
  constructor
  · rintro ⟨bytes, values, pads, h, htext⟩
    exact ⟨values, pads, htext, h.lt, h.pads_le, h.groups, fun last hlast => h.dvd_last hlast⟩
  · rintro ⟨values, pads, htext, hlt, hpads, hgroups, hlast⟩
    obtain ⟨groups, hgroups⟩ := Nat.dvd_of_mod_eq_zero hgroups
    obtain ⟨bytes, hbytes⟩ := exists_encodeBytes hlt hpads hgroups hlast
    refine ⟨bytes, armours_iff.mpr (String.toList_inj.mp ?_)⟩
    rw [htext, toList_encode hlt hbytes]

end ContractSchema.Base64
