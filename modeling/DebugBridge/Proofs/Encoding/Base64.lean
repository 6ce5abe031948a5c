import DebugBridge.Encoding.Base64

/-!
# Base64 is canonical

A symbol stands for six bits and nothing else does (`Base64.eq_symbol_of_value?`), so four values
and the three bytes that they make determine each other. In the last group the padding tells how
many bytes there are, and the bits behind them have to be zero; so a text that is read at all is the
one that writing produces (`Base64.decode_eq_ok_iff`).
-/

namespace DebugBridge.Base64

/-- A symbol is read back as the value that it stands for. -/
theorem value?_symbol {value : Nat} (small : value < 64) : value? (symbol value) = some value := by
  have all : ∀ value < 64, value? (symbol value) = some value := by decide +kernel
  exact all value small

/-- A symbol has one value, and a value has one symbol. -/
theorem eq_symbol_of_value? {byte : UInt8} {value : Nat} (read : value? byte = some value) :
    byte = symbol value ∧ value < 64 := by
  have all : ∀ code < 256, ∀ value ∈ value? (UInt8.ofNat code),
      UInt8.ofNat code = symbol value ∧ value < 64 := by
    decide +kernel
  have found := all byte.toNat byte.toNat_lt
  rw [UInt8.ofNat_toNat] at found
  exact found value read

@[simp] theorem value?_pad : value? pad = none := rfl

/-- Bytes that all are symbols are those of some values. -/
theorem exists_values {symbols : Bytes} (valued : ∀ byte ∈ symbols, (value? byte).isSome = true) :
    ∃ values : List Nat, symbols = values.map symbol ∧ ∀ value ∈ values, value < 64 := by
  induction symbols with
  | nil => exact ⟨[], rfl, fun _ member => absurd member List.not_mem_nil⟩
  | cons byte symbols ih =>
    obtain ⟨first, others⟩ := List.forall_mem_cons.mp valued
    obtain ⟨value, read⟩ := Option.isSome_iff_exists.mp first
    obtain ⟨same, small⟩ := eq_symbol_of_value? read
    obtain ⟨values, rfl, all_small⟩ := ih others
    refine ⟨value :: values, ?_, List.forall_mem_cons.mpr ⟨small, all_small⟩⟩
    rw [same, List.map_cons]

/-- Several symbols are read back as their values, and none of them is left out. -/
theorem filterMap_symbols {values : List Nat} (small : ∀ value ∈ values, value < 64) :
    (values.map symbol).filterMap value? = values := by
  induction values with
  | nil => rfl
  | cons value values ih =>
    obtain ⟨first, others⟩ := List.forall_mem_cons.mp small
    rw [List.map_cons, List.filterMap_cons_some (value?_symbol first), ih others]

section Group

variable {v0 v1 v2 v3 : Nat}

/-- The bytes of four values give the values back. -/
theorem encode_bytesOf_append (small0 : v0 < 64) (small1 : v1 < 64) (small2 : v2 < 64)
    (small3 : v3 < 64) (rest : Bytes) :
    encode (bytesOf v0 v1 v2 v3 ++ rest) =
      symbol v0 :: symbol v1 :: symbol v2 :: symbol v3 :: encode rest := by
  have first : v0 * 4 + v1 / 16 < 256 := by omega
  simp only [bytesOf, List.cons_append, List.nil_append, encode, UInt8.toNat_ofNat',
    List.cons.injEq, and_true]
  refine ⟨?_, ?_, ?_, ?_⟩ <;> congr 1 <;> omega

/-- One byte is written as two symbols and two pads, and the second symbol has four bits unused. -/
theorem encode_one (small0 : v0 < 64) (unused : v1 % 16 = 0) (small1 : v1 < 64) :
    encode ((bytesOf v0 v1 0 0).take 1) = [symbol v0, symbol v1, pad, pad] := by
  simp only [bytesOf, List.take_succ_cons, List.take_zero, encode, UInt8.toNat_ofNat',
    List.cons.injEq, and_true]
  refine ⟨?_, ?_⟩ <;> congr 1 <;> omega

/-- Two bytes are written as three symbols and a pad, and the third symbol has two bits unused. -/
theorem encode_two (small0 : v0 < 64) (small1 : v1 < 64) (unused : v2 % 4 = 0)
    (small2 : v2 < 64) :
    encode ((bytesOf v0 v1 v2 0).take 2) = [symbol v0, symbol v1, symbol v2, pad] := by
  simp only [bytesOf, List.take_succ_cons, List.take_zero, encode, UInt8.toNat_ofNat',
    List.cons.injEq, and_true]
  refine ⟨?_, ?_, ?_⟩ <;> congr 1 <;> omega

/-- The values of three bytes give the bytes back. -/
theorem bytesOf_eq (a b c : UInt8) :
    bytesOf (a.toNat / 4) (a.toNat % 4 * 16 + b.toNat / 16) (b.toNat % 16 * 4 + c.toNat / 64)
      (c.toNat % 64) = [a, b, c] := by
  have := a.toNat_lt
  have := b.toNat_lt
  have := c.toNat_lt
  simp only [bytesOf, List.cons.injEq, and_true]
  refine ⟨?_, ?_, ?_⟩ <;> apply UInt8.toNat_inj.mp <;> rw [UInt8.toNat_ofNat'] <;> omega

end Group

/-- The bytes that the values of a last group and so much padding stand for. -/
inductive Stands : List Nat → Nat → Bytes → Prop
  | none {count : Nat} : Stands [] count []
  | one {v0 v1 : Nat} (unused : v1 % 16 = 0) : Stands [v0, v1] 2 ((bytesOf v0 v1 0 0).take 1)
  | two {v0 v1 v2 : Nat} (unused : v2 % 4 = 0) :
      Stands [v0, v1, v2] 1 ((bytesOf v0 v1 v2 0).take 2)
  | three {v0 v1 v2 v3 count : Nat} : Stands [v0, v1, v2, v3] count (bytesOf v0 v1 v2 v3)

variable {values : List Nat} {offset count : Nat} {bytes : Bytes}

/-- The last group is read exactly if its values and its padding stand for some bytes. -/
theorem finish_eq_ok_iff (small : ∀ value ∈ values, value < 64) :
    decodeLast.finish offset (values.map symbol) count = .ok bytes ↔
      Stands values count bytes := by
  unfold decodeLast.finish
  rw [filterMap_symbols small]
  constructor
  · intro finished
    rcases values with _ | ⟨v0, _ | ⟨v1, _ | ⟨v2, _ | ⟨v3, _ | ⟨v4, more⟩⟩⟩⟩⟩ <;>
      simp only [List.map_cons, List.map_nil] at finished
    case nil =>
      cases finished
      exact .none
    case cons.cons.nil =>
      split at finished
      · contradiction
      · next padded =>
        split at finished
        · contradiction
        · next unused =>
          obtain rfl := Decidable.not_not.mp padded
          cases finished
          exact .one (Decidable.not_not.mp unused)
    case cons.cons.cons.nil =>
      split at finished
      · contradiction
      · next padded =>
        split at finished
        · contradiction
        · next unused =>
          obtain rfl := Decidable.not_not.mp padded
          cases finished
          exact .two (Decidable.not_not.mp unused)
    case cons.cons.cons.cons.nil =>
      cases finished
      exact .three
    all_goals contradiction
  · intro stands
    cases stands with
    | none => rfl
    | one unused => simp [unused]
    | two unused => simp [unused]
    | three => rfl

/-- Where the symbols of a group end its padding begins. -/
theorem span_group (small : ∀ value ∈ values, value < 64) (count : Nat) :
    (values.map symbol ++ List.replicate count pad).takeWhile
        (fun byte => (value? byte).isSome) = values.map symbol ∧
      (values.map symbol ++ List.replicate count pad).dropWhile
        (fun byte => (value? byte).isSome) = List.replicate count pad := by
  have valued : ∀ byte ∈ values.map symbol, (value? byte).isSome = true := by
    intro byte member
    obtain ⟨value, inside, rfl⟩ := List.mem_map.mp member
    rw [value?_symbol (small value inside)]
    rfl
  rw [List.takeWhile_append_of_pos valued, List.dropWhile_append_of_pos valued]
  cases count with
  | zero => exact ⟨List.append_nil _, rfl⟩
  | succ count => exact ⟨List.append_nil _, rfl⟩

/-- Symbols and padding are read as the last group, if there is no padding behind less than two
symbols. -/
theorem decodeLast_eq (small : ∀ value ∈ values, value < 64)
    (enough : count = 0 ∨ 2 ≤ values.length) :
    decodeLast offset (values.map symbol ++ List.replicate count pad) =
      decodeLast.finish offset (values.map symbol) count := by
  obtain ⟨front, back⟩ := span_group small count
  unfold decodeLast
  simp only [front, back, List.drop_left]
  cases count with
  | zero => rfl
  | succ count =>
    have enough : ¬values.length < 2 := by omega
    simp [List.replicate_succ, enough]

/-- A last group that is read consists of symbols and padding. -/
theorem stands_of_decodeLast {group : Bytes} (read : decodeLast offset group = .ok bytes) :
    ∃ values count, group = values.map symbol ++ List.replicate count pad ∧
      (∀ value ∈ values, value < 64) ∧ (count = 0 ∨ 2 ≤ values.length) ∧
      Stands values count bytes := by
  have split := @List.takeWhile_append_dropWhile _ (fun byte => (value? byte).isSome) group
  obtain ⟨values, symbols, small⟩ := exists_values (List.all_eq_true.mp
    (@List.all_takeWhile _ (fun byte => (value? byte).isSome) group))
  unfold decodeLast at read
  rw [symbols] at split read
  cases rest : group.dropWhile (fun byte => (value? byte).isSome) with
  | nil =>
    rw [rest] at split read
    exact ⟨values, 0, split.symm, small, .inl rfl, (finish_eq_ok_iff small).mp read⟩
  | cons byte others =>
    rw [rest] at split read
    have behind : (values.map symbol ++ byte :: others).drop (values.map symbol).length =
        byte :: others := List.drop_left
    simp only [← split, behind] at read
    rw [← split]
    split at read
    · contradiction
    · split at read
      · contradiction
      · next plain =>
        obtain ⟨enough, not_other⟩ := not_or.mp plain
        have pads : byte :: others = List.replicate (byte :: others).length pad := by
          rw [List.eq_replicate_iff]
          refine ⟨rfl, fun other member => Decidable.byContradiction fun differs => ?_⟩
          exact not_other (List.any_eq_true.mpr ⟨other, member, bne_iff_ne.mpr differs⟩)
        rw [List.length_map] at enough
        exact ⟨values, _, congrArg _ pads, small, .inr (Nat.not_lt.mp enough),
          (finish_eq_ok_iff small).mp read⟩

/-- A last group is the one that is written for the bytes it stands for. -/
theorem Stands.eq_encode (stands : Stands values count bytes)
    (small : ∀ value ∈ values, value < 64) (enough : count = 0 ∨ 2 ≤ values.length)
    (short : values.length + count ≤ 4) :
    values.map symbol ++ List.replicate count pad = encode bytes := by
  cases stands with
  | none =>
    obtain rfl : count = 0 := by simpa using enough
    rfl
  | one unused =>
    simp only [List.forall_mem_cons] at small
    obtain ⟨small0, small1, -⟩ := small
    exact (encode_one small0 unused small1).symm
  | two unused =>
    simp only [List.forall_mem_cons] at small
    obtain ⟨small0, small1, small2, -⟩ := small
    exact (encode_two small0 small1 unused small2).symm
  | three =>
    obtain rfl : count = 0 := Nat.le_zero.mp (Nat.le_of_add_le_add_left short)
    simp only [List.forall_mem_cons] at small
    obtain ⟨small0, small1, small2, small3, -⟩ := small
    exact (encode_bytesOf_append small0 small1 small2 small3 []).symm

/-- What is written for at most three bytes is a last group that stands for them. -/
theorem exists_stands (short : bytes.length ≤ 3) :
    ∃ values count, encode bytes = values.map symbol ++ List.replicate count pad ∧
      (∀ value ∈ values, value < 64) ∧ (count = 0 ∨ 2 ≤ values.length) ∧
      Stands values count bytes := by
  match bytes, short with
  | [], _ => exact ⟨[], 0, rfl, by simp, .inl rfl, .none⟩
  | [a], _ =>
    have bound := a.toNat_lt
    have back : (bytesOf (a.toNat / 4) (a.toNat % 4 * 16) 0 0).take 1 = [a] :=
      congrArg (List.take 1) (bytesOf_eq a 0 0)
    refine ⟨[a.toNat / 4, a.toNat % 4 * 16], 2, rfl, ?_, .inr (Nat.le_refl 2), back ▸ .one ?_⟩
    · simp only [List.forall_mem_cons, List.not_mem_nil, false_imp_iff, implies_true, and_true]
      omega
    · exact Nat.mul_mod_left _ 16
  | [a, b], _ =>
    have first_bound := a.toNat_lt
    have second_bound := b.toNat_lt
    have back : (bytesOf (a.toNat / 4) (a.toNat % 4 * 16 + b.toNat / 16) (b.toNat % 16 * 4)
        0).take 2 = [a, b] := congrArg (List.take 2) (bytesOf_eq a b 0)
    refine ⟨[a.toNat / 4, a.toNat % 4 * 16 + b.toNat / 16, b.toNat % 16 * 4], 1, rfl, ?_,
      .inr (Nat.le_succ 2), back ▸ .two ?_⟩
    · simp only [List.forall_mem_cons, List.not_mem_nil, false_imp_iff, implies_true, and_true]
      omega
    · exact Nat.mul_mod_left _ 4
  | [a, b, c], _ =>
    have first_bound := a.toNat_lt
    have second_bound := b.toNat_lt
    have third_bound := c.toNat_lt
    refine ⟨[a.toNat / 4, a.toNat % 4 * 16 + b.toNat / 16, b.toNat % 16 * 4 + c.toNat / 64,
      c.toNat % 64], 0, rfl, ?_, .inl rfl, bytesOf_eq a b c ▸ .three⟩
    simp only [List.forall_mem_cons, List.not_mem_nil, false_imp_iff, implies_true, and_true]
    omega

/-- Four symbols are written for every three bytes, and for a rest of them. -/
theorem length_encode (bytes : Bytes) : (encode bytes).length = (bytes.length + 2) / 3 * 4 := by
  fun_induction encode bytes with
  | case1 | case2 | case3 => simp
  | case4 a b c rest ih =>
    simp only [List.length_cons, ih]
    omega

/-- What holds of the padding and of each symbol holds of all that is written. -/
theorem forall_mem_encode {good : UInt8 → Prop} (padding : good pad)
    (symbols : ∀ value < 64, good (symbol value)) (bytes : Bytes) :
    ∀ byte ∈ encode bytes, good byte := by
  have nothing : ∀ byte ∈ ([] : Bytes), good byte := fun _ member => absurd member List.not_mem_nil
  fun_induction encode bytes with
  | case1 => exact nothing
  | case2 a =>
    have bound := a.toNat_lt
    simp only [List.forall_mem_cons]
    exact ⟨symbols _ (by omega), symbols _ (by omega), padding, padding, nothing⟩
  | case3 a b =>
    have first_bound := a.toNat_lt
    have second_bound := b.toNat_lt
    simp only [List.forall_mem_cons]
    exact ⟨symbols _ (by omega), symbols _ (by omega), symbols _ (by omega), padding, nothing⟩
  | case4 a b c rest ih =>
    have first_bound := a.toNat_lt
    have second_bound := b.toNat_lt
    have third_bound := c.toNat_lt
    simp only [List.forall_mem_cons]
    exact ⟨symbols _ (by omega), symbols _ (by omega), symbols _ (by omega),
      symbols _ (by omega), ih⟩

/-- Everything that is written is ASCII. -/
theorem toNat_lt_of_mem_encode (bytes : Bytes) : ∀ byte ∈ encode bytes, byte.toNat < 0x80 :=
  forall_mem_encode (by decide) (by decide +kernel) bytes

/-- Four characters or fewer are the last group. -/
theorem decodeFrom_of_short {text : Bytes} (short : text.length ≤ 4) (offset : Nat) :
    decodeFrom offset text = decodeLast offset text := by
  match text, short with
  | [], _ | [_], _ | [_, _], _ | [_, _, _], _ | [_, _, _, _], _ => rfl
  | _ :: _ :: _ :: _ :: _ :: _, short =>
    simp only [List.length_cons] at short
    omega

/-- Bytes for one group are read back. -/
theorem decodeFrom_encode_of_short (short : bytes.length ≤ 3) (offset : Nat) :
    decodeFrom offset (encode bytes) = .ok bytes := by
  have one_group : (encode bytes).length ≤ 4 := by
    rw [length_encode]
    omega
  obtain ⟨values, count, written, small, enough, stands⟩ := exists_stands short
  rw [decodeFrom_of_short one_group, written, decodeLast_eq small enough]
  exact (finish_eq_ok_iff small).mpr stands

/-- Bytes are read back. -/
theorem decodeFrom_encode (bytes : Bytes) (offset : Nat) :
    decodeFrom offset (encode bytes) = .ok bytes := by
  match bytes with
  | [] | [_] | [_, _] | [_, _, _] => exact decodeFrom_encode_of_short (by simp) offset
  | a :: b :: c :: d :: rest =>
    have first_bound := a.toNat_lt
    have second_bound := b.toNat_lt
    have third_bound := c.toNat_lt
    have more : 0 < (encode (d :: rest)).length := by
      rw [length_encode, List.length_cons]
      omega
    obtain ⟨next, others, written⟩ := List.exists_cons_of_length_pos more
    have others_read := decodeFrom_encode (d :: rest) (offset + 4)
    rw [written] at others_read
    have front : encode (a :: b :: c :: d :: rest) = symbol (a.toNat / 4) ::
        symbol (a.toNat % 4 * 16 + b.toNat / 16) :: symbol (b.toNat % 16 * 4 + c.toNat / 64) ::
        symbol (c.toNat % 64) :: next :: others := by
      rw [encode, written]
    rw [front, decodeFrom, others_read, value?_symbol (by omega), value?_symbol (by omega),
      value?_symbol (by omega), value?_symbol (by omega)]
    simp only [bytesOf_eq, Except.map, List.cons_append, List.nil_append]
  termination_by bytes.length

/-- What is read is what is written for the bytes. -/
theorem eq_encode_of_decodeFrom {text : Bytes} (read : decodeFrom offset text = .ok bytes) :
    text = encode bytes := by
  fun_induction decodeFrom offset text generalizing bytes with
  | case1 offset a b c d next rest v0 v1 v2 v3 h3 h2 h1 h0 ih =>
    obtain ⟨same0, small0⟩ := eq_symbol_of_value? h0
    obtain ⟨same1, small1⟩ := eq_symbol_of_value? h1
    obtain ⟨same2, small2⟩ := eq_symbol_of_value? h2
    obtain ⟨same3, small3⟩ := eq_symbol_of_value? h3
    cases others_read : decodeFrom (offset + 4) (next :: rest) with
    | error failure =>
      rw [others_read] at read
      contradiction
    | ok others =>
      rw [others_read] at read
      rw [← Except.ok.inj read, encode_bytesOf_append small0 small1 small2 small3,
        ← ih others_read, ← same0, ← same1, ← same2, ← same3]
  | case2 | case3 | case4 | case5 => contradiction
  | case6 offset group short =>
    have at_most : group.length ≤ 4 := by
      match group, short with
      | [], _ | [_], _ | [_, _], _ | [_, _, _], _ | [_, _, _, _], _ => simp
      | _ :: _ :: _ :: _ :: _ :: _, short => exact (short _ _ _ _ _ _ rfl).elim
    obtain ⟨values, count, rfl, small, enough, stands⟩ := stands_of_decodeLast read
    rw [List.length_append, List.length_map, List.length_replicate] at at_most
    exact stands.eq_encode small enough at_most

/-- **A text is read exactly if it is what is written.** -/
theorem decode_eq_ok_iff {text : Bytes} : decode text = .ok bytes ↔ text = encode bytes := by
  constructor
  · intro read
    unfold decode at read
    split at read
    · split at read
      · contradiction
      · exact eq_encode_of_decodeFrom read
    · next none_there =>
      obtain rfl := List.getLast?_eq_none_iff.mp none_there
      cases read
      rfl
  · rintro rfl
    have whole : (encode bytes).length % 4 ≠ 1 := by
      rw [length_encode]
      omega
    unfold decode
    split
    · rw [if_neg (by simp [whole]), decodeFrom_encode]
    · next none_there =>
      have nothing := List.getLast?_eq_none_iff.mp none_there
      have back := decodeFrom_encode bytes 0
      rw [nothing] at back
      exact back

end DebugBridge.Base64
