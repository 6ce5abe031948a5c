import DebugBridge.Key.Pair
import DebugBridge.Proofs.Encoding.Base64
import DebugBridge.Proofs.Key.Numerals
import DebugBridge.Proofs.Text.Parts
import DebugBridge.Proofs.Text.Utf8

/-!
# Key files are read back

A key is a structure of a fixed size whose fields have fixed places (`DeviceKey.fields`), so it
determines its bytes and its bytes determine it (`DeviceKey.ofBytes_eq_ok_iff`). In a file the bytes
are written as Base64 symbols, none of which is a blank or a NUL. A text is therefore the file of a
key exactly if its first word, behind blanks and in front of a comment and NULs, consists of the
symbols of that key (`DeviceKey.ofFileText_eq_ok_iff`).
-/

namespace DebugBridge

namespace Base64

/-- Nothing that is written is a blank. -/
theorem not_isBlank_of_mem_encode (bytes : Bytes) :
    ∀ byte ∈ encode bytes, Text.isBlank (Char.ofNat byte.toNat) = false :=
  forall_mem_encode (by decide) (by decide +kernel) bytes

/-- Nothing that is written is a NUL. -/
theorem ne_nul_of_mem_encode (bytes : Bytes) :
    ∀ byte ∈ encode bytes, Char.ofNat byte.toNat ≠ '\x00' :=
  forall_mem_encode (by decide) (by decide +kernel) bytes

end Base64

namespace DeviceKey

variable {key : DeviceKey} {bytes : Bytes}

/-- The structure has a fixed size. -/
theorem length_encode (key : DeviceKey) : key.encode.length = encodedSize := by
  simp only [encode, List.length_append, Word.length_encode, Bytes.length_littleEndian]
  rfl

/-- The fields of the structure behind each other. -/
def fields (words n0inv : UInt32) (modulus rr : Bytes) (exponent : UInt32) : Bytes :=
  Word.encode words ++ (Word.encode n0inv ++ (modulus ++ (rr ++ Word.encode exponent)))

/-- A key is written as its fields in their places. -/
theorem encode_eq_fields (key : DeviceKey) :
    key.encode = fields (UInt32.ofNat modulusWords) key.n0inv
      (Bytes.littleEndian modulusSize key.modulus) (Bytes.littleEndian modulusSize key.rr)
      key.exponent := by
  simp only [encode, fields, List.append_assoc]

section Fields

variable {words n0inv exponent : UInt32} {modulus rr : Bytes}

theorem length_fields (modulus_sized : modulus.length = modulusSize)
    (rr_sized : rr.length = modulusSize) :
    (fields words n0inv modulus rr exponent).length = encodedSize := by
  simp only [fields, List.length_append, Word.length_encode, modulus_sized, rr_sized]
  rfl

/-- Bytes of the right number consist of fields. -/
theorem exists_fields (sized : bytes.length = encodedSize) :
    ∃ words n0inv modulus rr exponent, bytes = fields words n0inv modulus rr exponent ∧
      modulus.length = modulusSize ∧ rr.length = modulusSize := by
  have front_long : 4 ≤ bytes.length := by
    rw [sized]
    decide
  obtain ⟨words, first⟩ := Word.exists_split? bytes front_long
  have second_long : 4 ≤ (bytes.drop 4).length := by
    rw [List.length_drop, sized]
    decide
  obtain ⟨n0inv, second⟩ := Word.exists_split? (bytes.drop 4) second_long
  have front := Word.eq_encode_append_of_split? first
  rw [Word.eq_encode_append_of_split? second] at front
  generalize (bytes.drop 4).drop 4 = body at front
  have body_sized : body.length = 2 * modulusSize + 4 := by
    have lengths := congrArg List.length front
    simp only [List.length_append, Word.length_encode, sized, encodedSize] at lengths
    omega
  have last_sized : ((body.drop modulusSize).drop modulusSize).length = 4 := by
    rw [List.length_drop, List.length_drop, body_sized]
    rfl
  obtain ⟨exponent, last⟩ := Word.exists_split? _ (Nat.le_of_eq last_sized.symm)
  have last_whole := Word.eq_encode_append_of_split? last
  rw [List.drop_of_length_le (Nat.le_of_eq last_sized), List.append_nil] at last_whole
  refine ⟨words, n0inv, body.take modulusSize, (body.drop modulusSize).take modulusSize, exponent,
    ?_, ?_, ?_⟩
  · rw [fields, ← last_whole, List.take_append_drop, List.take_append_drop, front]
  · rw [List.length_take, body_sized]
    rfl
  · rw [List.length_take, List.length_drop, body_sized]
    rfl

/-- A field of the right size holds a number below the bound. -/
theorem toNat_reverse_lt {field : Bytes} (sized : field.length = modulusSize) :
    Bytes.toNat field.reverse < bound :=
  Bytes.toNat_lt_of_length_le (Nat.le_of_eq (List.length_reverse.trans sized))

/-- Reading looks at the first word and takes the other fields as they are. -/
theorem ofBytes_fields (modulus_sized : modulus.length = modulusSize)
    (rr_sized : rr.length = modulusSize) :
    ofBytes (fields words n0inv modulus rr exponent) =
      if words.toNat ≠ modulusWords then
        .error (.key s!"Unsupported key length: {words.toInt32.toInt} words")
      else .ok {
        n0inv
        modulus := Bytes.toNat modulus.reverse
        rr := Bytes.toNat rr.reverse
        exponent
        modulus_lt := toNat_reverse_lt modulus_sized
        rr_lt := toNat_reverse_lt rr_sized } := by
  have last : (fields words n0inv modulus rr exponent).drop (encodedSize - 4) =
      Word.encode exponent := by
    simp only [fields, ← List.append_assoc]
    apply List.drop_left'
    simp only [List.length_append, Word.length_encode, modulus_sized, rr_sized]
    rfl
  have last_word := Word.split?_encode_append exponent []
  rw [List.append_nil, ← last] at last_word
  have first := Word.split?_encode_append words
    (Word.encode n0inv ++ (modulus ++ (rr ++ Word.encode exponent)))
  rw [← fields] at first
  unfold ofBytes
  simp only [length_fields modulus_sized rr_sized, dif_pos, first, last_word,
    Word.split?_encode_append, List.take_left' modulus_sized, List.drop_left' modulus_sized,
    List.take_left' rr_sized]

end Fields

/-- A key is read back from its bytes. -/
theorem ofBytes_encode (key : DeviceKey) : ofBytes key.encode = .ok key := by
  have modulus_read : Bytes.toNat (Bytes.littleEndian modulusSize key.modulus).reverse =
      key.modulus :=
    (Bytes.toNat_bigEndian modulusSize key.modulus).trans (Nat.mod_eq_of_lt key.modulus_lt)
  have rr_read : Bytes.toNat (Bytes.littleEndian modulusSize key.rr).reverse = key.rr :=
    (Bytes.toNat_bigEndian modulusSize key.rr).trans (Nat.mod_eq_of_lt key.rr_lt)
  have right_size : (UInt32.ofNat modulusWords).toNat = modulusWords := rfl
  rw [encode_eq_fields, ofBytes_fields (Bytes.length_littleEndian ..)
    (Bytes.length_littleEndian ..), if_neg (not_not_intro right_size)]
  simp only [modulus_read, rr_read]

theorem length_of_ofBytes (read : ofBytes bytes = .ok key) : bytes.length = encodedSize := by
  unfold ofBytes at read
  split at read
  · assumption
  · contradiction

/-- Bytes that are read are those of the key. -/
theorem eq_encode_of_ofBytes (read : ofBytes bytes = .ok key) : bytes = key.encode := by
  obtain ⟨words, n0inv, modulus, rr, exponent, rfl, modulus_sized, rr_sized⟩ :=
    exists_fields (length_of_ofBytes read)
  rw [ofBytes_fields modulus_sized rr_sized] at read
  split at read
  · contradiction
  · next right_size =>
    obtain rfl := Except.ok.inj read
    obtain rfl : words = UInt32.ofNat modulusWords :=
      UInt32.toNat_inj.mp (Decidable.not_not.mp right_size)
    have modulus_back := Bytes.littleEndian_toNat_reverse modulus
    have rr_back := Bytes.littleEndian_toNat_reverse rr
    rw [modulus_sized] at modulus_back
    rw [rr_sized] at rr_back
    rw [encode_eq_fields, modulus_back, rr_back]

/-- A key has its own bytes and no others. -/
theorem ofBytes_eq_ok_iff : ofBytes bytes = .ok key ↔ bytes = key.encode :=
  ⟨eq_encode_of_ofBytes, fun written => written ▸ ofBytes_encode key⟩

/-- The first word of a key is the size of the modulus, as a number with or without a sign. -/
theorem toInt32_eq_iff (words : UInt32) : words.toInt32 = 64 ↔ words.toNat = modulusWords := by
  constructor
  · intro same
    have back := congrArg Int32.toUInt32 same
    rw [UInt32.toUInt32_toInt32] at back
    rw [back]
    rfl
  · intro number
    obtain rfl : words = UInt32.ofNat modulusWords := UInt32.toNat_inj.mp number
    rfl

/-- Bytes are refused for their number or for their first word, and for nothing else. -/
theorem ofBytes_fails_iff :
    (∃ failure, ofBytes bytes = .error failure) ↔
      bytes.length ≠ encodedSize ∨
        ∃ words rest, Word.split? bytes = some (words, rest) ∧ words.toInt32 ≠ 64 := by
  by_cases sized : bytes.length = encodedSize
  · obtain ⟨words, n0inv, modulus, rr, exponent, rfl, modulus_sized, rr_sized⟩ :=
      exists_fields sized
    have first := Word.split?_encode_append words
      (Word.encode n0inv ++ (modulus ++ (rr ++ Word.encode exponent)))
    rw [← fields] at first
    rw [ofBytes_fields modulus_sized rr_sized, first]
    simp only [sized, ne_eq, not_true, false_or, Option.some.injEq, Prod.mk.injEq, toInt32_eq_iff]
    constructor
    · rintro ⟨failure, failed⟩
      split at failed
      · next other => exact ⟨words, _, ⟨rfl, rfl⟩, other⟩
      · contradiction
    · rintro ⟨_, _, ⟨rfl, rfl⟩, other⟩
      exact ⟨_, if_pos other⟩
  · unfold ofBytes
    simp only [sized, dif_neg, not_false_eq_true, ne_eq, true_or, iff_true]
    exact ⟨_, rfl⟩

/-- The symbols of a key, as the characters of its file. -/
def symbols (key : DeviceKey) : List Char :=
  (Base64.encode key.encode).map fun symbol => Char.ofNat symbol.toNat

/-- The characters of the symbols are the bytes that Base64 writes. -/
theorem encodeChars_symbols (key : DeviceKey) :
    Utf8.encodeChars key.symbols = Base64.encode key.encode :=
  Utf8.encodeChars_ascii (Base64.toNat_lt_of_mem_encode key.encode)

theorem symbols_ne_nil (key : DeviceKey) : key.symbols ≠ [] := by
  intro empty
  have sized := congrArg List.length empty
  rw [symbols, List.length_map, Base64.length_encode, length_encode] at sized
  contradiction

/-- No symbol is a blank, so the symbols are one word. -/
theorem not_isBlank_of_mem_symbols (key : DeviceKey) :
    ∀ char ∈ key.symbols, Text.isBlank char = false := by
  intro char member
  obtain ⟨byte, inside, rfl⟩ := List.mem_map.mp member
  exact Base64.not_isBlank_of_mem_encode key.encode byte inside

/-- No symbol is a NUL, so none is dropped with those at the end of a file. -/
theorem nul_not_mem_symbols (key : DeviceKey) : '\x00' ∉ key.symbols := by
  intro member
  obtain ⟨byte, inside, nul⟩ := List.mem_map.mp member
  exact Base64.ne_nul_of_mem_encode key.encode byte inside nul

/-- A text is the file of a key exactly if its first word consists of the symbols of the key. -/
theorem ofFileText_eq_ok_iff {text : String} :
    ofFileText text = .ok key ↔
      Text.firstWord? (Text.dropTrailingNuls text.toList) = some key.symbols := by
  unfold ofFileText
  constructor
  · intro read
    split at read
    · contradiction
    · next word found =>
      split at read
      · contradiction
      · next bytes decoded =>
        have written := Base64.decode_eq_ok_iff.mp decoded
        rw [eq_encode_of_ofBytes read, ← encodeChars_symbols] at written
        rw [found, Utf8.encodeChars_inj.mp written]
  · intro found
    have decoded : Base64.decode (Utf8.encodeChars key.symbols) = .ok key.encode :=
      Base64.decode_eq_ok_iff.mpr (encodeChars_symbols key)
    simp only [found, decoded, ofBytes_encode]

section Comment

variable {blanks remark : List Char}

/-- With the NULs at its end, a comment does not lose the blank in front of it. -/
theorem head?_dropTrailingNuls (ends : ∀ char ∈ remark.head?, Text.isBlank char = true) :
    ∀ char ∈ (Text.dropTrailingNuls remark).head?, Text.isBlank char = true := by
  intro char first
  obtain ⟨count, whole⟩ := Text.exists_nuls remark
  apply ends
  rw [whole, List.head?_append, Option.mem_def.mp first]
  rfl

/-- Blanks, the symbols of a key and a comment make a file of the key, whatever NULs follow. -/
theorem begins_of_comment (key : DeviceKey) (blank : ∀ char ∈ blanks, Text.isBlank char = true)
    (ends : ∀ char ∈ remark.head?, Text.isBlank char = true) (count : Nat) :
    Text.Begins
      (Text.dropTrailingNuls
        (blanks ++ (key.symbols ++ (remark ++ List.replicate count '\x00'))))
      blanks key.symbols (Text.dropTrailingNuls remark) := by
  have plain : (blanks ++ (key.symbols ++ Text.dropTrailingNuls remark)).getLast? ≠
      some '\x00' := by
    rw [← List.append_assoc, List.getLast?_append]
    cases last : (Text.dropTrailingNuls remark).getLast? with
    | some char =>
      have not_nul := Text.getLast?_dropTrailingNuls remark
      rwa [last] at not_nul
    | none =>
      intro nul
      rw [Option.none_or, List.getLast?_append, List.getLast?_eq_some_getLast key.symbols_ne_nil,
        Option.some_or, Option.some.injEq] at nul
      exact key.nul_not_mem_symbols (nul ▸ List.getLast_mem key.symbols_ne_nil)
  have whole : Text.dropTrailingNuls
      (blanks ++ (key.symbols ++ (remark ++ List.replicate count '\x00'))) =
        blanks ++ (key.symbols ++ Text.dropTrailingNuls remark) := by
    obtain ⟨more, remark_whole⟩ := Text.exists_nuls remark
    refine Text.dropTrailingNuls_eq_iff.mpr ⟨⟨more + count, ?_⟩, plain⟩
    rw [← List.replicate_append_replicate]
    conv => lhs; rw [remark_whole]
    simp only [List.append_assoc]
  exact ⟨whole, blank, key.symbols_ne_nil, key.not_isBlank_of_mem_symbols,
    head?_dropTrailingNuls ends⟩

/-- The symbols of a key are read whatever blanks stand before them and whatever comment and NULs
stand behind. -/
theorem ofFileText_of_comment (key : DeviceKey) (blank : ∀ char ∈ blanks, Text.isBlank char = true)
    (ends : ∀ char ∈ remark.head?, Text.isBlank char = true) (count : Nat) :
    ofFileText (String.ofList
      (blanks ++ (key.symbols ++ (remark ++ List.replicate count '\x00')))) = .ok key := by
  rw [ofFileText_eq_ok_iff, String.toList_ofList]
  exact (begins_of_comment key blank ends count).firstWord?_eq

/-- The file that is written, with so many NULs behind it, is read. -/
theorem ofFileText_fileText_append (key : DeviceKey) (count : Nat) :
    ofFileText (key.fileText ++ String.ofList (List.replicate count '\x00')) = .ok key := by
  have nothing : ∀ char ∈ ([] : List Char), Text.isBlank char = true := by simp
  have blank : ∀ char ∈ comment.toList.head?, Text.isBlank char = true := by
    intro char first
    obtain rfl : ' ' = char := Option.some.inj first
    rfl
  have read := ofFileText_of_comment key nothing blank count
  rwa [List.nil_append, String.ofList_append, String.ofList_append, String.ofList_toList,
    ← String.append_assoc] at read

end Comment

/-- What a derived pair offers is the file of its key with a NUL behind it. -/
theorem decode?_publicBytes {privateKey : PrivateKey} {pair : KeyPair}
    (derived : KeyPair.ofPrivateKey privateKey = .ok pair) :
    ∃ key, ofRsa privateKey.modulus privateKey.publicExponent = .ok key ∧
      Utf8.decode? pair.publicBytes = some (key.fileText ++ String.ofList ['\x00']) := by
  unfold KeyPair.ofPrivateKey at derived
  cases made : ofRsa privateKey.modulus privateKey.publicExponent with
  | error failure =>
    rw [made] at derived
    contradiction
  | ok key =>
    rw [made] at derived
    obtain rfl := Except.ok.inj derived
    have offered : KeyPair.nulTerminated (Utf8.encode key.fileText) =
        Utf8.encode (key.fileText ++ String.ofList ['\x00']) := by
      rw [Utf8.encode, Utf8.encode, String.toList_append, String.toList_ofList,
        Utf8.encodeChars_append]
      rfl
    exact ⟨key, rfl, (congrArg Utf8.decode? offered).trans (Utf8.decode?_encode _)⟩

/-- **A key is read back from its bytes and from its file, and from nothing else.** Bytes are the
ones of the key that is read from them; a file of a key is blanks, the symbols of the key, a comment
behind a blank or none, and NULs. -/
theorem key_files_canonical :
    (∀ key : DeviceKey, key.encode.length = 524 ∧
      ∀ bytes, ofBytes bytes = .ok key ↔ bytes = key.encode) ∧
    (∀ bytes, (∃ failure, ofBytes bytes = .error failure) ↔
      bytes.length ≠ 524 ∨
        ∃ words rest, Word.split? bytes = some (words, rest) ∧ words.toInt32 ≠ 64) ∧
    (∀ (key : DeviceKey) (blanks remark : List Char) (count : Nat),
      (∀ char ∈ blanks, Text.isBlank char = true) →
      (∀ char ∈ remark.head?, Text.isBlank char = true) →
      ofFileText (String.ofList
        (blanks ++ (key.symbols ++ (remark ++ List.replicate count '\x00')))) = .ok key) ∧
    (∀ key : DeviceKey, ofFileText key.fileText = .ok key) ∧
    (∀ privateKey pair, KeyPair.ofPrivateKey privateKey = .ok pair →
      ∃ key text, ofRsa privateKey.modulus privateKey.publicExponent = .ok key ∧
        Utf8.decode? pair.publicBytes = some text ∧ text.toList.getLast? = some '\x00' ∧
        ofFileText text = .ok key) ∧
    (∀ text key, ofFileText text = .ok key →
      ∃ plain count blanks rest, text.toList = plain ++ List.replicate count '\x00' ∧
        plain.getLast? ≠ some '\x00' ∧ Text.Begins plain blanks key.symbols rest) := by
  refine ⟨fun key => ⟨length_encode key, fun bytes => ofBytes_eq_ok_iff⟩,
    fun bytes => ofBytes_fails_iff,
    fun key blanks remark count blank ends => ofFileText_of_comment key blank ends count,
    fun key => ?_, fun privateKey pair derived => ?_, fun text key read => ?_⟩
  · have read := ofFileText_fileText_append key 0
    rwa [List.replicate_zero, String.ofList_nil, String.append_empty] at read
  · obtain ⟨key, made, offered⟩ := decode?_publicBytes derived
    refine ⟨key, _, made, offered, ?_, ofFileText_fileText_append key 1⟩
    rw [String.toList_append, String.toList_ofList, List.getLast?_concat]
  · obtain ⟨count, whole⟩ := Text.exists_nuls text.toList
    obtain ⟨blanks, rest, begins⟩ := Text.exists_begins (ofFileText_eq_ok_iff.mp read)
    exact ⟨_, count, blanks, rest, whole, Text.getLast?_dropTrailingNuls text.toList, begins⟩

/-- A file with a tab in front, a comment and two NULs. -/
theorem key_file_with_comment_and_nuls :
    let key : DeviceKey := ⟨0x55555555, 3, 1, 65537, by decide +kernel, by decide +kernel⟩
    ofFileText (String.ofList
      (['\t'] ++ (key.symbols ++ ([' ', 'm', 'e'] ++ List.replicate 2 '\x00')))) = .ok key := by
  intro key
  have tab : ∀ char ∈ ['\t'], Text.isBlank char = true := List.forall_mem_singleton.mpr rfl
  have blank : ∀ char ∈ [' ', 'm', 'e'].head?, Text.isBlank char = true := by
    intro char first
    obtain rfl : ' ' = char := Option.some.inj first
    rfl
  exact key_files_canonical.2.2.1 key ['\t'] [' ', 'm', 'e'] 2 tab blank

end DeviceKey
end DebugBridge
