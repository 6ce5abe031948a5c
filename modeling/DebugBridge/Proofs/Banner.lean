import DebugBridge.Banner
import DebugBridge.Proofs.Text.Parts
import DebugBridge.Proofs.Text.Utf8

/-!
# What banners say

A banner is divided at its first two colons (`Banner.Divides`), what is behind them falls into
pieces at the semicolons, and a piece gives a value to the key in front of its first equals sign
(`Banner.Gives`). Reading a banner finds these parts, the last value of each key
(`Banner.lookup?_entries_eq_some_iff`), and fails exactly if a colon or the features are missing.
NULs behind a banner say nothing, and its text, which holds all of its parts, reads as the same
banner again (`Banner.parse_congr`, `Banner.infix_of_mem_parts`).
-/

namespace DebugBridge.Banner

/-- A text is divided at its first two colons. -/
structure Divides (text systemType serial properties : List Char) : Prop where
  whole : text = systemType ++ ':' :: (serial ++ ':' :: properties)
  type_free : ':' ∉ systemType
  serial_free : ':' ∉ serial

/-- A piece gives a key a value: they stand in front of its first equals sign and behind it. -/
def Gives (piece key value : List Char) : Prop :=
  piece = key ++ '=' :: value ∧ '=' ∉ key

/-- The last of the pieces that give a key a value gives it this one. -/
def LastGives (pieces : List (List Char)) (key value : List Char) : Prop :=
  ∃ earlier piece later, pieces = earlier ++ piece :: later ∧ Gives piece key value ∧
    ∀ other ∈ later, ∀ value, ¬Gives other key value

/-- What a banner answers, said of the parts of its text. -/
structure HasParts (banner : Banner) (systemType serial : List Char) (pieces : List (List Char)) :
    Prop where
  systemType_eq : banner.systemType.toList = systemType
  serial_eq : banner.serial.toList = serial
  property_iff : ∀ key value, banner.property? key = some value ↔
    LastGives pieces key.toList value.toList
  absent_iff : ∀ key, banner.property? key = none ↔
    ∀ piece ∈ pieces, ∀ value, ¬Gives piece key.toList value
  supports_iff : ∀ feature, banner.supports feature = true ↔
    feature ≠ "" ∧ ∃ features names, banner.property? "features" = some features ∧
      Text.FallsInto ',' features.toList names ∧ feature.toList ∈ names

section Cut

variable {separator : Char} {text front back : List Char}

/-- A text is cut at the first separator. -/
theorem cutAt?_of_not_mem (free : separator ∉ front) (back : List Char) :
    cutAt? separator (front ++ separator :: back) = some (front, back) := by
  induction front with
  | nil => exact if_pos rfl
  | cons char front ih =>
    have other := List.ne_of_not_mem_cons free
    rw [List.cons_append, cutAt?, if_neg (Ne.symm other), ih (List.not_mem_of_not_mem_cons free)]
    rfl

/-- A text is cut at the first separator. -/
theorem cutAt?_eq_some_iff :
    cutAt? separator text = some (front, back) ↔
      text = front ++ separator :: back ∧ separator ∉ front := by
  constructor
  · intro cut
    fun_induction cutAt? separator text generalizing front with
    | case1 => contradiction
    | case2 rest =>
      cases cut
      exact ⟨rfl, List.not_mem_nil⟩
    | case3 char rest other ih =>
      obtain ⟨⟨inner, behind⟩, found, same⟩ := Option.map_eq_some_iff.mp cut
      obtain ⟨rfl, rfl⟩ := Prod.mk.inj same
      obtain ⟨rfl, free⟩ := ih found
      exact ⟨rfl, List.not_mem_cons_of_ne_of_not_mem (Ne.symm other) free⟩
  · rintro ⟨rfl, free⟩
    exact cutAt?_of_not_mem free back

/-- A text with two colons is divided at the first two. -/
theorem exists_divides_iff :
    (∃ systemType serial properties, Divides text systemType serial properties) ↔
      2 ≤ text.count ':' := by
  constructor
  · rintro ⟨systemType, serial, properties, rfl, -, -⟩
    simp only [List.count_append, List.count_cons_self]
    omega
  · intro many
    obtain ⟨systemType, rest, rfl, type_free⟩ :=
      List.eq_append_cons_of_mem (List.count_pos_iff.mp (show 0 < text.count ':' by omega))
    rw [List.count_append, List.count_cons_self, List.count_eq_zero.mpr type_free] at many
    obtain ⟨serial, properties, rfl, serial_free⟩ :=
      List.eq_append_cons_of_mem (List.count_pos_iff.mp (show 0 < rest.count ':' by omega))
    exact ⟨systemType, serial, properties, rfl, type_free, serial_free⟩

end Cut

section Properties

variable {key value : String} {properties : List (String × String)}

/-- Of two values for one key the later one counts. -/
theorem lookup?_eq_some_iff :
    lookup? key properties = some value ↔
      ∃ earlier later, properties = earlier ++ (key, value) :: later ∧
        key ∉ later.map Prod.fst := by
  rw [lookup?, List.lookup_eq_some_iff]
  constructor
  · rintro ⟨later, earlier, same, other⟩
    refine ⟨earlier.reverse, later.reverse, ?_, ?_⟩
    · rw [← List.reverse_reverse properties, same]
      simp only [List.reverse_append, List.reverse_cons, List.append_assoc, List.singleton_append]
    · intro member
      obtain ⟨pair, inside, rfl⟩ := List.mem_map.mp member
      have differs := other pair (List.mem_reverse.mp inside)
      exact bne_iff_ne.mp differs rfl
  · rintro ⟨earlier, later, rfl, last⟩
    refine ⟨later.reverse, earlier.reverse, ?_, ?_⟩
    · simp only [List.reverse_append, List.reverse_cons, List.append_assoc, List.singleton_append]
    · intro pair inside
      refine bne_iff_ne.mpr ?_
      rintro rfl
      exact last (List.mem_map_of_mem (List.mem_reverse.mp inside))

/-- Only a key that no pair has is not found. -/
theorem lookup?_eq_none_iff : lookup? key properties = none ↔ key ∉ properties.map Prod.fst := by
  rw [lookup?, List.lookup_eq_none_iff]
  constructor
  · intro other member
    obtain ⟨pair, inside, rfl⟩ := List.mem_map.mp member
    exact bne_iff_ne.mp (other pair (List.mem_reverse.mpr inside)) rfl
  · intro absent pair inside
    refine bne_iff_ne.mpr ?_
    rintro rfl
    exact absent (List.mem_map_of_mem (List.mem_reverse.mp inside))

/-- A piece is read as the key and the value that it gives. -/
theorem entry?_eq_some_iff {piece : List Char} :
    entry? piece = some (key, value) ↔ Gives piece key.toList value.toList := by
  unfold entry? Gives
  rw [Option.map_eq_some_iff]
  constructor
  · rintro ⟨⟨front, back⟩, cut, same⟩
    obtain ⟨rfl, rfl⟩ := Prod.mk.inj same
    rw [String.toList_ofList, String.toList_ofList]
    exact cutAt?_eq_some_iff.mp cut
  · intro gives
    refine ⟨_, cutAt?_eq_some_iff.mpr gives, ?_⟩
    dsimp only
    rw [String.ofList_toList, String.ofList_toList]

/-- The key and the value that a piece gives are what is read. -/
theorem entry?_of_gives {piece key value : List Char} (gives : Gives piece key value) :
    entry? piece = some (String.ofList key, String.ofList value) := by
  refine entry?_eq_some_iff.mpr ?_
  rwa [String.toList_ofList, String.toList_ofList]

variable {text : List Char} {pieces : List (List Char)}

/-- The keys with an entry are those that some piece gives a value. -/
theorem mem_keys_iff :
    key ∈ (pieces.filterMap entry?).map Prod.fst ↔
      ∃ piece ∈ pieces, ∃ value, Gives piece key.toList value := by
  simp only [List.mem_map, List.mem_filterMap]
  constructor
  · rintro ⟨⟨_, value⟩, ⟨piece, inside, read⟩, rfl⟩
    exact ⟨piece, inside, _, entry?_eq_some_iff.mp read⟩
  · rintro ⟨piece, inside, value, gives⟩
    refine ⟨_, ⟨piece, inside, entry?_of_gives gives⟩, ?_⟩
    exact String.ofList_toList

/-- The value of a key is the one that the last piece for the key gives. -/
theorem lookup?_entries_eq_some_iff (falls : Text.FallsInto ';' text pieces) :
    lookup? key (entries text) = some value ↔ LastGives pieces key.toList value.toList := by
  obtain rfl := Text.fallsInto_iff.mp falls
  rw [entries, lookup?_eq_some_iff]
  constructor
  · rintro ⟨earlier, later, same, last⟩
    obtain ⟨front, back, split, -, rest⟩ := List.filterMap_eq_append_iff.mp same
    obtain ⟨skipped, piece, behind, rfl, -, read, rfl⟩ := List.filterMap_eq_cons_iff.mp rest
    refine ⟨front ++ skipped, piece, behind, ?_, entry?_eq_some_iff.mp read, ?_⟩
    · rw [split, List.append_assoc]
    · intro other inside value gives
      exact last (mem_keys_iff.mpr ⟨other, inside, value, gives⟩)
  · rintro ⟨earlier, piece, later, same, gives, last⟩
    refine ⟨earlier.filterMap entry?, later.filterMap entry?, ?_, ?_⟩
    · have read := entry?_eq_some_iff.mpr gives
      rw [same, List.filterMap_append, List.filterMap_cons_some read]
    · intro member
      obtain ⟨other, inside, value, gives⟩ := mem_keys_iff.mp member
      exact last other inside value gives

/-- Only a key that no piece gives a value is not found. -/
theorem lookup?_entries_eq_none_iff (falls : Text.FallsInto ';' text pieces) :
    lookup? key (entries text) = none ↔
      ∀ piece ∈ pieces, ∀ value, ¬Gives piece key.toList value := by
  obtain rfl := Text.fallsInto_iff.mp falls
  rw [entries, lookup?_eq_none_iff, mem_keys_iff]
  simp only [not_exists, not_and]

/-- The names in a list are its pieces at the commas, without the empty ones. -/
theorem mem_names_iff {feature list : String} :
    feature ∈ names list ↔
      feature ≠ "" ∧ ∃ names, Text.FallsInto ',' list.toList names ∧ feature.toList ∈ names := by
  have nonempty : feature.toList ≠ [] ↔ feature ≠ "" := not_congr String.toList_eq_nil_iff
  rw [names, List.mem_eraseDups, List.mem_map]
  constructor
  · rintro ⟨piece, member, rfl⟩
    obtain ⟨inside, filled⟩ := List.mem_filter.mp member
    have same : (String.ofList piece).toList = piece := String.toList_ofList
    rw [← same] at inside filled
    exact ⟨nonempty.mp (of_decide_eq_true filled), _, Text.fallsInto_iff.mpr rfl, inside⟩
  · rintro ⟨filled, pieces, falls, inside⟩
    obtain rfl := Text.fallsInto_iff.mp falls
    refine ⟨feature.toList, List.mem_filter.mpr ⟨inside, decide_eq_true (nonempty.mpr filled)⟩, ?_⟩
    exact String.ofList_toList

end Properties

variable {payload : Bytes} {text systemType serial properties : List Char} {banner : Banner}

/-- Reading goes by the text without the NULs at its end. -/
theorem parse_of_divides (stripped : Text.dropTrailingNuls (Utf8.lossyChars payload) = text)
    (divides : Divides text systemType serial properties) :
    parse payload = match lookup? "features" (entries properties) with
      | none => .error (.invalidBanner
          ("Connect banner has no features key: " ++ Text.quote (String.ofList text)))
      | some features => .ok {
          raw := String.ofList text
          systemType := String.ofList systemType
          serial := String.ofList serial
          properties := entries properties
          features := names features } := by
  obtain ⟨whole, type_free, serial_free⟩ := divides
  have first := cutAt?_eq_some_iff.mpr ⟨whole, type_free⟩
  have second := cutAt?_of_not_mem serial_free properties
  cases found : lookup? "features" (entries properties) with
  | none | some features => simp only [parse, stripped, first, second, found]

/-- What is read was divided at its first two colons. -/
theorem exists_divides_of_parse (stripped : Text.dropTrailingNuls (Utf8.lossyChars payload) = text)
    (read : parse payload = .ok banner) :
    ∃ systemType serial properties, Divides text systemType serial properties := by
  simp only [parse, stripped] at read
  split at read
  · contradiction
  · next systemType rest first =>
    split at read
    · contradiction
    · next serial properties second =>
      obtain ⟨rfl, type_free⟩ := cutAt?_eq_some_iff.mp first
      obtain ⟨rfl, serial_free⟩ := cutAt?_eq_some_iff.mp second
      exact ⟨systemType, serial, properties, rfl, type_free, serial_free⟩

/-- A banner that is read consists of its parts. -/
theorem eq_of_parse (stripped : Text.dropTrailingNuls (Utf8.lossyChars payload) = text)
    (read : parse payload = .ok banner) :
    ∃ systemType serial properties features, Divides text systemType serial properties ∧
      lookup? "features" (entries properties) = some features ∧
      banner = ⟨String.ofList text, String.ofList systemType, String.ofList serial,
        entries properties, names features⟩ := by
  obtain ⟨systemType, serial, properties, divides⟩ := exists_divides_of_parse stripped read
  rw [parse_of_divides stripped divides] at read
  split at read
  · contradiction
  · next features found =>
    exact ⟨systemType, serial, properties, features, divides, found, (Except.ok.inj read).symm⟩

/-- A feature is supported if it has a name and is listed among the features. -/
theorem supports_iff_of_features {features feature : String}
    (listed : banner.features = names features)
    (found : banner.property? "features" = some features) :
    banner.supports feature = true ↔
      feature ≠ "" ∧ ∃ features names, banner.property? "features" = some features ∧
        Text.FallsInto ',' features.toList names ∧ feature.toList ∈ names := by
  rw [supports, listed, List.contains_iff_mem, mem_names_iff, found]
  constructor
  · rintro ⟨filled, names, falls, inside⟩
    exact ⟨filled, features, names, rfl, falls, inside⟩
  · rintro ⟨filled, other, names, same, falls, inside⟩
    obtain rfl := Option.some.inj same
    exact ⟨filled, names, falls, inside⟩

/-- A banner that is read has the parts of its text. -/
theorem hasParts_of_parse (stripped : Text.dropTrailingNuls (Utf8.lossyChars payload) = text)
    (read : parse payload = .ok banner) :
    ∃ systemType serial properties pieces, Divides text systemType serial properties ∧
      Text.FallsInto ';' properties pieces ∧ HasParts banner systemType serial pieces := by
  obtain ⟨systemType, serial, properties, features, divides, found, rfl⟩ :=
    eq_of_parse stripped read
  have falls : Text.FallsInto ';' properties (properties.splitOn ';') := Text.fallsInto_iff.mpr rfl
  exact ⟨systemType, serial, properties, properties.splitOn ';', divides, falls, {
    systemType_eq := String.toList_ofList
    serial_eq := String.toList_ofList
    property_iff := fun key value => lookup?_entries_eq_some_iff falls
    absent_iff := fun key => lookup?_entries_eq_none_iff falls
    supports_iff := fun feature => supports_iff_of_features rfl found }⟩

/-- Reading succeeds if there are two colons and some piece names the features. -/
theorem exists_parse_iff (stripped : Text.dropTrailingNuls (Utf8.lossyChars payload) = text) :
    (∃ banner, parse payload = .ok banner) ↔
      2 ≤ text.count ':' ∧ ∃ systemType serial properties pieces,
        Divides text systemType serial properties ∧ Text.FallsInto ';' properties pieces ∧
        ∃ piece ∈ pieces, ∃ value, Gives piece "features".toList value := by
  constructor
  · rintro ⟨banner, read⟩
    obtain ⟨systemType, serial, properties, features, divides, found, -⟩ :=
      eq_of_parse stripped read
    have falls : Text.FallsInto ';' properties (properties.splitOn ';') :=
      Text.fallsInto_iff.mpr rfl
    obtain ⟨earlier, piece, later, split, gives, -⟩ := (lookup?_entries_eq_some_iff falls).mp found
    have inside : piece ∈ properties.splitOn ';' := by
      rw [split]
      exact List.mem_append_right _ List.mem_cons_self
    exact ⟨exists_divides_iff.mp ⟨_, _, _, divides⟩, systemType, serial, properties, _, divides,
      falls, piece, inside, _, gives⟩
  · rintro ⟨-, systemType, serial, properties, pieces, divides, falls, piece, inside, value, gives⟩
    rw [parse_of_divides stripped divides]
    cases found : lookup? "features" (entries properties) with
    | none =>
      exact absurd gives ((lookup?_entries_eq_none_iff falls).mp found piece inside value)
    | some features => exact ⟨_, rfl⟩

/-- The text of an entry. -/
def entryText (pair : String × String) : List Char :=
  pair.1.toList ++ '=' :: pair.2.toList

/-- The text of a banner, with or without a semicolon at the end. -/
def bannerText (systemType serial : String) (pairs : List (String × String))
    (ending : List Char) : List Char :=
  systemType.toList ++ ':' :: (serial.toList ++ ':' ::
    ([';'].intercalate (pairs.map entryText) ++ ending))

section Written

variable {pairs : List (String × String)} {ending : List Char}

/-- The texts of entries are read as these entries, if no key has an equals sign. -/
theorem filterMap_entryText (free : ∀ pair ∈ pairs, '=' ∉ pair.1.toList) :
    (pairs.map entryText).filterMap entry? = pairs := by
  induction pairs with
  | nil => rfl
  | cons pair pairs ih =>
    obtain ⟨first, others⟩ := List.forall_mem_cons.mp free
    have read : entry? (entryText pair) = some pair := entry?_eq_some_iff.mpr ⟨rfl, first⟩
    rw [List.map_cons, List.filterMap_cons_some read, ih others]

/-- The entries that are written are the ones that are read. -/
theorem entries_written (some_pairs : pairs ≠ [])
    (keys_free : ∀ pair ∈ pairs, '=' ∉ pair.1.toList ∧ ';' ∉ pair.1.toList)
    (values_free : ∀ pair ∈ pairs, ';' ∉ pair.2.toList)
    (ends : ending = [] ∨ ending = [';']) :
    entries ([';'].intercalate (pairs.map entryText) ++ ending) = pairs := by
  have read := filterMap_entryText fun pair member => (keys_free pair member).1
  have falls : Text.FallsInto ';' ([';'].intercalate (pairs.map entryText))
      (pairs.map entryText) := by
    refine ⟨by simpa using some_pairs, ?_, rfl⟩
    intro piece member
    obtain ⟨pair, inside, rfl⟩ := List.mem_map.mp member
    simp only [entryText, List.mem_append, List.mem_cons, not_or]
    exact ⟨(keys_free pair inside).2, by decide, values_free pair inside⟩
  rcases ends with rfl | rfl
  · rw [List.append_nil, entries, ← Text.fallsInto_iff.mp falls, read]
  · rw [entries, ← Text.fallsInto_iff.mp falls.append_separator, List.filterMap_append, read]
    exact List.append_nil pairs

/-- A banner that is written is read, with so many NULs behind it. -/
theorem parse_written {systemType serial : String} (type_free : ':' ∉ systemType.toList)
    (serial_free : ':' ∉ serial.toList)
    (keys_free : ∀ pair ∈ pairs, '=' ∉ pair.1.toList ∧ ';' ∉ pair.1.toList)
    (values_free : ∀ pair ∈ pairs, ';' ∉ pair.2.toList)
    (named : "features" ∈ pairs.map Prod.fst) (ends : ending = [] ∨ ending = [';'])
    (plain : (bannerText systemType serial pairs ending).getLast? ≠ some '\x00') (count : Nat) :
    ∃ features, lookup? "features" pairs = some features ∧
      parse (Utf8.encodeChars
        (bannerText systemType serial pairs ending ++ List.replicate count '\x00')) = .ok
        ⟨String.ofList (bannerText systemType serial pairs ending), systemType, serial, pairs,
          names features⟩ := by
  have some_pairs : pairs ≠ [] := by
    rintro rfl
    contradiction
  have stripped : Text.dropTrailingNuls (Utf8.lossyChars (Utf8.encodeChars
      (bannerText systemType serial pairs ending ++ List.replicate count '\x00'))) =
        bannerText systemType serial pairs ending := by
    rw [Utf8.lossyChars_encodeChars, Text.dropTrailingNuls_append plain]
  have divides : Divides (bannerText systemType serial pairs ending) systemType.toList
      serial.toList _ := ⟨rfl, type_free, serial_free⟩
  cases found : lookup? "features" pairs with
  | none => exact absurd named (lookup?_eq_none_iff.mp found)
  | some features =>
    refine ⟨features, rfl, ?_⟩
    rw [parse_of_divides stripped divides,
      entries_written some_pairs keys_free values_free ends, found]
    simp only [String.ofList_toList]

end Written

/-- **Reading banners.** Of every payload the text without the NULs at its end is read. It is
accepted exactly if it has two colons and some piece behind the second one names the features, and
the banner has the parts of the text. So a banner that is written is read back, and of two values
for one key the later one counts. -/
theorem parse_grammar :
    (∀ payload, ∃ text count,
      Utf8.lossyChars payload = text ++ List.replicate count '\x00' ∧
      text.getLast? ≠ some '\x00' ∧
      ((∃ banner, parse payload = .ok banner) ↔
        2 ≤ text.count ':' ∧ ∃ systemType serial properties pieces,
          Divides text systemType serial properties ∧ Text.FallsInto ';' properties pieces ∧
          ∃ piece ∈ pieces, ∃ value, Gives piece "features".toList value) ∧
      ∀ banner, parse payload = .ok banner →
        ∃ systemType serial properties pieces, Divides text systemType serial properties ∧
          Text.FallsInto ';' properties pieces ∧ HasParts banner systemType serial pieces) ∧
    (∀ (systemType serial : String) (pairs : List (String × String)) (ending : List Char)
        (count : Nat),
      ':' ∉ systemType.toList → ':' ∉ serial.toList →
      (∀ pair ∈ pairs, '=' ∉ pair.1.toList ∧ ';' ∉ pair.1.toList) →
      (∀ pair ∈ pairs, ';' ∉ pair.2.toList) →
      "features" ∈ pairs.map Prod.fst → (ending = [] ∨ ending = [';']) →
      (bannerText systemType serial pairs ending).getLast? ≠ some '\x00' →
      ∃ banner,
        parse (Utf8.encodeChars
          (bannerText systemType serial pairs ending ++ List.replicate count '\x00')) =
            .ok banner ∧
        banner.systemType = systemType ∧ banner.serial = serial ∧
        (∀ key value, banner.property? key = some value ↔
          ∃ earlier later, pairs = earlier ++ (key, value) :: later ∧
            key ∉ later.map Prod.fst) ∧
        (∀ key, banner.property? key = none ↔ key ∉ pairs.map Prod.fst) ∧
        ∀ feature, banner.supports feature = true ↔
          feature ≠ "" ∧ ∃ features names, banner.property? "features" = some features ∧
            Text.FallsInto ',' features.toList names ∧ feature.toList ∈ names) := by
  constructor
  · intro payload
    obtain ⟨count, whole⟩ := Text.exists_nuls (Utf8.lossyChars payload)
    exact ⟨_, count, whole, Text.getLast?_dropTrailingNuls _, exists_parse_iff rfl,
      fun banner read => hasParts_of_parse rfl read⟩
  · intro systemType serial pairs ending count type_free serial_free keys_free values_free named
      ends plain
    obtain ⟨features, found, read⟩ :=
      parse_written type_free serial_free keys_free values_free named ends plain count
    exact ⟨_, read, rfl, rfl, fun key value => lookup?_eq_some_iff,
      fun key => lookup?_eq_none_iff, fun feature => supports_iff_of_features rfl found⟩

/-- A value with every separator but the semicolon, features that are named twice, a semicolon at
the end and a NUL behind it. -/
theorem banner_with_repeated_features :
    let pairs := [("ro.name", "a=b:c,d"), ("features", "old"), ("features", "shell_v2,,cmd")]
    ∃ banner,
      parse (Utf8.encodeChars (bannerText "device" "" pairs [';'] ++ List.replicate 1 '\x00')) =
        .ok banner ∧
      banner.property? "ro.name" = some "a=b:c,d" ∧
      banner.property? "features" = some "shell_v2,,cmd" ∧ banner.property? "serial" = none ∧
      banner.supports "cmd" = true := by
  intro pairs
  obtain ⟨banner, read, -, -, property, absent, supports⟩ :=
    parse_grammar.2 "device" "" pairs [';'] 1 (by decide) (by decide) (by decide) (by decide)
      (by decide) (.inr rfl) (by decide)
  have features : banner.property? "features" = some "shell_v2,,cmd" :=
    (property _ _).mpr ⟨pairs.take 2, [], rfl, by decide⟩
  have falls : Text.FallsInto ',' "shell_v2,,cmd".toList ["shell_v2".toList, [], "cmd".toList] :=
    ⟨by decide, by decide, by decide⟩
  exact ⟨banner, read, (property _ _).mpr ⟨[], pairs.drop 1, rfl, by decide⟩, features,
    (absent _).mpr (by decide), (supports _).mpr ⟨by decide, _, _, features, falls, by decide⟩⟩

/-- Reading goes by nothing but the text without the NULs at its end. -/
theorem parse_congr {other : Bytes} (same : Text.dropTrailingNuls (Utf8.lossyChars payload) =
    Text.dropTrailingNuls (Utf8.lossyChars other)) : parse payload = parse other := by
  simp only [parse, same]

/-- Every text that a banner answers with: the type, the serial number, the keys and values, and
the names of the features. -/
def parts (banner : Banner) : List String :=
  banner.systemType :: banner.serial ::
    (banner.properties.flatMap fun (key, value) => [key, value]) ++ banner.features

/-- All three parts of a banner stand in its text. -/
theorem Divides.infix (divides : Divides text systemType serial properties) :
    systemType <:+: text ∧ serial <:+: text ∧ properties <:+: text := by
  obtain ⟨rfl, -, -⟩ := divides
  have behind : serial ++ ':' :: properties <:+:
      systemType ++ ':' :: (serial ++ ':' :: properties) := ⟨systemType ++ [':'], [], by simp⟩
  refine ⟨(List.prefix_append _ _).isInfix, ?_, ?_⟩
  · exact (List.prefix_append serial _).isInfix.trans behind
  · have last := (List.suffix_cons ':' properties).trans (List.suffix_append serial _)
    exact last.isInfix.trans behind

/-- Keys and values are connected parts of the text that they were read from. -/
theorem infix_of_mem_entries {key value : String} (member : (key, value) ∈ entries properties) :
    key.toList <:+: properties ∧ value.toList <:+: properties := by
  obtain ⟨piece, inside, read⟩ := List.mem_filterMap.mp member
  have falls : Text.FallsInto ';' properties (properties.splitOn ';') := Text.fallsInto_iff.mpr rfl
  obtain ⟨rfl, -⟩ := entry?_eq_some_iff.mp read
  have whole := falls.infix inside
  exact ⟨(List.prefix_append key.toList _).isInfix.trans whole,
    ((List.suffix_cons '=' value.toList).trans (List.suffix_append _ _)).isInfix.trans whole⟩

/-- The name of a feature stands in the list of them. -/
theorem infix_of_mem_names {feature list : String} (member : feature ∈ names list) :
    feature.toList <:+: list.toList := by
  obtain ⟨-, pieces, falls, inside⟩ := mem_names_iff.mp member
  exact falls.infix inside

/-- What is found is one of the pairs. -/
theorem mem_of_lookup? {key value : String} {pairs : List (String × String)}
    (found : lookup? key pairs = some value) : (key, value) ∈ pairs := by
  obtain ⟨earlier, later, rfl, -⟩ := lookup?_eq_some_iff.mp found
  exact List.mem_append_right _ List.mem_cons_self

/-- A banner is made of connected parts of its text. -/
theorem infix_of_mem_parts (read : parse payload = .ok banner) :
    ∀ part ∈ banner.parts, part.toList <:+: banner.raw.toList := by
  obtain ⟨systemType, serial, properties, features, divides, found, rfl⟩ := eq_of_parse rfl read
  obtain ⟨type_inside, serial_inside, properties_inside⟩ := divides.infix
  intro part member
  simp only [parts, List.mem_append, List.mem_cons, List.mem_flatMap, Prod.exists] at member
  rw [String.toList_ofList]
  rcases member with (rfl | rfl | ⟨key, value, entry, pair⟩) | feature
  · rwa [String.toList_ofList]
  · rwa [String.toList_ofList]
  · obtain ⟨key_inside, value_inside⟩ := infix_of_mem_entries entry
    rcases pair with rfl | rfl | nothing
    · exact key_inside.trans properties_inside
    · exact value_inside.trans properties_inside
    · exact absurd nothing List.not_mem_nil
  · obtain ⟨-, value_inside⟩ := infix_of_mem_entries (mem_of_lookup? found)
    exact (infix_of_mem_names feature).trans (value_inside.trans properties_inside)

/-- **Banners read again.** NULs behind a payload make no difference to what is read, whether or not
the payload is well formed. The text of a banner that was read does not end with a NUL and is read
as the same banner, all of whose texts are connected parts of it. -/
theorem parse_stable :
    (∀ payload count, parse (payload ++ List.replicate count 0) = parse payload) ∧
    ∀ payload banner, parse payload = .ok banner →
      parse (Utf8.encode banner.raw) = .ok banner ∧ banner.raw.toList.getLast? ≠ some '\x00' ∧
        ∀ part ∈ banner.parts, part.toList <:+: banner.raw.toList := by
  constructor
  · intro payload count
    apply parse_congr
    rw [Utf8.lossyChars_append_nuls, Text.dropTrailingNuls_append_nuls]
  · intro payload banner read
    have inside := infix_of_mem_parts read
    have plain := Text.getLast?_dropTrailingNuls (Utf8.lossyChars payload)
    obtain ⟨systemType, serial, properties, features, divides, found, rfl⟩ := eq_of_parse rfl read
    refine ⟨?_, ?_, inside⟩
    · refine (parse_congr ?_).trans read
      rw [Utf8.encode, String.toList_ofList, Utf8.lossyChars_encodeChars,
        Text.dropTrailingNuls_of_plain plain]
    · rwa [String.toList_ofList]

/-- A payload that ends inside a character, with two NULs behind it. -/
theorem parse_stable_cut_character :
    let payload : Bytes := (Utf8.encode "device:\x00é:features=a,,b;x=") ++ [0xE2, 0x82]
    ∃ banner, parse payload = .ok banner ∧ parse (payload ++ [0, 0]) = .ok banner ∧
      banner.raw = "device:\x00é:features=a,,b;x=\uFFFD" ∧
      parse (Utf8.encode banner.raw) = .ok banner ∧ banner.features = ["a", "b"] := by
  intro payload
  let banner : Banner := {
    raw := "device:\x00é:features=a,,b;x=\uFFFD"
    systemType := "device"
    serial := "\x00é"
    properties := [("features", "a,,b"), ("x", "\uFFFD")]
    features := ["a", "b"] }
  have read : parse payload = .ok banner := by rfl
  obtain ⟨again, -⟩ := parse_stable.2 payload banner read
  exact ⟨banner, read, (parse_stable.1 payload 2).trans read, rfl, again, rfl⟩

end DebugBridge.Banner
