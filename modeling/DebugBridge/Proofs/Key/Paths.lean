import DebugBridge.Key.Store
import DebugBridge.Proofs.Path

/-!
# Where the keys are

Settings without problems name two files, but not always two paths: the configured texts are
compared, and two texts may write one path, or the text for the public key may write the place
where the private key is by default. The public key beside the private one is always another path.
What is found at a path depends on its parts only, so keys at one path are one file, and then the
private key itself is what is offered to the device.
-/

namespace DebugBridge

namespace Files

/-- One part of a path further. -/
def Place.step : Place → Path.Part → Place
  | _, .root => .above
  | place, .here => place
  | place, .up => place.up
  | above, .name _ => above
  | inside names, .name chars => .inside (names ++ [chars])

/-- The place that a path writes. -/
def destination (path : String) : Place :=
  (Path.parts path).foldl Place.step (.inside [])

/-- A part that is not the parent goes one name further in. -/
theorem step_partOf (names : List (List Char)) {piece : List Char}
    (named : ¬Path.partOf piece = .up) :
    (Place.inside names).step (Path.partOf piece) = .inside (names ++ [piece]) := by
  unfold Path.partOf at named ⊢
  split
  · next dots =>
    rw [if_pos dots] at named
    contradiction
  · rfl

/-- Following pieces leads where their parts do, if it leads anywhere. -/
theorem follow_eq {files : Files} {pieces : List (List Char)} {place last : Place}
    (followed : files.follow pieces place = .ok last) :
    ((pieces.filter Path.isSolid).map Path.partOf).foldl Place.step place = last := by
  fun_induction follow files pieces place with
  | case1 => exact Except.ok.inj followed
  | case2 | case3 | case6 | case7 => contradiction
  | case4 piece rest place _ blank ih =>
    rw [List.filter_cons_of_neg (by simpa using blank)]
    exact ih followed
  | case5 piece rest place _ solid up ih =>
    rw [List.filter_cons_of_pos (by simpa using solid), List.map_cons, List.foldl_cons, up]
    exact ih followed
  | case8 piece rest solid named short names _ ih =>
    rw [List.filter_cons_of_pos (by simpa using solid), List.map_cons, List.foldl_cons,
      step_partOf names named]
    exact ih followed

/-- What stands in front of the parts tells whether a path begins at the root. -/
theorem foldl_front (path : String) :
    (Path.front (Path.pieces path)).foldl Place.step (.inside []) =
      if Path.isAbsolute path then .above else .inside [] := by
  cases absolute : Path.isAbsolute path with
  | true =>
    obtain ⟨second, rest, split⟩ := Path.isAbsolute_iff.mp absolute
    rw [split]
    rfl
  | false =>
    unfold Path.front
    split
    · next second rest split =>
      rw [Path.isAbsolute_iff.mpr ⟨second, rest, split⟩] at absolute
      contradiction
    · rfl
    · rfl

/-- A path that leads anywhere leads to the place that it writes. -/
theorem locate_eq {files : Files} {path : String} {place : Place}
    (located : files.locate path (Path.pieces path) = .ok place) : destination path = place := by
  rw [destination, Path.parts, List.foldl_append, foldl_front]
  unfold locate at located
  split at located
  · contradiction
  · split at located
    · contradiction
    · split at located
      · contradiction
      · exact follow_eq located

/-- What is found at a path is at the place that it writes. -/
theorem entry?_of_find {files : Files} {path : String} {entry : FileEntry}
    (found : files.find path = .ok entry) : files.entry? (destination path) = some entry := by
  unfold find at found
  cases located : files.locate path (Path.pieces path) with
  | error fault =>
    rw [located] at found
    contradiction
  | ok place =>
    rw [locate_eq located]
    simp only [located, bind, Except.bind] at found
    split at found
    · next same => exact same.trans (congrArg some (Except.ok.inj found))
    · contradiction

/-- Texts that write the same path lead to the same content. -/
theorem read_eq_of_same {files : Files} {path other : String} {content others : Bytes}
    (same : Path.Same path other) (read : files.read path = .ok content)
    (other_read : files.read other = .ok others) : content = others := by
  have entry {path : String} {content : Bytes} (read : files.read path = .ok content) :
      files.entry? (destination path) = some (.file content) := by
    unfold Files.read at read
    cases found : files.find path with
    | error fault =>
      rw [found] at read
      contradiction
    | ok entry =>
      rw [entry?_of_find found]
      simp only [found, bind, Except.bind] at read
      cases entry with
      | file inside => exact congrArg (some ∘ FileEntry.file) (Except.ok.inj read)
      | directory => contradiction
  have one := entry read
  rw [destination, same] at one
  have equal := one.symm.trans (entry other_read)
  simpa using equal

end Files

namespace KeyPair

variable {privateFile publicFile : String} {files : Files} {pair : KeyPair}

/-- With both files there, the pair offers what the public one holds. -/
theorem publicBytes_of_read (there : files.contains publicFile = true)
    (loaded : read privateFile (some publicFile) files = .ok pair) :
    ∃ content bytes, files.read privateFile = .ok content ∧ files.read publicFile = .ok bytes ∧
      pair.publicBytes = nulTerminated bytes := by
  have chosen : Option.filter (files.contains ·) (some publicFile) = some publicFile :=
    Option.filter_eq_some_iff.mpr ⟨rfl, there⟩
  unfold KeyPair.read at loaded
  rw [chosen] at loaded
  cases private_read : files.read privateFile with
  | error fault =>
    rw [private_read] at loaded
    contradiction
  | ok content =>
    simp only [private_read, bind, Except.bind] at loaded
    split at loaded
    · contradiction
    · split at loaded
      · contradiction
      · cases public_read : files.read publicFile with
        | error fault =>
          rw [public_read] at loaded
          contradiction
        | ok bytes =>
          rw [public_read] at loaded
          obtain rfl := Except.ok.inj loaded
          exact ⟨content, bytes, rfl, rfl, rfl⟩

end KeyPair

namespace KeySettings

variable {settings : KeySettings} {home : Option String} {privateFile publicFile : String}

/-- Settings are without problems if a private key path is not empty and differs from the one for
the public key, unless it is left to the default. -/
theorem problems_eq_nil_iff :
    settings.problems = [] ↔ settings.privateKeyPath ≠ some "" ∧
      (settings.privateKeyPath = none ∨ settings.privateKeyPath ≠ settings.publicKeyPath) := by
  simp [problems, SettingsProblem.when, Classical.or_iff_not_imp_left]

/-- The public key beside the private one is at another path. -/
theorem not_same_of_beside (beside : settings.publicKeyPath = none)
    (private_found : settings.privateKeyFile home = .ok privateFile)
    (public_found : settings.publicKeyFile home = .ok publicFile) :
    ¬Path.Same privateFile publicFile := by
  unfold publicKeyFile at public_found
  rw [beside, private_found] at public_found
  obtain rfl : privateFile ++ ".pub" = publicFile := Except.ok.inj public_found
  exact Path.not_same_append (by decide) (by decide) privateFile

/-- If both files are named and the private key is there, the pair is read from them and no key is
made. -/
theorem ofSettings_of_found {generate : String → String → Except Failure KeyPair} {files : Files}
    (private_found : settings.privateKeyFile home = .ok privateFile)
    (public_found : settings.publicKeyFile home = .ok publicFile)
    (there : files.contains privateFile = true) :
    KeyPair.ofSettings generate home files settings =
      KeyPair.read privateFile (some publicFile) files := by
  simp only [KeyPair.ofSettings, private_found, public_found, bind, Except.bind, there, if_true]

/-- A configured public key path is used as it is. -/
theorem publicKeyFile_of_some {path : String} (given : settings.publicKeyPath = some path)
    (public_found : settings.publicKeyFile home = .ok publicFile) : publicFile = path := by
  unfold publicKeyFile at public_found
  rw [given] at public_found
  exact (Except.ok.inj public_found).symm

/-- A configured private key path is used as it is. -/
theorem privateKeyFile_of_some {path : String} (given : settings.privateKeyPath = some path)
    (private_found : settings.privateKeyFile home = .ok privateFile) : privateFile = path := by
  unfold privateKeyFile at private_found
  rw [given] at private_found
  exact (Except.ok.inj private_found).symm

/-- Two configured texts that pass the check and are both plain write two paths. -/
theorem not_same_of_isPlain {path other : String} (valid : settings.problems = [])
    (private_given : settings.privateKeyPath = some path)
    (public_given : settings.publicKeyPath = some other) (first : Path.IsPlain path)
    (second : Path.IsPlain other) : ¬Path.Same path other := by
  intro same
  obtain ⟨-, none_given | differ⟩ := problems_eq_nil_iff.mp valid
  · rw [private_given] at none_given
    contradiction
  · rw [private_given, public_given, first.eq_of_same second same] at differ
    exact differ rfl

/-- **Where the keys differ.** The files that settings without problems name are at different paths
exactly if the text for the public key, if there is one, does not have the plain form of the
private one's. So they can be at one path only if the public key is configured, and either the
private one is not or one of the two texts is not plain; then, with a file there, what is offered
to the device as the public key is the private key. -/
theorem key_files_differ_iff (valid : settings.problems = [])
    (private_found : settings.privateKeyFile home = .ok privateFile)
    (public_found : settings.publicKeyFile home = .ok publicFile) :
    (¬Path.Same privateFile publicFile ↔
      settings.publicKeyPath.map Path.plain ≠ some (Path.plain privateFile)) ∧
    (Path.Same privateFile publicFile →
      ∃ path, settings.publicKeyPath = some path ∧
        (settings.privateKeyPath = none ∨ ¬Path.IsPlain privateFile ∨ ¬Path.IsPlain path) ∧
        ∀ generate files pair, files.contains privateFile = true → files.contains path = true →
          KeyPair.ofSettings generate home files settings = .ok pair →
          ∃ content, files.read privateFile = .ok content ∧
            pair.publicBytes = KeyPair.nulTerminated content) := by
  cases given : settings.publicKeyPath with
  | none =>
    have differ := not_same_of_beside given private_found public_found
    exact ⟨iff_of_true differ (Option.some_ne_none _).symm, fun same => absurd same differ⟩
  | some path =>
    obtain rfl := publicKeyFile_of_some given public_found
    constructor
    · rw [Path.same_iff, Option.map_some, Ne, Option.some.injEq, eq_comm]
    · intro same
      refine ⟨publicFile, rfl, ?_, ?_⟩
      · cases private_given : settings.privateKeyPath with
        | none => exact .inl rfl
        | some other =>
          obtain rfl := privateKeyFile_of_some private_given private_found
          refine .inr (Classical.not_and_iff_not_or_not.mp fun ⟨first, second⟩ => ?_)
          exact not_same_of_isPlain valid private_given given first second same
      · intro generate files pair there public_there loaded
        rw [ofSettings_of_found private_found public_found there] at loaded
        obtain ⟨content, bytes, private_read, public_read, offered⟩ :=
          KeyPair.publicBytes_of_read public_there loaded
        rw [← Files.read_eq_of_same same private_read public_read] at offered
        exact ⟨content, private_read, offered⟩

/-- The public key beside the default place of the private one, written with slashes that say
nothing. -/
theorem key_files_differ_beside_default :
    let settings : KeySettings := { publicKeyPath := some "/home/u//.android/adbkey.pub" }
    settings.problems = [] ∧
      settings.privateKeyFile (some "/home/u/") = .ok "/home/u/.android/adbkey" ∧
      settings.publicKeyFile (some "/home/u/") = .ok "/home/u//.android/adbkey.pub" ∧
      ¬Path.Same "/home/u/.android/adbkey" "/home/u//.android/adbkey.pub" := by
  intro settings
  have valid : settings.problems = [] := by decide
  have private_found :
      settings.privateKeyFile (some "/home/u/") = .ok "/home/u/.android/adbkey" := rfl
  have public_found :
      settings.publicKeyFile (some "/home/u/") = .ok "/home/u//.android/adbkey.pub" := rfl
  refine ⟨valid, private_found, public_found, ?_⟩
  exact (key_files_differ_iff valid private_found public_found).1.mpr (by decide)

/-- Two texts for one path, and the default place of the private key as that of the public one: the
check finds nothing wrong. -/
theorem key_files_same_without_problems :
    let slashes : KeySettings :=
      { privateKeyPath := some "/keys/adbkey", publicKeyPath := some "/keys//adbkey" }
    let default : KeySettings := { publicKeyPath := some "/home/u/.android/adbkey" }
    (slashes.problems = [] ∧ slashes.privateKeyFile none = .ok "/keys/adbkey" ∧
      slashes.publicKeyFile none = .ok "/keys//adbkey" ∧
      Path.Same "/keys/adbkey" "/keys//adbkey") ∧
    default.problems = [] ∧
      default.privateKeyFile (some "/home/u") = .ok "/home/u/.android/adbkey" ∧
      default.publicKeyFile (some "/home/u") = .ok "/home/u/.android/adbkey" := by
  intro slashes default
  exact ⟨⟨by decide, rfl, rfl, by decide⟩, by decide, rfl, rfl⟩

end KeySettings
end DebugBridge
