/-
# What command lines mean

The pass over the arguments accepts the lists that spell settings, of which one at
most names a configuration, and the program then runs with all of them put over the
defaults in their order. Every value that is accepted is one that the program can
use.
-/

import PixelStatus.Core.Config.DurationGrammar
import PixelStatus.Host.CommandLine

namespace PixelStatus

/-! ## Numbers -/

variable {text : Bytes} {number : Nat}

/-- A positive number of 64 bits is read exactly from its texts. -/
theorem fromChars_eq_natCast (positive : 0 < number) :
    fromChars text = some (number : Int) ↔ NumberText 1 (2 ^ 63 - 1) text number := by
  rw [fromChars_eq_some]
  refine ⟨?_, ?_⟩
  · rintro ⟨range, ⟨digits, value⟩ | ⟨digits, -, -, value⟩⟩
    · exact ⟨digits, Int.ofNat_inj.mp value, positive, by omega⟩
    · omega
  · rintro ⟨digits, rfl, between⟩
    exact ⟨by omega, .inl ⟨digits, rfl⟩⟩

/-- A number of 32 bits is read exactly from its texts. -/
theorem fromCharsUnsigned_eq_some :
    fromCharsUnsigned text = some number ↔ NumberText 0 (2 ^ 32 - 1) text number := by
  rw [fromCharsUnsigned, Option.filter_eq_some_iff, digitsValue_eq_some, decide_eq_true_eq]
  refine ⟨?_, ?_⟩
  · rintro ⟨⟨digits, value⟩, small⟩
    exact ⟨digits, value, Nat.zero_le number, by omega⟩
  · rintro ⟨digits, value, -, small⟩
    exact ⟨⟨digits, value⟩, by omega⟩

/-- A text of a number in a range is one in a wider range. -/
theorem NumberText.weaken {low high low' high' : Nat} (spelled : NumberText low high text number)
    (above : low' ≤ number) (below : number ≤ high') : NumberText low' high' text number :=
  ⟨spelled.digits, spelled.value, above, below⟩

namespace CommandLine

/-- A bounded number is read exactly from its texts. -/
theorem readUnsigned_eq_some {high : Nat} (small : high < 2 ^ 32) :
    readUnsigned high text = some number ↔ NumberText 1 high text number := by
  unfold readUnsigned
  split
  next unread =>
    refine iff_of_false (nomatch ·) fun spelled => ?_
    have below := spelled.between.2
    have found := fromCharsUnsigned_eq_some.mpr (spelled.weaken (Nat.zero_le _) (by omega))
    rw [unread] at found
    cases found
  next read found =>
    have spelled := fromCharsUnsigned_eq_some.mp found
    split
    next outside =>
      refine iff_of_false (nomatch ·) fun other => ?_
      have same : number = read := other.value.trans spelled.value.symm
      have between := other.between
      omega
    next inside =>
      rw [Option.some.injEq]
      refine ⟨?_, ?_⟩
      · rintro rfl
        exact spelled.weaken (by omega) (by omega)
      · exact fun other => spelled.value.trans other.value.symm

/-- So is a setting that it makes. -/
theorem map_readUnsigned {high : Nat} (small : high < 2 ^ 32) {set : Nat → CommandLine}
    {next : CommandLine} : (readUnsigned high text).map set = some next ↔
      ∃ number, NumberText 1 high text number ∧ set number = next := by
  rw [Option.map_eq_some_iff]
  exact exists_congr fun number => and_congr_left fun _ => readUnsigned_eq_some small

/-! ## One setting -/

variable {options next : CommandLine} {setting : Setting} {option argument : Bytes}
  {read : CommandLine → Bytes → Option CommandLine} {set : CommandLine → CommandLine}

/-- A running time is read exactly from its texts. -/
theorem readRunFor_eq_some : readRunFor options text = some next ↔
    ∃ number, NumberText 1 (2 ^ 63 - 1) text number ∧
      Setting.apply options (.runFor number) = next := by
  unfold readRunFor
  refine ⟨?_, ?_⟩
  · intro reads
    split at reads
    · cases reads
    next milliseconds found =>
      obtain ⟨positive, same⟩ := Option.ite_none_left_eq_some.mp reads
      lift milliseconds to Nat using by omega
      exact ⟨milliseconds, (fromChars_eq_natCast (by omega)).mp found, Option.some.inj same⟩
  · rintro ⟨number, spelled, rfl⟩
    have positive := spelled.between.1
    rw [(fromChars_eq_natCast positive).mpr spelled]
    exact if_neg (by omega)

/-- So is a refresh interval. -/
theorem readWebRefresh_eq_some : readWebRefresh options text = some next ↔
    ∃ number, NumberText 16 300000 text number ∧
      Setting.apply options (.webRefresh number) = next := by
  unfold readWebRefresh
  refine ⟨?_, ?_⟩
  · intro reads
    split at reads
    · cases reads
    next milliseconds found =>
      obtain ⟨inside, same⟩ := Option.ite_none_left_eq_some.mp reads
      lift milliseconds to Nat using by omega
      have spelled := (fromChars_eq_natCast (by omega)).mp found
      exact ⟨milliseconds, spelled.weaken (by omega) (by omega), Option.some.inj same⟩
  · rintro ⟨number, spelled, rfl⟩
    obtain ⟨low, high⟩ := spelled.between
    have positive : NumberText 1 (2 ^ 63 - 1) text number :=
      spelled.weaken (by omega) (by omega)
    rw [(fromChars_eq_natCast (by omega)).mpr positive]
    exact if_neg (by omega)

/-- Any text that is not empty is a token. -/
theorem readApiToken_eq_some : readApiToken options text = some next ↔
    text ≠ [] ∧ Setting.apply options (.apiToken text) = next := by
  rw [readApiToken, Option.ite_none_left_eq_some, Option.some.injEq]
  rfl

/-- Any text that is not empty is an address. -/
theorem readWebDisplayBind_eq_some : readWebDisplayBind options text = some next ↔
    text ≠ [] ∧ Setting.apply options (.webDisplayBind text) = next := by
  rw [readWebDisplayBind, Option.ite_none_left_eq_some, Option.some.injEq]
  rfl

/-- What spells a setting is read so. -/
theorem read_of_valueText (spelled : setting.ValueText option text) (options : CommandLine) :
    ∃ read, valueReader option = some read ∧
      read options text = some (setting.apply options) ∧ setting.isPath = false := by
  cases spelled with
  | runFor spelled => exact ⟨_, rfl, readRunFor_eq_some.mpr ⟨_, spelled, rfl⟩, rfl⟩
  | apiPort spelled => exact ⟨_, rfl, (map_readUnsigned (by decide)).mpr ⟨_, spelled, rfl⟩, rfl⟩
  | apiToken nonempty => exact ⟨_, rfl, readApiToken_eq_some.mpr ⟨nonempty, rfl⟩, rfl⟩
  | webDisplayPort spelled =>
      exact ⟨_, rfl, (map_readUnsigned (by decide)).mpr ⟨_, spelled, rfl⟩, rfl⟩
  | webDisplayBind nonempty => exact ⟨_, rfl, readWebDisplayBind_eq_some.mpr ⟨nonempty, rfl⟩, rfl⟩
  | webRefresh spelled => exact ⟨_, rfl, readWebRefresh_eq_some.mpr ⟨_, spelled, rfl⟩, rfl⟩
  | monitorWorkers spelled =>
      exact ⟨_, rfl, (map_readUnsigned (by decide)).mpr ⟨_, spelled, rfl⟩, rfl⟩

/-- What is read spells a setting. -/
theorem valueText_of_read (found : valueReader option = some read)
    (reads : read options text = some next) :
    ∃ setting : Setting, setting.ValueText option text ∧ setting.apply options = next ∧
      setting.isPath = false := by
  unfold valueReader at found
  split at found
  next named =>
    cases found
    subst named
    obtain ⟨number, spelled, same⟩ := readRunFor_eq_some.mp reads
    exact ⟨_, .runFor spelled, same, rfl⟩
  split at found
  next named =>
    cases found
    subst named
    obtain ⟨port, spelled, same⟩ := (map_readUnsigned (by decide)).mp reads
    exact ⟨_, .apiPort spelled, same, rfl⟩
  split at found
  next named =>
    cases found
    subst named
    obtain ⟨nonempty, same⟩ := readApiToken_eq_some.mp reads
    exact ⟨_, .apiToken nonempty, same, rfl⟩
  split at found
  next named =>
    cases found
    subst named
    obtain ⟨port, spelled, same⟩ := (map_readUnsigned (by decide)).mp reads
    exact ⟨_, .webDisplayPort spelled, same, rfl⟩
  split at found
  next named =>
    cases found
    subst named
    obtain ⟨nonempty, same⟩ := readWebDisplayBind_eq_some.mp reads
    exact ⟨_, .webDisplayBind nonempty, same, rfl⟩
  split at found
  next named =>
    cases found
    subst named
    obtain ⟨number, spelled, same⟩ := readWebRefresh_eq_some.mp reads
    exact ⟨_, .webRefresh spelled, same, rfl⟩
  split at found
  next named =>
    cases found
    subst named
    obtain ⟨count, spelled, same⟩ := (map_readUnsigned (by decide)).mp reads
    exact ⟨_, .monitorWorkers spelled, same, rfl⟩
  · cases found

/-- A flag is no option that takes a value. -/
theorem flag_of_wordText (spelled : setting.WordText argument) (flagged : setting.isPath = false) :
    valueReader argument = none ∧ flag argument = some fun options => setting.apply options := by
  cases spelled with
  | noApi | noWebDisplay | noWindow => exact ⟨rfl, rfl⟩
  | configPath plain => cases flagged

/-- A flag spells its setting. -/
theorem wordText_of_flag (found : flag argument = some set) :
    ∃ setting : Setting, setting.WordText argument ∧ (∀ options, setting.apply options = set options) ∧
      setting.isPath = false := by
  unfold flag at found
  split at found
  next named =>
    cases found
    subst named
    exact ⟨_, .noApi, fun _ => rfl, rfl⟩
  split at found
  next named =>
    cases found
    subst named
    exact ⟨_, .noWebDisplay, fun _ => rfl, rfl⟩
  split at found
  next named =>
    cases found
    subst named
    exact ⟨_, .noWindow, fun _ => rfl, rfl⟩
  · cases found

/-- An option begins with a minus sign. -/
theorem dash_of_valueReader (found : valueReader option = some read) :
    option.head? = some 0x2D := by
  unfold valueReader at found
  repeat
    split at found
    next named => exact named ▸ rfl
  cases found

/-- So does a flag. -/
theorem dash_of_flag (found : flag argument = some set) : argument.head? = some 0x2D := by
  unfold flag at found
  repeat
    split at found
    next named => exact named ▸ rfl
  cases found

/-- Every option begins with a minus sign, so a path is none. -/
theorem path_of_plain (plain : argument.head? ≠ some 0x2D) :
    valueReader argument = none ∧ flag argument = none := by
  refine ⟨?_, ?_⟩
  · rw [Option.eq_none_iff_forall_ne_some]
    exact fun read found => plain (dash_of_valueReader found)
  · rw [Option.eq_none_iff_forall_ne_some]
    exact fun set found => plain (dash_of_flag found)

/-! ## The pass reads the language -/

variable {arguments : List Bytes} {settings : List Setting} {configWasSet : Bool}

/-- One path at most, counting one that was read before. -/
def OnePath (configWasSet : Bool) (settings : List Setting) : Prop :=
  configWasSet.toNat + settings.countP Setting.isPath ≤ 1

/-- A setting other than a path leaves the path open. -/
theorem onePath_cons_of_other (other : setting.isPath = false) :
    OnePath configWasSet (setting :: settings) ↔ OnePath configWasSet settings := by
  rw [OnePath, OnePath, List.countP_cons_of_neg (by simp [other])]

/-- A path may only be set once. -/
theorem onePath_cons_of_path (path : setting.isPath = true) :
    OnePath configWasSet (setting :: settings) ↔ configWasSet = false ∧ OnePath true settings := by
  rw [OnePath, OnePath, List.countP_cons_of_pos path]
  cases configWasSet
  · simp [Nat.add_comm]
  · simp

/-- A list that spells settings is accepted with them. -/
theorem parseArguments_of_text (spelled : CommandLineText arguments settings)
    (one : OnePath configWasSet settings) (options : CommandLine) :
    parseArguments arguments options configWasSet = some (settings.foldl Setting.apply options) := by
  induction spelled generalizing options configWasSet with
  | done => rfl
  | value spelled behind ih =>
      obtain ⟨read, found, reads, other⟩ := read_of_valueText spelled options
      rw [parseArguments, found]
      dsimp only
      rw [reads]
      exact ih ((onePath_cons_of_other other).mp one) _
  | @word setting argument rest settings spelled behind ih =>
      cases path : setting.isPath with
      | false =>
          obtain ⟨single, found⟩ := flag_of_wordText spelled path
          rw [parseArguments, single]
          dsimp only
          rw [found]
          exact ih ((onePath_cons_of_other path).mp one) _
      | true =>
          obtain ⟨unset, later⟩ := (onePath_cons_of_path path).mp one
          cases spelled with
          | noApi | noWebDisplay | noWindow => cases path
          | configPath plain =>
              obtain ⟨single, word⟩ := path_of_plain plain
              rw [parseArguments, single]
              dsimp only
              rw [word, unset, Bool.false_or]
              exact (if_neg (by simpa using plain)).trans (ih later _)

/-- Every list that is accepted spells settings. -/
theorem text_of_parseArguments {result : CommandLine}
    (accepted : parseArguments arguments options configWasSet = some result) :
    ∃ settings, CommandLineText arguments settings ∧ OnePath configWasSet settings ∧
      settings.foldl Setting.apply options = result := by
  induction arguments, options, configWasSet using parseArguments.induct with
  | case1 options configWasSet =>
      exact ⟨[], .done, Bool.toNat_le configWasSet, Option.some.inj accepted⟩
  | case2 argument options configWasSet read found =>
      rw [parseArguments, found] at accepted
      cases accepted
  | case3 argument options configWasSet read found value rest unread =>
      rw [parseArguments, found] at accepted
      dsimp only at accepted
      rw [unread] at accepted
      cases accepted
  | case4 argument options configWasSet read found value rest next reads ih =>
      rw [parseArguments, found] at accepted
      dsimp only at accepted
      rw [reads] at accepted
      obtain ⟨settings, behind, one, same⟩ := ih accepted
      obtain ⟨setting, spelled, rfl, other⟩ := valueText_of_read found reads
      exact ⟨_, .value spelled behind, (onePath_cons_of_other other).mpr one, same⟩
  | case5 argument rest options configWasSet single set found ih =>
      rw [parseArguments, single] at accepted
      dsimp only at accepted
      rw [found] at accepted
      obtain ⟨settings, behind, one, same⟩ := ih accepted
      obtain ⟨setting, spelled, sets, other⟩ := wordText_of_flag found
      refine ⟨_, .word spelled behind, (onePath_cons_of_other other).mpr one, ?_⟩
      rw [List.foldl_cons, sets]
      exact same
  | case6 argument rest options configWasSet single word refused =>
      rw [parseArguments, single] at accepted
      dsimp only at accepted
      rw [word] at accepted
      dsimp only at accepted
      rw [if_pos refused] at accepted
      cases accepted
  | case7 argument rest options configWasSet single word taken ih =>
      rw [parseArguments, single] at accepted
      dsimp only at accepted
      rw [word] at accepted
      dsimp only at accepted
      rw [if_neg taken] at accepted
      obtain ⟨settings, behind, one, same⟩ := ih accepted
      simp only [Bool.or_eq_true, decide_eq_true_eq, not_or, Bool.not_eq_true] at taken
      exact ⟨_, .word (.configPath taken.2) behind, (onePath_cons_of_path rfl).mpr ⟨taken.1, one⟩,
        same⟩

/-! ## What an accepted command line says -/

/-- Every value is one that the program can use. -/
structure Valid (platform : Platform) (options : CommandLine) : Prop where
  runFor : ∀ milliseconds ∈ options.runFor, 1 ≤ milliseconds ∧ milliseconds < 2 ^ 63
  apiPort : options.apiPort ≠ 0
  apiToken : ∀ token ∈ options.apiToken, token ≠ []
  webDisplayBind : options.webDisplayBind ≠ []
  webDisplayPort : options.webDisplayPort ≠ 0
  webRefreshInterval : minimumRefreshInterval ≤ options.webRefreshInterval ∧
    options.webRefreshInterval ≤ maximumRefreshInterval
  monitorWorkerCount : 1 ≤ options.monitorWorkerCount ∧
    options.monitorWorkerCount ≤ Host.maximumMonitorWorkerCount
  windowEnabled : platform = .linux → options.windowEnabled = false

variable {platform : Platform}

/-- The defaults are valid. -/
theorem valid_default (defaultConfigPath : Bytes) :
    (defaultCommandLine platform defaultConfigPath).Valid platform where
  runFor _ := (nomatch ·)
  apiPort := (by decide : (8787 : UInt16) ≠ 0)
  apiToken _ := (nomatch ·)
  webDisplayBind := (by decide : bytes "127.0.0.1" ≠ [])
  webDisplayPort := (by decide : (8788 : UInt16) ≠ 0)
  webRefreshInterval := (by decide : (16 : Duration) ≤ 100 ∧ (100 : Duration) ≤ 5 * 60 * 1000)
  monitorWorkerCount := (by decide : 1 ≤ 2 ∧ 2 ≤ 8)
  windowEnabled := by
    rintro rfl
    rfl

/-- A port that is spelled is not zero. -/
theorem port_ne_zero (spelled : NumberText 1 65535 text number) : UInt16.ofNat number ≠ 0 := by
  have between := spelled.between
  intro zero
  have same := congrArg UInt16.toNat zero
  rw [UInt16.toNat_ofNat_of_lt' (by change number < 65536; omega)] at same
  change number = 0 at same
  omega

/-- An option with a value keeps the options valid. -/
theorem Valid.value (valid : options.Valid platform) (spelled : setting.ValueText option text) :
    (setting.apply options).Valid platform := by
  cases spelled with
  | @runFor text number spelled =>
      have between := spelled.between
      have small : (number : Int) < 2 ^ 63 := by omega
      exact { valid with
        runFor := by
          rintro milliseconds ⟨⟩
          exact ⟨Int.ofNat_le.mpr between.1, small⟩ }
  | apiPort spelled => exact { valid with apiPort := port_ne_zero spelled }
  | apiToken nonempty =>
      exact { valid with
        apiToken := by
          rintro token ⟨⟩
          exact nonempty }
  | webDisplayPort spelled => exact { valid with webDisplayPort := port_ne_zero spelled }
  | webDisplayBind nonempty => exact { valid with webDisplayBind := nonempty }
  | webRefresh spelled =>
      have between := spelled.between
      exact { valid with
        webRefreshInterval := ⟨Int.ofNat_le.mpr between.1, Int.ofNat_le.mpr between.2⟩ }
  | monitorWorkers spelled => exact { valid with monitorWorkerCount := spelled.between }

/-- So does a flag or a path. -/
theorem Valid.word (valid : options.Valid platform) (spelled : setting.WordText argument) :
    (setting.apply options).Valid platform := by
  cases spelled with
  | noApi | noWebDisplay | configPath => exact { valid with }
  | noWindow => exact { valid with windowEnabled := fun _ => rfl }

/-- So do all settings, one after the other. -/
theorem Valid.foldl (valid : options.Valid platform) (spelled : CommandLineText arguments settings) :
    (settings.foldl Setting.apply options).Valid platform := by
  induction spelled generalizing options with
  | done => exact valid
  | value spelled _ ih => exact ih (valid.value spelled)
  | word spelled _ ih => exact ih (valid.word spelled)

end CommandLine

/-- An argument list is accepted when it spells settings of which one at most is a path,
and means these settings put over the defaults in their order. -/
theorem parseCommandLine_eq_some {platform : Platform} {defaultConfigPath : Bytes}
    {arguments : List Bytes} {options : CommandLine} :
    parseCommandLine platform defaultConfigPath arguments = some options ↔
      ∃ settings, CommandLineText arguments settings ∧ settings.countP Setting.isPath ≤ 1 ∧
        settings.foldl Setting.apply (defaultCommandLine platform defaultConfigPath) = options := by
  have count (settings : List Setting) :
      CommandLine.OnePath false settings ↔ settings.countP Setting.isPath ≤ 1 := by
    rw [CommandLine.OnePath, Bool.toNat_false, Nat.zero_add]
  refine ⟨?_, ?_⟩
  · intro accepted
    obtain ⟨settings, spelled, one, same⟩ := CommandLine.text_of_parseArguments accepted
    exact ⟨settings, spelled, (count settings).mp one, same⟩
  · rintro ⟨settings, spelled, one, rfl⟩
    exact CommandLine.parseArguments_of_text spelled ((count settings).mpr one) _

/-- The options that are returned are valid. -/
theorem CommandLine.valid_of_parseCommandLine {platform : Platform} {defaultConfigPath : Bytes}
    {arguments : List Bytes} {options : CommandLine}
    (accepted : parseCommandLine platform defaultConfigPath arguments = some options) :
    options.Valid platform := by
  obtain ⟨settings, spelled, -, rfl⟩ := CommandLine.text_of_parseArguments accepted
  exact (CommandLine.valid_default defaultConfigPath).foldl spelled

end PixelStatus
