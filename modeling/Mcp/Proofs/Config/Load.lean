import Mcp.CommandLine.Options
import Mcp.Config.Load
import Mcp.Proofs.Json.Scalar
import Mcp.Proofs.Record
import Mcp.Proofs.Text.Utf8

/-!
Where each setting comes from. The command line takes precedence over the environment, and the
environment over the file; a timeout in the environment that is no number says nothing. A setting
comes to what the first of its sources gives (`FirstGiven`), and all settings that have no other
source than the file are as they stand there (`Settled`). Loading gives the only settings of which
this holds. Main statement: `load_takes_precedence`.
-/

namespace Mcp

/-! ### Numbers in decimal digits -/

namespace Yaml

theorem digit?_ten (c : Char) :
    digit? 10 c = if c.isDigit = true then some (c.toNat - 48) else none := by
  have range : c.isDigit = true ↔ '0' ≤ c ∧ c ≤ '9' := by simp [Char.isDigit, Char.le_def]
  simp only [range, digit?, Json.hexValue?]
  split
  case isTrue digit =>
    have small := (Json.digitChar_of_isDigit (range.mpr digit)).1
    rw [Option.bind_some, if_pos small]
  case isFalse =>
    -- a letter has a value of ten or more
    have above {letter : Char} (reached : letter ≤ c) : letter.toNat ≤ c.toNat := reached
    split
    case isTrue letter =>
      have : 97 ≤ c.toNat := above letter.1
      rw [Option.bind_some, if_neg (by omega)]
    case isFalse =>
      split
      case isTrue letter =>
        have : 65 ≤ c.toNat := above letter.1
        rw [Option.bind_some, if_neg (by omega)]
      case isFalse => rfl

/-- A number with digits put behind it, if there is one and they are digits. -/
def extend? (start : Option Nat) (ds : List Char) : Option Nat :=
  ds.foldl (fun n c => n.bind fun n => (digit? 10 c).map (n * 10 + ·)) start

theorem extend?_none (ds : List Char) : extend? none ds = none := by
  induction ds with
  | nil => rfl
  | cons c ds ih => exact ih

theorem extend?_eq_some_iff {start n : Nat} {ds : List Char} :
    extend? (some start) ds = some n ↔
      (∀ c ∈ ds, c.isDigit = true) ∧ Json.digitsValue ds start = n := by
  induction ds generalizing start with
  | nil => simp [extend?, Json.digitsValue]
  | cons c ds ih =>
    have step : extend? (some start) (c :: ds) =
        extend? ((digit? 10 c).map (start * 10 + ·)) ds := rfl
    rw [step, digit?_ten]
    split
    case isTrue digit =>
      rw [Option.map_some, ih, Json.digitsValue_cons]
      simp [digit]
    case isFalse other =>
      rw [Option.map_none, extend?_none]
      simp [other]

/-- A number is read from its digits behind any zeros, and from nothing else. -/
theorem digits?_ten_eq_some_iff {ds : List Char} {n : Nat} :
    digits? 10 ds = some n ↔ ∃ zeros, ds = List.replicate zeros '0' ++ Nat.toDigits 10 n := by
  have read : digits? 10 ds = some n ↔
      ds ≠ [] ∧ (∀ c ∈ ds, c.isDigit = true) ∧ Json.digitsValue ds 0 = n := by
    rw [← extend?_eq_some_iff, digits?]
    cases ds <;> simp [extend?]
  rw [read]
  constructor
  · rintro ⟨nonempty, digits, rfl⟩
    exact Json.eq_zeros_append_toDigits nonempty digits
  · rintro ⟨zeros, rfl⟩
    refine ⟨by simp [Nat.toDigits_ne_nil], fun _ => Json.isDigit_of_mem_zeros_append, ?_⟩
    rw [Json.digitsValue_zeros, Json.digitsValue_toDigits]

end Yaml

namespace Config

/-- A text writes a number of 64 bits: its decimal digits, behind any zeros, and behind one plus
sign at most. -/
structure Writes (text : String) (n : Nat) : Prop where
  form : ∃ sign zeros, (sign = "" ∨ sign = "+") ∧
    text = sign ++ String.ofList (List.replicate zeros '0') ++ toString n
  fits : n < 0x10000000000000000

theorem toList_written (sign : String) (zeros n : Nat) :
    (sign ++ String.ofList (List.replicate zeros '0') ++ toString n).toList =
      sign.toList ++ (List.replicate zeros '0' ++ Nat.toDigits 10 n) := by
  simp only [String.toList_append, String.toList_ofList, Nat.toString_eq_ofList_toDigits,
    List.append_assoc]

theorem seconds?_eq_some_iff {text : String} {n : Nat} :
    seconds? text = some n ↔ Writes text n := by
  rw [seconds?, Option.filter_eq_some_iff, decide_eq_true_eq, Yaml.digits?_ten_eq_some_iff]
  constructor
  · rintro ⟨⟨zeros, written⟩, fits⟩
    refine ⟨?_, fits⟩
    split at written
    case h_1 plus =>
      refine ⟨"+", zeros, .inr rfl, String.toList_inj.mp ?_⟩
      rw [toList_written, plus, written]
      rfl
    case h_2 =>
      refine ⟨"", zeros, .inl rfl, String.toList_inj.mp ?_⟩
      rw [toList_written, written]
      rfl
  · rintro ⟨⟨sign, zeros, plus, rfl⟩, fits⟩
    refine ⟨⟨zeros, ?_⟩, fits⟩
    rw [toList_written]
    rcases plus with rfl | rfl
    · split
      case h_1 plus =>
        have digit : '+'.isDigit = true :=
          Json.isDigit_of_mem_zeros_append (plus ▸ List.mem_cons_self)
        cases digit
      case h_2 => rfl
    · rfl

/-! ### Sources of a setting -/

/-- What a setting comes to, by its sources in the order of precedence: what the first of those
gives that give anything, and `last` if none does. A source is known by the values that it gives. -/
inductive FirstGiven {α : Type} (last : α) : List (α → Prop) → α → Prop
  | last : FirstGiven last [] last
  | here {gives : α → Prop} {rest : List (α → Prop)} {a : α} : gives a →
      FirstGiven last (gives :: rest) a
  | later {gives : α → Prop} {rest : List (α → Prop)} {a : α} : (∀ b, ¬ gives b) →
      FirstGiven last rest a → FirstGiven last (gives :: rest) a

section Sources

variable {α : Type} {last : α}

theorem firstGiven_nil_iff {a : α} : FirstGiven last [] a ↔ a = last := by
  constructor
  · intro given
    cases given
    rfl
  · rintro rfl
    exact .last

/-- A source that gives what an option holds, before sources by which a setting comes to a known
value. -/
theorem firstGiven_cons_iff {gives : α → Prop} {rest : List (α → Prop)} {given : Option α}
    {value : α} (known : ∀ a, gives a ↔ given = some a)
    (behind : ∀ {a}, FirstGiven last rest a ↔ a = value) {a : α} :
    FirstGiven last (gives :: rest) a ↔ a = given.getD value := by
  cases given with
  | none =>
    have nothing : ∀ b, ¬ gives b := fun b there => nomatch (known b).mp there
    rw [Option.getD_none, ← behind]
    constructor
    · rintro (_ | there | ⟨_, later⟩)
      · exact absurd there (nothing a)
      · exact later
    · exact .later nothing
  | some b =>
    have there : gives b := (known b).mpr rfl
    rw [Option.getD_some]
    constructor
    · rintro (_ | own | ⟨nothing, _⟩)
      · exact (Option.some.inj ((known a).mp own)).symm
      · exact absurd there (nothing b)
    · rintro rfl
      exact .here there

end Sources

/-! ### What settings come to -/

/-- A variable of the environment gives the number that its text writes. -/
def SetToNumber (environment : String → Option String) (name : String) (n : Nat) : Prop :=
  ∃ text, environment name = some text ∧ Writes text n

/-- The sources of the timeout of requests besides the file, those that take precedence first. -/
def requestSources (environment : String → Option String) (options : CommandLine.Options) :
    List (Nat → Prop) :=
  [(options.requestTimeout = some ·), SetToNumber environment "MCPLINK_REQUEST_TIMEOUT_SECONDS"]

def initializationSources (environment : String → Option String) : List (Nat → Prop) :=
  [SetToNumber environment "MCPLINK_INITIALIZATION_TIMEOUT_SECONDS"]

def levelSources (environment : String → Option String) (options : CommandLine.Options) :
    List (String → Prop) :=
  [(options.logLevel = some ·), fun level => options.verbose = true ∧ level = "debug",
    (environment "MCPLINK_LOG_LEVEL" = some ·)]

/-- Settings are those of a file but for the timeout of requests, that of the handshake, and the
level of what is logged. -/
structure SameElsewhere (file c : Config) : Prop where
  name : c.client.name = file.client.name
  version : c.client.version = file.client.version
  closeTimeout : c.client.closeTimeout = file.client.closeTimeout
  roots : c.client.roots = file.client.roots
  jsonFormat : c.logging.jsonFormat = file.logging.jsonFormat
  filePath : c.logging.filePath = file.logging.filePath
  servers : c.servers = file.servers

/-- What the settings of a file come to under variables of the environment and a command line. -/
structure Settled (file : Config) (environment : String → Option String)
    (options : CommandLine.Options) (c : Config) : Prop where
  requestTimeout : FirstGiven file.client.requestTimeout (requestSources environment options)
    c.client.requestTimeout
  initializationTimeout : FirstGiven file.client.initializationTimeout
    (initializationSources environment) c.client.initializationTimeout
  level : FirstGiven file.logging.level (levelSources environment options) c.logging.level
  elsewhere : SameElsewhere file c

/-- What a file says. A missing one says what is said by default; the bytes of one that is there
must be those of a text that settings can be read from. -/
inductive Holds : File → Config → Prop
  | missing : Holds .missing default
  | bytes {text : String} {n : Yaml.Node} {c : Config} : Yaml.Node.parse? extent text = some n →
      read n = .ok c → Holds (.bytes (Text.encode text)) c

theorem ofFile_eq_ok_iff {f : File} {c : Config} : ofFile f = .ok c ↔ Holds f c := by
  constructor
  · intro known
    cases f with
    | missing =>
      cases known
      exact .missing
    | unreadable => cases known
    | bytes content =>
      rw [ofFile] at known
      split at known
      case isTrue isText =>
        obtain ⟨text, rfl⟩ := Text.isText_iff.mp isText
        rw [Text.decodeText_encode] at known
        split at known
        case h_1 reads =>
          cases known
          obtain ⟨n, parsed, read⟩ := Option.map_eq_some_iff.mp reads
          exact .bytes parsed read
        case h_2 => cases known
      case isFalse => cases known
  · rintro (_ | ⟨parsed, read⟩)
    · rfl
    · rw [ofFile, if_pos (Text.isText_iff.mpr ⟨_, rfl⟩), Text.decodeText_encode, parsed,
        Option.map_some, read]

section Settled

variable {environment : String → Option String} {options : CommandLine.Options} {file c : Config}

theorem setToNumber_iff {name : String} (n : Nat) :
    SetToNumber environment name n ↔ (environment name).bind seconds? = some n := by
  simp only [SetToNumber, Option.bind_eq_some_iff, seconds?_eq_some_iff]

theorem requestTimeout_iff {last n : Nat} :
    FirstGiven last (requestSources environment options) n ↔ n = options.requestTimeout.getD
      (((environment "MCPLINK_REQUEST_TIMEOUT_SECONDS").bind seconds?).getD last) :=
  firstGiven_cons_iff (fun _ => Iff.rfl) (firstGiven_cons_iff setToNumber_iff firstGiven_nil_iff)

theorem initializationTimeout_iff {last n : Nat} :
    FirstGiven last (initializationSources environment) n ↔
      n = ((environment "MCPLINK_INITIALIZATION_TIMEOUT_SECONDS").bind seconds?).getD last :=
  firstGiven_cons_iff setToNumber_iff firstGiven_nil_iff

/-- What verbose output asks for, as an option. -/
theorem debug_iff {verbose : Bool} (level : String) : (verbose = true ∧ level = "debug") ↔
    (if verbose = true then some "debug" else none) = some level := by
  cases verbose with
  | false => simp
  | true => simp [eq_comm]

theorem level_iff {last level : String} :
    FirstGiven last (levelSources environment options) level ↔
      level = options.overrides.level ((environment "MCPLINK_LOG_LEVEL").getD last) := by
  have unfolded (fallback : String) : options.overrides.level fallback = options.logLevel.getD
      ((if options.verbose = true then some "debug" else none).getD fallback) := by
    rw [Overrides.level, CommandLine.Options.overrides]
    cases options.logLevel <;> cases options.verbose <;> rfl
  rw [unfolded]
  exact firstGiven_cons_iff (fun _ => Iff.rfl)
    (firstGiven_cons_iff debug_iff (firstGiven_cons_iff (fun _ => Iff.rfl) firstGiven_nil_iff))

/-- There are no other settings. -/
theorem SameElsewhere.eq {c' : Config} (one : SameElsewhere file c) (other : SameElsewhere file c')
    (request : c.client.requestTimeout = c'.client.requestTimeout)
    (initialization : c.client.initializationTimeout = c'.client.initializationTimeout)
    (level : c.logging.level = c'.logging.level) : c = c' := by
  obtain ⟨⟨_, _, _, _, _, _⟩, ⟨_, _, _⟩, _⟩ := c
  obtain ⟨⟨_, _, _, _, _, _⟩, ⟨_, _, _⟩, _⟩ := c'
  simp only [Config.mk.injEq, ClientSettings.mk.injEq, LogSettings.mk.injEq]
  exact ⟨⟨one.name.trans other.name.symm, one.version.trans other.version.symm, request,
    initialization, one.closeTimeout.trans other.closeTimeout.symm,
    one.roots.trans other.roots.symm⟩, ⟨level, one.jsonFormat.trans other.jsonFormat.symm,
    one.filePath.trans other.filePath.symm⟩, one.servers.trans other.servers.symm⟩

/-- Settings are settled as they are loaded, and in no other way. -/
theorem settled_iff : Settled file environment options c ↔
    c = withOverrides options.overrides (withEnvironment (.ofVariables environment) file) := by
  constructor
  · rintro ⟨request, initialization, level, elsewhere⟩
    exact elsewhere.eq ⟨rfl, rfl, rfl, rfl, rfl, rfl, rfl⟩ (requestTimeout_iff.mp request)
      (initializationTimeout_iff.mp initialization) (level_iff.mp level)
  · rintro rfl
    exact ⟨requestTimeout_iff.mpr rfl, initializationTimeout_iff.mpr rfl, level_iff.mpr rfl,
      ⟨rfl, rfl, rfl, rfl, rfl, rfl, rfl⟩⟩

end Settled

/-- Settings are loaded from every file that holds some, and come to what is settled. -/
theorem load_takes_precedence {f : File} {file : Config} (holds : Holds f file)
    (environment : String → Option String) (options : CommandLine.Options) :
    ∃ c, load f (.ofVariables environment) options.overrides = .ok c ∧
      ∀ c', Settled file environment options c' ↔ c' = c := by
  refine ⟨_, ?_, fun c' => settled_iff⟩
  rw [load, ofFile_eq_ok_iff.mpr holds]
  rfl

/-- A file that sets some settings, and has a server. -/
def partialFile : String :=
  "client:\n  request_timeout_seconds: 7\nlogging:\n  level: info\nservers:\n  files:\n" ++
    "    transport: stdio\n    command: cat\n"

def partialConfig : Config :=
  ⟨{ ClientSettings.default with requestTimeout := 7 },
    { LogSettings.default with level := "info" }, [("files", .stdio ⟨"cat", [], [], none, true⟩)]⟩

/-- Variables of which the first is no number. -/
def someVariables : String → Option String
  | "MCPLINK_REQUEST_TIMEOUT_SECONDS" => some "5s"
  | "MCPLINK_INITIALIZATION_TIMEOUT_SECONDS" => some "+010"
  | "MCPLINK_LOG_LEVEL" => some "trace"
  | _ => none

def verboseOptions : CommandLine.Options :=
  ⟨CommandLine.defaultConfig, true, false, none, none, none⟩

/-- The timeout of requests is the file's, that of the handshake the environment's, and the level
the command line's. -/
theorem load_takes_precedence_of_each : Holds (.bytes (Text.encode partialFile)) partialConfig ∧
    load (.bytes (Text.encode partialFile)) (.ofVariables someVariables) verboseOptions.overrides =
      .ok { partialConfig with
        client.initializationTimeout := 10
        logging.level := "debug" } := by
  have known : ((Yaml.Node.parse? extent partialFile).bind fun n => (read n).toOption) =
      some partialConfig := by decide +kernel
  obtain ⟨n, parsed, read⟩ := Option.bind_eq_some_iff.mp known
  have holds : Holds (.bytes (Text.encode partialFile)) partialConfig :=
    .bytes parsed (toOption_eq_some_iff.mp read)
  obtain ⟨c, loaded, only⟩ := load_takes_precedence holds someVariables verboseOptions
  have passedOver (n : Nat) : ¬ SetToNumber someVariables "MCPLINK_REQUEST_TIMEOUT_SECONDS" n := by
    have unread : (someVariables "MCPLINK_REQUEST_TIMEOUT_SECONDS").bind seconds? = none := by
      decide
    rw [setToNumber_iff, unread]
    exact nofun
  have ten : Writes "+010" 10 := ⟨⟨"+", 1, .inr rfl, by decide⟩, by decide⟩
  refine ⟨holds, ?_⟩
  rw [loaded, ← (only _).mp ?_]
  exact
    { requestTimeout := .later nofun (.later passedOver .last)
      initializationTimeout := .here ⟨"+010", rfl, ten⟩
      level := .later nofun (.here ⟨rfl, rfl⟩)
      elsewhere := ⟨rfl, rfl, rfl, rfl, rfl, rfl, rfl⟩ }

end Config

end Mcp
