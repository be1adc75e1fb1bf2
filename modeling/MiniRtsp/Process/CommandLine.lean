import MiniRtsp.Common.Log
import MiniRtsp.Isp.IspControl
import MiniRtsp.Rtsp.CseqEcho
import MiniRtsp.Rtsp.Server

/-!
# The command line

The option loop of `main.c` over what `getopt_long` returns. Numbers are read with `strtol`, whatever the width of a
`long` is; exactly the texts of a grammar are accepted (`Numeral`, `parsePort_iff`, `parseNonnegativeInt_iff`). A command
line that is accepted leaves the last value given for each setting, and a configuration that the server does not refuse
(`parseOptions_accepts`).
-/

namespace MiniRtsp.Process

open Text Log Rtsp Isp

/-! ## Numbers -/

/-- What `strtol` returns, where it stops, and whether it sets `errno`. -/
structure Strtol where
  value : Int
  stop : Bytes
  erange : Bool

/-- `strtol(text, &end, 10)` for a `long` with the largest value `longMax`. -/
def strtol (longMax : Nat) (text : Bytes) : Strtol :=
  match scanInt text with
  | none => ⟨0, text, false⟩
  | some (value, stop) =>
    if value > longMax then ⟨longMax, stop, true⟩
    else if value < -(longMax : Int) - 1 then ⟨-(longMax : Int) - 1, stop, true⟩
    else ⟨value, stop, false⟩

def intMax : Int := 2147483647

/-- The number that a text consists of, if it is between two bounds. -/
def parseBetween (low high : Int) (longMax : Nat) (text : Bytes) : Option Int :=
  if text = [] then none
  else
    let read := strtol longMax text
    if read.erange ∨ read.stop = text ∨ read.stop ≠ [] ∨ read.value < low ∨ read.value > high ∨ read.value > intMax then
      none
    else some read.value

/-- `parse_port`. -/
def parsePort : Nat → Bytes → Option Int := parseBetween 1 65535

/-- `parse_nonnegative_int`. -/
def parseNonnegativeInt : Nat → Bytes → Option Int := parseBetween 0 intMax

/-- Blanks, a sign or none, and digits. -/
def Numeral (text : Bytes) (value : Int) : Prop :=
  ∃ blanks sign digits : Bytes, text = blanks ++ sign ++ digits ∧ (∀ b ∈ blanks, isSpace b = true) ∧ digits ≠ [] ∧
    digits.all isDigit = true ∧
    (sign = ascii "-" ∧ value = -(digitsValue digits : Int) ∨ (sign = [] ∨ sign = ascii "+") ∧ value = digitsValue digits)

/-- Digits are taken whole. -/
theorem digits_whole {digits : Bytes} (hdigits : digits.all isDigit = true) :
    digits.takeWhile isDigit = digits ∧ digits.dropWhile isDigit = [] :=
  have hall := List.all_eq_true.mp hdigits
  ⟨List.takeWhile_eq_self_iff.mpr hall, List.dropWhile_eq_nil_iff.mpr hall⟩

theorem digits_of_rest {text : Bytes} (h : text.dropWhile isDigit = []) :
    text.takeWhile isDigit = text ∧ text.all isDigit = true :=
  have hall := List.dropWhile_eq_nil_iff.mp h
  ⟨List.takeWhile_eq_self_iff.mpr hall, List.all_eq_true.mpr hall⟩

/-- **What `strtol` takes whole** is a numeral. -/
theorem scanInt_all_iff (text : Bytes) (value : Int) : scanInt text = some (value, []) ↔ Numeral text value := by
  constructor
  · intro h
    have htext : text = text.takeWhile isSpace ++ text.dropWhile isSpace := List.takeWhile_append_dropWhile.symm
    have hblanks : ∀ b ∈ text.takeWhile isSpace, isSpace b = true := fun b hb => List.mem_takeWhile_imp hb
    unfold scanInt at h
    generalize text.takeWhile isSpace = blanks at htext hblanks
    generalize text.dropWhile isSpace = rest at h htext
    dsimp only at h
    split at h
    · rename_i r
      split at h
      · cases h
      · rename_i hne
        simp only [if_true, Option.some.injEq, Prod.mk.injEq] at h
        obtain ⟨hwhole, hall⟩ := digits_of_rest h.2
        rw [hwhole] at h hne
        exact ⟨blanks, ascii "-", r, by simp [htext, ascii], hblanks, hne, hall, .inl ⟨rfl, h.1.symm⟩⟩
    · rename_i r
      split at h
      · cases h
      · rename_i hne
        simp only [Bool.false_eq_true, if_false, Option.some.injEq, Prod.mk.injEq] at h
        obtain ⟨hwhole, hall⟩ := digits_of_rest h.2
        rw [hwhole] at h hne
        exact ⟨blanks, ascii "+", r, by simp [htext, ascii], hblanks, hne, hall, .inr ⟨.inr rfl, h.1.symm⟩⟩
    · split at h
      · cases h
      · rename_i hne
        simp only [Bool.false_eq_true, if_false, Option.some.injEq, Prod.mk.injEq] at h
        obtain ⟨hwhole, hall⟩ := digits_of_rest h.2
        rw [hwhole] at h hne
        exact ⟨blanks, [], rest, by simp [htext], hblanks, hne, hall, .inr ⟨.inl rfl, h.1.symm⟩⟩
  · rintro ⟨blanks, sign, digits, rfl, hblanks, hne, hall, hsign⟩
    obtain ⟨htake, hdrop⟩ := digits_whole hall
    have hskip : ∀ b rest, sign ++ digits = b :: rest → isSpace b = false →
        (blanks ++ sign ++ digits).dropWhile isSpace = sign ++ digits := by
      intro b rest heq hb
      rw [List.append_assoc, List.dropWhile_append_of_pos hblanks, heq, List.dropWhile_cons_of_neg (by simp [hb])]
    rcases hsign with ⟨rfl, rfl⟩ | ⟨rfl | rfl, rfl⟩
    · unfold scanInt
      rw [hskip 0x2d digits rfl rfl]
      simp [ascii, htake, hdrop, hne]
    · obtain ⟨d, ds, rfl⟩ := List.exists_cons_of_ne_nil hne
      obtain ⟨hspace, hminus, hplus⟩ := isDigit_unsigned d (List.all_eq_true.mp hall d (by simp))
      rw [scanInt_unsigned (hskip d ds rfl hspace) hminus hplus (by rw [htake]; exact hne), htake, hdrop]
    · unfold scanInt
      rw [hskip 0x2b digits rfl rfl]
      simp [ascii, htake, hdrop, hne]

/-- `strtol` stops at the end of a text that it has read, without an error. -/
theorem strtol_whole_iff {longMax : Nat} {text : Bytes} {value : Int} (hlow : -(longMax : Int) - 1 ≤ value)
    (hhigh : value ≤ longMax) :
    ((strtol longMax text).erange = false ∧ (strtol longMax text).stop ≠ text ∧ (strtol longMax text).stop = [] ∧
      (strtol longMax text).value = value) ↔ Numeral text value := by
  rw [← scanInt_all_iff]
  unfold strtol
  cases hscan : scanInt text with
  | none =>
    simp only [reduceCtorEq, iff_false]
    exact fun h => h.2.1 rfl
  | some r =>
    obtain ⟨v, stop⟩ := r
    have hread : stop = [] → stop ≠ text := by
      rintro rfl rfl
      cases hscan
    dsimp only
    split
    · simp only [reduceCtorEq, false_and, Option.some.injEq, Prod.mk.injEq, false_iff, not_and]
      omega
    · split
      · simp only [reduceCtorEq, false_and, Option.some.injEq, Prod.mk.injEq, false_iff, not_and]
        omega
      · simp only [true_and, Option.some.injEq, Prod.mk.injEq]
        exact ⟨fun ⟨_, hstop, hv⟩ => ⟨hv, hstop⟩, fun ⟨hv, hstop⟩ => ⟨hread hstop, hstop, hv⟩⟩

theorem numeral_nonempty {text : Bytes} {value : Int} (h : Numeral text value) : text ≠ [] := by
  obtain ⟨blanks, sign, digits, rfl, -, hne, -⟩ := h
  simp [hne]

theorem parseBetween_iff {low high : Int} {longMax : Nat} (hlow : -(longMax : Int) - 1 ≤ low) (hhigh : high ≤ intMax)
    (hlong : intMax ≤ longMax) (text : Bytes) (value : Int) :
    parseBetween low high longMax text = some value ↔ Numeral text value ∧ low ≤ value ∧ value ≤ high := by
  unfold parseBetween
  constructor
  · intro h
    split at h
    · cases h
    · dsimp only at h
      split at h
      · cases h
      · rename_i hne hok
        simp only [not_or, not_lt, Decidable.not_not, Bool.not_eq_true] at hok
        obtain ⟨herange, hstop, hend, hmin, hmax, -⟩ := hok
        obtain rfl := Option.some.inj h
        exact ⟨(strtol_whole_iff (by omega) (by omega)).mp ⟨herange, hstop, hend, rfl⟩, hmin, by omega⟩
  · rintro ⟨hnumeral, hmin, hmax⟩
    have hlowest : -(longMax : Int) - 1 ≤ value := by omega
    obtain ⟨herange, hstop, hend, hvalue⟩ := (strtol_whole_iff hlowest (by omega)).mpr hnumeral
    rw [if_neg (numeral_nonempty hnumeral), if_neg, hvalue]
    rw [hvalue, herange, hend]
    simp only [Bool.false_eq_true, ne_eq, not_true_eq_false, false_or, not_or, not_lt]
    exact ⟨fun h => hstop (hend.trans h), by omega, by omega, by omega⟩

/-! ## Options -/

/-- What `getopt_long` returns, with `optarg` where the option has an argument. -/
inductive CliOption where
  | port (optarg : Bytes)
  | device (optarg : Bytes)
  | record (optarg : Bytes)
  | noRecord
  | logLevel (optarg : Bytes)
  | iqDir (optarg : Bytes)
  | cameraId (optarg : Bytes)
  | warmupFrames (optarg : Bytes)
  | noAiq
  | help
  | version
  /-- An unknown option, or one without its argument. -/
  | unknown

/-- The locals of `main` that the options set. -/
structure Settings where
  port : Int
  devicePath : Bytes
  warmupFrameCount : Int
  cameraId : Int
  iqDir : Bytes
  logLevel : LogLevel
  recordPath : Option Bytes
  aiqEnabled : Bool

def defaults : Settings :=
  { port := 8554, devicePath := ascii "/dev/video11", warmupFrameCount := 30, cameraId := 0
    iqDir := ascii "/oem/usr/share/iqfiles", logLevel := .info, recordPath := some (ascii "/root/live_record.mp4")
    aiqEnabled := true }

/-- Why `main` returns before anything has been started. -/
inductive Quit where
  /-- `EXIT_FAILURE` behind a message to `stderr`. -/
  | failure (message : Bytes)
  /-- `print_usage` to `stdout` and `EXIT_SUCCESS`, or to `stderr` behind a message, and `EXIT_FAILURE`. -/
  | help
  | usage (message : Bytes)
  | version
  deriving DecidableEq

/-- A path that must not be empty. -/
def checkPath (message : String) (path : Bytes) : Except Quit Bytes :=
  if path = [] then .error (.failure (ascii message)) else .ok path

/-- A value that must be there. -/
def checkValue {α : Type} (message : String) (optarg : Bytes) : Option α → Except Quit α
  | none => .error (.failure (ascii message ++ optarg ++ ascii "\n"))
  | some value => .ok value

/-- `switch (option)` in `main`. -/
def takeOption (longMax : Nat) (s : Settings) : CliOption → Except Quit Settings
  | .port optarg =>
    (checkValue "invalid RTSP port: " optarg (parsePort longMax optarg)).map fun v => { s with port := v }
  | .device optarg => (checkPath "camera device path cannot be empty\n" optarg).map fun p => { s with devicePath := p }
  | .record optarg => (checkPath "record path cannot be empty\n" optarg).map fun p => { s with recordPath := some p }
  | .noRecord => .ok { s with recordPath := none }
  | .logLevel optarg =>
    (checkValue "invalid log level: " optarg (logLevelParse optarg)).map fun v => { s with logLevel := v }
  | .iqDir optarg => (checkPath "IQ directory cannot be empty\n" optarg).map fun p => { s with iqDir := p }
  | .cameraId optarg =>
    (checkValue "invalid camera id: " optarg (parseNonnegativeInt longMax optarg)).map fun v => { s with cameraId := v }
  | .warmupFrames optarg =>
    (checkValue "invalid warmup frame count: " optarg (parseNonnegativeInt longMax optarg)).map
      fun v => { s with warmupFrameCount := v }
  | .noAiq => .ok { s with aiqEnabled := false }
  | .help => .error .help
  | .version => .error .version
  | .unknown => .error (.usage [])

/-- The option loop, and the test behind it: `positional` is `argv[optind]` if there is one. -/
def parseOptions (longMax : Nat) (options : List CliOption) (positional : Option Bytes) : Except Quit Settings :=
  match options.foldlM (takeOption longMax) defaults with
  | .error quit => .error quit
  | .ok s =>
    match positional with
    | some arg => .error (.usage (ascii "unexpected positional argument: " ++ arg ++ ascii "\n"))
    | none => .ok s

/-- What `main` gives the server. -/
def Settings.serverConfig (s : Settings) : RTSPServerConfig :=
  { port := s.port, devicePath := some s.devicePath, recordPath := s.recordPath
    warmupFrameCount := s.warmupFrameCount, stopFlag := true, stopFd := true }

/-- What `main` gives RKAIQ. -/
def Settings.ispConfig (s : Settings) : IspConfig :=
  { cameraId := s.cameraId, iqDir := some s.iqDir, hdrMode := 0, multiCam := false }

/-! ## What is accepted -/

/-- A log level, in letters of any case. -/
def IsLevel (text : Bytes) : Prop :=
  text.map toLower ∈ [ascii "error", ascii "warn", ascii "warning", ascii "info", ascii "debug"]

/-- An option that is accepted. -/
def CliOption.Accepted : CliOption → Prop
  | .port optarg => ∃ v, Numeral optarg v ∧ 1 ≤ v ∧ v ≤ 65535
  | .cameraId optarg | .warmupFrames optarg => ∃ v, Numeral optarg v ∧ 0 ≤ v ∧ v ≤ intMax
  | .device optarg | .record optarg | .iqDir optarg => optarg ≠ []
  | .logLevel optarg => IsLevel optarg
  | .noRecord | .noAiq => True
  | .help | .version | .unknown => False

/-- A value as the last of the options gives it that are about it; without one, the default. -/
def Given {α β : Type} (about : CliOption → Option β) (means : β → α → Prop) (default : α) (options : List CliOption)
    (value : α) : Prop :=
  match (options.filterMap about).getLast? with
  | none => value = default
  | some b => means b value

/-- The settings as the options say. -/
structure Chosen (options : List CliOption) (s : Settings) : Prop where
  port : Given (fun o => match o with | .port t => some t | _ => none) Numeral 8554 options s.port
  devicePath : Given (fun o => match o with | .device p => some p | _ => none) Eq (ascii "/dev/video11") options
    s.devicePath
  warmupFrameCount : Given (fun o => match o with | .warmupFrames t => some t | _ => none) Numeral 30 options
    s.warmupFrameCount
  cameraId : Given (fun o => match o with | .cameraId t => some t | _ => none) Numeral 0 options s.cameraId
  iqDir : Given (fun o => match o with | .iqDir p => some p | _ => none) Eq (ascii "/oem/usr/share/iqfiles") options
    s.iqDir
  logLevel : Given (fun o => match o with | .logLevel t => some t | _ => none) (fun t v => logLevelParse t = some v) .info
    options s.logLevel
  recordPath : Given (fun o => match o with | .record p => some (some p) | .noRecord => some none | _ => none) Eq
    (some (ascii "/root/live_record.mp4")) options s.recordPath
  aiqEnabled : Given (fun o => match o with | .noAiq => some false | _ => none) Eq true options s.aiqEnabled

theorem given_nil {α β : Type} {about : CliOption → Option β} {means : β → α → Prop} {default value : α} :
    Given about means default [] value ↔ value = default := Iff.rfl

theorem given_concat {α β : Type} {about : CliOption → Option β} {means : β → α → Prop} {default value : α}
    {options : List CliOption} {o : CliOption} :
    Given about means default (options ++ [o]) value ↔
      match about o with
      | none => Given about means default options value
      | some b => means b value := by
  unfold Given
  rw [List.filterMap_append]
  cases h : about o <;> simp [h]

/-- Every setting is usable. -/
structure Settings.Usable (s : Settings) : Prop where
  port : 1 ≤ s.port ∧ s.port ≤ 65535
  devicePath : s.devicePath ≠ []
  recordPath : s.recordPath ≠ some []
  warmupFrameCount : 0 ≤ s.warmupFrameCount ∧ s.warmupFrameCount ≤ intMax
  cameraId : 0 ≤ s.cameraId ∧ s.cameraId ≤ intMax
  iqDir : s.iqDir ≠ []

theorem isLevel_iff (text : Bytes) : IsLevel text ↔ ∃ level, logLevelParse text = some level := by
  have hlower : ∀ word : Bytes, word.map toLower = word →
      (textEqualIgnoreCase text word = true ↔ text.map toLower = word) := fun word hword => by
    rw [textEqualIgnoreCase_iff, hword]
  have herror := hlower (ascii "error") (by decide)
  have hwarn := hlower (ascii "warn") (by decide)
  have hwarning := hlower (ascii "warning") (by decide)
  have hinfo := hlower (ascii "info") (by decide)
  have hdebug := hlower (ascii "debug") (by decide)
  unfold IsLevel logLevelParse
  simp only [List.mem_cons, List.not_mem_nil, or_false, Bool.or_eq_true, herror, hwarn, hwarning, hinfo, hdebug]
  constructor
  · rintro (h | h | h | h | h) <;> rw [h] <;> exact ⟨_, rfl⟩
  · rintro ⟨level, hlevel⟩
    split at hlevel
    · rename_i h
      exact .inl h
    · split at hlevel
      · rename_i h
        exact .inr (h.elim .inl fun h => .inr (.inl h))
      · split at hlevel
        · rename_i h
          exact .inr (.inr (.inr (.inl h)))
        · split at hlevel
          · rename_i h
            exact .inr (.inr (.inr (.inr h)))
          · cases hlevel

theorem checkValue_map {α β : Type} {message : String} {optarg : Bytes} {o : Option α} {f : α → β} {b : β} :
    (checkValue message optarg o).map f = .ok b ↔ ∃ v, o = some v ∧ f v = b := by
  cases o <;> simp [checkValue, Except.map]

theorem checkPath_map {β : Type} {message : String} {path : Bytes} {f : Bytes → β} {b : β} :
    (checkPath message path).map f = .ok b ↔ path ≠ [] ∧ f path = b := by
  unfold checkPath
  split
  · rename_i h
    simp [Except.map, h]
  · rename_i h
    simp [Except.map, h]

variable {longMax : Nat}

theorem parsePort_iff (hlong : intMax ≤ longMax) (text : Bytes) (value : Int) :
    parsePort longMax text = some value ↔ Numeral text value ∧ 1 ≤ value ∧ value ≤ 65535 :=
  parseBetween_iff (by omega) (by decide) hlong text value

theorem parseNonnegativeInt_iff (hlong : intMax ≤ longMax) (text : Bytes) (value : Int) :
    parseNonnegativeInt longMax text = some value ↔ Numeral text value ∧ 0 ≤ value ∧ value ≤ intMax :=
  parseBetween_iff (by omega) (le_refl _) hlong text value

/-- **One option**: it is accepted as `CliOption.Accepted` says, and sets what it is about. -/
theorem takeOption_accepted (hlong : intMax ≤ longMax) (s : Settings) (o : CliOption) :
    o.Accepted ↔ ∃ s', takeOption longMax s o = .ok s' := by
  cases o <;> simp only [CliOption.Accepted, takeOption, checkValue_map, checkPath_map, parsePort_iff hlong,
    parseNonnegativeInt_iff hlong, isLevel_iff] <;> simp

theorem takeOption_chosen (hlong : intMax ≤ longMax) {options : List CliOption} {s s' : Settings} {o : CliOption}
    (hc : Chosen options s) (h : takeOption longMax s o = .ok s') : Chosen (options ++ [o]) s' := by
  obtain ⟨hport, hdevice, hwarmup, hcamera, hiq, hlevel, hrecord, haiq⟩ := hc
  cases o <;> simp only [takeOption, checkValue_map, checkPath_map, parsePort_iff hlong, parseNonnegativeInt_iff hlong,
    Except.ok.injEq, reduceCtorEq] at h
  case port optarg | cameraId optarg | warmupFrames optarg =>
    obtain ⟨v, ⟨hv, -⟩, rfl⟩ := h
    constructor <;> rw [given_concat] <;> assumption
  case logLevel optarg =>
    obtain ⟨v, hv, rfl⟩ := h
    constructor <;> rw [given_concat] <;> assumption
  case device optarg | record optarg | iqDir optarg =>
    obtain ⟨-, rfl⟩ := h
    constructor <;> rw [given_concat] <;> assumption
  case noRecord | noAiq =>
    subst h
    constructor <;> rw [given_concat] <;> assumption

theorem takeOption_usable (hlong : intMax ≤ longMax) {s s' : Settings} {o : CliOption} (hs : s.Usable)
    (h : takeOption longMax s o = .ok s') : s'.Usable := by
  obtain ⟨hport, hdevice, hrecord, hwarmup, hcamera, hiq⟩ := hs
  cases o <;> simp only [takeOption, checkValue_map, checkPath_map, parsePort_iff hlong, parseNonnegativeInt_iff hlong,
    Except.ok.injEq, reduceCtorEq] at h
  case port optarg | cameraId optarg | warmupFrames optarg =>
    obtain ⟨v, ⟨-, hv⟩, rfl⟩ := h
    constructor <;> assumption
  case logLevel optarg =>
    obtain ⟨v, -, rfl⟩ := h
    constructor <;> assumption
  case device optarg | iqDir optarg =>
    obtain ⟨hne, rfl⟩ := h
    constructor <;> assumption
  case record optarg =>
    obtain ⟨hne, rfl⟩ := h
    exact ⟨hport, hdevice, by simpa using hne, hwarmup, hcamera, hiq⟩
  case noRecord =>
    subst h
    exact ⟨hport, hdevice, by simp, hwarmup, hcamera, hiq⟩
  case noAiq =>
    subst h
    constructor <;> assumption

theorem chosen_defaults : Chosen [] defaults := by
  constructor <;> rw [given_nil] <;> rfl

theorem usable_defaults : defaults.Usable := by
  constructor <;> decide

/-! ## All options -/

/-- **The option loop** goes through exactly where every option is accepted. -/
theorem takeOptions_ok (hlong : intMax ≤ longMax) (options : List CliOption) :
    (∀ s, options.foldlM (takeOption longMax) defaults = .ok s →
      (∀ o ∈ options, o.Accepted) ∧ Chosen options s ∧ s.Usable) ∧
    ((∀ o ∈ options, o.Accepted) → ∃ s, options.foldlM (takeOption longMax) defaults = .ok s) := by
  induction options using List.reverseRecOn with
  | nil =>
    refine ⟨fun s h => ?_, fun _ => ⟨defaults, rfl⟩⟩
    obtain rfl := Except.ok.inj h
    exact ⟨by simp, chosen_defaults, usable_defaults⟩
  | append_singleton options o ih =>
    have hlast : (options ++ [o]).foldlM (takeOption longMax) defaults =
        (options.foldlM (takeOption longMax) defaults).bind fun s => takeOption longMax s o := by
      simp only [List.foldlM_append, List.foldlM_cons, List.foldlM_nil, bind_pure]
      rfl
    rw [hlast]
    constructor
    · intro s h
      cases hinit : options.foldlM (takeOption longMax) defaults with
      | error quit => rw [hinit] at h; cases h
      | ok s₀ =>
        rw [hinit] at h
        obtain ⟨haccepted, hchosen, husable⟩ := ih.1 s₀ hinit
        refine ⟨fun o' ho' => ?_, takeOption_chosen hlong hchosen h, takeOption_usable hlong husable h⟩
        rcases List.mem_append.mp ho' with ho' | ho'
        · exact haccepted o' ho'
        · rw [List.mem_singleton.mp ho']
          exact (takeOption_accepted hlong s₀ o).mpr ⟨s, h⟩
    · intro haccepted
      obtain ⟨s₀, hinit⟩ := ih.2 fun o' ho' => haccepted o' (by simp [ho'])
      rw [hinit]
      exact (takeOption_accepted hlong s₀ o).mp (haccepted o (by simp))

theorem Numeral.unique {text : Bytes} {v w : Int} (hv : Numeral text v) (hw : Numeral text w) : v = w := by
  rw [← scanInt_all_iff] at hv hw
  rw [hv] at hw
  exact (Prod.mk.inj (Option.some.inj hw)).1

theorem Given.unique {α β : Type} {about : CliOption → Option β} {means : β → α → Prop} {default v w : α}
    {options : List CliOption} (hv : Given about means default options v) (hw : Given about means default options w)
    (hmeans : ∀ b v w, means b v → means b w → v = w) : v = w := by
  unfold Given at hv hw
  cases hlast : (options.filterMap about).getLast? with
  | none =>
    rw [hlast] at hv hw
    exact hv.trans hw.symm
  | some b =>
    rw [hlast] at hv hw
    exact hmeans b v w hv hw

theorem Chosen.unique {options : List CliOption} {s s' : Settings} (h : Chosen options s) (h' : Chosen options s') :
    s = s' := by
  have heq : ∀ {α : Type} (b v w : α), b = v → b = w → v = w := fun _ _ _ hv hw => hv.symm.trans hw
  have hport := h.port.unique h'.port fun _ _ _ => Numeral.unique
  have hdevice := h.devicePath.unique h'.devicePath heq
  have hwarmup := h.warmupFrameCount.unique h'.warmupFrameCount fun _ _ _ => Numeral.unique
  have hcamera := h.cameraId.unique h'.cameraId fun _ _ _ => Numeral.unique
  have hiq := h.iqDir.unique h'.iqDir heq
  have hlevel := h.logLevel.unique h'.logLevel fun _ _ _ hv hw => Option.some.inj (hv.symm.trans hw)
  have hrecord := h.recordPath.unique h'.recordPath heq
  have haiq := h.aiqEnabled.unique h'.aiqEnabled heq
  cases s
  cases s'
  simp only at hport hdevice hwarmup hcamera hiq hlevel hrecord haiq
  subst hport hdevice hwarmup hcamera hiq hlevel hrecord haiq
  rfl

theorem parseOptions_ok_iff (options : List CliOption) (positional : Option Bytes) (s : Settings) :
    parseOptions longMax options positional = .ok s ↔
      options.foldlM (takeOption longMax) defaults = .ok s ∧ positional = none := by
  unfold parseOptions
  cases options.foldlM (takeOption longMax) defaults with
  | error quit => simp
  | ok s₀ => cases positional <;> simp

/-- **The command line**: `main` goes on exactly where every option is accepted and nothing else is given, with the
settings that the last options about them give and the defaults for the others; each of them is usable, and the server
does not refuse the configuration made of them. -/
theorem parseOptions_accepts (hlong : intMax ≤ longMax) (options : List CliOption) (positional : Option Bytes)
    (s : Settings) :
    (parseOptions longMax options positional = .ok s ↔
      (∀ o ∈ options, o.Accepted) ∧ positional = none ∧ Chosen options s) ∧
    (parseOptions longMax options positional = .ok s → s.Usable ∧ ¬ s.serverConfig.Refused) := by
  obtain ⟨hsound, hcomplete⟩ := takeOptions_ok hlong options
  rw [parseOptions_ok_iff]
  refine ⟨⟨fun ⟨h, hnone⟩ => ?_, fun ⟨haccepted, hnone, hchosen⟩ => ⟨?_, hnone⟩⟩, fun ⟨h, _⟩ => ?_⟩
  · obtain ⟨haccepted, hchosen, -⟩ := hsound s h
    exact ⟨haccepted, hnone, hchosen⟩
  · obtain ⟨s₀, hs₀⟩ := hcomplete haccepted
    rw [hchosen.unique (hsound s₀ hs₀).2.1]
    exact hs₀
  · obtain ⟨-, -, husable⟩ := hsound s h
    refine ⟨husable, ?_⟩
    have hport := husable.port
    have hwarmup := husable.warmupFrameCount
    rintro (h | h | h | h)
    · exact absurd h (by simp only [Settings.serverConfig]; omega)
    · exact absurd h (by simp only [Settings.serverConfig]; omega)
    · exact husable.devicePath h
    · exact absurd h (by simp only [Settings.serverConfig]; omega)

/-- The port is given twice, the recording switched off. -/
def givenOptions : List CliOption :=
  [.port (ascii "80"), .noRecord, .logLevel (ascii "Debug"), .port (ascii " +8555"), .cameraId (ascii "007")]

def givenSettings : Settings :=
  { defaults with port := 8555, recordPath := none, logLevel := .debug, cameraId := 7 }

theorem parseOptions_accepts_given :
    (∀ o ∈ givenOptions, o.Accepted) ∧ Chosen givenOptions givenSettings ∧ givenSettings.Usable ∧
      ¬ givenSettings.serverConfig.Refused := by
  have haccepts := @parseOptions_accepts 2147483647 (by decide) givenOptions none givenSettings
  have hok : parseOptions 2147483647 givenOptions none = .ok givenSettings := by rfl
  obtain ⟨haccepted, -, hchosen⟩ := haccepts.1.mp hok
  exact ⟨haccepted, hchosen, haccepts.2 hok⟩

end MiniRtsp.Process
